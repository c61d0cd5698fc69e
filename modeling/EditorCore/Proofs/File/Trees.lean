import EditorCore.File.Node
import Mathlib.Data.List.Basic

/-!
# Trees of files

A file that is put into a folder changes what is held at its own place, and nowhere else: all
folders stay folders, with the entries that they had beside the new one.
-/

namespace EditorCore

namespace Node

variable {root node inner : Node} {entries : List (Name × Node)} {name other : Name}
  {location folder : Location}

/-! ### Entries -/

theorem lookup_cons_eq (name : Name) (node : Node) (entries : List (Name × Node))
    (other : Name) : ((name, node) :: entries).lookup other =
      if other = name then some node else entries.lookup other := by
  rw [List.lookup_cons]
  split
  · next h => rw [if_pos (beq_iff_eq.1 h)]
  · next h => rw [if_neg (beq_eq_false_iff_ne.1 h)]

theorem lookup_withEntry (name : Name) (node : Node) (entries : List (Name × Node))
    (other : Name) : (withEntry name node entries).lookup other =
      if other = name then some node else entries.lookup other := by
  induction entries with
  | nil => rw [withEntry, lookup_cons_eq]
  | cons entry entries ih =>
      obtain ⟨first, old⟩ := entry
      rw [withEntry]
      split
      · next hfirst =>
          rw [lookup_cons_eq, lookup_cons_eq, hfirst]
          split <;> rfl
      · next hfirst =>
          rw [lookup_cons_eq, lookup_cons_eq, ih]
          by_cases h : other = first
          · simp [h, hfirst]
          · simp [h]

/-- A node put into a folder takes the place of the entry of its name. -/
theorem child?_put_singleton (entries : List (Name × Node)) (name : Name) (node : Node)
    (other : Name) : (put (.folder entries) [name] node).child? other =
      if other = name then some node else entries.lookup other := by
  rw [put, child?, lookup_withEntry]

/-- A node put below a folder changes the entry that it is put into. -/
theorem child?_put (entries : List (Name × Node)) (name : Name) {rest : Location}
    (hrest : rest ≠ []) (node : Node) (other : Name) :
    (put (.folder entries) (name :: rest) node).child? other =
      if other = name then (entries.lookup name).map (·.put rest node)
      else entries.lookup other := by
  rw [put]
  · cases hname : entries.lookup name with
    | none =>
        by_cases h : other = name
        · simp [child?, h, hname]
        · simp [child?, h]
    | some inner => simp [child?, lookup_withEntry]
  · exact hrest

/-- What has an entry is a folder. -/
theorem eq_folder_of_child? (h : root.child? name = some inner) :
    ∃ entries, root = .folder entries ∧ entries.lookup name = some inner := by
  cases root with
  | folder entries => exact ⟨entries, rfl, h⟩
  | file content => simp [child?] at h
  | link target => simp [child?] at h
  | device => simp [child?] at h

/-! ### Places -/

theorem get?_append (root : Node) (front back : Location) :
    root.get? (front ++ back) = (root.get? front).bind (·.get? back) := by
  induction front generalizing root with
  | nil => rfl
  | cons name front ih =>
      rw [List.cons_append, get?, get?, Option.bind_assoc]
      exact congrArg _ (funext fun inner => ih inner)

theorem held?_cons (root : Node) (name : Name) (location : Location) :
    root.held? (name :: location) = (root.child? name).bind (·.held? location) := by
  rw [held?, get?, Option.map_bind]
  rfl

/-- What is at the place of a folder. -/
theorem held?_eq_empty_iff :
    root.held? location = some .empty ↔ ∃ entries, root.get? location = some (.folder entries) := by
  rw [held?, Option.map_eq_some_iff]
  constructor
  · rintro ⟨node, hnode, hsurface⟩
    cases node with
    | folder entries => exact ⟨entries, hnode⟩
    | file content => simp [surface, empty] at hsurface
    | link target => simp [surface, empty] at hsurface
    | device => simp [surface, empty] at hsurface
  · rintro ⟨entries, hentries⟩
    exact ⟨_, hentries, rfl⟩

theorem eq_empty_of_held? (h : root.held? location = some (.folder entries)) :
    root.held? location = some .empty := by
  obtain ⟨node, hnode, hsurface⟩ := Option.map_eq_some_iff.1 h
  cases node with
  | folder inside => exact held?_eq_empty_iff.2 ⟨inside, hnode⟩
  | file content => simp [surface] at hsurface
  | link target => simp [surface] at hsurface
  | device => simp [surface] at hsurface

/-- What is at the place of anything but a folder is all that is there. -/
theorem held?_eq_some_iff (hnode : node.isFolder = false) :
    root.held? location = some node ↔ root.get? location = some node := by
  have hsurface : ∀ other : Node, other.surface = node ↔ other = node := by
    intro other
    cases other with
    | folder entries =>
        cases node with
        | folder entries => simp [isFolder] at hnode
        | file content => simp [surface, empty]
        | link target => simp [surface, empty]
        | device => simp [surface, empty]
    | file content => rfl
    | link target => rfl
    | device => rfl
  rw [held?, Option.map_eq_some_iff]
  simp only [hsurface]
  exact ⟨fun ⟨_, hget, heq⟩ => heq ▸ hget, fun hget => ⟨node, hget, rfl⟩⟩

theorem isSome_held? : (root.held? location).isSome ↔ (root.get? location).isSome := by
  rw [held?, Option.isSome_map]

/-- All that lies above something is a folder. -/
theorem held?_eq_empty_of_append (location : Location) (name : Name) (back : Location)
    (h : (root.held? (location ++ name :: back)).isSome) : root.held? location = some .empty := by
  rw [isSome_held?, get?_append] at h
  obtain ⟨node, hnode⟩ := Option.isSome_iff_exists.1 h
  obtain ⟨folder, hfolder, hback⟩ := Option.bind_eq_some_iff.1 hnode
  obtain ⟨inner, hinner, -⟩ := Option.bind_eq_some_iff.1 hback
  obtain ⟨entries, rfl, -⟩ := eq_folder_of_child? hinner
  exact held?_eq_empty_iff.2 ⟨entries, hfolder⟩

/-- A folder stays a folder when a node is put below it. -/
theorem exists_put_eq_folder (entries : List (Name × Node)) (name : Name) (rest : Location)
    (node : Node) : ∃ kept, put (.folder entries) (name :: rest) node = .folder kept := by
  cases rest with
  | nil => exact ⟨_, rfl⟩
  | cons next rest =>
      rw [put]
      · split
        · exact ⟨_, rfl⟩
        · exact ⟨_, rfl⟩
      · simp

/-- Nothing is below a node that is no folder. -/
theorem held?_eq_none_of_isFolder (hnode : node.isFolder = false) (name : Name)
    (location : Location) : node.held? (name :: location) = none := by
  rw [held?_cons]
  cases node with
  | folder entries => simp [isFolder] at hnode
  | file content => rfl
  | link target => rfl
  | device => rfl

/-- No symbolic link is anywhere in a tree. -/
def Unlinked (root : Node) : Prop :=
  ∀ location target, root.held? location ≠ some (.link target)

/-- A file that is put into a folder is held there, and nothing else changes. -/
theorem held?_put (hfolder : root.held? folder = some .empty)
    (hfile : root.held? (folder ++ [name]) ≠ some .empty) (content : ByteArray)
    (location : Location) : (root.put (folder ++ [name]) (.file content)).held? location =
      if location = folder ++ [name] then some (.file content) else root.held? location := by
  induction folder generalizing root location with
  | nil =>
      obtain ⟨entries, hentries⟩ := held?_eq_empty_iff.1 hfolder
      obtain rfl := Option.some.inj hentries
      cases location with
      | nil => rw [List.nil_append, if_neg (by simp)]; rfl
      | cons step location =>
          rw [List.nil_append, held?_cons, child?_put_singleton, held?_cons]
          by_cases hstep : step = name
          · -- what was there is no folder, so nothing was below it
            subst hstep
            rw [if_pos rfl, Option.bind_some]
            cases location with
            | nil => rw [if_pos rfl]; rfl
            | cons next location =>
                rw [if_neg (by simp), held?_eq_none_of_isFolder rfl]
                cases hold : child? (.folder entries) step with
                | none => rfl
                | some old =>
                    refine (held?_eq_none_of_isFolder ?_ next location).symm
                    rw [List.nil_append, held?_cons, hold, Option.bind_some] at hfile
                    cases old with
                    | folder inside => exact absurd rfl hfile
                    | file content => rfl
                    | link target => rfl
                    | device => rfl
          · rw [if_neg hstep, if_neg (by simp [hstep])]
            rfl
  | cons first folder ih =>
      rw [held?_cons] at hfolder
      obtain ⟨inner, hinner, hrest⟩ := Option.bind_eq_some_iff.1 hfolder
      obtain ⟨others, rfl, hlookup⟩ := eq_folder_of_child? hinner
      rw [List.cons_append, held?_cons, hinner, Option.bind_some] at hfile
      cases location with
      | nil =>
          obtain ⟨kept, hkept⟩ := exists_put_eq_folder others first (folder ++ [name])
            (.file content)
          rw [List.cons_append, hkept, if_neg (by simp)]
          rfl
      | cons step location =>
          rw [List.cons_append, held?_cons, child?_put _ _ (by simp), held?_cons]
          by_cases hstep : step = first
          · subst hstep
            rw [if_pos rfl, hlookup, hinner, Option.map_some, Option.bind_some, Option.bind_some,
              ih hrest hfile]
            simp
          · rw [if_neg hstep, if_neg (by simp [hstep])]
            rfl

end Node

end EditorCore
