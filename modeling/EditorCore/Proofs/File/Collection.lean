import EditorCore.File.Collect
import EditorCore.Proofs.File.Canonical
import Mathlib.Data.List.Lex
import Mathlib.Data.List.Nodup

/-!
# What is collected below a folder

Collecting lists folders from a stack. At each step the files that were found, with those
within the folders that are still to be listed, are the files of the whole tree; so the loop
finds what a recursion over the tree finds. Which files these are is told by their places
alone: which names are on the way to them, and which folders there can be listed. Each file is
found once, and the paths come in an order of their own, so it does not matter how the
folders list what they hold.
-/

namespace EditorCore

/-! ### The order of paths -/

namespace Path

/-- Characters come in the order of their code points, which is that of their bytes in UTF-8. -/
def CharBefore (c d : Char) : Prop := c.toNat < d.toNat

instance : IsOrderConnected Char CharBefore where
  conn a b c h := by
    rw [CharBefore] at *
    by_cases hab : a.toNat < b.toNat
    · exact .inl hab
    · exact .inr (by rw [CharBefore]; omega)

instance : Std.Trichotomous CharBefore where
  trichotomous a b hab hba := by
    rw [CharBefore] at hab hba
    exact Char.toNat_inj.1 (by omega)

instance : Std.Asymm CharBefore where
  asymm a b h := by
    rw [CharBefore] at *
    omega

/-- Names come in the order of the first character that differs. -/
abbrev NameBefore : Name → Name → Prop := List.Lex CharBefore

/-- Paths come in the order of the first part that differs. -/
def Before (path other : Path) : Prop := List.Lex NameBefore path.parts other.parts

end Path

namespace Disk

open EditorCore.Path

/-! ### Sorting -/

theorem nameBefore_iff (a b : Name) : nameBefore a b = true ↔ NameBefore a b := by
  rw [nameBefore, List.lex_eq_true_iff_lex]
  simp only [Nat.blt_eq]
  rfl

theorem notAfter_iff (a b : Location) :
    (!List.lex b a nameBefore) = true ↔ ¬ List.Lex NameBefore b a := by
  rw [Bool.not_eq_true', ← Bool.not_eq_true, List.lex_eq_true_iff_lex]
  simp only [nameBefore_iff]

theorem notAfter_trans (a b c : Location) (hab : (!List.lex b a nameBefore) = true)
    (hbc : (!List.lex c b nameBefore) = true) : (!List.lex c a nameBefore) = true := by
  rw [notAfter_iff] at *
  intro hca
  rcases IsOrderConnected.conn c b a hca with hcb | hba
  · exact hbc hcb
  · exact hab hba

theorem notAfter_total (a b : Location) :
    (!List.lex b a nameBefore || !List.lex a b nameBefore) = true := by
  rw [Bool.or_eq_true, notAfter_iff, notAfter_iff, ← not_and_or]
  exact fun h => asymm h.1 h.2

/-- Places in order, part by part. -/
def sorted (locations : List Location) : List Location :=
  locations.mergeSort fun a b => !List.lex b a nameBefore

variable {locations others : List Location}

theorem sorted_perm (locations : List Location) : (sorted locations).Perm locations :=
  List.mergeSort_perm _ _

theorem pairwise_sorted (locations : List Location) :
    (sorted locations).Pairwise fun a b => ¬ List.Lex NameBefore b a :=
  (List.pairwise_mergeSort notAfter_trans notAfter_total locations).imp (notAfter_iff _ _).1

/-- Places that differ come one before the other. -/
theorem pairwise_sorted_of_nodup (h : locations.Nodup) :
    (sorted locations).Pairwise (List.Lex NameBefore) := by
  have hnodup : (sorted locations).Pairwise (· ≠ ·) := (sorted_perm locations).nodup_iff.2 h
  refine ((pairwise_sorted locations).and hnodup).imp ?_
  rintro a b ⟨hafter, hne⟩
  rcases trichotomous_of (List.Lex NameBefore) a b with hbefore | heq | hbefore
  · exact hbefore
  · exact absurd heq hne
  · exact absurd hbefore hafter

/-- The order of places does not depend on the order that they had. -/
theorem sorted_eq_of_perm (h : locations.Perm others) : sorted locations = sorted others := by
  refine List.Perm.eq_of_pairwise ?_ (pairwise_sorted locations) (pairwise_sorted others)
    (((sorted_perm locations).trans h).trans (sorted_perm others).symm)
  intro a b _ _ hab hba
  rcases trichotomous_of (List.Lex NameBefore) a b with hbefore | heq | hbefore
  · exact absurd hbefore hba
  · exact heq
  · exact absurd hbefore hab

end Disk

/-! ### Trees -/

namespace Node

open EditorCore.Path

/-- A tree as a disk can hold it: a folder has each name once, and paths can ask for it. -/
inductive IsTree : Node → Prop where
  | file (content : ByteArray) : IsTree (.file content)
  | link (target : Path) : IsTree (.link target)
  | device : IsTree .device
  | nil : IsTree (.folder [])
  | cons {name : Name} {inner : Node} {rest : List (Name × Node)} (hname : IsPart name)
    (hnew : rest.lookup name = none) (hinner : IsTree inner) (hrest : IsTree (.folder rest)) :
    IsTree (.folder ((name, inner) :: rest))

/-- Trees that differ at most in the order in which their folders list what they hold. -/
inductive Relisted : Node → Node → Prop where
  | refl (node : Node) : Relisted node node
  | perm {entries others : List (Name × Node)} (h : entries.Perm others) :
    Relisted (.folder entries) (.folder others)
  | cons {name : Name} {inner other : Node} {rest others : List (Name × Node)}
    (hinner : Relisted inner other) (hrest : Relisted (.folder rest) (.folder others)) :
    Relisted (.folder ((name, inner) :: rest)) (.folder ((name, other) :: others))
  | trans {first second third : Node} (h : Relisted first second)
    (hnext : Relisted second third) : Relisted first third

/-- A file below a folder is to be collected. -/
structure IsCollected (lists : Location → Bool) (includeHidden : Bool) (node : Node)
    (location : Location) : Prop where
  /-- A file is there. -/
  isFile : ∃ content, node.get? location = some (.file content)
  /-- No folder on the way is passed over for its name. -/
  entered : ∀ name ∈ location.dropLast, name ∉ excludedFolders
  /-- Neither the file nor a folder on the way is hidden, unless hidden ones are asked for. -/
  shown : includeHidden = false → ∀ name ∈ location, isHidden name = false
  /-- Every folder on the way can be listed. -/
  listed : ∀ folder, folder <+: location.dropLast → lists folder = true

mutual

/-- The places of the files to collect at a node with a name. -/
def filesAt (lists : Location → Bool) (includeHidden : Bool) (name : Name) :
    Node → List Location
  | .file _ => if isHidden name && !includeHidden then [] else [[name]]
  | .folder entries =>
    if (isHidden name && !includeHidden) || excludedFolders.contains name then []
    else if !lists [name] then []
    else (filesOf (fun folder => lists (name :: folder)) includeHidden entries).map (name :: ·)
  | .link _ => []
  | .device => []

/-- The places of the files to collect among the entries of a folder. -/
def filesOf (lists : Location → Bool) (includeHidden : Bool) :
    List (Name × Node) → List Location
  | [] => []
  | (name, node) :: rest =>
    filesAt lists includeHidden name node ++ filesOf lists includeHidden rest

end

/-- The places of the files to collect within a node. -/
def inside (lists : Location → Bool) (includeHidden : Bool) : Node → List Location
  | .folder entries => if lists [] then filesOf lists includeHidden entries else []
  | _ => []

variable {lists others : Location → Bool} {includeHidden : Bool} {name : Name}
  {node inner other : Node} {location rest : Location} {entries : List (Name × Node)}

theorem hidden_iff : (isHidden name && !includeHidden) = true ↔
    ¬ (includeHidden = false → isHidden name = false) := by
  cases includeHidden <;> simp

/-- What is collected at a folder is what is collected within it. -/
theorem filesAt_folder (lists : Location → Bool) (includeHidden : Bool) (name : Name)
    (entries : List (Name × Node)) : filesAt lists includeHidden name (.folder entries) =
      if (isHidden name && !includeHidden) || excludedFolders.contains name then []
      else (inside (fun folder => lists (name :: folder)) includeHidden (.folder entries)).map
        (name :: ·) := by
  rw [filesAt, inside]
  split
  · rfl
  · cases lists [name] with
    | true => rfl
    | false => rfl

theorem mem_filesAt_file {content : ByteArray} :
    location ∈ filesAt lists includeHidden name (.file content) ↔
      (includeHidden = false → isHidden name = false) ∧ location = [name] := by
  rw [filesAt]
  split
  · next hhidden => simp [hidden_iff.1 hhidden]
  · next hshown =>
      rw [hidden_iff, not_not] at hshown
      simpa using fun _ => hshown

theorem mem_filesAt_folder : location ∈ filesAt lists includeHidden name (.folder entries) ↔
    (includeHidden = false → isHidden name = false) ∧ name ∉ excludedFolders ∧
      ∃ rest ∈ inside (fun folder => lists (name :: folder)) includeHidden (.folder entries),
        location = name :: rest := by
  rw [filesAt_folder]
  split
  · next hpassed =>
      rw [Bool.or_eq_true, hidden_iff, List.contains_iff_mem] at hpassed
      rcases hpassed with hhidden | hexcluded
      · simp only [hhidden, false_and, List.not_mem_nil]
      · simp only [hexcluded, not_true, false_and, and_false, List.not_mem_nil]
  · next hentered =>
      rw [Bool.or_eq_true, hidden_iff, not_or, not_not, List.contains_iff_mem] at hentered
      rw [List.mem_map, and_iff_right hentered.1, and_iff_right hentered.2]
      simp only [eq_comm]

/-! ### Entries of trees -/

theorem lookup_eq_none_iff : entries.lookup name = none ↔ name ∉ entries.map (·.1) := by
  rw [List.lookup_eq_none_iff, List.mem_map]
  constructor
  · rintro h ⟨entry, hentry, rfl⟩
    simpa using h entry hentry
  · intro h entry hentry
    rw [bne_iff_ne]
    rintro rfl
    exact h ⟨entry, hentry, rfl⟩

theorem isTree_folder_iff : (Node.folder entries).IsTree ↔
    (entries.map (·.1)).Nodup ∧ ∀ entry ∈ entries, IsPart entry.1 ∧ entry.2.IsTree := by
  induction entries with
  | nil => simp [IsTree.nil]
  | cons entry entries ih =>
      obtain ⟨name, inner⟩ := entry
      rw [List.map_cons, List.nodup_cons, List.forall_mem_cons]
      constructor
      · intro h
        cases h with
        | cons hname hnew hinner hrest =>
            obtain ⟨hnodup, hall⟩ := ih.1 hrest
            exact ⟨⟨lookup_eq_none_iff.1 hnew, hnodup⟩, ⟨hname, hinner⟩, hall⟩
      · rintro ⟨⟨hnew, hnodup⟩, ⟨hname, hinner⟩, hall⟩
        exact .cons hname (lookup_eq_none_iff.2 hnew) hinner (ih.2 ⟨hnodup, hall⟩)

/-- The names of the entries of a folder. -/
def names : Node → List Name
  | .folder entries => entries.map (·.1)
  | _ => []

theorem Relisted.perm_names (h : node.Relisted other) : node.names.Perm other.names := by
  induction h with
  | refl node => exact .refl _
  | perm h => exact h.map _
  | cons _ _ _ ih => exact ih.cons _
  | trans _ _ ih ihnext => exact ih.trans ihnext

/-- A tree whose folders are listed in another order is a tree. -/
theorem Relisted.isTree (h : node.Relisted other) (htree : node.IsTree) : other.IsTree := by
  induction h with
  | refl node => exact htree
  | perm h =>
      rw [isTree_folder_iff] at htree ⊢
      refine ⟨(h.map _).nodup_iff.1 htree.1, fun entry hentry => ?_⟩
      exact htree.2 entry (h.mem_iff.2 hentry)
  | cons _ hrest ihinner ihrest =>
      cases htree with
      | cons hname hnew hinner hothers =>
          refine .cons hname ?_ (ihinner hinner) (ihrest hothers)
          rw [lookup_eq_none_iff] at hnew ⊢
          exact fun hmem => hnew (hrest.perm_names.mem_iff.2 hmem)
  | trans _ _ ih ihnext => exact ihnext (ih htree)

theorem IsTree.isPart (h : node.IsTree) (hthere : (node.get? location).isSome) :
    ∀ name ∈ location, IsPart name := by
  induction h generalizing location with
  | file content => cases location <;> simp_all [get?, child?]
  | link target => cases location <;> simp_all [get?, child?]
  | device => cases location <;> simp_all [get?, child?]
  | nil => cases location <;> simp_all [get?, child?]
  | @cons name inner entries hname hnew hinner hrest ihinner ihrest =>
      cases location with
      | nil => simp
      | cons next rest =>
          rw [get?, child?, lookup_cons_eq] at hthere
          split at hthere
          · next hnext =>
              rw [List.forall_mem_cons, hnext]
              exact ⟨hname, ihinner hthere⟩
          · exact ihrest hthere

/-! ### What is to be collected -/

theorem isCollected_singleton (hinner : node.child? name = some inner) :
    IsCollected lists includeHidden node [name] ↔
      (includeHidden = false → isHidden name = false) ∧
        (∃ content, inner = .file content) ∧ lists [] = true := by
  have hget : node.get? [name] = some inner := by rw [get?, hinner, Option.bind_some, get?]
  constructor
  · intro h
    obtain ⟨content, hcontent⟩ := h.isFile
    exact ⟨fun hinclude => h.shown hinclude name List.mem_cons_self,
      ⟨content, Option.some.inj (hget.symm.trans hcontent)⟩, h.listed [] List.nil_prefix⟩
  · rintro ⟨hshown, ⟨content, rfl⟩, hlists⟩
    refine ⟨⟨content, hget⟩, by simp, by simpa using hshown, ?_⟩
    intro folder hfolder
    obtain rfl : folder = [] := List.prefix_nil.1 hfolder
    exact hlists

/-- What is behind an entry is collected as what is within it. -/
theorem isCollected_cons (hinner : node.child? name = some inner) (hrest : rest ≠ []) :
    IsCollected lists includeHidden node (name :: rest) ↔
      (includeHidden = false → isHidden name = false) ∧ name ∉ excludedFolders ∧
        lists [] = true ∧
        IsCollected (fun folder => lists (name :: folder)) includeHidden inner rest := by
  have hget : node.get? (name :: rest) = inner.get? rest := by
    rw [get?, hinner, Option.bind_some]
  have hdrop : (name :: rest).dropLast = name :: rest.dropLast :=
    List.dropLast_cons_of_ne_nil hrest
  constructor
  · rintro ⟨hfile, hentered, hshown, hlisted⟩
    rw [hdrop] at hentered hlisted
    simp only [List.forall_mem_cons] at hentered hshown
    exact ⟨fun hinclude => (hshown hinclude).1, hentered.1, hlisted [] List.nil_prefix,
      hget ▸ hfile, hentered.2, fun hinclude => (hshown hinclude).2,
      fun folder hfolder => hlisted _ (List.cons_prefix_cons.2 ⟨rfl, hfolder⟩)⟩
  · rintro ⟨hname, hexcluded, hlists, hfile, hentered, hshown, hlisted⟩
    refine ⟨hget ▸ hfile, ?_, fun hinclude => ?_, ?_⟩
    · rw [hdrop, List.forall_mem_cons]
      exact ⟨hexcluded, hentered⟩
    · rw [List.forall_mem_cons]
      exact ⟨hname hinclude, hshown hinclude⟩
    · rw [hdrop]
      intro folder hfolder
      cases folder with
      | nil => exact hlists
      | cons first folder =>
          obtain ⟨rfl, hbelow⟩ := List.cons_prefix_cons.1 hfolder
          exact hlisted folder hbelow

theorem isCollected_congr (h : node.get? location = other.get? location) :
    IsCollected lists includeHidden node location ↔
      IsCollected lists includeHidden other location :=
  ⟨fun ⟨hfile, hentered, hshown, hlisted⟩ => ⟨h ▸ hfile, hentered, hshown, hlisted⟩,
    fun ⟨hfile, hentered, hshown, hlisted⟩ => ⟨h ▸ hfile, hentered, hshown, hlisted⟩⟩

/-- Nothing is below what is no folder. -/
theorem not_isCollected (hnode : node.isFolder = false) (hne : location ≠ []) :
    ¬ IsCollected lists includeHidden node location := by
  rintro ⟨⟨content, hcontent⟩, -⟩
  obtain ⟨name, rest, rfl⟩ := List.exists_cons_of_ne_nil hne
  rw [get?] at hcontent
  obtain ⟨inner, hinner, -⟩ := Option.bind_eq_some_iff.1 hcontent
  obtain ⟨entries, rfl, -⟩ := eq_folder_of_child? hinner
  simp [isFolder] at hnode

/-! ### The recursion -/

/-- What is collected behind an entry is what is to be collected there. -/
theorem mem_filesAt (hentry : node.child? name = some inner) (hlists : lists [] = true)
    (h : rest ∈ inside (fun folder => lists (name :: folder)) includeHidden inner ↔
      rest ≠ [] ∧ IsCollected (fun folder => lists (name :: folder)) includeHidden inner rest) :
    name :: rest ∈ filesAt lists includeHidden name inner ↔
      IsCollected lists includeHidden node (name :: rest) := by
  have hnot : inner.isFolder = false → rest ≠ [] →
      ¬ IsCollected lists includeHidden node (name :: rest) := by
    intro hfolder hrest
    rw [isCollected_cons hentry hrest]
    exact fun hcollected => not_isCollected hfolder hrest hcollected.2.2.2
  cases inner with
  | file content =>
      rw [mem_filesAt_file]
      by_cases hrest : rest = []
      · subst hrest
        simp [isCollected_singleton hentry, hlists]
      · simp [hrest, hnot rfl hrest]
  | link target =>
      by_cases hrest : rest = []
      · simp [hrest, isCollected_singleton hentry, filesAt]
      · simp [hnot rfl hrest, filesAt]
  | device =>
      by_cases hrest : rest = []
      · simp [hrest, isCollected_singleton hentry, filesAt]
      · simp [hnot rfl hrest, filesAt]
  | folder entries =>
      have hmem : (∃ other ∈ inside (fun folder => lists (name :: folder)) includeHidden
          (.folder entries), name :: rest = name :: other) ↔
            rest ∈ inside (fun folder => lists (name :: folder)) includeHidden
              (.folder entries) := by
        simp
      rw [mem_filesAt_folder, hmem, h]
      by_cases hrest : rest = []
      · simp [hrest, isCollected_singleton hentry]
      · rw [isCollected_cons hentry hrest]
        simp [hrest, hlists]

/-- What is collected behind an entry has its name in front. -/
theorem exists_of_mem_filesAt (h : location ∈ filesAt lists includeHidden name node) :
    ∃ rest, location = name :: rest := by
  cases node with
  | file content => exact ⟨[], (mem_filesAt_file.1 h).2⟩
  | folder entries =>
      obtain ⟨-, -, rest, -, rfl⟩ := mem_filesAt_folder.1 h
      exact ⟨rest, rfl⟩
  | link target => simp [filesAt] at h
  | device => simp [filesAt] at h

theorem inside_cons (hlists : lists [] = true) (name : Name) (inner : Node)
    (entries : List (Name × Node)) :
    inside lists includeHidden (.folder ((name, inner) :: entries)) =
      filesAt lists includeHidden name inner ++ inside lists includeHidden (.folder entries) := by
  simp [inside, filesOf, hlists]

/-- What is collected within a tree is what is to be collected. -/
theorem IsTree.mem_inside (h : node.IsTree) : location ∈ inside lists includeHidden node ↔
    location ≠ [] ∧ IsCollected lists includeHidden node location := by
  induction h generalizing lists location with
  | file content => simpa [inside] using fun hne => not_isCollected rfl hne
  | link target => simpa [inside] using fun hne => not_isCollected rfl hne
  | device => simpa [inside] using fun hne => not_isCollected rfl hne
  | nil =>
      have hnot : ∀ name rest, ¬ IsCollected lists includeHidden (.folder []) (name :: rest) := by
        rintro name rest ⟨⟨content, hcontent⟩, -⟩
        simp [get?, child?] at hcontent
      cases location <;> simp [inside, filesOf, hnot]
  | @cons name inner entries hname hnew hinner hrest ihinner ihrest =>
      by_cases hlists : lists [] = true
      · rw [inside_cons hlists, List.mem_append, ihrest]
        cases location with
        | nil =>
            have hnot : [] ∉ filesAt lists includeHidden name inner := fun h => by
              obtain ⟨rest, hrest⟩ := exists_of_mem_filesAt h
              simp at hrest
            simp [hnot]
        | cons next rest =>
            have hchild : (Node.folder ((name, inner) :: entries)).child? next =
                if next = name then some inner else entries.lookup next := lookup_cons_eq ..
            -- names differ within a folder, so only one entry can have the first name of a place
            by_cases hnext : next = name
            · subst hnext
              rw [if_pos rfl] at hchild
              rw [mem_filesAt hchild hlists ihinner]
              have hnot : ¬ IsCollected lists includeHidden (.folder entries) (next :: rest) := by
                rintro ⟨⟨content, hcontent⟩, -⟩
                simp [get?, child?, hnew] at hcontent
              simp [hnot]
            · rw [if_neg hnext] at hchild
              have hnot : next :: rest ∉ filesAt lists includeHidden name inner := fun h => by
                obtain ⟨other, hother⟩ := exists_of_mem_filesAt h
                exact hnext (List.cons.inj hother).1
              have hget : (Node.folder ((name, inner) :: entries)).get? (next :: rest) =
                  (Node.folder entries).get? (next :: rest) := by
                simp only [get?, hchild]
                rfl
              rw [isCollected_congr hget]
              simp [hnot]
      · have hnot : ¬ IsCollected lists includeHidden
            (.folder ((name, inner) :: entries)) location :=
          fun h => hlists (h.listed [] List.nil_prefix)
        simp [inside, hlists, hnot]

theorem nodup_filesAt
    (h : (inside (fun folder => lists (name :: folder)) includeHidden node).Nodup) :
    (filesAt lists includeHidden name node).Nodup := by
  cases node with
  | file content =>
      rw [filesAt]
      split <;> simp
  | link target => simp [filesAt]
  | device => simp [filesAt]
  | folder entries =>
      rw [filesAt_folder]
      split
      · simp
      · exact h.map List.cons_injective

/-- No file is collected twice. -/
theorem IsTree.nodup_inside (h : node.IsTree) : (inside lists includeHidden node).Nodup := by
  induction h generalizing lists with
  | file content => simp [inside]
  | link target => simp [inside]
  | device => simp [inside]
  | nil => simp [inside, filesOf]
  | @cons name inner entries hname hnew hinner hrest ihinner ihrest =>
      by_cases hlists : lists [] = true
      · rw [inside_cons hlists, List.nodup_append]
        refine ⟨nodup_filesAt ihinner, ihrest, ?_⟩
        rintro location hat other hother rfl
        obtain ⟨rest, rfl⟩ := exists_of_mem_filesAt hat
        obtain ⟨-, ⟨content, hcontent⟩, -⟩ := hrest.mem_inside.1 hother
        simp [get?, child?, hnew] at hcontent
      · simp [inside, hlists]

/-! ### Listings -/

theorem filesAt_perm (hkind : node.surface = other.surface)
    (h : (inside (fun folder => lists (name :: folder)) includeHidden node).Perm
      (inside (fun folder => lists (name :: folder)) includeHidden other)) :
    (filesAt lists includeHidden name node).Perm (filesAt lists includeHidden name other) := by
  cases node with
  | folder entries =>
      cases other with
      | folder others =>
          rw [filesAt_folder, filesAt_folder]
          split
          · exact .refl _
          · exact h.map _
      | _ => simp [surface, empty] at hkind
  | _ =>
      cases other with
      | folder others => simp [surface, empty] at hkind
      | _ => simp_all [surface]

theorem inside_perm {others : List (Name × Node)} (h : entries.Perm others) :
    (inside lists includeHidden (.folder entries)).Perm
      (inside lists includeHidden (.folder others)) := by
  by_cases hlists : lists [] = true
  · induction h with
    | nil => exact .refl _
    | cons entry _ ih =>
        rw [inside_cons hlists, inside_cons hlists]
        exact ih.append_left _
    | swap first second rest =>
        rw [inside_cons hlists, inside_cons hlists, inside_cons hlists, inside_cons hlists,
          ← List.append_assoc, ← List.append_assoc]
        exact List.perm_append_comm.append_right _
    | trans _ _ ih ihnext => exact ih.trans ihnext
  · simp [inside, hlists]

/-- How folders list what they hold changes only the order of what is collected. -/
theorem Relisted.perm_inside (h : node.Relisted other) : node.surface = other.surface ∧
    ∀ lists, (inside lists includeHidden node).Perm (inside lists includeHidden other) := by
  induction h with
  | refl node => exact ⟨rfl, fun lists => .refl _⟩
  | perm h => exact ⟨rfl, fun lists => inside_perm h⟩
  | cons _ _ ihinner ihrest =>
      refine ⟨rfl, fun lists => ?_⟩
      by_cases hlists : lists [] = true
      · rw [inside_cons hlists, inside_cons hlists]
        exact (filesAt_perm ihinner.1 (ihinner.2 _)).append (ihrest.2 lists)
      · simp [inside, hlists]
  | trans _ _ ih ihnext =>
      exact ⟨ih.1.trans ihnext.1, fun lists => (ih.2 lists).trans (ihnext.2 lists)⟩

/-- All that is on the way to a file is a folder. -/
theorem held?_eq_empty_above {folder : Location} {content : ByteArray}
    (h : node.get? location = some (.file content)) (hne : location ≠ [])
    (hfolder : folder <+: location.dropLast) : node.held? folder = some .empty := by
  obtain ⟨back, hback⟩ := hfolder
  obtain ⟨next, rest, hrest⟩ : ∃ next rest, location = folder ++ next :: rest := by
    rw [← List.dropLast_append_getLast hne, ← hback, List.append_assoc]
    cases back with
    | nil => exact ⟨_, _, rfl⟩
    | cons next back => exact ⟨_, _, rfl⟩
  refine held?_eq_empty_of_append folder next rest ?_
  rw [← hrest, isSome_held?, h]
  rfl

/-- Whether folders can be listed counts only where there are folders. -/
theorem isCollected_congr_lists (h : ∀ folder,
    (Node.folder entries).held? folder = some .empty → lists folder = others folder) :
    IsCollected lists includeHidden (.folder entries) location ↔
      IsCollected others includeHidden (.folder entries) location := by
  have hfolders : (∃ content, (Node.folder entries).get? location = some (.file content)) →
      ∀ folder, folder <+: location.dropLast → lists folder = others folder := by
    rintro ⟨content, hcontent⟩ folder hfolder
    refine h folder (held?_eq_empty_above hcontent ?_ hfolder)
    rintro rfl
    simp [get?] at hcontent
  constructor
  · rintro ⟨hfile, hentered, hshown, hlisted⟩
    exact ⟨hfile, hentered, hshown, fun folder hfolder =>
      (hfolders hfile folder hfolder).symm.trans (hlisted folder hfolder)⟩
  · rintro ⟨hfile, hentered, hshown, hlisted⟩
    exact ⟨hfile, hentered, hshown, fun folder hfolder =>
      (hfolders hfile folder hfolder).trans (hlisted folder hfolder)⟩

end Node

/-! ### The loop -/

namespace Collecting

variable {lists : Location → Bool} {includeHidden : Bool}

/-- The files that are still to be found within a folder. -/
def ahead (lists : Location → Bool) (includeHidden : Bool) (folder : PendingFolder) :
    List Location :=
  (Node.inside (fun below => lists (folder.location ++ below)) includeHidden
    (.folder folder.entries)).map (folder.location ++ ·)

/-- The files that were found, and those within the folders that are still to be listed. -/
def all (lists : Location → Bool) (includeHidden : Bool) (found : Collecting) : List Location :=
  found.files ++ found.pending.flatMap (ahead lists includeHidden)

/-- One entry adds the files that are collected at it. -/
theorem all_note (lists : Location → Bool) (includeHidden : Bool) (folder : Location)
    (found : Collecting) (name : Name) (node : Node) :
    ((note includeHidden folder found (name, node)).all lists includeHidden).Perm
      (found.all lists includeHidden ++
        (Node.filesAt (fun below => lists (folder ++ below)) includeHidden name node).map
          (folder ++ ·)) := by
  rw [note]
  by_cases hhidden : (Node.isHidden name && !includeHidden) = true
  · rw [if_pos hhidden]
    cases node <;> simp [Node.filesAt, hhidden]
  · rw [if_neg hhidden]
    cases node with
    | file content =>
        rw [Node.filesAt, if_neg hhidden]
        have hcons := List.perm_append_singleton (folder ++ [name])
          (found.files ++ found.pending.flatMap (ahead lists includeHidden))
        simpa [all] using hcons.symm
    | link target => simp [Node.filesAt]
    | device => simp [Node.filesAt]
    | folder entries =>
        simp only [Node.filesAt_folder, Bool.not_eq_true _ ▸ hhidden, Bool.false_or]
        split
        · simp
        · have hahead : ahead lists includeHidden ⟨folder ++ [name], entries⟩ =
              ((Node.inside (fun below => lists (folder ++ name :: below)) includeHidden
                (.folder entries)).map (name :: ·)).map (folder ++ ·) := by
            simp [ahead]
          rw [← hahead, all, all, List.flatMap_cons, List.append_assoc]
          exact List.perm_append_comm.append_left _

/-- A folder that is listed adds the files that are collected in it. -/
theorem all_list (lists : Location → Bool) (includeHidden : Bool) (folder : PendingFolder)
    (found : Collecting) :
    ((list includeHidden folder found).all lists includeHidden).Perm
      (found.all lists includeHidden ++
        (Node.filesOf (fun below => lists (folder.location ++ below)) includeHidden
          folder.entries).map (folder.location ++ ·)) := by
  rw [list]
  induction folder.entries generalizing found with
  | nil => simp [Node.filesOf]
  | cons entry entries ih =>
      obtain ⟨name, node⟩ := entry
      rw [List.foldl_cons, Node.filesOf, List.map_append, ← List.append_assoc]
      have hfirst := all_note lists includeHidden folder.location found name node
      exact (ih _).trans (hfirst.append_right _)

/-- The loop finds what was found, with all that is in the folders still to be listed. -/
theorem finish_perm (lists : Location → Bool) (includeHidden : Bool) (found : Collecting) :
    (finish lists includeHidden found).Perm (found.all lists includeHidden) := by
  induction found using finish.induct lists includeHidden with
  | case1 files => simp [finish, all]
  | case2 folder pending files hlists ih =>
      rw [finish, if_pos hlists]
      refine ih.trans ((all_list lists includeHidden folder ⟨pending, files⟩).trans ?_)
      have hahead : ahead lists includeHidden folder =
          (Node.filesOf (fun below => lists (folder.location ++ below)) includeHidden
            folder.entries).map (folder.location ++ ·) := by
        simp [ahead, Node.inside, hlists]
      rw [← hahead, all, all, List.flatMap_cons, List.append_assoc]
      exact List.perm_append_comm.append_left _
  | case3 folder pending files hlists ih =>
      rw [finish, if_neg hlists]
      have hahead : ahead lists includeHidden folder = [] := by
        simp [ahead, Node.inside, hlists]
      simpa [all, hahead] using ih

/-- Begun with one folder, the loop finds what the recursion finds in it. -/
theorem finish_folder (lists : Location → Bool) (includeHidden : Bool)
    (entries : List (Name × Node)) :
    (finish lists includeHidden ⟨[⟨[], entries⟩], []⟩).Perm
      (Node.inside lists includeHidden (.folder entries)) := by
  simpa [all, ahead] using finish_perm lists includeHidden ⟨[⟨[], entries⟩], []⟩

end Collecting

namespace Disk

open EditorCore.Node EditorCore.Path

variable {disk : Disk} {root : Path} {place : Location} {entries : List (Name × Node)}

/-! ### Listing by paths -/

/-- The path of a place below a folder leads there. -/
theorem locate?_below {location : Location} (hroot : disk.locate? root = some place)
    (hparts : ∀ name ∈ location, IsPart name)
    (hthere : IsThere disk.root.held? (place ++ location)) :
    disk.locate? (below root location) =
      if isProperPath (below root location) then some (place ++ location) else none := by
  by_cases hne : location = []
  · subst hne
    rw [below, List.foldl_nil, if_pos (locate?_eq_some_iff.1 hroot).1, List.append_nil, hroot]
  · obtain ⟨hproper, hleads⟩ := locate?_eq_some_iff.1 hroot
    have hbase : root.chars ≠ [] := by
      rw [isProperPath, Bool.and_eq_true] at hproper
      simpa using hproper.1
    obtain ⟨front, hbefore, hfront⟩ := root.exists_parts_foldl_child
    have hbegin : Leads disk.root.held? false linkLimit (disk.origin root) front place := by
      rcases hbefore with hbefore | hbefore
      · exact hbefore ▸ hleads
      · exact (hbefore ▸ hleads).of_concat_nil
    have horigin : disk.origin (below root location) = disk.origin root := by
      rw [origin, origin, below, isAbsolute_foldl_child hbase hparts]
    split
    · next hlong =>
        refine locate?_eq_some_iff.2 ⟨hlong, ?_⟩
        rw [horigin, below, hfront location hne hparts]
        exact hbegin.append fun links => leads_location
          (fun name hname => isEntry_of_isPart (hparts name hname)) hthere
    · next hlong => rw [locate?, if_neg hlong]

/--
Whether the folder at some names below another one can be listed: its path is not too long to be
asked for, and the disk lets it be read.
-/
def lists (disk : Disk) (root : Path) (place location : Location) : Bool :=
  isProperPath (below root location) && disk.readable (place ++ location)

/-- A folder of a tree is listed by its path if that can be asked for and the disk allows it. -/
theorem canList_below (htree : (Node.folder entries).IsTree)
    (hroot : disk.locate? root = some place)
    (hplace : disk.root.get? place = some (.folder entries)) {folder : Location}
    (hfolder : (Node.folder entries).held? folder = some .empty) :
    disk.canList (below root folder) = disk.lists root place folder := by
  obtain ⟨inner, hinner⟩ := held?_eq_empty_iff.1 hfolder
  have hparts : ∀ name ∈ folder, IsPart name := htree.isPart (by simp [hinner])
  have hthere : IsThere disk.root.held? (place ++ folder) := by
    refine isThere_of_folder (held?_eq_empty_iff.2 ⟨inner, ?_⟩)
    rw [get?_append, hplace]
    exact hinner
  rw [canList, locate?_below hroot hparts hthere, lists]
  split
  · next hproper => simp [hproper]
  · next hlong => simp [hlong]

/-! ### The files below a folder -/

/-- Below a folder of a disk the loop finds what the recursion finds, and its paths are sorted. -/
theorem collectFiles_folder (htree : (Node.folder entries).IsTree)
    (hroot : disk.locate? root = some place)
    (hplace : disk.root.get? place = some (.folder entries)) (includeHidden : Bool) :
    disk.collectFiles root includeHidden =
      .ok ((sorted (inside (disk.lists root place) includeHidden (.folder entries))).map
        (below root)) := by
  have hperm : (Collecting.finish (fun folder => disk.canList (below root folder)) includeHidden
      ⟨[⟨[], entries⟩], []⟩).Perm
        (inside (disk.lists root place) includeHidden (.folder entries)) := by
    refine (Collecting.finish_folder _ includeHidden entries).trans ?_
    rw [List.perm_ext_iff_of_nodup htree.nodup_inside htree.nodup_inside]
    intro location
    rw [htree.mem_inside, htree.mem_inside,
      isCollected_congr_lists fun folder hfolder => canList_below htree hroot hplace hfolder]
  have hnode : disk.node? root = some (.folder entries) := by rw [node?, hroot]; exact hplace
  simp only [collectFiles, hnode]
  rw [← sorted_eq_of_perm hperm]
  rfl

/-- Places in order have paths in order. -/
theorem before_below {first second : Location} (root : Path)
    (h : List.Lex NameBefore first second) (hfirst : first ≠ [] ∧ ∀ name ∈ first, IsPart name)
    (hsecond : second ≠ [] ∧ ∀ name ∈ second, IsPart name) :
    (below root first).Before (below root second) := by
  obtain ⟨front, -, hfront⟩ := root.exists_parts_foldl_child
  rw [Before, below, below, hfront first hfirst.1 hfirst.2, hfront second hsecond.1 hsecond.2]
  exact h.append_left _ front

/-- The paths of what is collected within a tree are in order. -/
theorem pairwise_collected (lists : Location → Bool) (includeHidden : Bool)
    (htree : (Node.folder entries).IsTree) (root : Path) :
    ((sorted (inside lists includeHidden (.folder entries))).map (below root)).Pairwise
      Before := by
  have hplaces : ∀ location ∈ sorted (inside lists includeHidden (.folder entries)),
      location ≠ [] ∧ ∀ name ∈ location, IsPart name := by
    intro location hmem
    rw [(sorted_perm _).mem_iff, htree.mem_inside] at hmem
    obtain ⟨content, hcontent⟩ := hmem.2.isFile
    exact ⟨hmem.1, htree.isPart (by simp [hcontent])⟩
  rw [List.pairwise_map]
  refine (pairwise_sorted_of_nodup htree.nodup_inside).imp_of_mem ?_
  intro first second hfirst hsecond hbefore
  exact before_below root hbefore (hplaces first hfirst) (hplaces second hsecond)

theorem ne_of_before {path other : Path} (h : path.Before other) : path ≠ other := by
  rintro rfl
  exact irrefl_of (List.Lex NameBefore) path.parts h

/--
The files below a folder are collected once each, in the order of their paths, but for those
in or behind a folder that is passed over for its name or that cannot be listed, because its
path is too long or because the disk does not let it be read; hidden files and folders are
passed over on request. The order in which folders list what they hold does not matter.
-/
theorem collectFiles_lists_collected (disk : Disk) (root : Path) (includeHidden : Bool) :
    (disk.isFolder root = false →
      disk.collectFiles root includeHidden = .error (.fileNotFound root.toString)) ∧
    ∀ place entries, disk.locate? root = some place →
      disk.root.get? place = some (.folder entries) → (Node.folder entries).IsTree →
      ∃ paths, disk.collectFiles root includeHidden = .ok paths ∧ paths.Nodup ∧
        paths.Pairwise Before ∧
        (∀ path, path ∈ paths ↔ ∃ location,
          IsCollected (disk.lists root place) includeHidden (.folder entries) location ∧
            path = below root location) ∧
        ∀ (other : Disk) (others : List (Name × Node)), other.locate? root = some place →
          other.root.get? place = some (.folder others) →
          (Node.folder entries).Relisted (.folder others) → other.readable = disk.readable →
            other.collectFiles root includeHidden = .ok paths := by
  constructor
  · intro hfolder
    rw [isFolder] at hfolder
    rw [collectFiles]
    split
    · next entries hentries =>
        simp [hentries, Node.isFolder] at hfolder
    · rfl
  · intro place entries hroot hplace htree
    have hbefore := pairwise_collected (disk.lists root place) includeHidden htree root
    refine ⟨_, collectFiles_folder htree hroot hplace includeHidden, hbefore.imp ne_of_before,
      hbefore, ?_, ?_⟩
    · intro path
      rw [List.mem_map]
      constructor
      · rintro ⟨location, hmem, rfl⟩
        rw [(sorted_perm _).mem_iff, htree.mem_inside] at hmem
        exact ⟨location, hmem.2, rfl⟩
      · rintro ⟨location, hcollected, rfl⟩
        refine ⟨location, ?_, rfl⟩
        rw [(sorted_perm _).mem_iff, htree.mem_inside]
        refine ⟨?_, hcollected⟩
        rintro rfl
        obtain ⟨content, hcontent⟩ := hcollected.isFile
        simp [get?] at hcontent
    · intro other others hother hotherPlace hrelisted hreadable
      have hlists : other.lists root place = disk.lists root place := by
        funext location
        rw [lists, lists, hreadable]
      rw [collectFiles_folder (hrelisted.isTree htree) hother hotherPlace, hlists,
        sorted_eq_of_perm (hrelisted.perm_inside.2 _)]

/--
A file may have the name of a folder that is passed over, listings may differ, and a folder that
may not be read is passed over.
-/
theorem collectFiles_lists_collected_build :
    ∃ (disk other : Disk) (file : Node) (allowed : Location → Bool) (paths : List Path),
      file = .file (Disk.encode ['x']) ∧ (∀ place, allowed place = (place != ["s".toList])) ∧
      disk = ⟨.folder [("b".toList, .folder [("build".toList, file)]),
        (".git".toList, .folder [("c".toList, file)]), ("s".toList, .folder [("x".toList, file)])],
        [], fun _ => true, allowed⟩ ∧
      other = ⟨.folder [(".git".toList, .folder [("c".toList, file)]),
        ("b".toList, .folder [("build".toList, file)]), ("s".toList, .folder [("x".toList, file)])],
        [], fun _ => true, allowed⟩ ∧
      disk.collectFiles (.ofString ".") true = .ok paths ∧
      other.collectFiles (.ofString ".") true = .ok paths ∧
      .ofString "./b/build" ∈ paths ∧ .ofString "./s/x" ∉ paths ∧ paths.Pairwise Before ∧
      disk.collectFiles (.ofString "b/build") true = .error (.fileNotFound "b/build") := by
  obtain ⟨file, hfile⟩ : ∃ file : Node, file = .file (Disk.encode ['x']) := ⟨_, rfl⟩
  obtain ⟨entries, hentries⟩ : ∃ entries : List (Name × Node), entries =
    [("b".toList, .folder [("build".toList, file)]),
      (".git".toList, .folder [("c".toList, file)]),
      ("s".toList, .folder [("x".toList, file)])] := ⟨_, rfl⟩
  have htree : (Node.folder entries).IsTree := by
    have hleaf : file.IsTree := hfile ▸ .file _
    rw [hentries]
    exact .cons (by decide) rfl (.cons (by decide) rfl hleaf .nil)
      (.cons (by decide) rfl (.cons (by decide) rfl hleaf .nil)
        (.cons (by decide) rfl (.cons (by decide) rfl hleaf .nil) .nil))
  obtain ⟨paths, hpaths, -, hbefore, hmem, hlisted⟩ := (collectFiles_lists_collected
    ⟨.folder entries, [], fun _ => true, fun place => place != ["s".toList]⟩ (.ofString ".")
      true).2 [] entries rfl rfl htree
  subst hentries
  refine ⟨_, ⟨_, [], fun _ => true, _⟩, file, _, paths, hfile, fun _ => rfl, rfl, rfl, hpaths,
    hlisted _ _ rfl rfl (.perm (.swap _ _ _)) rfl, ?_, ?_, hbefore, ?_⟩
  · refine (hmem _).2 ⟨["b".toList, "build".toList], ⟨⟨_, by rw [hfile]; rfl⟩, by decide, by simp,
      ?_⟩, by decide⟩
    intro folder hfolder
    rw [List.dropLast_cons_cons, List.dropLast_singleton, List.prefix_cons_iff] at hfolder
    rcases hfolder with rfl | ⟨rest, rfl, hrest⟩
    · rfl
    · obtain rfl := List.prefix_nil.1 hrest
      rfl
  · rw [hmem]
    rintro ⟨location, hcollected, hpath⟩
    obtain ⟨content, hcontent⟩ := hcollected.isFile
    have hopen : (Path.ofString ".").IsOpen := ⟨by decide, by decide⟩
    have hnames : ∀ name ∈ location, IsPart name := htree.isPart (by rw [hcontent]; rfl)
    have hparts := congrArg parts hpath
    rw [below, hopen.parts_foldl_child hnames] at hparts
    have hlocation : ["s".toList, "x".toList] = location := (List.cons.inj hparts).2
    have hclosed := hcollected.listed ["s".toList] (by rw [← hlocation]; decide)
    simp [lists] at hclosed
  · refine (collectFiles_lists_collected _ _ true).1 ?_
    rw [hfile]
    rfl

/-- A file in a folder whose path is too long is not collected, whatever its name. -/
theorem collectFiles_passes_deep :
    ∃ (disk : Disk) (root : Path) (entries : List (Name × Node)) (location : Location)
      (content : ByteArray),
      root = ⟨(List.replicate 2044 ['.', '/']).flatten ++ ['.']⟩ ∧
      disk.node? root = some (.folder entries) ∧ (Node.folder entries).IsTree ∧
      location = ["deep-folder".toList, "a".toList] ∧
      (Node.folder entries).get? location = some (.file content) ∧
      (∀ name ∈ location.dropLast, name ∉ excludedFolders) ∧
      (∀ name ∈ location, isHidden name = false) ∧
      disk.collectFiles root false = .ok [] := by
  obtain ⟨entries, hentries⟩ : ∃ entries : List (Name × Node), entries =
    [("deep-folder".toList, .folder [("a".toList, .file ⟨#[]⟩)])] := ⟨_, rfl⟩
  obtain ⟨root, hlong⟩ : ∃ root : Path,
    root = ⟨(List.replicate 2044 ['.', '/']).flatten ++ ['.']⟩ := ⟨_, rfl⟩
  have htree : (Node.folder entries).IsTree := by
    subst hentries
    exact .cons (by decide) rfl (.cons (by decide) rfl (.file _) .nil) .nil
  obtain ⟨disk, hdisk⟩ : ∃ disk : Disk, disk =
    ⟨.folder entries, [], fun _ => true, fun _ => true⟩ := ⟨_, rfl⟩
  have hroot : disk.locate? root = some [] := by
    subst hdisk hentries hlong
    decide +kernel
  have hplace : disk.root.get? [] = some (.folder entries) := by
    rw [hdisk]
    rfl
  have hnone : inside (disk.lists root []) false (.folder entries) = [] := by
    subst hdisk hentries hlong
    decide +kernel
  refine ⟨disk, root, entries, ["deep-folder".toList, "a".toList], ⟨#[]⟩, hlong, ?_, htree, rfl, ?_,
    by decide, by decide, ?_⟩
  · rw [node?, hroot]
    exact hplace
  · subst hentries
    rfl
  · rw [collectFiles_folder htree hroot hplace, hnone]
    simp [sorted]

end Disk

end EditorCore
