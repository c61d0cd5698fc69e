import EditorCore.File.Disk
import EditorCore.Proofs.File.Trees

/-!
# How paths are followed

Following a path is a walk over what is held at places: each step stays in a folder, goes
up, goes down to an entry, or jumps to where a link points, and the last step may come to
a place where nothing is yet. So where a path leads depends on nothing but what is held,
and a new file at the end of it changes only where paths lead that ended there.
-/

namespace EditorCore

namespace Disk

open Node

/-- What can be held at every place. -/
abbrev Holdings := Location → Option Node

/-- Where the parts of a path lead from a place, through at most so many links. -/
inductive Leads (held : Holdings) (create : Bool) :
    Nat → Location → List Name → Location → Prop where
  /-- No part is left. -/
  | stop {links : Nat} {start : Location} : Leads held create links start [] start
  /-- A part that is empty or means the folder itself. -/
  | stay {links : Nat} {start place : Location} {part : Name} {rest : List Name}
    (hfolder : held start = some .empty) (hpart : isEntry part = false)
    (habove : part ≠ Path.above) (h : Leads held create links start rest place) :
    Leads held create links start (part :: rest) place
  /-- The folder above. -/
  | up {links : Nat} {start place : Location} {rest : List Name}
    (hfolder : held start = some .empty)
    (h : Leads held create links start.dropLast rest place) :
    Leads held create links start (Path.above :: rest) place
  /-- An entry that is no link. -/
  | down {links : Nat} {start place : Location} {part : Name} {rest : List Name} {node : Node}
    (hfolder : held start = some .empty) (hpart : isEntry part = true)
    (hnode : held (start ++ [part]) = some node) (hlink : ∀ target, node ≠ .link target)
    (h : Leads held create links (start ++ [part]) rest place) :
    Leads held create links start (part :: rest) place
  /-- A link, whose path takes the place of the part. -/
  | jump {links : Nat} {start place : Location} {part : Name} {rest : List Name} {target : Path}
    (hfolder : held start = some .empty) (hpart : isEntry part = true)
    (hlink : held (start ++ [part]) = some (.link target))
    (h : Leads held create links (if target.isAbsolute then [] else start)
      (target.parts ++ rest) place) :
    Leads held create (links + 1) start (part :: rest) place
  /-- A name that is not there yet. -/
  | fresh {links : Nat} {start : Location} {part : Name} (hcreate : create = true)
    (hfolder : held start = some .empty) (hpart : isEntry part = true)
    (hnone : held (start ++ [part]) = none) (hname : isProperName part = true) :
    Leads held create links start [part] (start ++ [part])

variable {root : Node} {held kept : Holdings} {create : Bool} {links : Nat} {name : Name}
  {start place other : Location} {parts : List Name} {content : ByteArray}

/-! ### The walk -/

theorem follow?_nil (root : Node) (create : Bool) (links : Nat) (start : Location) :
    follow? root create links start [] = some start := by
  cases links with
  | zero => rfl
  | succ links => rfl

/-- One part of a path. -/
theorem follow?_cons (root : Node) (create : Bool) (links : Nat) (start : Location) (part : Name)
    (rest : List Name) : follow? root create links start (part :: rest) =
      match root.held? start with
      | some (.folder _) =>
        if part = Path.above then follow? root create links start.dropLast rest
        else if !isEntry part then follow? root create links start rest
        else
          match root.held? (start ++ [part]) with
          | some (.link target) =>
            match links with
            | 0 => none
            | links + 1 => follow? root create links
                (if target.isAbsolute then [] else start) (target.parts ++ rest)
          | some _ => follow? root create links (start ++ [part]) rest
          | none =>
            if create && rest.isEmpty && isProperName part then some (start ++ [part]) else none
      | _ => none := by
  cases links with
  | zero => rfl
  | succ links => rfl

theorem ne_above_of_isEntry (h : isEntry name = true) : name ≠ Path.above := by
  rintro rfl
  simp [isEntry] at h

/-- What the walk comes to is where the path leads. -/
theorem leads_of_follow? (h : follow? root create links start parts = some place) :
    Leads root.held? create links start parts place := by
  induction links using Nat.strongRecOn generalizing start parts with
  | _ links ih =>
    induction parts generalizing start with
    | nil =>
        rw [follow?_nil] at h
        obtain rfl := Option.some.inj h
        exact .stop
    | cons part rest ihrest =>
        rw [follow?_cons] at h
        split at h
        · next entries hentries =>
            have hfolder := eq_empty_of_held? hentries
            split at h
            · next habove =>
                subst habove
                exact .up hfolder (ihrest h)
            · next habove =>
                split at h
                · next hpart => exact .stay hfolder (by simpa using hpart) habove (ihrest h)
                · next hpart =>
                    rw [Bool.not_eq_true', Bool.not_eq_false] at hpart
                    split at h
                    · next target hlink =>
                        split at h
                        · simp at h
                        · exact .jump hfolder hpart hlink (ih _ (Nat.lt_succ_self _) h)
                    · next node hlink hnode => exact .down hfolder hpart hnode hlink (ihrest h)
                    · next hnone =>
                        rw [Option.ite_none_right_eq_some, Bool.and_eq_true, Bool.and_eq_true,
                          List.isEmpty_iff] at h
                        obtain ⟨⟨⟨hcreate, rfl⟩, hname⟩, hplace⟩ := h
                        obtain rfl := Option.some.inj hplace
                        exact .fresh hcreate hfolder hpart hnone hname
        · simp at h

/-- The walk comes to where the path leads. -/
theorem Leads.follow?_eq (h : Leads root.held? create links start parts place) :
    follow? root create links start parts = some place := by
  induction h with
  | stop => exact follow?_nil ..
  | stay hfolder hpart habove _ ih =>
      rw [follow?_cons, hfolder]
      simpa [empty, hpart, habove] using ih
  | up hfolder _ ih =>
      rw [follow?_cons, hfolder]
      simpa [empty] using ih
  | @down _ _ _ part _ node hfolder hpart hnode hlink _ ih =>
      have habove := ne_above_of_isEntry hpart
      rw [follow?_cons, hfolder, hnode]
      cases node with
      | link target => exact absurd rfl (hlink target)
      | file content => simpa [empty, hpart, habove] using ih
      | folder entries => simpa [empty, hpart, habove] using ih
      | device => simpa [empty, hpart, habove] using ih
  | @jump _ _ _ part _ target hfolder hpart hlink _ ih =>
      have habove := ne_above_of_isEntry hpart
      rw [follow?_cons, hfolder, hlink]
      simpa [empty, hpart, habove] using ih
  | @fresh _ _ part hcreate hfolder hpart hnone hname =>
      have habove := ne_above_of_isEntry hpart
      rw [follow?_cons, hfolder, hnone]
      simp [empty, hpart, habove, hcreate, hname]

theorem follow?_eq_some_iff : follow? root create links start parts = some place ↔
    Leads root.held? create links start parts place :=
  ⟨leads_of_follow?, Leads.follow?_eq⟩

/-- A path leads to one place. -/
theorem Leads.unique (h : Leads root.held? create links start parts place)
    (hother : Leads root.held? create links start parts other) : place = other :=
  Option.some.inj (h.follow?_eq.symm.trans hother.follow?_eq)

/-- Every part is looked up in a folder. -/
theorem Leads.folder {part : Name} {rest : List Name}
    (h : Leads held create links start (part :: rest) place) : held start = some .empty := by
  cases h with
  | stay hfolder => exact hfolder
  | up hfolder => exact hfolder
  | down hfolder => exact hfolder
  | jump hfolder => exact hfolder
  | fresh _ hfolder => exact hfolder

/-! ### What is at the end -/

theorem held?_dropLast (h : root.held? start = some .empty) :
    root.held? start.dropLast = some .empty := by
  rcases List.eq_nil_or_concat' start with rfl | ⟨front, name, rfl⟩
  · exact h
  · rw [List.dropLast_concat]
    exact held?_eq_empty_of_append front name [] (by rw [h]; rfl)

theorem held?_nil (h : root.held? start = some .empty) : root.held? [] = some .empty := by
  cases start with
  | nil => exact h
  | cons name rest => exact held?_eq_empty_of_append [] name rest (by rw [List.nil_append, h]; rfl)

/-- Something that is no link. -/
def IsThere (held : Holdings) (place : Location) : Prop :=
  ∃ node, held place = some node ∧ ∀ target, node ≠ .link target

theorem isThere_of_folder (h : held start = some .empty) : IsThere held start :=
  ⟨_, h, by simp [empty]⟩

/-- Where a path leads there is something, and no link. -/
theorem Leads.isThere (h : Leads root.held? false links start parts place)
    (hstart : IsThere root.held? start) : IsThere root.held? place := by
  generalize hheld : root.held? = held at h
  induction h with
  | stop => exact hheld ▸ hstart
  | stay _ _ _ _ ih => exact ih hstart
  | up hfolder _ ih =>
      subst hheld
      exact ih (isThere_of_folder (held?_dropLast hfolder))
  | down _ _ hnode hlink _ ih =>
      subst hheld
      exact ih ⟨_, hnode, hlink⟩
  | @jump _ _ _ _ _ target hfolder _ _ _ ih =>
      subst hheld
      refine ih (isThere_of_folder ?_)
      split
      · exact held?_nil hfolder
      · exact hfolder
  | fresh hcreate => simp at hcreate

/-- A path at whose end a file may be created leads to what is there, or to a new name. -/
theorem Leads.old_or_fresh (h : Leads held true links start parts place) :
    Leads held false links start parts place ∨ held place = none ∧
      ∃ folder name, place = folder ++ [name] ∧ held folder = some .empty := by
  induction h with
  | stop => exact .inl .stop
  | stay hfolder hpart habove _ ih => exact ih.imp_left (.stay hfolder hpart habove)
  | up hfolder _ ih => exact ih.imp_left (.up hfolder)
  | down hfolder hpart hnode hlink _ ih => exact ih.imp_left (.down hfolder hpart hnode hlink)
  | jump hfolder hpart hlink _ ih => exact ih.imp_left (.jump hfolder hpart hlink)
  | fresh _ hfolder _ hnone _ => exact .inr ⟨hnone, _, _, rfl, hfolder⟩

/-! ### Names on the way -/

/-- A path that leads to a place leads on from there by the parts behind it. -/
theorem Leads.append {middle : Location} {front back : List Name}
    (h : Leads held false links start front middle)
    (hback : ∀ links, Leads held false links middle back place) :
    Leads held false links start (front ++ back) place := by
  induction h with
  | stop => exact hback _
  | stay hfolder hpart habove _ ih => exact .stay hfolder hpart habove (ih hback)
  | up hfolder _ ih => exact .up hfolder (ih hback)
  | down hfolder hpart hnode hlink _ ih => exact .down hfolder hpart hnode hlink (ih hback)
  | jump hfolder hpart hlink _ ih =>
      exact .jump hfolder hpart hlink (List.append_assoc .. ▸ ih hback)
  | fresh hcreate => simp at hcreate

/-- A slash at the end of a path does not count. -/
theorem Leads.of_concat_nil {front : List Name}
    (h : Leads held false links start (front ++ [[]]) place) :
    Leads held false links start front place := by
  generalize hparts : front ++ [[]] = parts at h
  induction h generalizing front with
  | stop => simp at hparts
  | stay hfolder hpart habove hrest ih =>
      cases front with
      | nil =>
          obtain ⟨rfl, rfl⟩ := List.cons.inj hparts
          cases hrest
          exact .stop
      | cons first front =>
          obtain ⟨rfl, hfront⟩ := List.cons.inj hparts
          exact .stay hfolder hpart habove (ih hfront)
  | up hfolder _ ih =>
      cases front with
      | nil => simp [Path.above] at hparts
      | cons first front =>
          obtain ⟨rfl, hfront⟩ := List.cons.inj hparts
          exact .up hfolder (ih hfront)
  | down hfolder hpart hnode hlink _ ih =>
      cases front with
      | nil =>
          obtain ⟨rfl, -⟩ := List.cons.inj hparts
          simp [isEntry] at hpart
      | cons first front =>
          obtain ⟨rfl, hfront⟩ := List.cons.inj hparts
          exact .down hfolder hpart hnode hlink (ih hfront)
  | jump hfolder hpart hlink _ ih =>
      cases front with
      | nil =>
          obtain ⟨rfl, -⟩ := List.cons.inj hparts
          simp [isEntry] at hpart
      | cons first front =>
          obtain ⟨rfl, rfl⟩ := List.cons.inj hparts
          exact .jump hfolder hpart hlink (ih (List.append_assoc ..))
  | fresh hcreate => simp at hcreate

/-- Where one entry leads, at whose place there is no link. -/
theorem leads_cons_iff {rest : List Name} (hname : isEntry name = true)
    (hthere : IsThere held (start ++ [name])) (hfolder : held start = some .empty) :
    Leads held create links start (name :: rest) place ↔
      Leads held create links (start ++ [name]) rest place := by
  obtain ⟨node, hnode, hlink⟩ := hthere
  constructor
  · intro h
    cases h with
    | stay _ hpart => simp [hname] at hpart
    | up => simp [isEntry] at hname
    | down _ _ _ _ h => exact h
    | jump _ _ hjump =>
        rw [hnode] at hjump
        exact absurd (Option.some.inj hjump) (hlink _)
    | fresh _ _ _ hnone => simp [hnode] at hnone
  · exact .down hfolder hname hnode hlink

/-- The names on the way to a place lead there, and what is behind them leads on from there. -/
theorem leads_append_iff {location : Location} (hparts : ∀ name ∈ location, isEntry name = true)
    (hthere : IsThere root.held? (start ++ location)) :
    Leads root.held? create links start (location ++ parts) place ↔
      Leads root.held? create links (start ++ location) parts place := by
  induction location generalizing start with
  | nil => simp
  | cons name location ih =>
      rw [List.forall_mem_cons] at hparts
      have hsome : (root.held? (start ++ name :: location)).isSome := by
        obtain ⟨node, hnode, -⟩ := hthere
        simp [hnode]
      have hfolder := held?_eq_empty_of_append start name location hsome
      rw [List.append_cons] at hthere ⊢
      have hnext : IsThere root.held? (start ++ [name]) := by
        cases location with
        | nil => simpa using hthere
        | cons next location =>
            rw [List.append_cons] at hsome
            exact isThere_of_folder (held?_eq_empty_of_append (start ++ [name]) next location hsome)
      rw [List.cons_append, leads_cons_iff hparts.1 hnext hfolder, ih hparts.2 hthere]

/-- The names on the way to a place lead there. -/
theorem leads_location {location : Location} (hparts : ∀ name ∈ location, isEntry name = true)
    (hthere : IsThere root.held? (start ++ location)) :
    Leads root.held? create links start location (start ++ location) := by
  rw [← List.append_nil location, leads_append_iff hparts hthere, List.append_nil]
  exact .stop

/-- Without links a path leads to its last part. -/
theorem Leads.exists_concat {front : List Name}
    (h : Leads held false links start (front ++ [name]) place)
    (hlinks : ∀ place target, held place ≠ some (.link target)) (hname : isEntry name = true) :
    ∃ folder, place = folder ++ [name] := by
  generalize hparts : front ++ [name] = parts at h
  induction h generalizing front with
  | stop => simp at hparts
  | @stay _ start _ part rest _ hpart habove _ ih =>
      cases front with
      | nil =>
          obtain ⟨rfl, -⟩ := List.cons.inj hparts
          simp [hname] at hpart
      | cons first front => exact ih (List.cons.inj hparts).2
  | up _ _ ih =>
      cases front with
      | nil =>
          obtain ⟨rfl, -⟩ := List.cons.inj hparts
          exact absurd rfl (ne_above_of_isEntry hname)
      | cons first front => exact ih (List.cons.inj hparts).2
  | @down _ start _ part rest _ _ _ _ _ hrest ih =>
      cases front with
      | nil =>
          obtain ⟨rfl, rfl⟩ := List.cons.inj hparts
          cases hrest
          exact ⟨start, rfl⟩
      | cons first front => exact ih (List.cons.inj hparts).2
  | jump _ _ hlink => exact absurd hlink (hlinks _ _)
  | fresh hcreate => simp at hcreate

/-! ### New files -/

variable {target : Location}

/-- What is held once a file was put at a place that neither a folder nor a link is at. -/
structure IsUpdate (held kept : Holdings) (target : Location) (content : ByteArray) : Prop where
  kept : ∀ location, kept location =
    if location = target then some (.file content) else held location
  notFolder : held target ≠ some .empty
  notLink : ∀ path, held target ≠ some (.link path)

theorem IsUpdate.of_ne (h : IsUpdate held kept target content) (hne : other ≠ target) :
    kept other = held other := by
  rw [h.kept, if_neg hne]

theorem IsUpdate.of_folder (h : IsUpdate held kept target content)
    (hfolder : held other = some .empty) : kept other = some .empty := by
  rw [h.of_ne, hfolder]
  rintro rfl
  exact h.notFolder hfolder

theorem IsUpdate.of_link {path : Path} (h : IsUpdate held kept target content)
    (hlink : held other = some (.link path)) : kept other = some (.link path) := by
  rw [h.of_ne, hlink]
  rintro rfl
  exact h.notLink path hlink

theorem IsUpdate.isThere (h : IsUpdate held kept target content) (hthere : IsThere held other) :
    IsThere kept other := by
  obtain ⟨node, hnode, hlink⟩ := hthere
  rw [IsThere, h.kept]
  split
  · exact ⟨_, rfl, by simp⟩
  · exact ⟨node, hnode, hlink⟩

theorem IsUpdate.folder_of (h : IsUpdate held kept target content)
    (hfolder : kept other = some .empty) : held other = some .empty := by
  rw [h.kept] at hfolder
  split at hfolder
  · simp [empty] at hfolder
  · exact hfolder

theorem IsUpdate.link_of {path : Path} (h : IsUpdate held kept target content)
    (hlink : kept other = some (.link path)) : held other = some (.link path) := by
  rw [h.kept] at hlink
  split at hlink
  · simp at hlink
  · exact hlink

/-- A new file leaves every path where it led. -/
theorem Leads.update (h : Leads held false links start parts place)
    (hupdate : IsUpdate held kept target content) : Leads kept false links start parts place := by
  induction h with
  | stop => exact .stop
  | stay hfolder hpart habove _ ih => exact .stay (hupdate.of_folder hfolder) hpart habove ih
  | up hfolder _ ih => exact .up (hupdate.of_folder hfolder) ih
  | down hfolder hpart hnode hlink _ ih =>
      obtain ⟨node, hnode, hlink⟩ := hupdate.isThere ⟨_, hnode, hlink⟩
      exact .down (hupdate.of_folder hfolder) hpart hnode hlink ih
  | jump hfolder hpart hlink _ ih =>
      exact .jump (hupdate.of_folder hfolder) hpart (hupdate.of_link hlink) ih
  | fresh hcreate => simp at hcreate

/-- A path at whose end a file is made leads to that file. -/
theorem Leads.created (h : Leads held true links start parts target)
    (hupdate : IsUpdate held kept target content) : Leads kept false links start parts target := by
  induction h with
  | stop => exact .stop
  | stay hfolder hpart habove _ ih =>
      exact .stay (hupdate.of_folder hfolder) hpart habove (ih hupdate)
  | up hfolder _ ih => exact .up (hupdate.of_folder hfolder) (ih hupdate)
  | down hfolder hpart hnode hlink _ ih =>
      obtain ⟨node, hnode, hlink⟩ := hupdate.isThere ⟨_, hnode, hlink⟩
      exact .down (hupdate.of_folder hfolder) hpart hnode hlink (ih hupdate)
  | jump hfolder hpart hlink _ ih =>
      exact .jump (hupdate.of_folder hfolder) hpart (hupdate.of_link hlink) (ih hupdate)
  | @fresh _ start part _ hfolder hpart _ _ =>
      have hnode := hupdate.kept (start ++ [part])
      rw [if_pos rfl] at hnode
      exact .down (hupdate.of_folder hfolder) hpart hnode (by simp) .stop

/-- Behind a new file, a path leads where it led, or to that file. -/
theorem Leads.of_update (h : Leads kept false links start parts place)
    (hupdate : IsUpdate held kept target content) :
    Leads held false links start parts place ∨ place = target ∧ held target = none := by
  induction h with
  | stop => exact .inl .stop
  | stay hfolder hpart habove _ ih =>
      exact ih.imp_left (.stay (hupdate.folder_of hfolder) hpart habove)
  | up hfolder _ ih => exact ih.imp_left (.up (hupdate.folder_of hfolder))
  | @down _ start place part rest node hfolder hpart hnode hlink hrest ih =>
      have hfolder := hupdate.folder_of hfolder
      by_cases htarget : start ++ [part] = target
      · cases hold : held target with
        | none =>
            -- nothing is below the new file, so the path ends there
            rw [htarget] at hrest
            cases rest with
            | nil =>
                cases hrest
                exact .inr ⟨rfl, rfl⟩
            | cons next rest =>
                have hnext := hupdate.folder_of hrest.folder
                exact absurd hnext hupdate.notFolder
        | some old =>
            rw [hold] at ih
            refine ih.imp_left (.down hfolder hpart (htarget ▸ hold) ?_)
            rintro path rfl
            exact hupdate.notLink path hold
      · rw [hupdate.of_ne htarget] at hnode
        exact ih.imp_left (.down hfolder hpart hnode hlink)
  | jump hfolder hpart hlink _ ih =>
      exact ih.imp_left (.jump (hupdate.folder_of hfolder) hpart (hupdate.link_of hlink))
  | fresh hcreate => simp at hcreate

end Disk

end EditorCore
