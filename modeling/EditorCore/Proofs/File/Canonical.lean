import EditorCore.Proofs.File.Writing

/-!
# Canonical paths

Where a path leads there is something, and the canonical path of that place leads there as
well, so a canonical path stays what it is. A file that is written leaves every path where it
led, and a path that led nowhere before can lead only to a file that is new.
-/

namespace EditorCore

namespace Disk

open EditorCore.Node EditorCore.Path

variable {disk left : Disk} {path other : Path} {start location place folder : Location}
  {parts : List Name} {name : Name} {content : ByteArray} {held : Holdings} {create : Bool}
  {links : Nat}

/-! ### Names on the way -/

theorem isEntry_of_isPart (h : IsPart name) : isEntry name = true := by
  simp [isEntry, h.ne_nil, h.ne_here, h.ne_above]

theorem isPart_of_isEntry (h : isEntry name = true) (hslash : '/' ∉ name) : IsPart name := by
  simp only [isEntry, Bool.and_eq_true, Bool.not_eq_true', bne_iff_ne] at h
  obtain ⟨⟨hnil, hhere⟩, habove⟩ := h
  exact ⟨by simpa using hnil, hslash, hhere, habove⟩

/-- A path leads to a place whose names are parts of paths. -/
theorem Leads.isPart (h : Leads held create links start parts place)
    (hstart : ∀ name ∈ start, IsPart name) (hparts : ∀ part ∈ parts, '/' ∉ part) :
    ∀ name ∈ place, IsPart name := by
  have hdown : ∀ {start : Location} {part : Name}, (∀ name ∈ start, IsPart name) →
      isEntry part = true → '/' ∉ part → ∀ name ∈ start ++ [part], IsPart name := by
    intro start part hstart hpart hslash
    rw [List.forall_mem_append, List.forall_mem_singleton]
    exact ⟨hstart, isPart_of_isEntry hpart hslash⟩
  induction h with
  | stop => exact hstart
  | stay _ _ _ _ ih => exact ih hstart (List.forall_mem_cons.1 hparts).2
  | up _ _ ih =>
      exact ih (fun name hname => hstart name (List.dropLast_subset _ hname))
        (List.forall_mem_cons.1 hparts).2
  | down _ hpart _ _ _ ih =>
      rw [List.forall_mem_cons] at hparts
      exact ih (hdown hstart hpart hparts.1) hparts.2
  | @jump _ _ _ _ _ target _ _ _ _ ih =>
      rw [List.forall_mem_cons] at hparts
      refine ih ?_ ?_
      · split
        · simp
        · exact hstart
      · rw [List.forall_mem_append]
        exact ⟨fun part hpart => not_slash_of_mem_splitSlash hpart, hparts.2⟩
  | fresh _ _ hpart _ _ => exact hdown hstart hpart (List.forall_mem_cons.1 hparts).1

/-- The working folder of a disk has a path. -/
def HasWorkingPath (disk : Disk) : Prop := ∀ name ∈ disk.working, IsPart name

theorem resolve?_eq_some_iff : disk.resolve? path = some place ↔ path.chars ≠ [] ∧
    Leads disk.root.held? false linkLimit (disk.origin path) path.parts place := by
  rw [resolve?]
  split
  · next hnil => simp [List.isEmpty_iff.1 hnil]
  · next hne =>
      rw [List.isEmpty_iff] at hne
      rw [follow?_eq_some_iff, and_iff_right hne]

theorem resolve?_of_locate? (h : disk.locate? path = some place) :
    disk.resolve? path = some place :=
  (Option.ite_none_right_eq_some.1 h).2

theorem isPart_of_leads (hworking : disk.HasWorkingPath)
    (h : Leads disk.root.held? create links (disk.origin path) path.parts place) :
    ∀ name ∈ place, IsPart name := by
  refine h.isPart ?_ fun part hpart => not_slash_of_mem_splitSlash hpart
  rw [origin]
  split
  · simp
  · exact hworking

theorem isPart_of_resolve? (hworking : disk.HasWorkingPath)
    (h : disk.resolve? path = some place) : ∀ name ∈ place, IsPart name :=
  isPart_of_leads hworking (resolve?_eq_some_iff.1 h).2

/-- There is something where a path leads, and a folder that all is in. -/
theorem isThere_of_resolve? (h : disk.resolve? path = some place) :
    IsThere disk.root.held? place ∧ disk.root.held? [] = some .empty := by
  obtain ⟨-, hleads⟩ := resolve?_eq_some_iff.1 h
  have hstart := folder_of_leads hleads
  exact ⟨hleads.isThere (isThere_of_folder hstart), held?_nil hstart⟩

/-! ### Canonical paths -/

theorem isAbsolute_pathOf (location : Location) : (pathOf location).isAbsolute = true := by
  cases location with
  | nil => rfl
  | cons name location => rfl

theorem parts_pathOf (hparts : ∀ name ∈ location, IsPart name) (hne : location ≠ []) :
    (pathOf location).parts = [] :: location := by
  rw [pathOf, if_neg (by simpa using hne), Path.parts]
  exact splitSlash_flatMap List.not_mem_nil fun name hname => (hparts name hname).not_slash

theorem pathOf_inj {place : Location} (hlocation : ∀ name ∈ location, IsPart name)
    (hplace : ∀ name ∈ place, IsPart name) (h : pathOf location = pathOf place) :
    location = place := by
  have hroot : ∀ {place : Location}, (∀ name ∈ place, IsPart name) → pathOf [] = pathOf place →
      place = [] := by
    intro place hplace h
    by_contra hne
    have hparts := congrArg parts h
    rw [parts_pathOf hplace hne] at hparts
    obtain rfl := (List.cons.inj hparts).2
    exact (hplace [] List.mem_cons_self).ne_nil rfl
  by_cases hl : location = []
  · subst hl
    exact (hroot hplace h).symm
  · by_cases hp : place = []
    · subst hp
      exact hroot hlocation h.symm
    · have hparts := congrArg parts h
      rw [parts_pathOf hlocation hl, parts_pathOf hplace hp] at hparts
      exact (List.cons.inj hparts).2

/-- What is on the way to a canonical path leads on from there. -/
theorem leads_pathOf_iff (hroot : disk.root.held? [] = some .empty)
    (hparts : ∀ part ∈ folder, IsPart part) (hthere : IsThere disk.root.held? folder) :
    Leads disk.root.held? create links [] ([] :: (folder ++ parts)) place ↔
      Leads disk.root.held? create links folder parts place := by
  have happend : Leads disk.root.held? create links [] (folder ++ parts) place ↔
      Leads disk.root.held? create links ([] ++ folder) parts place :=
    leads_append_iff (fun part hpart => isEntry_of_isPart (hparts part hpart)) hthere
  rw [List.nil_append] at happend
  rw [← happend]
  constructor
  · generalize folder ++ parts = behind
    intro h
    cases h with
    | stay _ _ _ h => exact h
    | down _ hpart => simp [isEntry] at hpart
    | jump _ hpart => simp [isEntry] at hpart
    | fresh _ _ hpart => simp [isEntry] at hpart
  · exact .stay hroot (by decide) (by decide)

theorem origin_pathOf (disk : Disk) (location : Location) : disk.origin (pathOf location) = [] :=
  if_pos (isAbsolute_pathOf location)

/-- The canonical path of a place leads there. -/
theorem resolve?_pathOf (hroot : disk.root.held? [] = some .empty)
    (hparts : ∀ name ∈ location, IsPart name) (hthere : IsThere disk.root.held? location) :
    disk.resolve? (pathOf location) = some location := by
  rw [resolve?_eq_some_iff, origin_pathOf]
  by_cases hne : location = []
  · subst hne
    have hslash : (pathOf []).parts = [[], []] := by decide
    rw [hslash]
    refine ⟨by decide, (leads_pathOf_iff hroot hparts hthere).2 ?_⟩
    exact .stay hroot (by decide) (by decide) .stop
  · rw [parts_pathOf hparts hne]
    have hleads : Leads disk.root.held? false linkLimit [] location ([] ++ location) :=
      leads_location (fun name hname => isEntry_of_isPart (hparts name hname)) hthere
    refine ⟨?_, .stay hroot (by decide) (by decide) hleads⟩
    obtain ⟨name, rest, rfl⟩ := List.exists_cons_of_ne_nil hne
    simp [pathOf]

/-- A canonical path is canonical. -/
theorem canonical?_canonical (hworking : disk.HasWorkingPath)
    (h : disk.canonical? path = some other) : disk.canonical? other = some other := by
  obtain ⟨location, hlocation, rfl⟩ := Option.map_eq_some_iff.1 h
  obtain ⟨hthere, hroot⟩ := isThere_of_resolve? hlocation
  rw [canonical?, resolve?_pathOf hroot (isPart_of_resolve? hworking hlocation) hthere]
  rfl

theorem HasWorkingPath.of_write? (h : disk.HasWorkingPath)
    (hwrite : disk.write? path content = some left) : left.HasWorkingPath := by
  cases wrote_of_write? hwrite with
  | put => exact h
  | drop => exact h

/-- A disk without symbolic links. -/
def HasNoLinks (disk : Disk) : Prop := disk.root.Unlinked

theorem HasNoLinks.of_write? (h : disk.HasNoLinks) (hwrite : disk.write? path content = some left) :
    left.HasNoLinks := by
  cases wrote_of_write? hwrite with
  | put _ _ hupdate => exact fun place target hlink => h place target (hupdate.link_of hlink)
  | drop => exact h

/-- A path that leads to a child leads to an entry of that name. -/
theorem exists_of_resolve?_child (hlinks : disk.HasNoLinks) (hname : IsPart name)
    (h : disk.resolve? (path.child name) = some location) :
    ∃ folder, location = folder ++ [name] := by
  obtain ⟨front, -, hfront⟩ := path.exists_parts_child
  obtain ⟨-, hleads⟩ := resolve?_eq_some_iff.1 h
  rw [hfront name hname.not_slash] at hleads
  exact hleads.exists_concat hlinks (isEntry_of_isPart hname)

/-- Writing a file leaves every path where it led. -/
theorem resolve?_of_write? (hwrite : disk.write? path content = some left)
    (h : disk.resolve? other = some location) : left.resolve? other = some location := by
  cases wrote_of_write? hwrite with
  | put _ _ hupdate =>
      obtain ⟨hne, hleads⟩ := resolve?_eq_some_iff.1 h
      exact resolve?_eq_some_iff.2 ⟨hne, hleads.update hupdate⟩
  | drop => exact h

/-- Behind a file that was written, a path leads where it led, or to a new file. -/
theorem resolve?_of_written (hwrite : disk.write? path content = some left)
    (h : left.resolve? other = some location) : disk.resolve? other = some location ∨
      left.resolve? path = some location ∧ disk.root.held? location = none := by
  cases wrote_of_write? hwrite with
  | put _ _ hupdate hlocate =>
      obtain ⟨hne, hleads⟩ := resolve?_eq_some_iff.1 h
      rcases hleads.of_update hupdate with hold | ⟨rfl, hnew⟩
      · exact .inl (resolve?_eq_some_iff.2 ⟨hne, hold⟩)
      · exact .inr ⟨resolve?_of_locate? hlocate, hnew⟩
  | drop => exact .inl h

end Disk

end EditorCore
