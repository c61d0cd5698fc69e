import EditorCore.File.Node
import Mathlib.Data.List.Basic

/-!
# Parts of paths

A path is cut into parts at its slashes, and a name behind a path is one more part. So names
that are put behind one path differ where the names do.
-/

namespace EditorCore

namespace Path

variable {base : Path} {name other : Name} {text : List Char} {location : Location}

/-! ### Parts -/

/-- A part of a path that stands for an entry of a folder. -/
structure IsPart (name : Name) : Prop where
  ne_nil : name ≠ []
  not_slash : '/' ∉ name
  ne_here : name ≠ here
  ne_above : name ≠ above

instance (name : Name) : Decidable (IsPart name) :=
  decidable_of_iff (name ≠ [] ∧ '/' ∉ name ∧ name ≠ here ∧ name ≠ above)
    ⟨fun ⟨hnil, hslash, hhere, habove⟩ => ⟨hnil, hslash, hhere, habove⟩,
      fun ⟨hnil, hslash, hhere, habove⟩ => ⟨hnil, hslash, hhere, habove⟩⟩

theorem splitSlash_of_not_mem (h : '/' ∉ name) : splitSlash name = [name] := by
  induction name with
  | nil => rfl
  | cons c cs ih =>
      rw [List.mem_cons, not_or] at h
      rw [splitSlash, if_neg (Ne.symm h.1), ih h.2]

theorem splitSlash_ne_nil (text : List Char) : splitSlash text ≠ [] := by
  cases text with
  | nil => simp [splitSlash]
  | cons c cs =>
      rw [splitSlash]
      split
      · simp
      · split
        · simp
        · simp

theorem splitSlash_append (front back : List Char) :
    splitSlash (front ++ '/' :: back) = splitSlash front ++ splitSlash back := by
  induction front with
  | nil => simp [splitSlash]
  | cons c cs ih =>
      rw [List.cons_append, splitSlash, splitSlash, ih]
      by_cases hc : c = '/'
      · simp [hc]
      · obtain ⟨part, parts, hparts⟩ := List.exists_cons_of_ne_nil (splitSlash_ne_nil cs)
        simp [hc, hparts]

theorem splitSlash_flatMap (hname : '/' ∉ name) (hlocation : ∀ name ∈ location, '/' ∉ name) :
    splitSlash (name ++ location.flatMap fun name => '/' :: name) = name :: location := by
  induction location generalizing name with
  | nil => simpa using splitSlash_of_not_mem hname
  | cons next location ih =>
      rw [List.forall_mem_cons] at hlocation
      rw [List.flatMap_cons, List.cons_append, splitSlash_append, splitSlash_of_not_mem hname,
        ih hlocation.1 hlocation.2, List.singleton_append]

theorem not_slash_of_mem_splitSlash (h : name ∈ splitSlash text) : '/' ∉ name := by
  induction text generalizing name with
  | nil =>
      rw [splitSlash, List.mem_singleton] at h
      simp [h]
  | cons c cs ih =>
      obtain ⟨part, parts, hparts⟩ := List.exists_cons_of_ne_nil (splitSlash_ne_nil cs)
      rw [hparts] at ih
      rw [splitSlash, hparts] at h
      split at h
      · rw [List.mem_cons] at h
        rcases h with rfl | h
        · simp
        · exact ih h
      · next hc =>
          rw [List.mem_cons] at h
          rcases h with rfl | h
          · have hpart := ih (List.mem_cons_self (a := part) (l := parts))
            simp [Ne.symm hc, hpart]
          · exact ih (List.mem_cons_of_mem part h)

/-! ### Children -/

theorem isAbsolute_of_not_mem (h : '/' ∉ name) : isAbsolute ⟨name⟩ = false := by
  cases name with
  | nil => rfl
  | cons c cs =>
      rw [List.mem_cons, not_or] at h
      simp [isAbsolute, Ne.symm h.1]

/-- A path to which a name is put behind a slash. -/
def IsOpen (base : Path) : Prop := base.chars ≠ [] ∧ base.chars.getLast? ≠ some '/'

theorem IsOpen.parts_child (h : base.IsOpen) (hname : '/' ∉ name) :
    (base.child name).parts = base.parts ++ [name] := by
  rw [child, join, isAbsolute_of_not_mem hname]
  simp only [parts, Bool.false_eq_true, if_false]
  rw [if_neg (by simpa [IsOpen] using h), splitSlash_append, splitSlash_of_not_mem hname]

theorem isOpen_child (base : Path) (hname : IsPart name) : (base.child name).IsOpen := by
  have hlast : name.getLast? ≠ some '/' := fun h => hname.not_slash (List.mem_of_getLast? h)
  obtain ⟨c, cs, hcons⟩ := List.exists_cons_of_ne_nil hname.ne_nil
  rw [child, join, isAbsolute_of_not_mem hname.not_slash]
  simp only [Bool.false_eq_true, if_false]
  split
  · refine ⟨by simp [hcons], ?_⟩
    simpa [List.getLast?_append, hcons] using hlast
  · refine ⟨by simp, ?_⟩
    simpa [List.getLast?_append, hcons] using hlast

/-- The parts of a child are those of its folder, up to a last slash, with the name. -/
theorem exists_parts_child (base : Path) : ∃ front,
    (base.parts = front ∨ base.parts = front ++ [[]]) ∧
      ∀ name, '/' ∉ name → (base.child name).parts = front ++ [name] := by
  by_cases hopen : base.IsOpen
  · exact ⟨base.parts, .inl rfl, fun name hname => hopen.parts_child hname⟩
  · have hjoin : ∀ name, '/' ∉ name → base.child name = ⟨base.chars ++ name⟩ := by
      intro name hname
      rw [child, join, isAbsolute_of_not_mem hname]
      simp only [Bool.false_eq_true, if_false]
      exact if_pos (by simpa [IsOpen, or_iff_not_imp_left] using hopen)
    cases hlast : base.chars.getLast? with
    | none =>
        refine ⟨[], .inr (by rw [parts, List.getLast?_eq_none_iff.1 hlast]; rfl), ?_⟩
        intro name hname
        rw [hjoin name hname, parts, List.getLast?_eq_none_iff.1 hlast]
        exact splitSlash_of_not_mem hname
    | some c =>
        obtain ⟨front, hfront⟩ := List.getLast?_eq_some_iff.1 hlast
        have hslash : c = '/' := by
          by_contra hc
          exact hopen ⟨by simp [hfront], by simpa [hlast] using hc⟩
        refine ⟨splitSlash front, .inr ?_, fun name hname => ?_⟩
        · rw [parts, hfront, hslash, splitSlash_append]
          rfl
        rw [hjoin name hname, parts, hfront, hslash, List.append_assoc, List.singleton_append,
          splitSlash_append, splitSlash_of_not_mem hname]

theorem child_inj (hname : '/' ∉ name) (hother : '/' ∉ other)
    (h : base.child name = base.child other) : name = other := by
  obtain ⟨front, -, hfront⟩ := base.exists_parts_child
  have hparts := congrArg parts h
  rw [hfront name hname, hfront other hother] at hparts
  simpa using hparts

theorem IsOpen.parts_foldl_child (h : base.IsOpen) (hparts : ∀ name ∈ location, IsPart name) :
    (location.foldl child base).parts = base.parts ++ location := by
  induction location generalizing base with
  | nil => simp
  | cons name location ih =>
      have hname := hparts name List.mem_cons_self
      rw [List.foldl_cons, ih (isOpen_child base hname) fun other hother =>
        hparts other (List.mem_cons_of_mem name hother), h.parts_child hname.not_slash]
      simp

/-- The parts of a path below a folder are those of the folder with the names on the way. -/
theorem exists_parts_foldl_child (base : Path) : ∃ front,
    (base.parts = front ∨ base.parts = front ++ [[]]) ∧ ∀ location : Location,
      location ≠ [] → (∀ name ∈ location, IsPart name) →
        (location.foldl child base).parts = front ++ location := by
  obtain ⟨front, hbase, hfront⟩ := base.exists_parts_child
  refine ⟨front, hbase, fun location hne hparts => ?_⟩
  obtain ⟨name, rest, rfl⟩ := List.exists_cons_of_ne_nil hne
  have hname := hparts name List.mem_cons_self
  rw [List.foldl_cons, (isOpen_child base hname).parts_foldl_child fun other hother =>
    hparts other (List.mem_cons_of_mem name hother), hfront name hname.not_slash]
  simp

theorem isAbsolute_child (hbase : base.chars ≠ []) (hname : '/' ∉ name) :
    (base.child name).isAbsolute = base.isAbsolute := by
  obtain ⟨c, cs, hcons⟩ := List.exists_cons_of_ne_nil hbase
  rw [child, join, isAbsolute_of_not_mem hname]
  simp only [Bool.false_eq_true, if_false]
  split
  · simp [isAbsolute, hcons]
  · simp [isAbsolute, hcons]

theorem isAbsolute_foldl_child (hbase : base.chars ≠ []) (hparts : ∀ name ∈ location, IsPart name) :
    (location.foldl child base).isAbsolute = base.isAbsolute := by
  induction location generalizing base with
  | nil => rfl
  | cons name location ih =>
      rw [List.forall_mem_cons] at hparts
      rw [List.foldl_cons, ih (isOpen_child base hparts.1).1 hparts.2,
        isAbsolute_child hbase hparts.1.not_slash]

end Path

end EditorCore
