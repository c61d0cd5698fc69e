import EditorCore.Text.Bytes
import Mathlib.Data.List.Basic

/-!
# Offsets of cuts

A byte offset is a place of a text exactly if it is the length of one of its fronts, and
there is only one such front. What lies between two places is the text between two cuts.
-/

namespace EditorCore.Text

variable {text front middle back : List Char} {offset : Nat}

theorem byteLength_pos (h : text ≠ []) : 0 < byteLength text := by
  obtain ⟨c, cs, rfl⟩ := List.exists_cons_of_ne_nil h
  have := Char.utf8Size_pos c
  rw [byteLength_cons]
  omega

@[simp] theorem byteLength_eq_zero : byteLength text = 0 ↔ text = [] := by
  constructor
  · intro h
    by_contra hne
    have := byteLength_pos hne
    omega
  · rintro rfl
    rfl

theorem splitAt?_eq_some_iff :
    splitAt? text offset = some (front, back) ↔
      text = front ++ back ∧ byteLength front = offset := by
  constructor
  · exact eq_of_splitAt?
  · rintro ⟨rfl, rfl⟩
    exact splitAt?_byteLength front back

/-- A front of a text is known by its length. -/
theorem eq_of_byteLength_eq {front' back' : List Char} (h : front ++ back = front' ++ back')
    (hlength : byteLength front = byteLength front') : front = front' ∧ back = back' := by
  have hfirst := splitAt?_byteLength front back
  rw [h, hlength, splitAt?_byteLength, Option.some.injEq, Prod.mk.injEq] at hfirst
  exact ⟨hfirst.1.symm, hfirst.2.symm⟩

/-- A text between two cuts is cut out by their offsets. -/
theorem slice?_eq (front middle back : List Char) :
    slice? (front ++ (middle ++ back)) (byteLength front)
      (byteLength front + byteLength middle) = some middle := by
  rw [slice?, if_pos (Nat.le_add_right _ _), splitAt?_byteLength]
  simp [splitAt?_byteLength]

/-- What is cut out between two places is a part of the text. -/
theorem slice?_eq_some_iff {start stop : Nat} : slice? text start stop = some middle ↔
    ∃ front back, text = front ++ (middle ++ back) ∧ byteLength front = start ∧
      byteLength (front ++ middle) = stop := by
  constructor
  · intro h
    rw [slice?] at h
    split at h
    · next hle =>
        obtain ⟨⟨front, rest⟩, hstart, h⟩ := Option.bind_eq_some_iff.1 h
        obtain ⟨⟨inside, back⟩, hstop, h⟩ := Option.bind_eq_some_iff.1 h
        obtain rfl := Option.some.inj h
        obtain ⟨rfl, hfront⟩ := eq_of_splitAt? hstart
        obtain ⟨rfl, hinside⟩ := eq_of_splitAt? hstop
        refine ⟨front, back, rfl, hfront, ?_⟩
        rw [byteLength_append]
        omega
    · simp at h
  · rintro ⟨front, back, rfl, rfl, rfl⟩
    rw [byteLength_append, slice?_eq]

/-- Of two places of a text, the one with the smaller offset comes first. -/
theorem exists_between {front' back' : List Char} (h : front ++ back = front' ++ back')
    (hle : byteLength front ≤ byteLength front') :
    ∃ middle, front' = front ++ middle ∧ back = middle ++ back' := by
  rcases List.append_eq_append_iff.1 h with ⟨middle, rfl, rfl⟩ | ⟨middle, rfl, rfl⟩
  · exact ⟨middle, rfl, rfl⟩
  · rw [byteLength_append] at hle
    have hnil : middle = [] := byteLength_eq_zero.1 (by omega)
    exact ⟨[], by simp [hnil], by simp [hnil]⟩

theorem mem_placesFrom_iff (start : Nat) (text : List Char) :
    offset ∈ placesFrom start text ↔
      ∃ front back, text = front ++ back ∧ start + byteLength front = offset := by
  induction text generalizing start with
  | nil =>
      simp only [placesFrom, List.mem_singleton, List.nil_eq, List.append_eq_nil_iff]
      constructor
      · rintro rfl
        exact ⟨[], [], ⟨rfl, rfl⟩, rfl⟩
      · rintro ⟨front, back, ⟨rfl, rfl⟩, rfl⟩
        rfl
  | cons c cs ih =>
      rw [placesFrom, List.mem_cons, ih]
      constructor
      · rintro (rfl | ⟨front, back, rfl, rfl⟩)
        · exact ⟨[], c :: cs, rfl, rfl⟩
        · exact ⟨c :: front, back, rfl, by rw [byteLength_cons]; omega⟩
      · rintro ⟨front, back, htext, rfl⟩
        cases front with
        | nil => exact .inl rfl
        | cons d front =>
            obtain ⟨rfl, rfl⟩ := List.cons.inj htext
            exact .inr ⟨front, back, rfl, by rw [byteLength_cons]; omega⟩

/-- The places of a text are the lengths of its fronts. -/
theorem mem_places_iff : offset ∈ places text ↔
    ∃ front back, text = front ++ back ∧ byteLength front = offset := by
  simpa [places] using mem_placesFrom_iff 0 text

theorem le_of_mem_places (h : offset ∈ places text) : offset ≤ byteLength text := by
  obtain ⟨front, back, rfl, rfl⟩ := mem_places_iff.1 h
  rw [byteLength_append]
  exact Nat.le_add_right _ _

/-- A text is cut at its places only. -/
theorem splitAt?_eq_none_iff : splitAt? text offset = none ↔ offset ∉ places text := by
  rw [mem_places_iff, Option.eq_none_iff_forall_not_mem]
  constructor
  · rintro h ⟨front, back, htext, hlength⟩
    exact h (front, back) (splitAt?_eq_some_iff.2 ⟨htext, hlength⟩)
  · rintro h ⟨front, back⟩ hsplit
    exact h ⟨front, back, splitAt?_eq_some_iff.1 hsplit⟩

end EditorCore.Text
