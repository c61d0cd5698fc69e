import EditorCore.Text.Blank
import EditorCore.Text.Decimal

/-!
# Reading a number that was written

A number is written with decimal digits only, at least one. Reading digits goes on with the
number that has begun, so all of them together are read as the number that they were
written for, as long as it fits into a machine word.
-/

namespace EditorCore.Text

theorem isDigit_of_mem_toString {n : Nat} {c : Char} (h : c ∈ (toString n).toList) :
    c.isDigit = true := by
  rw [Nat.toString_eq_repr, Nat.toList_repr] at h
  exact Nat.isDigit_of_mem_toDigits (by decide) (by decide) h

theorem toString_ne_nil (n : Nat) : (toString n).toList ≠ [] := by
  rw [Nat.toString_eq_repr, Nat.toList_repr]
  exact Nat.toDigits_ne_nil

theorem isBlank_eq_false_of_isDigit {c : Char} (h : c.isDigit = true) : isBlank c = false := by
  rw [Char.isDigit, Bool.and_eq_true, decide_eq_true_iff, decide_eq_true_iff] at h
  have hfirst : 48 ≤ c.toNat := UInt32.le_iff_toNat_le.1 h.1
  have hlast : c.toNat ≤ 57 := UInt32.le_iff_toNat_le.1 h.2
  simp [isBlank]
  omega

theorem digitValue?_of_isDigit {c : Char} (h : c.isDigit = true) :
    digitValue? c = some (c.toNat - '0'.toNat) := by
  rw [Char.isDigit, Bool.and_eq_true, decide_eq_true_iff, decide_eq_true_iff] at h
  exact if_pos h

/-- Digits go on with the number that has begun. -/
theorem readDigits_eq {digits : List Char} (h : ∀ c ∈ digits, c.isDigit = true) (begun : Nat) :
    readDigits begun digits = some (Nat.ofDigitChars 10 digits begun) := by
  induction digits generalizing begun with
  | nil => simp [readDigits]
  | cons c digits ih =>
      rw [List.forall_mem_cons] at h
      simp [readDigits, digitValue?_of_isDigit h.1, ih h.2, Nat.ofDigitChars]

/-- A number that fits into a word is read back. -/
theorem readWord?_toString {n : Nat} (h : n < wordLimit) :
    readWord? (toString n).toList = some n := by
  have hread : readDigits 0 (toString n).toList = some n := by
    rw [readDigits_eq fun c hc => isDigit_of_mem_toString hc]
    simp [Nat.toString_eq_repr]
  obtain ⟨c, cs, hcons⟩ := List.exists_cons_of_ne_nil (toString_ne_nil n)
  have hplus : c ≠ '+' := by
    rintro rfl
    have := isDigit_of_mem_toString (hcons ▸ List.mem_cons_self)
    contradiction
  rw [hcons] at hread ⊢
  simp [readWord?, hplus, hread, h]

end EditorCore.Text
