import EditorCore.Proofs.Text.SmallLetters
import EditorCore.Style.Color

/-!
# Colors in hexadecimal

A color is written as a number sign and three parts of two characters. A part of two hexadecimal
digits, of either case, is the number that they make. A plus sign and one digit are taken for a
part as well, so more is accepted than six digits; without a plus sign there is nothing else.
-/

namespace EditorCore.Color

variable {c high low : Char} {text : List Char} {color : Color} {part : UInt8} {value : Nat}

/-! ### Digits -/

/-- The hexadecimal digits, each at the place of its value. -/
def digits : List Char := "0123456789abcdef".toList

/-- A character is the digit of a value, in either case. -/
def IsDigit (c : Char) (value : Nat) : Prop := digits[value]? = some c.toLower

instance (c : Char) (value : Nat) : Decidable (IsDigit c value) :=
  inferInstanceAs (Decidable (_ = _))

theorem IsDigit.lt (h : IsDigit c value) : value < 16 :=
  (List.getElem?_eq_some_iff.1 h).1

theorem IsDigit.ascii (h : IsDigit c value) : c.toNat < 0x80 := by
  have hdigits : digits.all (·.toNat < 0x80) = true := by decide
  have hlower := of_decide_eq_true (List.all_eq_true.1 hdigits _ (List.mem_of_getElem? h))
  by_contra hfar
  rw [Text.toLower_eq_of_far (by omega)] at hlower
  exact hfar hlower

theorem ascii_of_hexDigit? (h : hexDigit? c = some value) : c.toNat < 0x80 := by
  have hle : ∀ d : Char, c ≤ d → c.toNat ≤ d.toNat := fun d hcd => UInt32.le_iff_toNat_le.1 hcd
  rw [hexDigit?] at h
  split at h
  · next hdigit => exact Nat.lt_of_le_of_lt (hle _ hdigit.2) (by decide)
  · split at h
    · next hsmall => exact Nat.lt_of_le_of_lt (hle _ hsmall.2) (by decide)
    · split at h
      · next hcapital => exact Nat.lt_of_le_of_lt (hle _ hcapital.2) (by decide)
      · simp at h

/-- A digit of either case is read as its value, and nothing else is read. -/
theorem hexDigit?_eq_some_iff : hexDigit? c = some value ↔ IsDigit c value := by
  have hread : ∀ n < 0x80, ∀ value ∈ hexDigit? (Char.ofNat n), IsDigit (Char.ofNat n) value := by
    decide +kernel
  have hdigit : ∀ value < 16, ∀ n < 0x80, IsDigit (Char.ofNat n) value →
      hexDigit? (Char.ofNat n) = some value := by
    decide +kernel
  constructor
  · intro h
    have hc := hread c.toNat (ascii_of_hexDigit? h) value
    rw [Char.ofNat_toNat] at hc
    exact hc h
  · intro h
    have hc := hdigit value h.lt c.toNat h.ascii
    rw [Char.ofNat_toNat] at hc
    exact hc h

/-! ### Parts -/

/-- Two digits are a number. -/
def IsNumber (high low : Char) (part : UInt8) : Prop :=
  ∃ upper lower, IsDigit high upper ∧ IsDigit low lower ∧ part.toNat = 16 * upper + lower

/-- A digit with a plus sign is a number. -/
def IsSigned (high low : Char) (part : UInt8) : Prop := high = '+' ∧ IsDigit low part.toNat

theorem not_isDigit_plus : ¬ IsDigit '+' value := by
  have hplus : '+'.toLower ∉ digits := by decide
  exact fun h => hplus (List.mem_of_getElem? h)

theorem not_isNumber_plus : ¬ IsNumber '+' low part :=
  fun ⟨_, _, hplus, _⟩ => not_isDigit_plus hplus

theorem IsNumber.ne_plus (h : IsNumber high low part) : high ≠ '+' ∧ low ≠ '+' := by
  obtain ⟨upper, lower, hhigh, hlow, -⟩ := h
  constructor
  · rintro rfl
    exact not_isDigit_plus hhigh
  · rintro rfl
    exact not_isDigit_plus hlow

theorem toUInt8_eq_iff (h : value < 256) : value.toUInt8 = part ↔ part.toNat = value := by
  rw [← UInt8.toNat_inj, Nat.toUInt8, UInt8.toNat_ofNat', Nat.mod_eq_of_lt h, eq_comm]

/-- A plus sign is no digit, so a part is read in one of the two ways only. -/
theorem channel?_eq_some_iff :
    channel? high low = some part ↔ IsNumber high low part ∨ IsSigned high low part := by
  rw [channel?]
  split
  · next hplus =>
    subst hplus
    have hone : ∀ value, IsDigit low value → (value.toUInt8 = part ↔ part.toNat = value) :=
      fun value hlow => toUInt8_eq_iff (by have := hlow.lt; omega)
    simp only [not_isNumber_plus, IsSigned, false_or, true_and, Option.bind_eq_bind,
      Option.bind_eq_some_iff, hexDigit?_eq_some_iff, Option.pure_def, Option.some_inj]
    constructor
    · rintro ⟨value, hlow, heq⟩
      rwa [(hone value hlow).1 heq]
    · intro hlow
      exact ⟨_, hlow, (hone _ hlow).2 rfl⟩
  · next hplus =>
    have htwo : ∀ upper lower, IsDigit high upper → IsDigit low lower →
        ((16 * upper + lower).toUInt8 = part ↔ part.toNat = 16 * upper + lower) :=
      fun upper lower hhigh hlow =>
        toUInt8_eq_iff (by have := hhigh.lt; have := hlow.lt; omega)
    simp only [IsNumber, IsSigned, hplus, false_and, or_false, Option.bind_eq_bind,
      Option.bind_eq_some_iff, hexDigit?_eq_some_iff, Option.pure_def, Option.some_inj]
    constructor
    · rintro ⟨upper, hhigh, lower, hlow, heq⟩
      exact ⟨upper, lower, hhigh, hlow, (htwo _ _ hhigh hlow).1 heq⟩
    · rintro ⟨upper, lower, hhigh, hlow, heq⟩
      exact ⟨upper, hhigh, lower, hlow, (htwo _ _ hhigh hlow).2 heq⟩

/-! ### Colors -/

/-- A text is a number sign and three parts, which are the parts of a color. -/
def IsWritten (isPart : Char → Char → UInt8 → Prop) (text : List Char) (color : Color) : Prop :=
  ∃ r₁ r₀ g₁ g₀ b₁ b₀ red green blue,
    text = ['#', r₁, r₀, g₁, g₀, b₁, b₀] ∧ color = .rgb red green blue ∧
      isPart r₁ r₀ red ∧ isPart g₁ g₀ green ∧ isPart b₁ b₀ blue

theorem ofHex?_eq_some_iff : ofHex? text = some color ↔
    IsWritten (fun high low part => channel? high low = some part) text color := by
  unfold IsWritten
  constructor
  · intro h
    unfold ofHex? at h
    split at h
    · next r₁ r₀ g₁ g₀ b₁ b₀ =>
      simp only [Option.bind_eq_bind, Option.bind_eq_some_iff, Option.pure_def,
        Option.some_inj] at h
      obtain ⟨red, hred, green, hgreen, blue, hblue, rfl⟩ := h
      exact ⟨r₁, r₀, g₁, g₀, b₁, b₀, red, green, blue, rfl, rfl, hred, hgreen, hblue⟩
    · simp at h
  · rintro ⟨r₁, r₀, g₁, g₀, b₁, b₀, red, green, blue, rfl, rfl, hred, hgreen, hblue⟩
    simp [ofHex?, hred, hgreen, hblue]

/-- Without a plus sign a part is two digits. -/
theorem channel?_eq_some_iff_isNumber (hhigh : high ≠ '+') :
    channel? high low = some part ↔ IsNumber high low part := by
  rw [channel?_eq_some_iff, IsSigned]
  simp [hhigh]

/-- The texts that are read are a number sign and three parts, each of two digits or of a plus sign
and a digit; those without a plus sign are a number sign and six digits, read as three numbers. -/
theorem ofHex?_reads_parts (text : List Char) (color : Color) :
    (ofHex? text = some color ↔
      IsWritten (fun high low part => IsNumber high low part ∨ IsSigned high low part)
        text color) ∧
    (ofHex? text = some color ∧ '+' ∉ text ↔ IsWritten IsNumber text color) := by
  constructor
  · rw [ofHex?_eq_some_iff]
    simp only [channel?_eq_some_iff]
  · rw [ofHex?_eq_some_iff]
    constructor
    · rintro ⟨⟨r₁, r₀, g₁, g₀, b₁, b₀, red, green, blue, rfl, hcolor, hred, hgreen, hblue⟩, hplus⟩
      simp only [List.mem_cons, not_or, ← ne_eq] at hplus
      obtain ⟨-, hr, -, hg, -, hb, -⟩ := hplus
      exact ⟨r₁, r₀, g₁, g₀, b₁, b₀, red, green, blue, rfl, hcolor,
        (channel?_eq_some_iff_isNumber hr.symm).1 hred,
        (channel?_eq_some_iff_isNumber hg.symm).1 hgreen,
        (channel?_eq_some_iff_isNumber hb.symm).1 hblue⟩
    · rintro ⟨r₁, r₀, g₁, g₀, b₁, b₀, red, green, blue, rfl, hcolor, hred, hgreen, hblue⟩
      refine ⟨⟨r₁, r₀, g₁, g₀, b₁, b₀, red, green, blue, rfl, hcolor, ?_⟩, ?_⟩
      · exact ⟨(channel?_eq_some_iff_isNumber hred.ne_plus.1).2 hred,
          (channel?_eq_some_iff_isNumber hgreen.ne_plus.1).2 hgreen,
          (channel?_eq_some_iff_isNumber hblue.ne_plus.1).2 hblue⟩
      · simp [hred.ne_plus.1.symm, hred.ne_plus.2.symm, hgreen.ne_plus.1.symm,
          hgreen.ne_plus.2.symm, hblue.ne_plus.1.symm, hblue.ne_plus.2.symm]

example : ofHex? "#fF8000".toList = some (.rgb 255 128 0) := by decide

example : ofHex? "#+1+2+3".toList = some (.rgb 1 2 3) := by decide

end EditorCore.Color
