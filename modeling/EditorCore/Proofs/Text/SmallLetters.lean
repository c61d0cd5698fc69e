import EditorCore.Text.Blank
import EditorCore.Text.Lowercase
import Mathlib.Data.List.Basic

/-!
# Small letters

A text in small letters has all characters of the text that are no letters, and no capital
letters, so it stays as it is when it is written in small letters once more. The rows of the
table lead to characters that no row leads away from, which is checked row against row.
-/

namespace EditorCore.Text

variable {text : List Char} {c d : Char} {n : Nat}

/-! ### ASCII -/

theorem isAlpha_eq_false_iff : c.isAlpha = false ↔
    ¬ (65 ≤ c.toNat ∧ c.toNat ≤ 90) ∧ ¬ (97 ≤ c.toNat ∧ c.toNat ≤ 122) := by
  have hdef : c.isAlpha = (decide (65 ≤ c.toNat ∧ c.toNat ≤ 90) ||
      (decide (97 ≤ c.toNat) && decide (c.toNat ≤ 122))) := rfl
  rw [hdef, ← Bool.decide_and, Bool.or_eq_false_iff, decide_eq_false_iff_not,
    decide_eq_false_iff_not]

theorem isAlpha_eq_false_of_isDigit (h : c.isDigit = true) : c.isAlpha = false := by
  have hrange : 48 ≤ c.toNat ∧ c.toNat ≤ 57 := Char.isDigit_iff_toNat.1 h
  rw [isAlpha_eq_false_iff]
  omega

/-- Small letters do not show up where no letter was. -/
theorem toLower_eq_iff (h : d.isAlpha = false) : c.toLower = d ↔ c = d := by
  rw [isAlpha_eq_false_iff] at h
  delta Char.toLower
  split
  · next hupper =>
      constructor
      · rintro rfl
        simp [UInt32.le_iff_toNat_le, UInt32.toNat_add] at h hupper
        omega
      · rintro rfl
        simp [UInt32.le_iff_toNat_le] at h hupper
        omega
  · rfl

theorem toLower_eq_of_far (h : 0x80 ≤ c.toNat) : c.toLower = c := by
  refine (toLower_eq_iff (isAlpha_eq_false_iff.2 ?_)).2 rfl
  omega

/-- The capital letters of ASCII become small ones, and all else stays. -/
theorem toLower_ascii : ∀ n < 0x80, (Char.ofNat n).toLower.toNat < 0x80 ∧
    (Char.ofNat n).toLower.toLower = (Char.ofNat n).toLower ∧
    ('a'.toNat ≤ n → (Char.ofNat n).toLower = Char.ofNat n) := by
  decide +kernel

/-! ### The table -/

/-- No character to which a row leads is one that another row moves. -/
def Table.Shift.misses (row other : Table.Shift) : Bool :=
  Nat.blt (row.target row.last) other.first || Nat.blt other.last (row.target row.first) ||
    -- two rows that lie across each other take every other character, in turns
    (row.first == row.last || row.step == 2) && other.step == 2 &&
      (row.target row.first + other.first) % 2 == 1

theorem Table.Shift.moves_target {row other : Table.Shift} (h : row.misses other = true)
    (hfirst : 0 ≤ row.first + row.distance) (hmoves : row.moves n = true) :
    other.moves (row.target n) = false := by
  rw [Bool.eq_false_iff]
  intro hother
  simp only [misses, Bool.or_eq_true, Bool.and_eq_true, Nat.blt_eq, beq_iff_eq, target] at h
  simp only [moves, Bool.and_eq_true, decide_eq_true_eq, beq_iff_eq] at hmoves hother
  simp only [target] at hother
  rcases h with (hbelow | habove) | ⟨⟨hsteps, hstep⟩, hodd⟩
  · omega
  · omega
  · rw [hstep] at hother
    rcases hsteps with hsingle | hsteps
    · omega
    · rw [hsteps] at hmoves
      omega

/-- The small letters of the tables are characters, from the first small letter of ASCII on. -/
theorem smallLetters_targets : ∀ row ∈ smallLetters,
    ('a'.toNat : Int) ≤ (row : Table.Shift).first + row.distance ∧
      (row.last + row.distance < 0xD800 ∨
        0xDFFF < row.first + row.distance ∧ row.last + row.distance < 0x110000) := by
  decide +kernel

/-- The rows of the table, with one for the capital letter that has a rule of its own. -/
def capitals : List Table.Shift := ⟨0x130, 0x130, 1, 0⟩ :: smallLetters

theorem capitals_missed : ∀ row ∈ smallLetters, capitals.all row.misses = true := by
  decide +kernel

/-- Where a row leads there is a character, from the first small letter of ASCII on. -/
theorem toNat_target {row : Table.Shift} (hrow : row ∈ smallLetters) (hmoves : row.moves n = true) :
    (Char.ofNat (row.target n)).toNat = row.target n ∧ 'a'.toNat ≤ row.target n := by
  obtain ⟨hfirst, hrange⟩ := smallLetters_targets row hrow
  simp only [Table.Shift.moves, Bool.and_eq_true, decide_eq_true_eq] at hmoves
  have hvalid : (row.target n).isValidChar := by
    simp only [Table.Shift.target, Nat.isValidChar]
    omega
  refine ⟨?_, ?_⟩
  · rw [Char.ofNat, dif_pos hvalid]
    rfl
  · rw [Table.Shift.target]
    omega

/-- A character beyond ASCII does not become one that is in front of the small letters. -/
theorem le_toNat_shift (h : 0x80 ≤ c.toNat) : 'a'.toNat ≤ (Table.shift smallLetters c).toNat := by
  rw [Table.shift]
  split
  · next row hrow =>
      have hmoves : row.moves c.toNat = true := by simpa using List.find?_some hrow
      obtain ⟨hchar, hle⟩ := toNat_target (List.mem_of_find?_eq_some hrow) hmoves
      rw [hchar]
      exact hle
  · exact Nat.le_trans (by decide) h

/-! ### What is small already -/

/-- A character stays as it is wherever it stands. -/
structure IsSmall (c : Char) : Prop where
  not_sigma : c.toNat ≠ 0x3A3
  lowerChar_eq : lowerChar c = [c]

theorem isSmall_toLower (h : c.toNat < 0x80) : IsSmall c.toLower := by
  have hlower := toLower_ascii c.toNat h
  rw [Char.ofNat_toNat] at hlower
  refine ⟨by omega, ?_⟩
  rw [lowerChar, if_pos hlower.1, hlower.2.1]

theorem isSmall_of_isDigit (h : c.isDigit = true) : IsSmall c := by
  have hrange : 48 ≤ c.toNat ∧ c.toNat ≤ 57 := Char.isDigit_iff_toNat.1 h
  rw [← (toLower_eq_iff (isAlpha_eq_false_of_isDigit h)).2 rfl]
  exact isSmall_toLower (by omega)

/-- What no row leads away from is small. -/
theorem isSmall_of_moves (hlower : c.toLower = c)
    (h : ∀ row ∈ capitals, row.moves c.toNat = false) : IsSmall c := by
  have hnot : ∀ n, (∃ row ∈ capitals, row.moves n = true) → c.toNat ≠ n := by
    rintro n ⟨row, hrow, hmoves⟩ rfl
    simp [h row hrow] at hmoves
  have hnone : smallLetters.find? (·.moves c.toNat) = none := by
    rw [List.find?_eq_none]
    intro row hrow
    simp [h row (List.mem_cons_of_mem _ hrow)]
  refine ⟨hnot 0x3A3 (by decide +kernel), ?_⟩
  rw [lowerChar, if_neg (hnot 0x130 (by decide +kernel)), Table.shift, hnone, hlower, ite_self]

/-- Blanks have no case. -/
theorem isSmall_of_isBlank (h : isBlank c = true) : IsSmall c := by
  have hblanks : ∀ n ∈ [0x09, 0x0A, 0x0B, 0x0C, 0x0D, 0x20, 0x85, 0xA0, 0x1680, 0x2000, 0x2001,
      0x2002, 0x2003, 0x2004, 0x2005, 0x2006, 0x2007, 0x2008, 0x2009, 0x200A, 0x2028, 0x2029,
      0x202F, 0x205F, 0x3000], (Char.ofNat n).toLower = Char.ofNat n ∧
        ∀ row ∈ capitals, row.moves n = false := by
    decide +kernel
  have hmem := hblanks c.toNat (by
    simp [isBlank] at h
    simp only [List.mem_cons, List.not_mem_nil, or_false]
    omega)
  rw [Char.ofNat_toNat] at hmem
  exact isSmall_of_moves hmem.1 hmem.2

/-- No row leads away from where a row leads. -/
theorem isSmall_target {row : Table.Shift} (hrow : row ∈ smallLetters)
    (hmoves : row.moves n = true) : IsSmall (Char.ofNat (row.target n)) := by
  obtain ⟨hchar, hle⟩ := toNat_target hrow hmoves
  refine isSmall_of_moves ?_ ?_
  · by_cases hascii : row.target n < 0x80
    · exact (toLower_ascii _ hascii).2.2 hle
    · exact toLower_eq_of_far (by omega)
  · intro other hother
    have hfirst := (smallLetters_targets row hrow).1
    have hmisses := List.all_eq_true.1 (capitals_missed row hrow) other hother
    rw [hchar]
    exact Table.Shift.moves_target hmisses (by omega) hmoves

theorem isSmall_of_mem_lowerChar (h : d ∈ lowerChar c) : IsSmall d := by
  by_cases hascii : c.toNat < 0x80
  · rw [lowerChar, if_pos hascii, List.mem_singleton] at h
    rw [h]
    exact isSmall_toLower hascii
  · rw [lowerChar, if_neg hascii] at h
    split at h
    · rw [List.mem_pair] at h
      rcases h with rfl | rfl
      · exact ⟨by decide, by decide +kernel⟩
      · exact ⟨by decide, by decide +kernel⟩
    · next hdotted =>
        rw [List.mem_singleton, Table.shift] at h
        split at h
        · next row hrow =>
            have hmoves : row.moves c.toNat = true := by simpa using List.find?_some hrow
            rw [h]
            exact isSmall_target (List.mem_of_find?_eq_some hrow) hmoves
        · next hnone =>
            rw [h]
            refine isSmall_of_moves (toLower_eq_of_far (by omega)) ?_
            rw [capitals, List.forall_mem_cons]
            refine ⟨?_, by simpa using List.find?_eq_none.1 hnone⟩
            simp [Table.Shift.moves]
            omega

/-- Whatever is written in small letters is small. -/
theorem isSmall_of_mem_lowercase (h : c ∈ lowercase text) : IsSmall c := by
  have hafter : ∀ before, ∀ d ∈ lowercaseAfter before text, IsSmall d := by
    clear h
    induction text with
    | nil => simp [lowercaseAfter]
    | cons c cs ih =>
        intro before d hd
        rw [lowercaseAfter, List.mem_append] at hd
        rcases hd with hd | hd
        · split at hd
          · rw [List.mem_singleton] at hd
            rw [hd]
            split
            · exact ⟨by decide, by decide +kernel⟩
            · exact ⟨by decide, by decide +kernel⟩
          · exact isSmall_of_mem_lowerChar hd
        · exact ih _ d hd
  exact hafter [] c h

/-- Text of small characters stays as it is in small letters. -/
theorem lowercase_of_isSmall (h : ∀ c ∈ text, IsSmall c) : lowercase text = text := by
  have hafter : ∀ before, lowercaseAfter before text = text := by
    induction text with
    | nil => exact fun _ => rfl
    | cons c cs ih =>
        rw [List.forall_mem_cons] at h
        intro before
        rw [lowercaseAfter, if_neg h.1.not_sigma, h.1.lowerChar_eq, ih h.2]
        rfl
  exact hafter []

/-- Small letters stay small. -/
theorem lowercase_lowercase (text : List Char) : lowercase (lowercase text) = lowercase text :=
  lowercase_of_isSmall fun _ => isSmall_of_mem_lowercase

/-! ### What is kept -/

theorem lowerChar_ne_nil (c : Char) : lowerChar c ≠ [] := by
  rw [lowerChar]
  split
  · simp
  · split <;> simp

/-- Small letters leave nothing out. -/
theorem lowercase_eq_nil_iff : lowercase text = [] ↔ text = [] := by
  constructor
  · intro h
    cases text with
    | nil => rfl
    | cons c cs =>
        rw [lowercase, lowercaseAfter, List.append_eq_nil_iff] at h
        have hlowered := h.1
        split at hlowered
        · simp at hlowered
        · exact absurd hlowered (lowerChar_ne_nil c)
  · rintro rfl
    rfl

theorem mem_lowercase (hsmall : IsSmall c) (h : c ∈ text) : c ∈ lowercase text := by
  have hafter : ∀ before, c ∈ lowercaseAfter before text := by
    induction text with
    | nil => simp at h
    | cons d cs ih =>
        intro before
        rw [lowercaseAfter, List.mem_append]
        rcases List.mem_cons.1 h with rfl | h
        · left
          rw [if_neg hsmall.not_sigma, hsmall.lowerChar_eq]
          exact List.mem_singleton_self c
        · exact .inr (ih h _)
  exact hafter []

/-- A character in front of the small letters that is no letter comes from itself only. -/
theorem eq_of_mem_lowerChar (halpha : d.isAlpha = false) (hlt : d.toNat < 'a'.toNat)
    (h : d ∈ lowerChar c) : d = c := by
  by_cases hascii : c.toNat < 0x80
  · rw [lowerChar, if_pos hascii, List.mem_singleton] at h
    exact ((toLower_eq_iff halpha).1 h.symm).symm
  · rw [lowerChar, if_neg hascii] at h
    split at h
    · rw [List.mem_pair] at h
      rcases h with rfl | rfl
      · exact absurd hlt (by decide)
      · exact absurd hlt (by decide)
    · rw [List.mem_singleton] at h
      have hle := le_toNat_shift (c := c) (by omega)
      rw [← h] at hle
      omega

/-- What becomes of the first character of a text is no new character of this kind. -/
theorem exists_lowercaseAfter_cons (before : List Char) (c : Char) (cs : List Char) :
    ∃ lowered, lowered ≠ [] ∧
      lowercaseAfter before (c :: cs) = lowered ++ lowercaseAfter (c :: before) cs ∧
      ∀ d ∈ lowered, d.isAlpha = false → d.toNat < 'a'.toNat → d = c := by
  refine ⟨_, ?_, rfl, fun d hd halpha hlt => ?_⟩
  · split
    · simp
    · exact lowerChar_ne_nil c
  · split at hd
    · rw [List.mem_singleton] at hd
      split at hd
      · exact absurd hlt (by rw [hd]; decide)
      · exact absurd hlt (by rw [hd]; decide)
    · exact eq_of_mem_lowerChar halpha hlt hd

theorem mem_of_mem_lowercase (halpha : c.isAlpha = false) (hlt : c.toNat < 'a'.toNat)
    (h : c ∈ lowercase text) : c ∈ text := by
  have hafter : ∀ before, c ∈ lowercaseAfter before text → c ∈ text := by
    clear h
    induction text with
    | nil => simp [lowercaseAfter]
    | cons d cs ih =>
        intro before h
        obtain ⟨lowered, -, hcons, heq⟩ := exists_lowercaseAfter_cons before d cs
        rw [hcons, List.mem_append] at h
        rcases h with h | h
        · exact List.mem_cons.2 (.inl (heq c h halpha hlt))
        · exact List.mem_cons_of_mem _ (ih _ h)
  exact hafter [] h

/-- A run of such a character in front of a text is as long as before. -/
theorem takeWhile_lowercase (halpha : c.isAlpha = false) (hlt : c.toNat < 'a'.toNat)
    (text : List Char) : (lowercase text).takeWhile (· == c) = text.takeWhile (· == c) := by
  have hascii : lowerChar c = [c] := by
    rw [lowerChar, if_pos (Nat.lt_trans hlt (by decide)), (toLower_eq_iff halpha).2 rfl]
  have hsigma : c.toNat ≠ 0x3A3 := Nat.ne_of_lt (Nat.lt_trans hlt (by decide))
  have hafter : ∀ before, (lowercaseAfter before text).takeWhile (· == c) =
      text.takeWhile (· == c) := by
    induction text with
    | nil => exact fun _ => rfl
    | cons d cs ih =>
        intro before
        by_cases hd : d = c
        · rw [hd, lowercaseAfter, if_neg hsigma, hascii, List.singleton_append,
            List.takeWhile_cons_of_pos (by simp), List.takeWhile_cons_of_pos (by simp), ih]
        · obtain ⟨lowered, hne, hcons, heq⟩ := exists_lowercaseAfter_cons before d cs
          obtain ⟨e, es, rfl⟩ := List.exists_cons_of_ne_nil hne
          have he : e ≠ c := by
            rintro rfl
            exact hd (heq e List.mem_cons_self halpha hlt).symm
          rw [hcons, List.cons_append, List.takeWhile_cons_of_neg (by simpa using he),
            List.takeWhile_cons_of_neg (by simpa using hd)]
  exact hafter []

end EditorCore.Text
