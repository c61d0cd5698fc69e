import Mathlib
import EditorCore.Proofs.Language.Stability

/-!
# Rule files without regard to case

Highlighting a rule file never tells a capital ASCII letter from a small one: letters do not
lead comments, so the tokens are cut at the same places, and what a token is compared with is
either written in small letters or no letter. It does not matter either that only ASCII letters
are made small: a character that others make a letter of is a token by itself.
-/

namespace EditorCore

variable {text other token rest : List Char} {c d : Char}

/-! ### Texts that differ in case -/

namespace Text

/-- Two texts are the same but for the case of ASCII letters. -/
def IsRecased (text other : List Char) : Prop :=
  List.Forall₂ (fun c d => c = d ∨ (c.isAlpha = true ∧ d.isAlpha = true ∧ c.toLower = d.toLower))
    text other

theorem IsRecased.lowercaseAscii_eq (h : IsRecased text other) :
    lowercaseAscii text = lowercaseAscii other := by
  induction h with
  | nil => rfl
  | cons hfirst _ ih =>
      rw [lowercaseAscii, lowercaseAscii] at ih
      rcases hfirst with rfl | ⟨-, -, hsame⟩
      · simp [lowercaseAscii, ih]
      · simp [lowercaseAscii, ih, hsame]

/-- What is the same for all letters does not regard case. -/
theorem apply_toLower {α : Type} {f : Char → α} {a : α} (h : ∀ c : Char, c.isAlpha = true → f c = a)
    (c : Char) : f c.toLower = f c := by
  by_cases hupper : c.isUpper = true
  · have hletter : c.isAlpha = true := by simp [Char.isAlpha, hupper]
    rw [h c hletter, h c.toLower (by rwa [Char.isAlpha_toLower_eq_isAlpha])]
  · rw [Char.toLower_eq_of_not_isUpper hupper]

theorem utf8Size_toLower (c : Char) : c.toLower.utf8Size = c.utf8Size := by
  refine apply_toLower (a := 1) ?_ c
  intro c hletter
  rw [Char.utf8Size_eq_one_iff]
  simp [Char.isAlpha, Char.isUpper, Char.isLower, UInt32.le_iff_toNat_le] at hletter ⊢
  omega

theorem isBlank_toLower (c : Char) : isBlank c.toLower = isBlank c := by
  refine apply_toLower (a := false) ?_ c
  intro c hletter
  by_contra hblank
  simp [Token.isAlpha_eq_false_of_isBlank (by simpa using hblank)] at hletter

theorem isWordChar_toLower (c : Char) : Token.isWordChar c.toLower = Token.isWordChar c := by
  refine apply_toLower (a := true) ?_ c
  intro c hletter
  simp [Token.isWordChar, Char.isAlphanum, hletter]

theorem beq_toLower (h : d.isAlpha = false) (c : Char) : (c.toLower == d) = (c == d) := by
  rw [Bool.eq_iff_iff, beq_iff_eq, beq_iff_eq, toLower_eq_iff h]

theorem isLineBreak_toLower (c : Char) : isLineBreak c.toLower = isLineBreak c := by
  simp [isLineBreak, beq_toLower]

theorem byteLength_lowercaseAscii (text : List Char) :
    byteLength (lowercaseAscii text) = byteLength text := by
  induction text with
  | nil => rfl
  | cons c cs ih =>
      rw [lowercaseAscii] at ih
      simp [lowercaseAscii, utf8Size_toLower, ih]

theorem lowercaseAscii_append (text other : List Char) :
    lowercaseAscii (text ++ other) = lowercaseAscii text ++ lowercaseAscii other :=
  List.map_append

@[simp] theorem lowercaseAscii_lowercaseAscii (text : List Char) :
    lowercaseAscii (lowercaseAscii text) = lowercaseAscii text := by
  simp [lowercaseAscii]

/-- One character that is no letter is written so in any case. -/
theorem lowercaseAscii_eq_singleton_iff (h : d.isAlpha = false) :
    lowercaseAscii text = [d] ↔ text = [d] := by
  simp [lowercaseAscii, List.map_eq_singleton_iff, toLower_eq_iff h]

end Text

/-! ### Tokens -/

theorem runOf_lowercaseAscii {least : Nat} {belongs : Char → Bool}
    (h : ∀ c, belongs c.toLower = belongs c) (text : List Char) :
    runOf least belongs (Text.lowercaseAscii text) =
      (runOf least belongs text).map Text.lowercaseAscii := by
  simp only [runOf, Text.lowercaseAscii, List.takeWhile_map, Function.comp_def, h, List.length_map]
  split <;> rfl

theorem Alternative.match?_lowercaseAscii {alternative : Alternative}
    (h : ∀ marker, alternative = .lead marker → marker.char.isAlpha = false) (text : List Char) :
    alternative.match? (Text.lowercaseAscii text) =
      (alternative.match? text).map Text.lowercaseAscii := by
  cases alternative with
  | star =>
      cases text with
      | nil => rfl
      | cons c cs =>
          have hstar : c.toLower = '*' ↔ c = '*' := Text.toLower_eq_iff (by decide)
          simp only [match?, Text.lowercaseAscii, List.map_cons, List.head?_cons, Option.some.injEq,
            hstar]
          split <;> rfl
  | lead marker => exact runOf_lowercaseAscii (Text.beq_toLower (h marker rfl)) text
  | blanks => exact runOf_lowercaseAscii Text.isBlank_toLower text
  | word => exact runOf_lowercaseAscii Text.isWordChar_toLower text
  | other =>
      cases text with
      | nil => rfl
      | cons c cs => rfl

namespace Tokenizer

variable {t : Tokenizer}

theorem Takes.lowercaseAscii (ht : t.IsOrderly) (h : t.Takes token rest) :
    t.Takes (Text.lowercaseAscii token) (Text.lowercaseAscii rest) := by
  have hmatch : ∀ alternative ∈ t.alternatives,
      alternative.match? (Text.lowercaseAscii (token ++ rest)) =
        (alternative.match? (token ++ rest)).map Text.lowercaseAscii := by
    intro alternative hmem
    refine Alternative.match?_lowercaseAscii ?_ _
    rintro marker rfl
    have hmarker : marker ∈ t.commentLeads := by simpa [alternatives] using hmem
    have hword := (ht marker hmarker).2
    rw [Token.isWordChar, Bool.or_eq_false_iff, Char.isAlphanum, Bool.or_eq_false_iff] at hword
    exact hword.1.1
  rw [Takes] at h ⊢
  rw [← Text.lowercaseAscii_append]
  -- the first alternative that takes a token is the first one on the small text as well
  generalize t.alternatives = alternatives at h hmatch
  induction alternatives with
  | nil => simp at h
  | cons alternative others ih =>
      rw [List.forall_mem_cons] at hmatch
      rw [List.findSome?_cons] at h ⊢
      rw [hmatch.1]
      cases hfirst : alternative.match? (token ++ rest) with
      | none =>
          rw [hfirst] at h
          exact ih h hmatch.2
      | some taken =>
          rw [hfirst] at h
          obtain rfl := Option.some.inj h
          rfl

/-- A text in small letters is cut where it was cut before. -/
theorem tokens_lowercaseAscii (ht : t.IsOrderly) (text : List Char) :
    t.tokens (Text.lowercaseAscii text) = (t.tokens text).map Text.lowercaseAscii := by
  induction text using t.tokens_induction with
  | nil => simp [Text.lowercaseAscii]
  | takes token rest h ih =>
      rw [Text.lowercaseAscii_append, (h.lowercaseAscii ht).tokens_eq, h.tokens_eq, ih,
        List.map_cons]

end Tokenizer

/-! ### Letters beyond ASCII -/

namespace Text

/-- A short word that begins no comment and no number and is in no table. -/
structure IsForeign (word : List Char) : Prop where
  ne_nil : word ≠ []
  length_le : word.length ≤ 2
  far : ∀ c ∈ word, 'a'.toNat ≤ c.toNat
  ne_if : word ≠ ['i', 'f']

theorem isForeign_singleton (h : 'a'.toNat ≤ c.toNat) : IsForeign [c] :=
  ⟨by simp, by simp, by simpa using h, by simp⟩

/-- What a character beyond ASCII becomes in small letters cannot be taken for ASCII text. -/
theorem isForeign_lowercase (h : 0x80 ≤ c.toNat) : IsForeign (lowercase [c]) := by
  rw [lowercase, lowercaseAfter, lowercaseAfter, List.append_nil]
  split
  · exact isForeign_singleton (by split <;> decide)
  · rw [lowerChar, if_neg (Nat.not_lt.2 h)]
    split
    · exact ⟨by simp, by simp, by simp, by simp⟩
    · exact isForeign_singleton (le_toNat_shift h)

/-- Text of ASCII and blanks is put in small letters by its ASCII letters alone. -/
theorem lowercase_eq_lowercaseAscii (h : ∀ c ∈ text, c.toNat < 0x80 ∨ isBlank c = true) :
    lowercase text = lowercaseAscii text := by
  have hafter : ∀ before, lowercaseAfter before text = lowercaseAscii text := by
    induction text with
    | nil => exact fun _ => rfl
    | cons c cs ih =>
        rw [List.forall_mem_cons] at h
        have hlower : lowerChar c = [c.toLower] := by
          rcases h.1 with hascii | hblank
          · exact if_pos hascii
          · rw [(isSmall_of_isBlank hblank).lowerChar_eq,
              (toLower_eq_iff (Token.isAlpha_eq_false_of_isBlank hblank)).2 rfl]
        have hsigma : c.toNat ≠ 0x3A3 := by
          rcases h.1 with hascii | hblank
          · omega
          · intro hsigma
            simp [isBlank, hsigma] at hblank
        intro before
        rw [lowercaseAfter, if_neg hsigma, hlower, ih h.2]
        rfl
  exact hafter []

end Text

namespace Rules

variable {word : Token} {previous : Option Token} {endsLine : Bool}

/-- A short word of no table has a style by its place only. -/
theorem styleOfWord_of_isForeign (h : Text.IsForeign word) :
    styleOfWord word previous endsLine =
      if previous = some ['?'] then .variable else .plain := by
  obtain ⟨hne, hlength, hfar, hif⟩ := h
  have hnot : ∀ d : Char, d.toNat < 'a'.toNat → d ∉ word := fun d hd hmem =>
    absurd (hfar d hmem) (Nat.not_le.2 hd)
  have hclass : classify? (String.ofList word) = none := by
    have hwords : ∀ word ∈ words, word.toList.length ≤ 2 → word.toList = ['i', 'f'] := by
      decide +kernel
    cases h : classify? (String.ofList word) with
    | none => rfl
    | some category =>
        have := hwords _ (mem_words_of_classify? h) (by simpa using hlength)
        exact absurd (by simpa using this) hif
  obtain ⟨c, cs, rfl⟩ := List.exists_cons_of_ne_nil hne
  have hnumber : Token.isNumber (c :: cs) = false := by
    have hdigit : c.isDigit = false := by
      have hc := hfar c List.mem_cons_self
      by_contra hdigit
      simp [Char.isDigit, UInt32.le_iff_toNat_le] at hdigit
      simp at hc
      omega
    simp [Token.isNumber, hdigit]
  have hopens : tokenizer.opensComment (c :: cs) = false := by
    by_contra hopens
    obtain ⟨d, ds, hcons, hd⟩ := exists_cons_of_opensComment (by simpa using hopens)
    rcases hd with rfl | rfl
    · exact hnot '/' (by decide) (by simp [hcons])
    · exact hnot ';' (by decide) (by simp [hcons])
  have hsingle : ∀ d : Char, d.toNat < 'a'.toNat → c :: cs ≠ [d] := by
    rintro d hd hcons
    exact hnot d hd (by simp [hcons])
  have hquestion : '?' ∉ c :: cs := hnot '?' (by decide)
  simp only [styleOfWord, hclass, hnumber, hopens, styleByPlace, hsingle '(' (by decide),
    hsingle ')' (by decide), hsingle '?' (by decide), Nat.not_lt.2 hlength, hquestion]
  simp

/-- A character beyond ASCII that is not blank is of no class. -/
theorem classOf_eq_single (hfar : 0x80 ≤ c.toNat) (hblank : Text.isBlank c = false) :
    tokenizer.classOf c = .single := by
  have hword : Token.isWordChar c = false := by
    by_contra hword
    rw [Bool.not_eq_false, Token.isWordChar_iff] at hword
    rcases hword with hword | rfl
    · omega
    · exact absurd hfar (by decide)
  have hlead : ∀ d : Char, d.toNat < 0x80 → d ≠ c := by
    rintro d hd rfl
    omega
  simp [Tokenizer.classOf, hblank, hword, tokenizer, CommentLead.slashes, CommentLead.semicolon,
    hlead '/' (by decide), hlead ';' (by decide)]

/-- A token has the style that it has when only ASCII letters are made small. -/
theorem styleOf_eq_lowercaseAscii (h : token ∈ tokenizer.tokens text) (previous : Option Token)
    (endsLine : Bool) :
    styleOf token previous endsLine =
      styleOfWord (Text.lowercaseAscii token) previous endsLine := by
  rw [styleOf]
  by_cases hascii : ∀ c ∈ token, c.toNat < 0x80 ∨ Text.isBlank c = true
  · rw [Text.lowercase_eq_lowercaseAscii hascii]
  -- a character of no class is all of its token, so nothing else is lost with it
  · push Not at hascii
    obtain ⟨c, hc, hfar, hblank⟩ := hascii
    obtain rfl := Tokenizer.eq_singleton_of_classOf isOrderly_tokenizer h hc
      (classOf_eq_single hfar (by simpa using hblank))
    have hself : Text.lowercaseAscii [c] = [c] := by
      simp [Text.lowercaseAscii, Text.toLower_eq_of_far hfar]
    have hforeign : Text.IsForeign [c] := Text.isForeign_singleton (Nat.le_trans (by decide) hfar)
    rw [hself, styleOfWord_of_isForeign hforeign,
      styleOfWord_of_isForeign (Text.isForeign_lowercase hfar)]

end Rules

/-! ### Styles -/

namespace Rules

/-- The token in front is compared with characters only that are no letters. -/
theorem styleByPlace_lowercaseAscii (word : Token) (previous : Option Token) (endsLine : Bool) :
    styleByPlace word (previous.map Text.lowercaseAscii) endsLine =
      styleByPlace word previous endsLine := by
  have hsingle : ∀ d : Char, d.isAlpha = false →
      (previous.map Text.lowercaseAscii = some [d] ↔ previous = some [d]) := by
    intro d hd
    cases previous with
    | none => simp
    | some token => simp [Text.lowercaseAscii_eq_singleton_iff hd]
  simp only [styleByPlace, List.mem_cons, List.not_mem_nil, or_false, hsingle '(' rfl,
    hsingle '?' rfl, hsingle ' ' rfl]

theorem styleOf_lowercaseAscii (h : token ∈ tokenizer.tokens text) (previous : Option Token)
    (endsLine : Bool) :
    styleOf (Text.lowercaseAscii token) (previous.map Text.lowercaseAscii) endsLine =
      styleOf token previous endsLine := by
  have hsmall : Text.lowercaseAscii token ∈ tokenizer.tokens (Text.lowercaseAscii text) := by
    rw [Tokenizer.tokens_lowercaseAscii isOrderly_tokenizer]
    exact List.mem_map_of_mem h
  simp only [styleOf_eq_lowercaseAscii h, styleOf_eq_lowercaseAscii hsmall, styleOfWord,
    Text.lowercaseAscii_lowercaseAscii, styleByPlace_lowercaseAscii]

theorem stylesFrom_lowercaseAscii (context : Context) (inComment : Bool) (previous : Option Token)
    {tokens : List Token} (h : ∀ token ∈ tokens, token ∈ tokenizer.tokens text) :
    stylesFrom context inComment (previous.map Text.lowercaseAscii)
      (tokens.map Text.lowercaseAscii) = stylesFrom context inComment previous tokens := by
  have hends : ∀ rest : List Token,
      Rules.endsLine context (rest.map Text.lowercaseAscii) = Rules.endsLine context rest := by
    intro rest
    rcases rest with _ | ⟨_ | ⟨c, cs⟩, rest⟩
    · rfl
    · rfl
    · exact Text.isLineBreak_toLower c
  have hbreak : ∀ token : Token,
      Token.hasLineBreak (Text.lowercaseAscii token) = token.hasLineBreak := by
    intro token
    simp [Token.hasLineBreak, Text.hasLineBreak, Text.lowercaseAscii, Function.comp_def,
      Text.isLineBreak_toLower]
  induction tokens generalizing inComment previous with
  | nil => rfl
  | cons token tokens ih =>
      rw [List.forall_mem_cons] at h
      have hrest := fun inComment => ih inComment (some token) h.2
      rw [Option.map_some] at hrest
      simp only [List.map_cons, stylesFrom, hends, hbreak, styleOf_lowercaseAscii h.1, hrest]

/-- Every byte of a rule file has the style that it has in small letters. -/
theorem byteStyles_lowercaseAscii (text : List Char) :
    Lexer.rules.byteStyles (Text.lowercaseAscii text) = Lexer.rules.byteStyles text := by
  have htokens : Lexer.rules.tokenizer.tokens (Text.lowercaseAscii text) =
      (Lexer.rules.tokenizer.tokens text).map Text.lowercaseAscii :=
    Tokenizer.tokens_lowercaseAscii isOrderly_tokenizer text
  have hstyles : Lexer.rules.styles {}
        ((Lexer.rules.tokenizer.tokens text).map Text.lowercaseAscii) =
      Lexer.rules.styles {} (Lexer.rules.tokenizer.tokens text) :=
    stylesFrom_lowercaseAscii {} false none fun token h => h
  simp only [Lexer.byteStyles, Lexer.runsOfText, Lexer.runs_eq, htokens, hstyles,
    List.zipWith_map_left, Token.run, Text.byteLength_lowercaseAscii]
  rfl

/--
Two rule files that differ only in the case of ASCII letters are styled alike, byte for byte. To
make all letters small comes to the same as to make only those letters small.
-/
theorem styles_of_recased (h : Text.IsRecased text other) :
    Lexer.rules.byteStyles text = Lexer.rules.byteStyles other ∧
      ∀ token ∈ tokenizer.tokens text, ∀ previous endsLine,
        styleOf token previous endsLine =
          styleOfWord (Text.lowercaseAscii token) previous endsLine := by
  constructor
  · rw [← byteStyles_lowercaseAscii text, h.lowercaseAscii_eq, byteStyles_lowercaseAscii]
  · intro token htoken
    exact styleOf_eq_lowercaseAscii htoken

/-- The name of a rule, a section and a variable, each written in two ways. -/
theorem styles_of_recased_rule :
    Text.IsRecased "(Ab1\nIF ?Xé)".toList "(aB1\niF ?xé)".toList ∧
      Lexer.rules.byteStyles "(Ab1\nIF ?Xé)".toList =
        Lexer.rules.byteStyles "(aB1\niF ?xé)".toList := by
  have h : Text.IsRecased "(Ab1\nIF ?Xé)".toList "(aB1\niF ?xé)".toList := by
    simp [Text.IsRecased]
  exact ⟨h, (styles_of_recased h).1⟩

end Rules

end EditorCore
