import EditorCore.Proofs.Language.Machine
import EditorCore.Proofs.Token.Places

/-!
# Ordinary grammars

The grammars of Python and C have in common that their words are identifiers, that their
quotes, brackets, operators and comment leads are neither blanks nor characters of words,
and that the backslash is none of them. A blank then means nothing outside of strings and
comments, no comment lead has a line break, and a backslash is always a token by itself.
-/

namespace EditorCore

variable {g : Grammar} {t : Tokenizer} {text : List Char} {token : Token} {c : Char}

theorem Text.isBlank_of_isLineBreak (h : isLineBreak c = true) : isBlank c = true := by
  simp only [isLineBreak, Bool.or_eq_true, beq_iff_eq] at h
  rcases h with rfl | rfl <;> rfl

theorem Token.isWordChar_of_isIdentifier (h : isIdentifier token = true) :
    token ≠ [] ∧ ∀ c ∈ token, isWordChar c = true := by
  rw [isIdentifier, Bool.and_eq_true, List.all_eq_true] at h
  refine ⟨?_, h.2⟩
  rintro rfl
  simp at h

/-- A blank begins with a blank. -/
theorem Token.head?_of_isBlank (h : isBlank token = true) :
    ∀ c ∈ token.head?, Text.isBlank c = true ∨ isWordChar c = true := fun c hc =>
  .inl (List.all_eq_true.1 h c (List.mem_of_mem_head? hc))

/-- An identifier begins with a character of words. -/
theorem Token.head?_of_isIdentifier (h : isIdentifier token = true) :
    ∀ c ∈ token.head?, Text.isBlank c = true ∨ isWordChar c = true := fun c hc =>
  .inr ((isWordChar_of_isIdentifier h).2 c (List.mem_of_mem_head? hc))

theorem Token.single?_eq_some_iff : single? token = some c ↔ token = [c] := by
  constructor
  · intro h
    cases token with
    | nil => simp [single?] at h
    | cons d ds => cases ds <;> simp_all [single?]
  · rintro rfl
    rfl

theorem Token.isIdentifier_eq_false_of_isBlank (h : isBlank token = true) :
    isIdentifier token = false := by
  by_contra hname
  obtain ⟨hne, hword⟩ := isWordChar_of_isIdentifier (by simpa using hname)
  obtain ⟨c, cs, rfl⟩ := List.exists_cons_of_ne_nil hne
  have := isBlank_eq_false_of_isWordChar (hword c List.mem_cons_self)
  simp [isBlank, this] at h

theorem Token.isNumber_eq_false_of_isBlank (h : isBlank token = true) :
    isNumber token = false := by
  cases token with
  | nil => rfl
  | cons c cs =>
      have hword : isWordChar c = false := by
        by_contra hword
        have := isBlank_eq_false_of_isWordChar (by simpa using hword)
        simp [isBlank, this] at h
      simp only [isWordChar, Char.isAlphanum, Bool.or_eq_false_iff] at hword
      simp [isNumber, hword.1.2]

theorem Token.single?_any_of_isBlank {marks : List Char} (h : isBlank token = true)
    (hmarks : ∀ c ∈ marks, Text.isBlank c = false) : (single? token).any (· ∈ marks) = false := by
  cases hsingle : single? token with
  | none => rfl
  | some c =>
      obtain rfl := single?_eq_some_iff.1 hsingle
      have hc : Text.isBlank c = true := by simpa [isBlank] using h
      simp only [Option.any_some, decide_eq_false_iff_not]
      intro hmem
      simp [hmarks c hmem] at hc

/-- A token that begins with a lead begins with its character. -/
theorem CommentLead.head?_of_leads {lead : CommentLead} (h : lead.leads token = true) :
    token.head? = some lead.char := by
  have hpos : 1 ≤ lead.least := Nat.le_max_right _ _
  rw [leads, decide_eq_true_iff] at h
  cases token with
  | nil => simp at h; omega
  | cons c cs =>
      by_cases hc : c = lead.char
      · rw [hc, List.head?_cons]
      · rw [List.takeWhile_cons_of_neg (by simpa using hc)] at h
        simp at h
        omega

namespace Tokenizer

theorem exists_lead_of_opensComment (h : t.opensComment token = true) :
    ∃ lead ∈ t.commentLeads, token.head? = some lead.char := by
  obtain ⟨lead, hmem, hlead⟩ := List.any_eq_true.1 h
  exact ⟨lead, hmem, CommentLead.head?_of_leads hlead⟩

/-- What begins with a blank or with a character of words opens no comment. -/
theorem opensComment_of_head? (ht : t.IsOrderly)
    (h : ∀ c ∈ token.head?, Text.isBlank c = true ∨ Token.isWordChar c = true) :
    t.opensComment token = false := by
  by_contra hopens
  obtain ⟨lead, hmem, hhead⟩ := exists_lead_of_opensComment (by simpa using hopens)
  obtain ⟨hblank, hword⟩ := ht lead hmem
  simpa [hblank, hword] using h lead.char hhead

/-- A token with a line break is blank. -/
theorem isBlank_of_hasLineBreak (ht : t.IsOrderly) (hmem : token ∈ t.tokens text)
    (hbreak : token.hasLineBreak = true) : token.isBlank = true := by
  rw [Token.hasLineBreak, Text.hasLineBreak, List.any_eq_true] at hbreak
  obtain ⟨c, hc, hcbreak⟩ := hbreak
  exact isBlank_of_mem_tokens ht hmem hc (Text.isBlank_of_isLineBreak hcbreak)

/-- A token that opens a comment is on one line. -/
theorem hasLineBreak_eq_false_of_opensComment (ht : t.IsOrderly) (hmem : token ∈ t.tokens text)
    (h : t.opensComment token = true) : token.hasLineBreak = false := by
  obtain ⟨lead, hlead, hhead⟩ := exists_lead_of_opensComment h
  obtain ⟨cs, rfl⟩ := List.head?_eq_some_iff.1 hhead
  by_contra hbreak
  have hall := isBlank_of_hasLineBreak ht hmem (by simpa using hbreak)
  have := (ht lead hlead).1
  simp [Token.isBlank, this] at hall

/-- A character of no class is a token by itself. -/
theorem eq_singleton_of_classOf (ht : t.IsOrderly) (hmem : token ∈ t.tokens text) (hc : c ∈ token)
    (hclass : t.classOf c = .single) : token = [c] := by
  obtain ⟨kind, hkind, hsingle⟩ := uniform_of_mem_tokens ht hmem
  obtain ⟨d, rfl⟩ := List.length_eq_one_iff.1 (hsingle ((hkind c hc).symm.trans hclass))
  rw [List.mem_singleton.1 hc]

end Tokenizer

namespace Grammar

/-- All characters that mean something by themselves. -/
def marks (g : Grammar) : List Char :=
  g.quotes ++ g.brackets ++ g.operators ++ g.commentLeads.map (·.char)

/-- What Python and C have in common. -/
structure IsOrdinary (g : Grammar) : Prop where
  /-- All words of the language are identifiers. -/
  words : ∀ word ∈ g.keywords ++ g.constants ++ g.builtins ++ g.declarations.map (·.1),
    Token.isIdentifier word.toList = true
  /-- No other character of the language is a blank or belongs to words. -/
  marks : ∀ c ∈ g.marks, Text.isBlank c = false ∧ Token.isWordChar c = false
  /-- The backslash only escapes. -/
  backslash : '\\' ∉ g.quotes ++ g.commentLeads.map (·.char)

/-- By itself, a token is never part of a comment, of a string or of a declaration. -/
theorem classify_not_mem (g : Grammar) (token : Token) : g.classify token ∉
    [Category.comment, .string, .stringEnd, .className, .functionName] := by
  simp only [classify]
  repeat' split
  all_goals decide

namespace IsOrdinary

variable (hg : g.IsOrdinary)
include hg

theorem orderly : g.tokenizer.IsOrderly := fun lead hlead =>
  hg.marks lead.char (List.mem_append_right _ (List.mem_map_of_mem hlead))

theorem isIdentifier_of_declaration? {declaration : Declaration}
    (h : g.declaration? token = some declaration) : token.isIdentifier = true := by
  obtain ⟨⟨word, kind⟩, hfind, -⟩ := Option.map_eq_some_iff.1 h
  have hmem := List.mem_of_find?_eq_some hfind
  have hword : word = String.ofList token := by simpa using List.find?_some hfind
  have := hg.words word (List.mem_append_right _ (List.mem_map_of_mem hmem))
  rwa [hword, String.toList_ofList] at this

theorem quote?_spec {quote : Char} (h : g.quote? token = some quote) :
    token = [quote] ∧ Text.isBlank quote = false ∧ Token.isWordChar quote = false ∧
      quote ≠ '\\' := by
  obtain ⟨hsingle, hmem⟩ := Option.filter_eq_some_iff.1 h
  have hmem : quote ∈ g.quotes := by simpa using hmem
  have hmark := hg.marks quote (by simp [Grammar.marks, hmem])
  refine ⟨Token.single?_eq_some_iff.1 hsingle, hmark.1, hmark.2, ?_⟩
  rintro rfl
  exact hg.backslash (List.mem_append_left _ hmem)

/-- What begins with a blank or with a character of words opens no string. -/
theorem quote?_of_head?
    (h : ∀ c ∈ token.head?, Text.isBlank c = true ∨ Token.isWordChar c = true) :
    g.quote? token = none := by
  cases hquote : g.quote? token with
  | none => rfl
  | some quote =>
      obtain ⟨rfl, hblank, hword, -⟩ := hg.quote?_spec hquote
      simpa [hblank, hword] using h quote rfl

theorem declaration?_of_isBlank (hblank : token.isBlank = true) : g.declaration? token = none := by
  cases h : g.declaration? token with
  | none => rfl
  | some declaration =>
      have := hg.isIdentifier_of_declaration? h
      rw [Token.isIdentifier_eq_false_of_isBlank hblank] at this
      simp at this

/-- A blank by itself is plain. -/
theorem classify_of_isBlank (hblank : token.isBlank = true) :
    g.classify token = .plain := by
  have hword : String.ofList token ∉
      g.keywords ++ g.constants ++ g.builtins ++ g.declarations.map (·.1) := by
    intro hmem
    have := hg.words _ hmem
    rw [String.toList_ofList, Token.isIdentifier_eq_false_of_isBlank hblank] at this
    simp at this
  simp only [List.mem_append, not_or] at hword
  obtain ⟨⟨⟨hkeyword, hconstant⟩, hbuiltin⟩, hdeclaration⟩ := hword
  have hnumber := Token.isNumber_eq_false_of_isBlank hblank
  have hbracket : token.single?.any (· ∈ g.brackets) = false :=
    Token.single?_any_of_isBlank hblank fun c hc => (hg.marks c (by simp [Grammar.marks, hc])).1
  have hoperator : token.single?.any (· ∈ g.operators) = false :=
    Token.single?_any_of_isBlank hblank fun c hc => (hg.marks c (by simp [Grammar.marks, hc])).1
  simp [classify, hkeyword, hconstant, hbuiltin, hdeclaration, hnumber, hbracket, hoperator]

/-- Outside of strings and comments a blank is plain and changes nothing. -/
theorem stepCode_of_isBlank (context : Context) (s : State) (following : List Token)
    (hblank : token.isBlank = true) :
    g.stepCode context s token following = (.plain, s) := by
  have hhead := Token.head?_of_isBlank hblank
  have hlead : g.tokenizer.opensComment token = false :=
    Tokenizer.opensComment_of_head? hg.orderly hhead
  have hquote : g.quote? token = none := hg.quote?_of_head? hhead
  simp [stepCode, wordStyle, hg.declaration?_of_isBlank hblank, hlead, hquote,
    hg.classify_of_isBlank hblank]

/-- A backslash is a token by itself. -/
theorem eq_backslash_of_mem (hmem : token ∈ g.tokenizer.tokens text) (hc : '\\' ∈ token) :
    token = ['\\'] := by
  refine Tokenizer.eq_singleton_of_classOf hg.orderly hmem hc ?_
  have hlead : ∀ lead ∈ g.tokenizer.commentLeads, lead.char ≠ '\\' := fun lead hlead h =>
    hg.backslash (List.mem_append_right _ (List.mem_map.2 ⟨lead, hlead, h⟩))
  have hany : g.tokenizer.commentLeads.any (·.char == '\\') = false := by
    simpa using hlead
  have hblank : Text.isBlank '\\' = false := rfl
  have hword : Token.isWordChar '\\' = false := rfl
  simp [Tokenizer.classOf, hblank, hword, hany]

end IsOrdinary

end Grammar

theorem Python.grammar_isOrdinary : Python.grammar.IsOrdinary where
  words := by decide +kernel
  marks := by
    have h : grammar.marks.all (fun c => !Text.isBlank c && !Token.isWordChar c) = true := by
      decide
    simpa only [List.all_eq_true, Bool.and_eq_true, Bool.not_eq_true'] using h
  backslash := by decide

theorem C.grammar_isOrdinary : C.grammar.IsOrdinary where
  words := by decide +kernel
  marks := by
    have h : grammar.marks.all (fun c => !Text.isBlank c && !Token.isWordChar c) = true := by
      decide
    simpa only [List.all_eq_true, Bool.and_eq_true, Bool.not_eq_true'] using h
  backslash := by decide

end EditorCore
