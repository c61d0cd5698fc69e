import EditorCore.Language.Lexer
import EditorCore.Proofs.Language.Resume
import EditorCore.Proofs.Language.Rules

/-!
# One pass over a text

A lexer styles the tokens of a text in one pass. Wherever the text is cut between two
tokens or more, each of the parts comes out with the styles that it has in the pass, given
only what is captured around it.
-/

namespace EditorCore

variable {tokens : List Token} {categories : List Category}

theorem Styled.text_zip (h : categories.length = tokens.length) :
    Styled.text (tokens.zip categories) = tokens.flatten := by
  rw [Styled.text, List.map_fst_zip (by omega)]

/-- Runs that are made of tokens and their styles have the bytes of the styled tokens. -/
theorem Run.styles_zipWith (tokens : List Token) (categories : List Category) :
    Run.styles (List.zipWith Token.run tokens categories) =
      Styled.bytes (tokens.zip categories) := by
  simp [Run.styles, Token.run, Styled.bytes, List.flatMap, List.map_zipWith, List.zip]

theorem Grammar.length_stylesFrom (g : Grammar) (context : Context) (s : Grammar.State)
    (tokens : List Token) : (g.stylesFrom context s tokens).length = tokens.length := by
  induction tokens generalizing s with
  | nil => rfl
  | cons token tokens ih => simp [stylesFrom, ih]

/-- The state of the machine between two tokens of a text that is styled in one pass. -/
def Grammar.stateBetween (g : Grammar) (front rest : List Token) : Grammar.State :=
  g.stateAfter {} (g.start {} (front ++ rest)) front rest

/--
In one pass, what is open in front of a token is what the styled tokens before it say, and the
pass goes on from there.
-/
theorem Grammar.reads_stateBetween {g : Grammar} (hg : g.IsOrdinary) {text : List Char}
    {past behind : Styled}
    (hpass : (g.tokenizer.tokens text).zip (g.styles {} (g.tokenizer.tokens text)) =
      past ++ behind) :
    g.Reads past (behind.map (·.1)) (g.stateBetween (past.map (·.1)) (behind.map (·.1))) ∧
      behind.map (·.2) = g.stylesFrom {} (g.stateBetween (past.map (·.1)) (behind.map (·.1)))
        (behind.map (·.1)) := by
  have hlength : (g.styles {} (g.tokenizer.tokens text)).length =
      (g.tokenizer.tokens text).length := g.length_stylesFrom {} _ _
  have htokens : g.tokenizer.tokens text = past.map (·.1) ++ behind.map (·.1) := by
    rw [← List.map_append, ← hpass, List.map_fst_zip (Nat.le_of_eq hlength.symm)]
  have hstyles : g.styles {} (g.tokenizer.tokens text) =
      past.map (·.2) ++ behind.map (·.2) := by
    rw [← List.map_append, ← hpass, List.map_snd_zip (Nat.le_of_eq hlength)]
  have hmem : ∀ token ∈ past.map (·.1), token ∈ g.tokenizer.tokens text := by
    intro token hin
    rw [htokens]
    exact List.mem_append_left _ hin
  obtain ⟨categories, hcount, hrun, hreads⟩ :=
    (g.reads_start (past.map (·.1) ++ behind.map (·.1))).run hg hmem
  rw [htokens, styles, hrun] at hstyles
  obtain ⟨rfl, hrest⟩ := List.append_inj hstyles (by simpa using hcount)
  have hzip : (past.map (·.1)).zip (past.map (·.2)) = past := by
    rw [List.zip_map']
    exact List.map_id' past
  rw [List.nil_append, hzip] at hreads
  exact ⟨hreads, hrest.symm⟩

theorem Rules.length_stylesFrom (context : Context) (inComment : Bool) (previous : Option Token)
    (tokens : List Token) :
    (Rules.stylesFrom context inComment previous tokens).length = tokens.length := by
  induction tokens generalizing inComment previous with
  | nil => rfl
  | cons token tokens ih => cases inComment <;> simp [Rules.stylesFrom, ih]

namespace Lexer

variable {lexer : Lexer} {language : Language} {context : Context}
  {text front middle tail : List Char}

@[simp] theorem length_styles (lexer : Lexer) (context : Context) (tokens : List Token) :
    (lexer.styles context tokens).length = tokens.length := by
  cases lexer with
  | plain => simp [styles, Plain.styles]
  | rules => exact Rules.length_stylesFrom _ _ _ tokens
  | program grammar => exact grammar.length_stylesFrom _ _ tokens

theorem isOrderly_ofLanguage (language : Language) :
    (ofLanguage language).tokenizer.IsOrderly := by
  cases language with
  | text => decide
  | python => exact Python.grammar_isOrdinary.orderly
  | c => exact C.grammar_isOrdinary.orderly
  | rules => exact Rules.isOrderly_tokenizer

/-- The tokens of a text, each with the style that it has in given surroundings. -/
def range (lexer : Lexer) (context : Context) (text : List Char) : Styled :=
  (lexer.tokenizer.tokens text).zip (lexer.styles context (lexer.tokenizer.tokens text))

/-- The style of each byte of a text that is styled in one pass. -/
def byteStyles (lexer : Lexer) (text : List Char) : List Category :=
  Run.styles (lexer.runsOfText text)

@[simp] theorem map_fst_range (lexer : Lexer) (context : Context) (text : List Char) :
    (lexer.range context text).map (·.1) = lexer.tokenizer.tokens text := by
  simp [range, List.map_fst_zip]

@[simp] theorem map_snd_range (lexer : Lexer) (context : Context) (text : List Char) :
    (lexer.range context text).map (·.2) =
      lexer.styles context (lexer.tokenizer.tokens text) := by
  simp [range, List.map_snd_zip]

@[simp] theorem text_range (lexer : Lexer) (context : Context) (text : List Char) :
    (lexer.range context text).text = text := by
  simp [Styled.text]

theorem styles_runs (lexer : Lexer) (context : Context) (text : List Char) :
    Run.styles (lexer.runs context (lexer.tokenizer.tokens text)) =
      (lexer.range context text).bytes := by
  rw [runs_eq]
  exact Run.styles_zipWith _ _

theorem byteStyles_eq (lexer : Lexer) (text : List Char) :
    lexer.byteStyles text = (lexer.range {} text).bytes :=
  lexer.styles_runs {} text

@[simp] theorem length_byteStyles (lexer : Lexer) (text : List Char) :
    (lexer.byteStyles text).length = Text.byteLength text := by
  simp [byteStyles_eq]

/-- The bytes of some tokens in the middle of the pass. -/
theorem slice_byteStyles {lexer : Lexer} {past middle behind : Styled}
    (hpass : lexer.range {} text = past ++ (middle ++ behind)) :
    ((lexer.byteStyles text).drop (Text.byteLength past.text)).take
      (Text.byteLength middle.text) = middle.bytes := by
  rw [byteStyles_eq, hpass, Styled.bytes_append, Styled.bytes_append,
    List.drop_left' (Styled.length_bytes past), List.take_left' (Styled.length_bytes middle)]

/--
The pass over a text goes on, behind any token, as if it were resumed from what is captured
there, and that is so up to any later token.
-/
theorem styles_resume (language : Language) {front middle tail : List Token}
    (htokens : (ofLanguage language).tokenizer.tokens text = front ++ (middle ++ tail)) :
    ∃ before inside behind, before.length = front.length ∧ inside.length = middle.length ∧
      (ofLanguage language).styles {} (front ++ (middle ++ tail)) =
        before ++ (inside ++ behind) ∧
      (ofLanguage language).styles (Context.around (front.zip before) tail.flatten) middle =
        inside := by
  cases language with
  | text =>
      exact ⟨front.map Plain.styleOf, middle.map Plain.styleOf, tail.map Plain.styleOf,
        List.length_map _, List.length_map _, by simp [ofLanguage, styles, Plain.styles], rfl⟩
  | python => exact Grammar.styles_resume Python.grammar_isOrdinary htokens
  | c => exact Grammar.styles_resume C.grammar_isOrdinary htokens
  | rules => exact Rules.styles_resume htokens

/-- The same, for a text that is cut in three between tokens. -/
theorem range_resume (language : Language)
    (hfront : (ofLanguage language).tokenizer.Cuts front (middle ++ tail))
    (hmiddle : (ofLanguage language).tokenizer.Cuts (front ++ middle) tail) :
    ∃ past behind : Styled, past.text = front ∧ behind.text = tail ∧
      past.map (·.1) = (ofLanguage language).tokenizer.tokens front ∧
      (ofLanguage language).range {} (front ++ (middle ++ tail)) =
        past ++ ((ofLanguage language).range (Context.around past tail) middle ++ behind) := by
  let t := (ofLanguage language).tokenizer
  have htail : t.Cuts middle tail := (hfront.append_iff).1 hmiddle
  have htokens : t.tokens (front ++ (middle ++ tail)) =
      t.tokens front ++ (t.tokens middle ++ t.tokens tail) := by
    rw [hfront, htail]
  obtain ⟨before, inside, behind, hbefore, hinside, hstyles, hresume⟩ :=
    styles_resume language htokens
  have hbehind : behind.length = (t.tokens tail).length := by
    have := congrArg List.length hstyles
    simp only [length_styles, List.length_append] at this
    omega
  refine ⟨(t.tokens front).zip before, (t.tokens tail).zip behind, ?_, ?_, ?_, ?_⟩
  · rw [Styled.text_zip hbefore, t.flatten_tokens]
  · rw [Styled.text_zip hbehind, t.flatten_tokens]
  · exact List.map_fst_zip (by omega)
  · rw [t.flatten_tokens] at hresume
    rw [range, range, hresume, htokens, hstyles, List.zip_append hbefore.symm,
      List.zip_append hinside.symm]

/-- What is captured at the start of a text depends on nothing but the text behind the range. -/
theorem range_front (language : Language)
    (hfront : (ofLanguage language).tokenizer.Cuts front tail) :
    ∃ behind, (ofLanguage language).range {} (front ++ tail) =
      (ofLanguage language).range (Context.around [] tail) front ++ behind := by
  obtain ⟨past, behind, hpast, -, htokens, hpass⟩ := range_resume language
    (Tokenizer.cuts_nil_left _ (front ++ tail)) (by simpa using hfront)
  have hnil : past = [] := by simpa using htokens
  rw [hnil] at hpass
  exact ⟨behind, hpass⟩

/--
The pass over a text that is cut in three between tokens: the first part sees what is behind
it, and the second part sees the first and what is behind.
-/
theorem range_split (language : Language)
    (hfront : (ofLanguage language).tokenizer.Cuts front (middle ++ tail))
    (hmiddle : (ofLanguage language).tokenizer.Cuts (front ++ middle) tail) :
    ∃ past behind : Styled,
      past = (ofLanguage language).range (Context.around [] (middle ++ tail)) front ∧
      behind.text = tail ∧ (ofLanguage language).range {} (front ++ (middle ++ tail)) =
        past ++ ((ofLanguage language).range (Context.around past tail) middle ++ behind) := by
  obtain ⟨past, behind, -, hbehind, htokens, hpass⟩ := range_resume language hfront hmiddle
  obtain ⟨later, hlater⟩ := range_front language hfront
  refine ⟨past, behind, ?_, hbehind, hpass⟩
  rw [hpass] at hlater
  refine (List.append_inj hlater ?_).1
  have hlength := congrArg List.length htokens
  have hlength' := congrArg List.length
    (map_fst_range (ofLanguage language) (Context.around [] (middle ++ tail)) front)
  rw [List.length_map] at hlength hlength'
  rw [hlength, hlength']

end Lexer

end EditorCore
