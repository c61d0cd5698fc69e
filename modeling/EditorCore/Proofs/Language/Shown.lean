import EditorCore.Proofs.Language.Regions

/-!
# Styles show the regions

The machines that highlight rule files and programs run in step with the machine that reads
regions: in every step the style shows what the token is, also where a declared name is
still to come.
-/

namespace EditorCore

variable {g : Grammar} {text : List Char} {token : Token} {following tokens : List Token}
  {phase : Phase}

/-- Each style shows what its token is. -/
def Marked.ShownBy (marked : Marked) (categories : List Category) : Prop :=
  List.Forall₂ (fun p category => p.2.Shows category) marked categories

theorem Marked.ShownBy.cons {part : Part} {category : Category} {marked : Marked}
    {categories : List Category} (hpart : part.Shows category) (h : marked.ShownBy categories) :
    Marked.ShownBy ((token, part) :: marked) (category :: categories) := List.Forall₂.cons hpart h

/-! ### Rule files -/

/-- What is open in a rule file is nothing or a comment. -/
theorem Rules.shownBy (hmem : ∀ token ∈ tokens, token ∈ tokenizer.tokens text) (context : Context)
    (inComment : Bool) (previous : Option Token) :
    ((if inComment then Phase.comment else .code).mark tokenizer [] tokens).ShownBy
      (stylesFrom context inComment previous tokens) := by
  induction tokens generalizing inComment previous with
  | nil => exact .nil
  | cons token rest ih =>
      have ih := ih fun token hin => hmem token (List.mem_cons_of_mem _ hin)
      cases inComment with
      | true =>
          refine Marked.ShownBy.cons Part.shows_comment ?_
          have := ih (!token.hasLineBreak) (some token)
          cases hbreak : token.hasLineBreak <;> simpa [Phase.read, hbreak] using this
      | false =>
          simp only [stylesFrom, Bool.false_eq_true, if_false, Phase.mark]
          cases hopens : tokenizer.opensComment token with
          | true =>
              rw [Phase.read_lead hopens, styleOf_eq_comment_iff.2 hopens]
              exact Marked.ShownBy.cons Part.shows_comment (ih true (some token))
          | false =>
              rw [Phase.read_code hopens (by simp)]
              have hcomment : styleOf token previous (endsLine context rest) ≠ .comment := by
                rw [ne_eq, styleOf_eq_comment_iff, hopens]
                simp
              have hstring := styleOf_not_mem token previous (endsLine context rest)
              refine Marked.ShownBy.cons ?_ ?_
              · refine Part.shows_code ?_
                rw [List.mem_cons, not_or]
                exact ⟨hcomment, hstring⟩
              · have := ih false (some token)
                rwa [decide_eq_false hcomment]

/-! ### Programs -/

namespace Grammar

variable {s next : State} {category : Category}

/-- What the machine for programs knows when it is in a phase. -/
def InPhase (g : Grammar) (s : State) (following : List Token) : Phase → Prop
  | .code => s.inComment = false ∧ s.quote = none ∧ s.escaped = false ∧
    ∀ category, s.name = some category → (category = .className ∨ category = .functionName) ∧
      (following.dropWhile (·.isBlank)).head?.any (·.isIdentifier) = true
  | .comment => s.inComment = true ∧ s.quote = none ∧ s.escaped = false ∧ s.name = none
  | .string q => s.inComment = false ∧ s.quote = some q ∧ s.escaped = false ∧ s.name = none ∧
    q ∈ g.quotes
  | .escape q => s.inComment = false ∧ s.quote = some q ∧ s.escaped = true ∧ s.name = none ∧
    q ∈ g.quotes

/-- A token that opens neither a comment nor a string is code. -/
theorem read_code (hlead : g.tokenizer.opensComment token = false)
    (hquote : g.quote? token = none) :
    Phase.code.read g.tokenizer g.quotes token = (.code, .code) := by
  simp only [quote?] at hquote
  simp [Phase.read, hlead, hquote]

/-- Blanks and identifiers open nothing. -/
theorem IsOrdinary.read_code (hg : g.IsOrdinary)
    (h : token.isBlank = true ∨ token.isIdentifier = true) :
    Phase.code.read g.tokenizer g.quotes token = (.code, .code) := by
  have hhead : ∀ c ∈ token.head?, Text.isBlank c = true ∨ Token.isWordChar c = true :=
    h.elim Token.head?_of_isBlank Token.head?_of_isIdentifier
  exact Grammar.read_code (Tokenizer.opensComment_of_head? hg.orderly hhead)
    (hg.quote?_of_head? hhead)

theorem IsOrdinary.areQuotes (hg : g.IsOrdinary) : Phase.AreQuotes g.quotes := by
  intro q hq
  refine ⟨?_, ?_⟩
  · rintro rfl
    exact hg.backslash (List.mem_append_left _ hq)
  · by_contra hbreak
    have hblank := Text.isBlank_of_isLineBreak (by simpa using hbreak)
    rw [(hg.marks q (by simp [Grammar.marks, hq])).1] at hblank
    simp at hblank

/-- The state tells which phase it is. -/
theorem InPhase.eq_code (h : g.InPhase s tokens phase) (hcomment : s.inComment = false)
    (hquote : s.quote = none) : phase = .code := by
  cases phase <;> simp_all [InPhase]

theorem InPhase.eq_code_of_name (h : g.InPhase s tokens phase) (hname : s.name = some category) :
    phase = .code := by
  cases phase <;> simp_all [InPhase]

theorem InPhase.eq_comment (h : g.InPhase s tokens phase) (hcomment : s.inComment = true) :
    phase = .comment := by
  cases phase <;> simp_all [InPhase]

theorem InPhase.eq_string {q : Char} (h : g.InPhase s tokens phase) (hquote : s.quote = some q)
    (hescaped : s.escaped = false) : phase = .string q := by
  cases phase <;> simp_all [InPhase]

theorem InPhase.eq_escape {q : Char} (h : g.InPhase s tokens phase) (hquote : s.quote = some q)
    (hescaped : s.escaped = true) : phase = .escape q := by
  cases phase <;> simp_all [InPhase]

/-- In step: the style shows what the token is, and the phase behind it is the one read. -/
theorem InPhase.step (hg : g.IsOrdinary) (h : g.InPhase s (token :: following) phase)
    (hmove : g.Moves {} token following s category next) :
    (phase.read g.tokenizer g.quotes token).1.Shows category ∧
      g.InPhase next following (phase.read g.tokenizer g.quotes token).2 := by
  cases hmove with
  | wait hname hblank =>
      obtain rfl := h.eq_code_of_name hname
      obtain ⟨hcomment, hquote, hescaped, hpending⟩ := h
      rw [hg.read_code (.inl hblank)]
      refine ⟨by decide, hcomment, hquote, hescaped, fun category hname => ?_⟩
      simpa [hblank] using hpending category hname
  | name hname hblank =>
      obtain rfl := h.eq_code_of_name hname
      obtain ⟨hcomment, hquote, hescaped, hpending⟩ := h
      obtain ⟨hcategory, hword⟩ := hpending category hname
      have hword : token.isIdentifier = true := by simpa [hblank] using hword
      rw [hg.read_code (.inr hword)]
      refine ⟨?_, hcomment, hquote, hescaped, by simp⟩
      rcases hcategory with rfl | rfl <;> decide
  | escaped hname hquote hescaped =>
      obtain rfl := h.eq_escape hquote hescaped
      exact ⟨Part.shows_string, h.1, hquote, rfl, hname, h.2.2.2.2⟩
  | escape hname hquote hescaped hbackslash =>
      obtain rfl := h.eq_string hquote hescaped
      simp only [Phase.read, if_pos hbackslash]
      exact ⟨Part.shows_string, h.1, hquote, rfl, hname, h.2.2.2.2⟩
  | cut hname hquote hescaped hbackslash hbreak =>
      obtain rfl := h.eq_string hquote hescaped
      simp only [Phase.read, if_neg hbackslash, if_pos hbreak]
      exact ⟨by decide, h.1, rfl, hescaped, by simp [hname]⟩
  | close hname hquote hescaped hbackslash hbreak hclose =>
      obtain rfl := h.eq_string hquote hescaped
      have hclose := (hg.quote?_spec hclose).1
      simp only [Phase.read, if_neg hbackslash, hbreak, Bool.false_eq_true, if_false, if_pos hclose]
      exact ⟨by decide, h.1, rfl, hescaped, by simp [hname]⟩
  | @body opening hname hquote hescaped hbackslash hbreak hclose =>
      obtain rfl := h.eq_string hquote hescaped
      have hclose : token ≠ [opening] := by
        rintro rfl
        exact hclose (by simp [quote?, Token.single?, Option.filter, h.2.2.2.2])
      simp only [Phase.read, if_neg hbackslash, hbreak, Bool.false_eq_true, if_false, if_neg hclose]
      exact ⟨Part.shows_string, h.1, hquote, hescaped, hname, h.2.2.2.2⟩
  | comment hname hquote hcomment =>
      obtain rfl := h.eq_comment hcomment
      obtain ⟨-, -, hescaped, -⟩ := h
      refine ⟨Part.shows_comment, ?_⟩
      cases hbreak : token.hasLineBreak with
      | true => simp [Phase.read, hbreak, InPhase, hquote, hescaped, hname]
      | false => simp [Phase.read, hbreak, InPhase, hquote, hescaped, hname]
  | declare hname hquote hcomment hword =>
      obtain rfl := h.eq_code hcomment hquote
      rw [hg.read_code (.inr (hg.isIdentifier_of_declaration? hword))]
      exact ⟨by decide, hcomment, hquote, h.2.2.1, fun category => announced?_spec⟩
  | lead hname hquote hcomment hword hlead =>
      obtain rfl := h.eq_code hcomment hquote
      rw [Phase.read_lead hlead]
      exact ⟨Part.shows_comment, rfl, hquote, h.2.2.1, hname⟩
  | opening hname hquote hcomment hword hlead hopens =>
      obtain rfl := h.eq_code hcomment hquote
      obtain ⟨hsingle, hmem⟩ := Option.filter_eq_some_iff.1 hopens
      obtain rfl := Token.single?_eq_some_iff.1 hsingle
      have hmem := of_decide_eq_true hmem
      rw [Phase.read_quote hlead hmem]
      exact ⟨Part.shows_string, hcomment, rfl, h.2.2.1, hname, hmem⟩
  | other hname hquote hcomment hword hlead hopens =>
      obtain rfl := h.eq_code hcomment hquote
      rw [read_code hlead hopens]
      have hregion : [Category.comment, .string, .stringEnd] ⊆
          [Category.comment, .string, .stringEnd, .className, .functionName] := by decide
      exact ⟨Part.shows_code fun hmem => g.classify_not_mem token (hregion hmem), hcomment, hquote,
        h.2.2.1, by simp [hname]⟩

/-- In step all along. -/
theorem InPhase.shownBy (hg : g.IsOrdinary) (h : g.InPhase s tokens phase) :
    (phase.mark g.tokenizer g.quotes tokens).ShownBy (g.stylesFrom {} s tokens) := by
  induction tokens generalizing phase s with
  | nil => exact .nil
  | cons token rest ih =>
      obtain ⟨hshows, hnext⟩ := h.step hg (g.moves_step {} s token rest)
      exact .cons hshows (ih hnext)

theorem IsOrdinary.shownBy (hg : g.IsOrdinary) (tokens : List Token) :
    (Phase.code.mark g.tokenizer g.quotes tokens).ShownBy (g.styles {} tokens) := by
  have hstart : g.InPhase (g.start {} tokens) tokens .code := by
    simp [InPhase, start, pending?, Context.opened]
  exact hstart.shownBy hg

end Grammar

/-! ### All languages -/

/-- The quotes of a language. -/
def Language.quotes : Language → List Char
  | .text => []
  | .python => Python.grammar.quotes
  | .c => C.grammar.quotes
  | .rules => []

namespace Lexer

variable {language : Language}

theorem areQuotes_quotes (language : Language) : Phase.AreQuotes language.quotes := by
  cases language with
  | text => exact fun q hq => absurd hq List.not_mem_nil
  | python => exact Python.grammar_isOrdinary.areQuotes
  | c => exact C.grammar_isOrdinary.areQuotes
  | rules => exact fun q hq => absurd hq List.not_mem_nil

theorem map_category_runs (lexer : Lexer) (context : Context) (tokens : List Token) :
    (lexer.runs context tokens).map (·.category) = lexer.styles context tokens := by
  have hzip : (tokens.zip (lexer.styles context tokens)).map (·.2) =
      lexer.styles context tokens := List.map_snd_zip (by simp)
  simpa [runs_eq, Token.run, List.zip, List.map_zipWith] using hzip

/-- The styles of one pass follow the machine that reads regions. -/
theorem mark_shownBy (hlanguage : language ≠ .text) (text : List Char) :
    (Phase.code.mark (ofLanguage language).tokenizer language.quotes
      ((ofLanguage language).tokenizer.tokens text)).ShownBy
      ((ofLanguage language).styles {} ((ofLanguage language).tokenizer.tokens text)) := by
  cases language with
  | text => exact absurd rfl hlanguage
  | python => exact Python.grammar_isOrdinary.shownBy _
  | c => exact C.grammar_isOrdinary.shownBy _
  | rules => exact Rules.shownBy (fun _ => id) {} false none

/--
Comments and strings are those of the grammar of regions: every text has its regions, and
wherever they are, the styles of one pass show them.
-/
theorem regions_shown (hlanguage : language ≠ .text) (text : List Char) :
    (∃ marked : Marked, marked.map (·.1) = (ofLanguage language).tokenizer.tokens text ∧
      Regions (ofLanguage language).tokenizer language.quotes marked) ∧
    ∀ marked : Marked, marked.map (·.1) = (ofLanguage language).tokenizer.tokens text →
      Regions (ofLanguage language).tokenizer language.quotes marked →
      marked.ShownBy (((ofLanguage language).runsOfText text).map (·.category)) := by
  constructor
  · exact ⟨_, Phase.map_fst_mark .code _, Phase.completes_mark _ _ .code _⟩
  · intro marked htokens hregions
    rw [runsOfText, map_category_runs, hregions.eq_mark (areQuotes_quotes language), htokens]
    exact mark_shownBy hlanguage text

/-- An escaped quote does not close a string, but the line break does; below is a comment. -/
theorem regions_shown_unclosed : Marked.ShownBy
    (Marked.of .string [['"'], ['a'], ['\\'], ['"']] ++
      (['\n'], .cut) :: Marked.of .comment [['#']])
    (((ofLanguage .python).runsOfText ['"', 'a', '\\', '"', '\n', '#']).map (·.category)) := by
  have hbody : StringBody '"' [['a'], ['\\'], ['"']] :=
    .token (by decide) (by decide) (by decide) (.escape .nil)
  have hcomment : Regions (ofLanguage .python).tokenizer Language.python.quotes
      (Marked.of .comment [['#']]) := .lastComment (by decide) (by simp)
  exact (regions_shown (by decide) ['"', 'a', '\\', '"', '\n', '#']).2 _ (by decide +kernel)
    (.cut (by decide) (by decide) hbody (by decide) hcomment)

end Lexer

end EditorCore
