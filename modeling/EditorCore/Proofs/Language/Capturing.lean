import EditorCore.Proofs.Language.Registered

/-!
# What a capture recovers

A pass over a text carries along whether a comment is open, which string is open and whether
the next token is escaped, and forgets all of it at the end. At every boundary between two
tokens it is recovered from the styles in front of the boundary, just as the pass had it there,
together with the token that ends there and the last word with the style that it got.
-/

namespace EditorCore

variable {text : List Char} {past behind : Styled} {k stop : Nat}

/-! ### Texts without strings -/

namespace Styled

theorem endsInComment_eq_false_of_forall (h : ∀ p ∈ past, p.2 ≠ .comment) :
    past.endsInComment = false := by
  rcases past.eq_nil_or_concat' with rfl | ⟨before, ⟨token, category⟩, rfl⟩
  · rfl
  · have hcategory : category ≠ .comment := h (token, category) (by simp)
    simp [hcategory]

theorem openString_eq_nil (h : ∀ p ∈ past, p.2 ≠ .string) : past.openString = [] := by
  rcases past.eq_nil_or_concat' with rfl | ⟨before, ⟨token, category⟩, rfl⟩
  · rfl
  · rw [openString_concat, if_neg (h (token, category) (by simp))]

/-- Behind tokens that are not those of strings, nothing but a comment can be open. -/
theorem opened_around_of_forall (h : ∀ p ∈ past, p.2 ≠ .string) (after : List Char) :
    (Context.around past after).opened = ⟨past.endsInComment, none, false⟩ := by
  simp [Context.opened, Context.around, openString_eq_nil h]

end Styled

/-! ### Rule files -/

namespace Rules

/-- Whether a comment is open behind some tokens, given whether one is open in front of them. -/
def commentAfter (context : Context) (inComment : Bool) (previous : Option Token) :
    List Token → List Token → Bool
  | [], _ => inComment
  | token :: front, rest =>
    if inComment then commentAfter context (!token.hasLineBreak) (some token) front rest
    else
      let category := styleOf token previous (endsLine context (front ++ rest))
      commentAfter context (category = .comment) (some token) front rest

/--
A run over some tokens goes on behind them with a comment open or not as it is there, which is
what the styled tokens say.
-/
theorem commentAfter_eq_endsInComment {context : Context} {rest : List Token}
    {more : List Category} (before : Styled)
    (hmem : ∀ p ∈ past, p.1 ∈ tokenizer.tokens text)
    (hstyles : stylesFrom context before.endsInComment (before.getLast?.map (·.1))
      (past.map (·.1) ++ rest) = past.map (·.2) ++ more) :
    commentAfter context before.endsInComment (before.getLast?.map (·.1)) (past.map (·.1)) rest =
        Styled.endsInComment (before ++ past) ∧
      more = stylesFrom context (Styled.endsInComment (before ++ past))
        ((before ++ past).getLast?.map (·.1)) rest := by
  induction past generalizing before with
  | nil => simpa [commentAfter] using hstyles.symm
  | cons p past ih =>
      obtain ⟨token, category⟩ := p
      have ih := ih (before ++ [(token, category)])
        fun p hp => hmem p (List.mem_cons_of_mem _ hp)
      simp only [List.map_cons, List.cons_append, stylesFrom] at hstyles
      simp only [List.getLast?_concat, Option.map_some, List.append_assoc,
        List.singleton_append] at ih
      simp only [List.map_cons, commentAfter]
      cases hcomment : before.endsInComment with
      | true =>
          rw [hcomment, if_pos rfl] at hstyles
          obtain ⟨rfl, hrest⟩ := List.cons.inj hstyles
          rw [Styled.endsInComment_concat, beq_self_eq_true, Bool.true_and] at ih
          exact ih hrest
      | false =>
          rw [hcomment, if_neg (by simp)] at hstyles
          obtain ⟨rfl, hrest⟩ := List.cons.inj hstyles
          rw [endsInComment_concat_styleOf (hmem _ List.mem_cons_self)] at ih
          exact ih hrest

end Rules

/-! ### Programs -/

/-- What is open in a state of the machine for programs. -/
def Grammar.State.opened (s : Grammar.State) : Opened := ⟨s.inComment, s.quote, s.escaped⟩

/-- A state that can be read off styled tokens has open what is read off them. -/
theorem Grammar.Reads.opened_eq {g : Grammar} {rest : List Token} {s : Grammar.State}
    (h : g.Reads past rest s) (after : List Char) :
    (Context.around past after).opened = s.opened := by
  simp [Context.opened, Context.around, Grammar.State.opened, h.inComment, h.quote, h.escaped]

/-! ### All lexers -/

namespace Lexer

/-- What a lexer has open between two tokens of a text that it styles in one pass. -/
def openedBetween (lexer : Lexer) (front rest : List Token) : Opened :=
  match lexer with
  | .plain => ⟨false, none, false⟩
  | .rules => ⟨Rules.commentAfter {} false none front rest, none, false⟩
  | .program g => (g.stateBetween front rest).opened

/-- What is read off the styled tokens in front of a boundary is what the lexer has open there. -/
theorem opened_around (language : Language)
    (hpass : (ofLanguage language).range {} text = past ++ behind) (after : List Char) :
    (Context.around past after).opened =
      (ofLanguage language).openedBetween (past.map (·.1)) (behind.map (·.1)) := by
  have hstyles : (ofLanguage language).styles {} ((ofLanguage language).tokenizer.tokens text) =
      past.map (·.2) ++ behind.map (·.2) := by
    rw [← map_snd_range, hpass, List.map_append]
  have htokens : (ofLanguage language).tokenizer.tokens text =
      past.map (·.1) ++ behind.map (·.1) := by
    rw [← map_fst_range, hpass, List.map_append]
  have hlisted : ∀ p ∈ past, p.2 ∈ (ofLanguage language).registry.categories := fun p hp =>
    mem_categories_of_mem_styles (hstyles ▸ List.mem_append_left _ (List.mem_map_of_mem hp))
  have hmem : ∀ p ∈ past, p.1 ∈ (ofLanguage language).tokenizer.tokens text := fun p hp =>
    htokens ▸ List.mem_append_left _ (List.mem_map_of_mem hp)
  cases language with
  | text =>
      have hcomment : Category.comment ∉ Plain.registry.categories := by decide
      have hstring : Category.string ∉ Plain.registry.categories := by decide
      rw [Styled.opened_around_of_forall fun p hp h => hstring (h ▸ hlisted p hp),
        Styled.endsInComment_eq_false_of_forall fun p hp h => hcomment (h ▸ hlisted p hp)]
      rfl
  | python => exact (Grammar.reads_stateBetween Python.grammar_isOrdinary hpass).1.opened_eq after
  | c => exact (Grammar.reads_stateBetween C.grammar_isOrdinary hpass).1.opened_eq after
  | rules =>
      have hstring : Category.string ∉ Rules.registry.categories := by decide
      rw [htokens] at hstyles
      obtain ⟨hcomment, -⟩ := Rules.commentAfter_eq_endsInComment [] hmem hstyles
      rw [Styled.opened_around_of_forall fun p hp h => hstring (h ▸ hlisted p hp),
        ← List.nil_append past, ← hcomment]
      rfl

/--
What is captured at a boundary is what a pass over the text knows there: whether a comment is
open, which string is open and whether the next token is escaped, all as the lexer has them
behind the tokens up to the boundary, then the token that ends there, and the last token that
is not blank with its style.
-/
theorem capture_recovers_opened (language : Language) (text : List Char) (cursor : Nat)
    (hk : k ∈ (ofLanguage language).tokenizer.boundaries text)
    (hstop : stop ∈ Text.places text) :
    ∃ (past behind : Styled) (context : Context),
      (ofLanguage language).range {} text = past ++ behind ∧ Text.byteLength past.text = k ∧
      Context.capture? (ofLanguage language).tokenizer
        ⟨text, (ofLanguage language).byteStyles text, cursor⟩ k stop = some context ∧
      context.opened =
        (ofLanguage language).openedBetween (past.map (·.1)) (behind.map (·.1)) ∧
      context.previous = past.getLast?.map (·.1) ∧
      context.previousSignificant = past.lastWord?.map (·.1) ∧
      context.significantStyle = past.lastWord?.map (·.2) := by
  obtain ⟨front, rest, htokens, rfl⟩ := Tokenizer.mem_boundaries_iff_tokens.1 hk
  obtain ⟨past, behind, hpass, rfl, rfl⟩ : ∃ past behind : Styled,
      (ofLanguage language).range {} text = past ++ behind ∧
        past.map (·.1) = front ∧ behind.map (·.1) = rest :=
    List.map_eq_append_iff.1 ((map_fst_range (ofLanguage language) {} text).trans htokens)
  obtain ⟨⟨upTo, after⟩, hsplit⟩ : ∃ sides, Text.splitAt? text stop = some sides :=
    Option.ne_none_iff_exists'.1 fun h => Text.splitAt?_eq_none_iff.1 h hstop
  let buffer : Buffer := ⟨text, (ofLanguage language).byteStyles text, cursor⟩
  have htext : buffer.text = past.text ++ behind.text := by
    rw [← Styled.text_append, ← hpass, text_range]
  have hstyles : buffer.styles = past.bytes ++ behind.bytes := by
    rw [← Styled.bytes_append, ← hpass, ← byteStyles_eq]
  have hcapture := Context.capture?_of_splitAt? (isOrderly_ofLanguage language)
    (Tokenizer.tokens_flatten htokens).1 htext hstyles hsplit
  exact ⟨past, behind, _, hpass, rfl, hcapture, opened_around language hpass after, rfl, rfl, rfl⟩

/-- Behind an escaped line break a pass still has the string open, as it is captured there. -/
theorem capture_recovers_escaped_lineBreak :
    6 ∈ (ofLanguage .python).tokenizer.boundaries ['é', '\'', '\\', '\n', ' ', '#'] ∧
    7 ∈ Text.places ['é', '\'', '\\', '\n', ' ', '#'] ∧
    ∃ past behind : Styled,
      (ofLanguage .python).range {} ['é', '\'', '\\', '\n', ' ', '#'] = past ++ behind ∧
      Text.byteLength past.text = 6 ∧
      (ofLanguage .python).openedBetween (past.map (·.1)) (behind.map (·.1)) =
        ⟨false, some '\'', false⟩ ∧
      past.getLast?.map (·.1) = some ['\n', ' '] ∧
      past.lastWord?.map (·.1) = some ['\\'] ∧ past.lastWord?.map (·.2) = some .string := by
  have hk : 6 ∈ (ofLanguage .python).tokenizer.boundaries
      ['é', '\'', '\\', '\n', ' ', '#'] := by decide +kernel
  have hstop : 7 ∈ Text.places ['é', '\'', '\\', '\n', ' ', '#'] := by decide
  have hfound : Context.capture? (ofLanguage .python).tokenizer
      ⟨['é', '\'', '\\', '\n', ' ', '#'],
        (ofLanguage .python).byteStyles ['é', '\'', '\\', '\n', ' ', '#'], 0⟩ 6 7 =
      some ⟨false, some ['\n', ' '], some ['\\'], some .string, some '\'', false, none, none⟩ := by
    decide +kernel
  obtain ⟨past, behind, context, hpass, hlength, hcapture, hopened, hlast, hword, hstyle⟩ :=
    capture_recovers_opened .python ['é', '\'', '\\', '\n', ' ', '#'] 0 hk hstop
  obtain rfl := Option.some.inj (hcapture.symm.trans hfound)
  exact ⟨hk, hstop, past, behind, hpass, hlength, hopened.symm, hlast.symm, hword.symm,
    hstyle.symm⟩

end Lexer

end EditorCore
