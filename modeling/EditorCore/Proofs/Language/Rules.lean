import EditorCore.Proofs.Language.Machine
import EditorCore.Proofs.Language.Ordinary
import EditorCore.Proofs.Style.Surroundings
import EditorCore.Proofs.Text.SmallLetters

/-!
# Runs over rule files

The highlighting of rule files knows only whether a comment is open and which token came
last, and of what follows a token it sees only whether a line break is next. A run over
some tokens is therefore the same in all surroundings that agree on these.
-/

namespace EditorCore

variable {text : List Char} {token : Token} {c d : Char}

namespace Rules

variable {previous : Option Token} {context context₁ context₂ : Context}
  {front middle tail behind₁ behind₂ : List Token}

theorem isOrderly_tokenizer : tokenizer.IsOrderly := by decide

/-- The characters that lead comments are no letters. -/
theorem opensComment_lowercase (token : Token) :
    tokenizer.opensComment (Text.lowercase token) = tokenizer.opensComment token := by
  have hleads : ∀ lead ∈ tokenizer.commentLeads,
      lead.leads (Text.lowercase token) = lead.leads token := by
    intro lead hlead
    have hchar : lead.char.isAlpha = false ∧ lead.char.toNat < 'a'.toNat := by
      revert lead
      decide
    rw [CommentLead.leads, Text.takeWhile_lowercase hchar.1 hchar.2]
    rfl
  rw [Tokenizer.opensComment, Bool.eq_iff_iff, List.any_eq_true, Tokenizer.opensComment,
    List.any_eq_true]
  exact exists_congr fun lead => and_congr_right fun hlead => by rw [hleads lead hlead]

/-- The words of all tables. -/
def words : List String := sections ++ comparisons ++ directives ++ architectures ++ actions

theorem mem_words_of_classify? {word : String} {category : Category}
    (h : classify? word = some category) : word ∈ words := by
  simp only [words, List.mem_append]
  simp only [classify?] at h
  split at h
  · next hmem => simp [hmem]
  · split at h
    · next hmem => simp [hmem]
    · split at h
      · next hmem => simp [hmem]
      · split at h
        · next hmem => simp [hmem]
        · split at h
          · next hmem => simp [hmem]
          · simp at h

/-- The words of the tables begin with a letter. -/
theorem isAlpha_of_mem_words : ∀ word ∈ words, word.toList.head?.any Char.isAlpha = true := by
  decide +kernel

/-- The tables are those of five categories. -/
theorem classify?_mem {word : String} {category : Category}
    (h : classify? word = some category) :
    category ∈ [Category.ruleSection, .comparison, .directive, .architecture, .keyword] := by
  simp only [classify?] at h
  repeat' split at h
  all_goals first | (obtain rfl := Option.some.inj h; decide) | simp at h

theorem styleByPlace_mem (word : Token) (previous : Option Token) (endsLine : Bool) :
    styleByPlace word previous endsLine ∈ [Category.ruleName, .variable, .plain] := by
  simp only [styleByPlace]
  repeat' split
  all_goals simp

theorem exists_cons_of_opensComment (hopens : tokenizer.opensComment token = true) :
    ∃ c cs, token = c :: cs ∧ (c = '/' ∨ c = ';') := by
  obtain ⟨lead, hmem, hhead⟩ := Tokenizer.exists_lead_of_opensComment hopens
  obtain ⟨cs, rfl⟩ := List.head?_eq_some_iff.1 hhead
  simp only [tokenizer, List.mem_cons, List.not_mem_nil, or_false] at hmem
  rcases hmem with rfl | rfl
  · exact ⟨'/', cs, rfl, .inl rfl⟩
  · exact ⟨';', cs, rfl, .inr rfl⟩

/-- A word that opens a comment is nothing else. -/
theorem styleOfWord_of_opensComment {word : Token} (hopens : tokenizer.opensComment word = true)
    (previous : Option Token) (endsLine : Bool) :
    styleOfWord word previous endsLine = .comment := by
  obtain ⟨c, cs, hword, hc⟩ := exists_cons_of_opensComment hopens
  have halpha : c.isAlpha = false := by rcases hc with rfl | rfl <;> rfl
  have hdigit : c.isDigit = false := by rcases hc with rfl | rfl <;> rfl
  have hopening : c ≠ '(' := by rintro rfl; simp at hc
  have hclosing : c ≠ ')' := by rintro rfl; simp at hc
  have hclass : classify? (String.ofList word) = none := by
    cases h : classify? (String.ofList word) with
    | none => rfl
    | some category =>
        have := isAlpha_of_mem_words _ (mem_words_of_classify? h)
        simp [hword, halpha] at this
  simp only [styleOfWord, hclass, hopens]
  simp [hword, Token.isNumber, hdigit, hopening, hclosing]

/-- Outside of comments, the tokens that are styled as comment are those that open one. -/
theorem styleOf_eq_comment_iff {endsLine : Bool} :
    styleOf token previous endsLine = .comment ↔ tokenizer.opensComment token = true := by
  rw [styleOf, ← opensComment_lowercase]
  refine ⟨fun h => ?_, fun h => styleOfWord_of_opensComment h previous endsLine⟩
  rw [styleOfWord] at h
  split at h
  · next hclass => simpa [h] using classify?_mem hclass
  · split at h
    · simp at h
    · split at h
      · simp at h
      · split at h
        · next hopens => exact hopens
        · have := styleByPlace_mem (Text.lowercase token) previous endsLine
          simp [h] at this

/-- There are no strings in rule files. -/
theorem styleOf_not_mem (token : Token) (previous : Option Token) (endsLine : Bool) :
    styleOf token previous endsLine ∉ [Category.string, .stringEnd] := by
  rw [styleOf, styleOfWord]
  split
  · next category hclass =>
      have hmem := classify?_mem hclass
      simp only [List.mem_cons, List.not_mem_nil, or_false] at hmem
      rcases hmem with rfl | rfl | rfl | rfl | rfl <;> decide
  · have hplace := styleByPlace_mem (Text.lowercase token) previous endsLine
    simp only [List.mem_cons, List.not_mem_nil, or_false] at hplace
    repeat' split
    · decide
    · decide
    · decide
    · rcases hplace with h | h | h <;> simp [h]

/-- Behind a token outside of comments, a comment is open just if the token is styled as one. -/
theorem endsInComment_concat_styleOf (hmem : token ∈ tokenizer.tokens text) (past : Styled)
    (previous : Option Token) (endsLine : Bool) :
    Styled.endsInComment (past ++ [(token, styleOf token previous endsLine)]) =
      decide (styleOf token previous endsLine = .comment) := by
  rw [Styled.endsInComment_concat]
  by_cases h : styleOf token previous endsLine = .comment
  · simp [h, Tokenizer.hasLineBreak_eq_false_of_opensComment isOrderly_tokenizer hmem
      (styleOf_eq_comment_iff.1 h)]
  · simp [h]

/--
A run over some tokens does not depend on what is behind them, if only it sees there whether
a line break is next. What it knows at the end is read off the styled tokens.
-/
theorem stylesFrom_append (past : Styled)
    (hview : endsLine context₁ behind₁ = endsLine context₂ behind₂)
    (hmem : ∀ token ∈ middle, token ∈ tokenizer.tokens text) :
    ∃ categories, categories.length = middle.length ∧
      stylesFrom context₁ past.endsInComment (past.getLast?.map (·.1)) (middle ++ behind₁) =
        categories ++ stylesFrom context₁ (Styled.endsInComment (past ++ middle.zip categories))
          ((past ++ middle.zip categories).getLast?.map (·.1)) behind₁ ∧
      stylesFrom context₂ past.endsInComment (past.getLast?.map (·.1)) (middle ++ behind₂) =
        categories ++ stylesFrom context₂ (Styled.endsInComment (past ++ middle.zip categories))
          ((past ++ middle.zip categories).getLast?.map (·.1)) behind₂ := by
  induction middle generalizing past with
  | nil => exact ⟨[], rfl, by simp, by simp⟩
  | cons token middle ih =>
      have hends : endsLine context₁ (middle ++ behind₁) =
          endsLine context₂ (middle ++ behind₂) := by
        cases middle with
        | nil => exact hview
        | cons next middle => rfl
      have ih := fun category => ih (past ++ [(token, category)])
        fun token hin => hmem token (List.mem_cons_of_mem _ hin)
      cases hcomment : past.endsInComment with
      | true =>
          obtain ⟨categories, hlength, hstyles₁, hstyles₂⟩ := ih .comment
          simp only [Styled.endsInComment_concat, List.getLast?_concat, Option.map_some,
            beq_self_eq_true, Bool.true_and, List.append_assoc] at hstyles₁ hstyles₂
          refine ⟨.comment :: categories, by simp [hlength], ?_, ?_⟩
          · simp [stylesFrom, hstyles₁]
          · simp [stylesFrom, hstyles₂]
      | false =>
          let category := styleOf token (past.getLast?.map (·.1))
            (endsLine context₂ (middle ++ behind₂))
          obtain ⟨categories, hlength, hstyles₁, hstyles₂⟩ := ih category
          have hopen : Styled.endsInComment (past ++ [(token, category)]) =
              decide (category = .comment) :=
            endsInComment_concat_styleOf (hmem token List.mem_cons_self) past _ _
          simp only [hopen, List.getLast?_concat, Option.map_some, List.append_assoc]
            at hstyles₁ hstyles₂
          refine ⟨category :: categories, by simp [hlength], ?_, ?_⟩
          · simp [stylesFrom, hends, hstyles₁, category]
          · simp [stylesFrom, hstyles₂, category]

/-- The first character behind a range tells whether its last token ends the line. -/
theorem endsLine_around (past : Styled) (hne : ∀ token ∈ tail, token ≠ []) :
    endsLine (Context.around past tail.flatten) [] = endsLine {} tail := by
  cases tail with
  | nil => rfl
  | cons next tail =>
      obtain ⟨c, cs, rfl⟩ := List.exists_cons_of_ne_nil (hne next List.mem_cons_self)
      rfl

/--
Highlighting is independent of where it is interrupted: the styles of some tokens in the
middle of a rule file are those that come out from what is captured there.
-/
theorem styles_resume (htokens : tokenizer.tokens text = front ++ (middle ++ tail)) :
    ∃ before inside behind, before.length = front.length ∧ inside.length = middle.length ∧
      styles {} (front ++ (middle ++ tail)) = before ++ (inside ++ behind) ∧
      styles (Context.around (front.zip before) tail.flatten) middle = inside := by
  have hmem : ∀ token ∈ front ++ (middle ++ tail), token ∈ tokenizer.tokens text := by
    rw [htokens]
    exact fun _ => id
  have hfront : ∀ token ∈ front, token ∈ tokenizer.tokens text := fun token hin =>
    hmem token (by simp [hin])
  have hmiddle : ∀ token ∈ middle, token ∈ tokenizer.tokens text := fun token hin =>
    hmem token (by simp [hin])
  have htail : ∀ token ∈ tail, token ≠ [] := fun token hin =>
    Tokenizer.ne_nil_of_mem_tokens (hmem token (by simp [hin]))
  obtain ⟨before, hbefore, hstyles, -⟩ := stylesFrom_append []
    (rfl : endsLine {} (middle ++ tail) = endsLine {} (middle ++ tail)) hfront
  obtain ⟨inside, hinside, hrange, hrest⟩ := stylesFrom_append (front.zip before)
    (endsLine_around (front.zip before) htail) hmiddle
  refine ⟨before, inside, stylesFrom {}
    (Styled.endsInComment (front.zip before ++ middle.zip inside))
    ((front.zip before ++ middle.zip inside).getLast?.map (·.1)) tail, hbefore, hinside, ?_, ?_⟩
  · rw [List.nil_append] at hstyles
    exact hstyles.trans (congrArg (before ++ ·) hrest)
  · simpa [styles, Context.around, stylesFrom] using hrange

end Rules

end EditorCore
