import EditorCore.Proofs.Language.Pass
import Mathlib.Data.List.DropRight

/-!
# What an edit leaves alone

Nothing that stands in front of a line can tell what comes behind its start. And where a
line comes out with the same styles as before, and leaves no string open, everything
behind it has the styles that it had.
-/

namespace EditorCore

variable {g : Grammar} {text : List Char} {token token₁ token₂ : Token} {after₁ after₂ : List Char}
  {past : Styled}

/-! ### Blanks with a line break -/

theorem Token.isAlpha_eq_false_of_isBlank {c : Char} (h : Text.isBlank c = true) :
    c.isAlpha = false := by
  by_contra halpha
  have hword : isWordChar c = true := by simp_all [isWordChar, Char.isAlphanum]
  simp [isBlank_eq_false_of_isWordChar hword] at h

theorem Text.lowercase_of_isBlank (h : token.isBlank = true) : lowercase token = token :=
  lowercase_of_isSmall fun c hc => isSmall_of_isBlank (List.all_eq_true.1 h c hc)

namespace Grammar

/-- What is open in front of a blank that goes over the end of a line decides its style. -/
theorem step_of_hasLineBreak (hg : g.IsOrdinary) {context : Context} {s : State}
    {following : List Token} (hblank : token.isBlank = true) (hbreak : token.hasLineBreak = true)
    (hname : s.name = none) : (g.step context s token following).1 =
      if s.quote.isSome then if s.escaped then .string else .plain
        else if s.inComment then .comment else .plain := by
  have hbackslash : token ≠ ['\\'] := by
    rintro rfl
    simp [Token.hasLineBreak, Text.hasLineBreak, Text.isLineBreak] at hbreak
  cases hquote : s.quote with
  | some quote =>
      cases hescaped : s.escaped with
      | true => simp [step, hname, hquote, stringStyle, hescaped]
      | false => simp [step, hname, hquote, stringStyle, hescaped, hbackslash, hbreak]
  | none =>
      cases hcomment : s.inComment with
      | true => simp [step, hname, hquote, hcomment]
      | false => simp [step, hname, hquote, hcomment, hg.stepCode_of_isBlank _ _ _ hblank]

theorem styles_of_isBlank (hg : g.IsOrdinary) {context : Context} (hblank : token.isBlank = true)
    (hbreak : token.hasLineBreak = true) : g.styles context [token] =
      [if context.openQuote.isSome then if context.escaped then .string else .plain
        else if context.inComment then .comment else .plain] := by
  have hname : (g.start context [token]).name = none := by
    simp [start, announced?, hblank]
  rw [styles, stylesFrom_cons, step_of_hasLineBreak hg hblank hbreak hname]
  rfl

end Grammar

namespace Rules

theorem classify?_of_isBlank (hblank : token.isBlank = true) :
    classify? (String.ofList token) = none := by
  have hwords : ∀ word ∈ words, word.toList.any (!Text.isBlank ·) = true := by decide +kernel
  cases h : classify? (String.ofList token) with
  | none => rfl
  | some category =>
      obtain ⟨c, hc, hnot⟩ := List.any_eq_true.1 (hwords _ (mem_words_of_classify? h))
      rw [Token.isBlank, List.all_eq_true] at hblank
      simp [hblank c (by simpa using hc)] at hnot

theorem styles_of_isBlank {context : Context} (hblank : token.isBlank = true)
    (hnext : context.nextBreaksLine = false) : styles context [token] =
      [if context.inComment then .comment
        else if context.previous = some ['?'] then .variable else .plain] := by
  have hnot : ∀ c, Text.isBlank c = false → c ∉ token := by
    intro c hc hmem
    rw [Token.isBlank, List.all_eq_true] at hblank
    simp [hblank c hmem] at hc
  have hsingle : ∀ c, Text.isBlank c = false → token ≠ [c] := by
    rintro c hc rfl
    exact hnot c hc List.mem_cons_self
  have hopens := Tokenizer.opensComment_of_head? isOrderly_tokenizer (Token.head?_of_isBlank hblank)
  cases hcomment : context.inComment with
  | true => simp [styles, stylesFrom, hcomment]
  | false =>
      simp [styles, stylesFrom, hcomment, styleOf, styleOfWord, styleByPlace, endsLine, hnext,
        hopens, Text.lowercase_of_isBlank hblank, classify?_of_isBlank hblank,
        Token.isNumber_eq_false_of_isBlank hblank, hsingle '(' rfl, hsingle ')' rfl,
        hsingle '?' rfl, hnot '?' rfl]

end Rules

/-- The style of a blank that goes over the end of a line is known from what is before it. -/
theorem Lexer.styles_of_isBlank (language : Language) (past : Styled)
    (hblank₁ : token₁.isBlank = true) (hbreak₁ : token₁.hasLineBreak = true)
    (hblank₂ : token₂.isBlank = true) (hbreak₂ : token₂.hasLineBreak = true)
    (hafter₁ : ∀ c ∈ after₁.head?, Text.isBlank c = false)
    (hafter₂ : ∀ c ∈ after₂.head?, Text.isBlank c = false) :
    (ofLanguage language).styles (Context.around past after₁) [token₁] =
      (ofLanguage language).styles (Context.around past after₂) [token₂] := by
  have hnext : ∀ after : List Char, (∀ c ∈ after.head?, Text.isBlank c = false) →
      (Context.around past after).nextBreaksLine = false := by
    intro after hafter
    cases after with
    | nil => rfl
    | cons c cs =>
        have hc := hafter c rfl
        by_contra hbreak
        simp [Text.isBlank_of_isLineBreak (by simpa [Context.nextBreaksLine, Context.around]
          using hbreak)] at hc
  cases language with
  | text =>
      simp [ofLanguage, styles, Plain.styles, Plain.styleOf,
        Token.isNumber_eq_false_of_isBlank hblank₁, Token.isNumber_eq_false_of_isBlank hblank₂]
  | python =>
      simp only [ofLanguage, styles,
        Grammar.styles_of_isBlank Python.grammar_isOrdinary hblank₁ hbreak₁,
        Grammar.styles_of_isBlank Python.grammar_isOrdinary hblank₂ hbreak₂]
      rfl
  | c =>
      simp only [ofLanguage, styles, Grammar.styles_of_isBlank C.grammar_isOrdinary hblank₁ hbreak₁,
        Grammar.styles_of_isBlank C.grammar_isOrdinary hblank₂ hbreak₂]
      rfl
  | rules =>
      simp only [ofLanguage, styles, Rules.styles_of_isBlank hblank₁ (hnext after₁ hafter₁),
        Rules.styles_of_isBlank hblank₂ (hnext after₂ hafter₂)]
      rfl

/-! ### The text in front of a line -/

/-- Whatever comes behind blanks with a line break is not seen in front of them. -/
theorem Context.around_append (past : Styled) {blanks : List Char}
    (hbreak : Text.hasLineBreak blanks = true) (back : List Char) :
    around past (blanks ++ back) = around past blanks := by
  obtain ⟨c, hc, hcbreak⟩ := List.any_eq_true.1 hbreak
  have hne : blanks ≠ [] := List.ne_nil_of_mem hc
  have hsome : (blanks.find? fun c => Text.isLineBreak c || !Text.isBlank c).isSome :=
    List.find?_isSome.2 ⟨c, hc, by simp [hcbreak]⟩
  obtain ⟨d, hfind⟩ := Option.isSome_iff_exists.1 hsome
  simp [around, List.head?_append_of_ne_nil _ hne, List.find?_append, hfind]

/-- Behind the blanks at the start of a text, the next character is none. -/
theorem Text.isBlank_head?_dropWhile (text : List Char) :
    ∀ c ∈ (text.dropWhile isBlank).head?, isBlank c = false := by
  intro c hc
  have := List.head?_dropWhile_not isBlank text
  rwa [Option.mem_def.1 hc] at this

/-- A text is some text that ends without blanks, and blanks. -/
theorem Text.exists_blanks (text : List Char) : ∃ core blanks, text = core ++ blanks ∧
    Token.isBlank blanks = true ∧ ∀ c ∈ core.getLast?, isBlank c = false := by
  refine ⟨text.rdropWhile isBlank, text.rtakeWhile isBlank,
    List.rdropWhile_append_rtakeWhile.symm, ?_, fun c hc => ?_⟩
  · rw [Token.isBlank, List.all_eq_true]
    exact fun c hc => List.mem_rtakeWhile_imp hc
  · obtain ⟨hne, rfl⟩ := List.mem_getLast?_eq_getLast hc
    simpa using List.rdropWhile_last_not isBlank text hne

/-- Where a line starts, the text in front of it ends with blanks that have a line break. -/
theorem Text.exists_blanks_of_isLineBreak (hne : text ≠ [])
    (hbreak : ∀ c ∈ text.getLast?, isLineBreak c = true) : ∃ core blanks, text = core ++ blanks ∧
      Token.isBlank blanks = true ∧ Token.hasLineBreak blanks = true ∧
      ∀ c ∈ core.getLast?, isBlank c = false := by
  obtain ⟨core, blanks, rfl, hblank, hcore⟩ := exists_blanks text
  refine ⟨core, blanks, rfl, hblank, ?_, hcore⟩
  rcases blanks.eq_nil_or_concat' with rfl | ⟨front, c, rfl⟩
  · rw [List.append_nil] at hne hbreak
    have hlast := List.getLast?_eq_some_getLast hne
    have hfalse := hcore _ hlast
    rw [isBlank_of_isLineBreak (hbreak _ hlast)] at hfalse
    simp at hfalse
  · exact List.any_eq_true.2 ⟨c, by simp, hbreak c (by simp)⟩

namespace Lexer

variable {front core rest : List Char}

/-- The pass over a text comes to a stop on both sides of blanks with a line break. -/
theorem exists_range_blanks (language : Language)
    (hcore : ∀ c ∈ core.getLast?, Text.isBlank c = false) (hblank : token.isBlank = true)
    (hbreak : token.hasLineBreak = true) (hrest : ∀ c ∈ rest.head?, Text.isBlank c = false) :
    ∃ (past : Styled) (category : Category) (behind : Styled),
      past = (ofLanguage language).range (Context.around [] token) core ∧
      (ofLanguage language).styles (Context.around past rest) [token] = [category] ∧
      (ofLanguage language).range {} (core ++ (token ++ rest)) =
        past ++ (token, category) :: behind := by
  have ht := isOrderly_ofLanguage language
  have hall := List.all_eq_true.1 hblank
  have hne : token ≠ [] := by
    rintro rfl
    simp [Token.hasLineBreak, Text.hasLineBreak] at hbreak
  have hfirst : (ofLanguage language).tokenizer.Cuts core (token ++ rest) := by
    refine Tokenizer.cuts_of_isBlank_ne ht fun last hlast next hnext => ?_
    rw [List.head?_append_of_ne_nil _ hne] at hnext
    simp [hcore last hlast, hall next (List.mem_of_mem_head? hnext)]
  have hsecond : (ofLanguage language).tokenizer.Cuts (core ++ token) rest := by
    refine Tokenizer.cuts_of_isBlank ht (fun c hc => ?_) hrest
    rw [List.getLast?_append_of_ne_nil _ hne] at hc
    exact hall c (List.mem_of_mem_getLast? hc)
  obtain ⟨past, behind, hpast, -, hpass⟩ := range_split language hfirst hsecond
  obtain ⟨category, hcategory⟩ : ∃ category,
      (ofLanguage language).styles (Context.around past rest) [token] = [category] :=
    List.length_eq_one_iff.1 (by simp)
  refine ⟨past, category, behind, ?_, hcategory, ?_⟩
  · rw [hpast, Context.around_append [] hbreak]
  · rw [hpass, range, Tokenizer.tokens_of_isBlank ht hne hblank, hcategory]
    rfl

/-- What comes behind the start of a line does not change the styles in front of it. -/
theorem take_byteStyles (language : Language)
    (hfront : ∀ c ∈ front.getLast?, Text.isLineBreak c = true) (back₁ back₂ : List Char) :
    ((ofLanguage language).byteStyles (front ++ back₁)).take (Text.byteLength front) =
      ((ofLanguage language).byteStyles (front ++ back₂)).take (Text.byteLength front) := by
  rcases eq_or_ne front [] with rfl | hne
  · simp
  obtain ⟨core, blanks, rfl, hblank, hbreak, hcore⟩ := Text.exists_blanks_of_isLineBreak hne hfront
  let past := (ofLanguage language).range (Context.around [] blanks) core
  obtain ⟨category, hcategory⟩ : ∃ category,
      (ofLanguage language).styles (Context.around past []) [blanks] = [category] :=
    List.length_eq_one_iff.1 (by simp)
  suffices h : ∀ back : List Char, ((ofLanguage language).byteStyles (core ++ blanks ++ back)).take
      (Text.byteLength (core ++ blanks)) =
        past.bytes ++ List.replicate (Text.byteLength blanks) category by rw [h, h]
  intro back
  -- the token of the blanks goes on through the blanks that come behind
  let more := back.takeWhile Text.isBlank
  let rest := back.dropWhile Text.isBlank
  have htext : core ++ blanks ++ back = core ++ ((blanks ++ more) ++ rest) := by
    rw [List.append_assoc, List.append_assoc, List.takeWhile_append_dropWhile]
  have hall : Token.isBlank (blanks ++ more) = true := by
    have hmore : more.all Text.isBlank = true :=
      List.all_eq_true.2 fun c hc => List.mem_takeWhile_imp hc
    rw [Token.isBlank] at hblank ⊢
    rw [List.all_append, hblank, hmore, Bool.true_and]
  have hover : Token.hasLineBreak (blanks ++ more) = true := by
    simp only [Token.hasLineBreak, Text.hasLineBreak] at hbreak ⊢
    rw [List.any_append, hbreak, Bool.true_or]
  have hrest : ∀ c ∈ rest.head?, Text.isBlank c = false := Text.isBlank_head?_dropWhile back
  obtain ⟨_, style, behind, rfl, hstyle, hpass⟩ :=
    exists_range_blanks language hcore hall hover hrest
  rw [Context.around_append [] hbreak] at hstyle hpass
  have hsame : style = category := by
    have hnil : ∀ c ∈ ([] : List Char).head?, Text.isBlank c = false := by simp
    have hblanks := styles_of_isBlank language past hall hover hblank hbreak hrest hnil
    rw [hstyle, hcategory] at hblanks
    exact (List.cons.inj hblanks).1
  rw [htext, byteStyles_eq, hpass, hsame, Styled.bytes_append, Styled.bytes_cons,
    Text.byteLength_append blanks, ← List.replicate_append_replicate, List.append_assoc,
    ← List.append_assoc past.bytes]
  exact List.take_left' (by simp [past])

/-- The same, up to any offset in front of the line. -/
theorem take_byteStyles_of_le (language : Language)
    (hfront : ∀ c ∈ front.getLast?, Text.isLineBreak c = true) (back₁ back₂ : List Char) {n : Nat}
    (hn : n ≤ Text.byteLength front) :
    ((ofLanguage language).byteStyles (front ++ back₁)).take n =
      ((ofLanguage language).byteStyles (front ++ back₂)).take n := by
  have := congrArg (List.take n) (take_byteStyles language hfront back₁ back₂)
  rwa [List.take_take, List.take_take, Nat.min_eq_left hn] at this

/--
Text below a line break never shows above it: however the text goes on there, each byte above
has the same style.
-/
theorem styles_above_lineBreak (language : Language) {above : List Char}
    (habove : ∀ c ∈ above.getLast?, Text.isLineBreak c = true) (below₁ below₂ : List Char) :
    ∃ categories : List Category, categories.length = Text.byteLength above ∧
      categories <+: Run.styles ((ofLanguage language).runsOfText (above ++ below₁)) ∧
      categories <+: Run.styles ((ofLanguage language).runsOfText (above ++ below₂)) := by
  let categories := ((ofLanguage language).byteStyles (above ++ below₁)).take
    (Text.byteLength above)
  have hsame : categories = ((ofLanguage language).byteStyles (above ++ below₂)).take
      (Text.byteLength above) := take_byteStyles language habove below₁ below₂
  refine ⟨categories, ?_, ?_, ?_⟩
  · rw [List.length_take, length_byteStyles, Text.byteLength_append]
    omega
  · exact List.take_prefix _ _
  · rw [hsame]
    exact List.take_prefix _ _

/-- What is below an escaped line break, inside a string, does not change the string above. -/
theorem styles_above_escaped_lineBreak :
    (∀ c ∈ ['"', '\\', '\n'].getLast?, Text.isLineBreak c = true) ∧
    ∃ categories : List Category, categories.length = 3 ∧
      categories <+: Run.styles ((ofLanguage .python).runsOfText ['"', '\\', '\n', ' ', '"']) ∧
      categories <+: Run.styles ((ofLanguage .python).runsOfText ['"', '\\', '\n', '#']) := by
  have habove : ∀ c ∈ ['"', '\\', '\n'].getLast?, Text.isLineBreak c = true := by
    simp [Text.isLineBreak]
  exact ⟨habove, styles_above_lineBreak .python habove [' ', '"'] ['#']⟩

end Lexer

/-! ### The text behind a line -/

namespace Styled

variable {past₁ past₂ middle middle₁ middle₂ : Styled}

/-- Styled tokens are known from the styles of their bytes. -/
theorem eq_of_bytes_eq (htokens : middle₁.map (·.1) = middle₂.map (·.1))
    (hne : ∀ p ∈ middle₁, p.1 ≠ []) (hbytes : middle₁.bytes = middle₂.bytes) :
    middle₁ = middle₂ := by
  induction middle₁ generalizing middle₂ with
  | nil => exact (List.map_eq_nil_iff.1 htokens.symm).symm
  | cons p middle₁ ih =>
      obtain ⟨⟨token, category⟩, middle₂, rfl, htoken, hmore⟩ := List.map_eq_cons_iff.1 htokens.symm
      obtain ⟨_, style⟩ := p
      obtain rfl : token = _ := htoken
      have hpos := Text.byteLength_pos (hne (token, style) List.mem_cons_self)
      rw [bytes_cons, bytes_cons] at hbytes
      obtain ⟨hfirst, hrest⟩ := List.append_inj hbytes (by simp)
      have hstyle : style = category := by
        rw [List.replicate_inj] at hfirst
        exact hfirst.2.resolve_left (by omega)
      rw [hstyle, ih hmore.symm (fun p hp => hne p (List.mem_cons_of_mem _ hp)) hrest]

/-- Where the last styles are the same and no string is open, a range sees the same before it. -/
theorem around_append_left (hword : ∃ p ∈ middle, p.1.isBlank = false)
    (hlast : middle.getLast?.map (·.2) ≠ some .string) (after : List Char) :
    Context.around (past₁ ++ middle) after = Context.around (past₂ ++ middle) after := by
  obtain ⟨p, hp, hblank⟩ := hword
  have hend : ∀ past : Styled, (past ++ middle).getLast? = middle.getLast? := fun past =>
    List.getLast?_append_of_ne_nil _ (List.ne_nil_of_mem hp)
  have hcomment : ∀ past : Styled, endsInComment (past ++ middle) = endsInComment middle :=
    fun past => by rw [endsInComment, hend, endsInComment]
  have hfound : ∀ past : Styled, lastWord? (past ++ middle) = lastWord? middle := by
    intro past
    have hsome : (middle.reverse.find? (!·.1.isBlank)).isSome :=
      List.find?_isSome.2 ⟨p, List.mem_reverse.2 hp, by simp [hblank]⟩
    rw [lastWord?, List.reverse_append, List.find?_append, Option.or_of_isSome hsome, lastWord?]
  have hclosed : ∀ past : Styled, openString (past ++ middle) = [] := by
    intro past
    rcases middle.eq_nil_or_concat' with rfl | ⟨front, ⟨token, category⟩, rfl⟩
    · simp at hp
    · rw [← List.append_assoc, openString_concat, if_neg]
      rintro rfl
      simp at hlast
  simp [Context.around, hend, hcomment, hfound, hclosed]

end Styled

namespace Lexer

variable {before before₁ before₂ line rest : List Char}

/-- A cut in front of a line and one behind it give the styles of the line and of the rest. -/
theorem exists_range_line (language : Language)
    (hfirst : (ofLanguage language).tokenizer.Cuts before (line ++ rest))
    (hsecond : (ofLanguage language).tokenizer.Cuts (before ++ line) rest) :
    ∃ past middle : Styled, middle.map (·.1) = (ofLanguage language).tokenizer.tokens line ∧
      (((ofLanguage language).byteStyles (before ++ (line ++ rest))).drop
        (Text.byteLength before)).take (Text.byteLength line) = middle.bytes ∧
      ((ofLanguage language).byteStyles (before ++ (line ++ rest))).drop
        (Text.byteLength (before ++ line)) =
          ((ofLanguage language).range (Context.around (past ++ middle) []) rest).bytes := by
  obtain ⟨past, behind, hpast, -, hpass⟩ := range_split language hfirst hsecond
  have hthird : (ofLanguage language).tokenizer.Cuts (before ++ line) (rest ++ []) := by
    rwa [List.append_nil]
  obtain ⟨front, tail, hfront, htail, hlast⟩ := range_split language hthird
    (Tokenizer.cuts_nil_right _ _)
  let middle := (ofLanguage language).range (Context.around past rest) line
  have hnil : tail.bytes = [] := by
    rw [← List.length_eq_zero_iff, Styled.length_bytes, htail, Text.byteLength_nil]
  rw [List.append_nil, List.append_assoc] at hlast
  obtain rfl : front = past ++ middle := by
    have hsame := hlast.symm.trans hpass
    rw [← List.append_assoc past] at hsame
    refine (List.append_inj hsame ?_).1
    have hcount := congrArg List.length (hfirst.of_append hsecond)
    rw [hfront, hpast, List.length_append]
    simpa [middle, range] using hcount
  refine ⟨past, middle, map_fst_range _ _ _, ?_, ?_⟩
  · have hbefore : past.text = before := by rw [hpast, text_range]
    have := slice_byteStyles hpass
    rwa [hbefore, text_range] at this
  · rw [byteStyles_eq, hlast, ← List.append_assoc, Styled.bytes_append, hnil, List.append_nil,
      Styled.bytes_append, List.drop_left' (by simp [hpast, middle])]

/--
Behind a line that has a word and leaves no string open, the styles are known from those of
the line.
-/
theorem drop_byteStyles (language : Language)
    (hfirst₁ : (ofLanguage language).tokenizer.Cuts before₁ (line ++ rest))
    (hsecond₁ : (ofLanguage language).tokenizer.Cuts (before₁ ++ line) rest)
    (hfirst₂ : (ofLanguage language).tokenizer.Cuts before₂ (line ++ rest))
    (hsecond₂ : (ofLanguage language).tokenizer.Cuts (before₂ ++ line) rest)
    (hword : ∃ c ∈ line, Text.isBlank c = false)
    (hsame : (((ofLanguage language).byteStyles (before₁ ++ (line ++ rest))).drop
        (Text.byteLength before₁)).take (Text.byteLength line) =
      (((ofLanguage language).byteStyles (before₂ ++ (line ++ rest))).drop
        (Text.byteLength before₂)).take (Text.byteLength line))
    (hclosed : ((((ofLanguage language).byteStyles (before₁ ++ (line ++ rest))).drop
        (Text.byteLength before₁)).take (Text.byteLength line)).getLast? ≠ some .string) :
    ((ofLanguage language).byteStyles (before₁ ++ (line ++ rest))).drop
        (Text.byteLength (before₁ ++ line)) =
      ((ofLanguage language).byteStyles (before₂ ++ (line ++ rest))).drop
        (Text.byteLength (before₂ ++ line)) := by
  obtain ⟨past₁, middle, htokens₁, hline₁, hrest₁⟩ := exists_range_line language hfirst₁ hsecond₁
  obtain ⟨past₂, middle₂, htokens₂, hline₂, hrest₂⟩ := exists_range_line language hfirst₂ hsecond₂
  have hne : ∀ p ∈ middle, p.1 ≠ [] := fun p hp =>
    Tokenizer.ne_nil_of_mem_tokens (htokens₁ ▸ List.mem_map_of_mem hp)
  obtain rfl : middle = middle₂ := by
    refine Styled.eq_of_bytes_eq (htokens₁.trans htokens₂.symm) hne ?_
    rw [← hline₁, ← hline₂, hsame]
  rw [hline₁, Styled.getLast?_bytes hne] at hclosed
  obtain ⟨p, hp, hblank⟩ : ∃ p ∈ middle, p.1.isBlank = false := by
    obtain ⟨c, hc, hcword⟩ := hword
    rw [← (ofLanguage language).tokenizer.flatten_tokens line, ← htokens₁, List.mem_flatten] at hc
    obtain ⟨token, htoken, hc⟩ := hc
    obtain ⟨p, hp, rfl⟩ := List.mem_map.1 htoken
    refine ⟨p, hp, ?_⟩
    by_contra hblank
    rw [Bool.not_eq_false, Token.isBlank, List.all_eq_true] at hblank
    simp [hblank c hc] at hcword
  rw [hrest₁, hrest₂, Styled.around_append_left ⟨p, hp, hblank⟩ hclosed]

end Lexer

end EditorCore
