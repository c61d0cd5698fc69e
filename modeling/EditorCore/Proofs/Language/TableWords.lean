import EditorCore.Proofs.Language.Pass

/-!
# The words of the tables in a text

A word of the tables that stands by itself in a rule file has the style of its table, unless
it is spelled with a hyphen: a hyphen is always a token of its own, so that such a word is
never looked up as a whole.
-/

namespace EditorCore.Rules

variable {text before word after : List Char} {token : Token} {category : Category}
  {past later : Styled}

/-! ### What the pass says about one token -/

/-- A token of a comment is styled so, any other one by itself and its neighbours. -/
theorem category_of_range (h : Lexer.rules.range {} text = past ++ (token, category) :: later) :
    category = if past.endsInComment then .comment
      else styleOf token (past.getLast?.map (·.1)) (endsLine {} (later.map (·.1))) := by
  have htokens : tokenizer.tokens text = past.map (·.1) ++ token :: later.map (·.1) := by
    have := congrArg (List.map (·.1)) h
    rwa [Lexer.map_fst_range, List.map_append, List.map_cons] at this
  have hstyles : styles {} (tokenizer.tokens text) =
      past.map (·.2) ++ category :: later.map (·.2) := by
    have := congrArg (List.map (·.2)) h
    rwa [Lexer.map_snd_range, List.map_append, List.map_cons] at this
  have hmem : ∀ token ∈ past.map (·.1), token ∈ tokenizer.tokens text := fun token hin => by
    rw [htokens]
    exact List.mem_append_left _ hin
  obtain ⟨categories, hlength, hrun, -⟩ := stylesFrom_append []
    (rfl : endsLine {} (token :: later.map (·.1)) = endsLine {} (token :: later.map (·.1))) hmem
  rw [htokens, styles] at hstyles
  have hsplit := hstyles.symm.trans hrun
  obtain ⟨hbefore, hnext⟩ := List.append_inj hsplit (by simp [hlength])
  have hpast : (past.map (·.1)).zip categories = past := by
    rw [← hbefore, ← List.unzip_fst, ← List.unzip_snd, List.zip_unzip]
  rw [List.nil_append, hpast, stylesFrom] at hnext
  split at hnext
  · next hopen => rw [if_pos hopen, (List.cons.inj hnext).1]
  · next hopen => rw [if_neg hopen, (List.cons.inj hnext).1]

/-- If a comment is open, a lead stands before the place with no line break in between. -/
theorem exists_lead_of_endsInComment (h : Lexer.rules.range {} text = past ++ later)
    (hopen : past.endsInComment = true) :
    ∃ front lead inside, past.map (·.1) = front ++ lead :: inside ∧
      tokenizer.opensComment lead = true ∧ ∀ token ∈ inside, token.hasLineBreak = false := by
  induction past using List.reverseRecOn generalizing later with
  | nil => simp [Styled.endsInComment] at hopen
  | append_singleton past p ih =>
      obtain ⟨token, category⟩ := p
      rw [List.append_assoc, List.singleton_append] at h
      rw [Styled.endsInComment_concat, Bool.and_eq_true, beq_iff_eq, Bool.not_eq_true'] at hopen
      obtain ⟨hcategory, hbreak⟩ := hopen
      have hstyle := category_of_range h
      rw [hcategory] at hstyle
      rw [List.map_append, List.map_singleton]
      split at hstyle
      · next hopen =>
          obtain ⟨front, lead, inside, hpast, hlead, hinside⟩ := ih h hopen
          refine ⟨front, lead, inside ++ [token], by simp [hpast], hlead, ?_⟩
          simpa [or_imp, forall_and, hbreak] using hinside
      · exact ⟨past.map (·.1), token, [], rfl, styleOf_eq_comment_iff.1 hstyle.symm, by simp⟩

/-- A place behind a text is inside of a comment. -/
def CommentOpen (before : List Char) : Prop :=
  ∃ front lead inside, tokenizer.tokens before = front ++ lead :: inside ∧
    tokenizer.opensComment lead = true ∧ ∀ token ∈ inside, token.hasLineBreak = false

/-! ### The words -/

/-- The words are made of letters and underscores in small letters, and hyphens between them. -/
theorem words_spec : ∀ word ∈ words, Text.lowercase word.toList = word.toList ∧
    (∀ c ∈ word.toList, Token.isWordChar c = true ∨ c = '-') ∧
    (∀ c ∈ word.toList.head?, Token.isWordChar c = true) ∧
    (∀ c ∈ word.toList.getLast?, Token.isWordChar c = true) := by
  have h : words.all (fun word => Text.lowercase word.toList == word.toList &&
      word.toList.all (fun c => Token.isWordChar c || c == '-') &&
      word.toList.head?.toList.all Token.isWordChar &&
      word.toList.getLast?.toList.all Token.isWordChar) = true := by decide +kernel
  simpa only [List.all_eq_true, Bool.and_eq_true, Bool.or_eq_true, beq_iff_eq, and_assoc,
    Option.mem_toList, Option.mem_def] using h

/-- Where a word can begin: at the start of the text, behind a blank, or behind a parenthesis. -/
def BeginsWord (before : List Char) : Prop :=
  ∀ c ∈ before.getLast?, Text.isBlank c = true ∨ c = '('

/-- Where a word can end. -/
def EndsWord (after : List Char) : Prop :=
  ∀ c ∈ after.head?, Text.isBlank c = true ∨ c = ')'

theorem ne_nil_of_mem_words (hmem : String.ofList word ∈ words) : word ≠ [] := by
  rintro rfl
  revert hmem
  decide +kernel

theorem styleOf_of_classify? (hclass : classify? (String.ofList word) = some category)
    (previous : Option Token) (endsLine : Bool) : styleOf word previous endsLine = category := by
  have hlower := (words_spec _ (mem_words_of_classify? hclass)).1
  rw [String.toList_ofList] at hlower
  simp only [styleOf, styleOfWord, hlower, hclass]

/-- A hyphen is plain unless it comes right behind a question mark. -/
theorem styleOf_hyphen {previous : Option Token} (h : previous ≠ some ['?']) (endsLine : Bool) :
    styleOf ['-'] previous endsLine = .plain := by
  have hclass : classify? (String.ofList (Text.lowercase ['-'])) = none := by decide +kernel
  have hopens : tokenizer.opensComment (Text.lowercase ['-']) = false := by decide
  have hlower : Text.lowercase ['-'] = ['-'] := by decide
  simp only [styleOf, styleOfWord, hclass, hopens]
  simp [hlower, styleByPlace, Token.isNumber, h]

/-- A word that stands by itself is cut off on both sides. -/
theorem cuts_around_word (hmem : String.ofList word ∈ words) (hbegins : BeginsWord before)
    (hends : EndsWord after) : tokenizer.Cuts before (word ++ after) ∧
      tokenizer.Cuts (before ++ word) after := by
  obtain ⟨-, -, hfirst, hlast⟩ := words_spec _ hmem
  rw [String.toList_ofList] at hfirst hlast
  have hne := ne_nil_of_mem_words hmem
  -- what is next to the word is of another class than the characters of words
  have hclass : ∀ c d : Char, Token.isWordChar c = true →
      (Text.isBlank d = true ∨ d = '(' ∨ d = ')') →
      tokenizer.classOf c ≠ tokenizer.classOf d := by
    intro c d hc hd
    rw [Tokenizer.classOf_eq_word_iff.2 hc, ne_comm, ne_eq, Tokenizer.classOf_eq_word_iff]
    rintro hword
    rcases hd with hblank | rfl | rfl
    · simp [Token.isBlank_eq_false_of_isWordChar hword] at hblank
    · simp [Token.isWordChar] at hword
    · simp [Token.isWordChar] at hword
  constructor
  · refine Tokenizer.cuts_of_classOf_ne isOrderly_tokenizer fun last hl next hn => ?_
    rw [List.head?_append_of_ne_nil _ hne] at hn
    refine (hclass next last (hfirst next hn) ?_).symm
    exact (hbegins last hl).imp_right .inl
  · refine Tokenizer.cuts_of_classOf_ne isOrderly_tokenizer fun last hl next hn => ?_
    rw [List.getLast?_append_of_ne_nil _ hne] at hl
    exact hclass last next (hlast last hl) ((hends next hn).imp_right .inr)

/-- A hyphen cuts a text behind word characters, and is a token by itself. -/
theorem exists_tokens_of_hyphen {front back : List Char} (hne : front ≠ [])
    (hfront : ∀ c ∈ front, Token.isWordChar c = true) :
    ∃ rest, tokenizer.tokens (front ++ '-' :: back) = front :: ['-'] :: rest := by
  have ht := isOrderly_tokenizer
  have hhyphen : tokenizer.classOf '-' = .single := by decide
  have hcut : tokenizer.Cuts front ('-' :: back) := by
    refine Tokenizer.cuts_of_classOf_ne ht fun last hl next hn => ?_
    obtain rfl := Option.some.inj hn
    rw [Tokenizer.classOf_eq_word_iff.2 (hfront last (List.mem_of_mem_getLast? hl)), hhyphen]
    simp
  obtain ⟨token, rest, htext, htakes⟩ := tokenizer.exists_takes (List.cons_ne_nil '-' back)
  have htokens : tokenizer.tokens ('-' :: back) = token :: tokenizer.tokens rest := by
    rw [htext, htakes.tokens_eq]
  have hmem : '-' ∈ token := by
    obtain ⟨c, cs, rfl⟩ := List.exists_cons_of_ne_nil htakes.ne_nil
    rw [(List.cons.inj htext).1]
    exact List.mem_cons_self
  have htoken : token = ['-'] := Tokenizer.eq_singleton_of_classOf ht
    (htokens ▸ List.mem_cons_self) hmem hhyphen
  refine ⟨tokenizer.tokens rest, ?_⟩
  rw [hcut, Tokenizer.tokens_of_isWordChar ht hne hfront, htokens, htoken]
  rfl

/-- The words of the tables without a hyphen are tokens. -/
theorem tokens_of_not_mem (hmem : String.ofList word ∈ words) (hhyphen : '-' ∉ word) :
    tokenizer.tokens word = [word] := by
  obtain ⟨-, hchars, -, -⟩ := words_spec _ hmem
  rw [String.toList_ofList] at hchars
  have hne := ne_nil_of_mem_words hmem
  refine Tokenizer.tokens_of_isWordChar isOrderly_tokenizer hne fun c hc => ?_
  refine (hchars c hc).resolve_right ?_
  rintro rfl
  exact hhyphen hc

/-- A word of the tables with a hyphen begins with a word of its own and a hyphen. -/
theorem exists_tokens_of_mem (hmem : String.ofList word ∈ words) (hhyphen : '-' ∈ word) :
    ∃ front rest, tokenizer.tokens word = front :: ['-'] :: rest ∧
      front ≠ [] ∧ ∀ c ∈ front, Token.isWordChar c = true := by
  obtain ⟨-, hchars, hfirst, -⟩ := words_spec _ hmem
  rw [String.toList_ofList] at hchars hfirst
  obtain ⟨front, back, rfl, hfront⟩ := List.eq_append_cons_of_mem hhyphen
  have hne : front ≠ [] := by
    rintro rfl
    simpa [Token.isWordChar] using hfirst '-' rfl
  have hword : ∀ c ∈ front, Token.isWordChar c = true := by
    intro c hc
    refine (hchars c (List.mem_append_left _ hc)).resolve_right ?_
    rintro rfl
    exact hfront hc
  obtain ⟨rest, htokens⟩ := exists_tokens_of_hyphen hne hword
  exact ⟨front, rest, htokens, hne, hword⟩

/-- A hyphen behind a word outside of comments is plain. -/
theorem category_of_hyphen {front : Token} {style hyphen : Category}
    (h : Lexer.rules.range {} text = past ++ (front, style) :: (['-'], hyphen) :: later)
    (hclosed : past.endsInComment = false) (hne : front ≠ [])
    (hword : ∀ c ∈ front, Token.isWordChar c = true) : hyphen = .plain := by
  obtain ⟨c, cs, rfl⟩ := List.exists_cons_of_ne_nil hne
  have hc := hword c List.mem_cons_self
  have hopens : tokenizer.opensComment (c :: cs) = false :=
    Tokenizer.opensComment_of_head? isOrderly_tokenizer (by simp [hc])
  have hstyle := category_of_range h
  rw [hclosed, if_neg (by simp)] at hstyle
  have hcomment : style ≠ .comment := by
    rw [hstyle, ne_eq, styleOf_eq_comment_iff, hopens]
    simp
  rw [List.append_cons] at h
  have hhyphen := category_of_range h
  have hcode : Styled.endsInComment (past ++ [(c :: cs, style)]) = false := by
    simp [hcomment]
  have hprevious : some (c :: cs) ≠ some ['?'] := by
    rintro hsame
    obtain ⟨rfl, -⟩ := List.cons.inj (Option.some.inj hsame)
    simp [Token.isWordChar] at hc
  rw [hcode, if_neg (by simp), List.getLast?_concat, Option.map_some, styleOf_hyphen hprevious]
    at hhyphen
  exact hhyphen

/-- The pass goes over the tokens of a word that stands by itself, with no comment open. -/
theorem exists_range_word (hmem : String.ofList word ∈ words) (hbegins : BeginsWord before)
    (hends : EndsWord after) (hcode : ¬ CommentOpen before) :
    ∃ past middle later : Styled,
      Lexer.rules.range {} (before ++ (word ++ after)) = past ++ (middle ++ later) ∧
      past.text = before ∧ middle.map (·.1) = tokenizer.tokens word ∧
      past.endsInComment = false := by
  obtain ⟨hfirst, hsecond⟩ := cuts_around_word hmem hbegins hends
  obtain ⟨past, later, hbefore, -, hpast, hpass⟩ := Lexer.range_resume .rules hfirst hsecond
  refine ⟨past, _, later, hpass, hbefore, Lexer.map_fst_range _ _ _, ?_⟩
  by_contra hopen
  obtain ⟨front, lead, inside, hlead⟩ :=
    exists_lead_of_endsInComment hpass (by simpa using hopen)
  exact hcode ⟨front, lead, inside, hpast ▸ hlead⟩

/--
A word of the tables that stands by itself outside of comments has the style of its table in
all of its bytes exactly if it has no hyphen.
-/
theorem styles_of_table_word (hclass : classify? (String.ofList word) = some category)
    (hbegins : BeginsWord before) (hends : EndsWord after) (hcode : ¬ CommentOpen before) :
    (((Lexer.ofLanguage .rules).byteStyles (before ++ (word ++ after))).drop
        (Text.byteLength before)).take (Text.byteLength word) =
      List.replicate (Text.byteLength word) category ↔ '-' ∉ word := by
  have hmem := mem_words_of_classify? hclass
  obtain ⟨past, middle, behind, hpass, hbefore, htokens, hclosed⟩ :=
    exists_range_word hmem hbegins hends hcode
  have htext : middle.text = word := by
    rw [Styled.text, htokens, Tokenizer.flatten_tokens]
  have hslice := Lexer.slice_byteStyles hpass
  rw [hbefore, htext] at hslice
  rw [Lexer.ofLanguage, hslice]
  constructor
  · -- the hyphen is plain, and no table is
    intro hbytes hhyphen
    obtain ⟨front, rest, hword, hne, hchars⟩ := exists_tokens_of_mem hmem hhyphen
    rw [hword] at htokens
    obtain ⟨⟨first, style⟩, _, rfl, rfl, hmore⟩ := List.map_eq_cons_iff.1 htokens
    obtain ⟨⟨second, hyphen⟩, later, rfl, hsecond, -⟩ := List.map_eq_cons_iff.1 hmore
    obtain rfl : second = ['-'] := hsecond
    have hplain := category_of_hyphen hpass hclosed hne hchars
    have hplainMem : Category.plain ∈ List.replicate (Text.byteLength word) category := by
      rw [← hbytes, hplain]
      simp [(Char.utf8Size_pos '-').ne']
    have hfive := classify?_mem hclass
    rw [← List.eq_of_mem_replicate hplainMem] at hfive
    simp at hfive
  · intro hhyphen
    rw [tokens_of_not_mem hmem hhyphen] at htokens
    obtain ⟨⟨_, style⟩, rfl, rfl⟩ := List.map_eq_singleton_iff.1 htokens
    have hstyle := category_of_range hpass
    rw [hclosed, styleOf_of_classify? hclass] at hstyle
    simp [hstyle]

/-- At the start of a text, one spelling of a word is recognised and the other is not. -/
theorem styles_of_less_than :
    (((Lexer.ofLanguage .rules).byteStyles "less_than x".toList).take 9 =
      List.replicate 9 .comparison) ∧
    ((Lexer.ofLanguage .rules).byteStyles "less-than x".toList).take 9 ≠
      List.replicate 9 .comparison := by
  have hbegins : BeginsWord [] := by simp [BeginsWord]
  have hends : EndsWord [' ', 'x'] := by simp [EndsWord, Text.isBlank]
  have hcode : ¬ CommentOpen [] := by simp [CommentOpen]
  have hunderscore : classify? (String.ofList "less_than".toList) = some .comparison := rfl
  have hhyphen : classify? (String.ofList "less-than".toList) = some .comparison := rfl
  constructor
  · exact (styles_of_table_word hunderscore hbegins hends hcode).2 (by decide)
  · exact mt (styles_of_table_word hhyphen hbegins hends hcode).1 (by decide)

end EditorCore.Rules
