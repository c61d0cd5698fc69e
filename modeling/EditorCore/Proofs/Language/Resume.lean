import EditorCore.Proofs.Language.Moves
import EditorCore.Proofs.Language.Ordinary
import EditorCore.Proofs.Style.Surroundings

/-!
# Resuming the highlighting of a program

Between two tokens, what is open is exactly what the tokens before that place and their
styles say: the state of the machine is read off them, one step keeps it so, and hence a
run does. Highlighting that is resumed at a boundary from what it captures there
therefore continues the run from the start of the text.
-/

namespace EditorCore

namespace Context

theorem trailingBackslashes_append_of_not_mem {before token : List Char} (hne : token ≠ [])
    (h : '\\' ∉ token) : trailingBackslashes (before ++ token) = 0 := by
  obtain ⟨front, c, rfl⟩ := List.eq_nil_or_concat' token |>.resolve_left hne
  have hc : c ≠ '\\' := by rintro rfl; simp at h
  simp [trailingBackslashes, ← List.append_assoc, hc]

theorem trailingBackslashes_concat (before : List Char) :
    trailingBackslashes (before ++ ['\\']) = trailingBackslashes before + 1 := by
  simp [trailingBackslashes]

end Context

namespace Styled

/-- A string and a comment are never open together. -/
theorem endsInComment_eq_false {past : Styled} (h : past.openString ≠ []) :
    past.endsInComment = false := by
  rcases past.eq_nil_or_concat' with rfl | ⟨front, ⟨token, category⟩, rfl⟩
  · rfl
  · rw [openString_concat] at h
    split at h
    · next hstring => simp [hstring]
    · simp at h

end Styled

namespace Grammar

variable {g : Grammar} {context : Context} {past : Styled} {token : Token}
  {rest following : List Token} {s next : State} {category : Category} {text : List Char}

/-- What is open behind some tokens, given what is open in front of them. -/
def stateAfter (g : Grammar) (context : Context) (s : State) : List Token → List Token → State
  | [], _ => s
  | token :: front, rest =>
    g.stateAfter context (g.step context s token (front ++ rest)).2 front rest

/-- The category of a declared name that is still to come behind styled tokens. -/
def expects (g : Grammar) (past : Styled) (rest : List Token) : Option Category :=
  past.lastWord?.bind fun (token, category) =>
    if category = .keyword then (g.declaration? token).bind (g.announced? {} · rest) else none

/-- The state of the machine says just what the styled tokens behind it say. -/
structure Reads (g : Grammar) (past : Styled) (rest : List Token) (s : State) : Prop where
  inComment : s.inComment = past.endsInComment
  quote : s.quote = past.openString.head?
  escaped : s.escaped =
    (past.openString.head?.isSome && Context.trailingBackslashes past.text % 2 == 1)
  name : s.name = g.expects past rest
  code : s.name ≠ none → s.inComment = false ∧ s.quote = none

/-- Blanks before a name do not matter. -/
theorem announced?_of_isBlank {declaration : Declaration} (hblank : token.isBlank = true) :
    g.announced? context declaration (token :: rest) = g.announced? context declaration rest := by
  simp [announced?, hblank]

theorem expects_concat_of_ne_keyword (hcategory : category ≠ .keyword) :
    g.expects (past ++ [(token, category)]) rest =
      if token.isBlank then g.expects past (token :: rest) else none := by
  simp only [expects, Styled.lastWord?_concat]
  split
  · next hblank => simp only [announced?_of_isBlank hblank]
  · simp [hcategory]

theorem expects_concat_keyword (hblank : token.isBlank = false) :
    g.expects (past ++ [(token, .keyword)]) rest =
      (g.declaration? token).bind (g.announced? {} · rest) := by
  simp [expects, hblank]

theorem reads_start (g : Grammar) (tokens : List Token) :
    g.Reads [] tokens (g.start {} tokens) where
  inComment := rfl
  quote := rfl
  escaped := rfl
  name := by simp [start, pending?, expects, Styled.lastWord?]
  code := by simp [start, pending?]

namespace Reads

/-- A name that is expected is that of a class or a function. -/
theorem name_eq_or (h : g.Reads past rest s) (hname : s.name = some category) :
    category = .className ∨ category = .functionName := by
  rw [h.name, expects] at hname
  obtain ⟨⟨word, style⟩, -, hname⟩ := Option.bind_eq_some_iff.1 hname
  simp only [Option.ite_none_right_eq_some] at hname
  obtain ⟨declaration, -, hname⟩ := Option.bind_eq_some_iff.1 hname.2
  exact (announced?_spec hname).1

theorem escaped_eq_false (h : g.Reads past rest s) (hquote : s.quote = none) :
    s.escaped = false := by
  rw [h.escaped, ← h.quote, hquote]
  rfl

theorem openString_ne_nil (h : g.Reads past rest s) {opening : Char}
    (hquote : s.quote = some opening) : past.openString ≠ [] := by
  intro hnil
  rw [h.quote, hnil] at hquote
  simp at hquote

/-- Whatever is no keyword leaves no name to come if there was none. -/
theorem expects_concat_eq_none (h : g.Reads past (token :: rest) s) (hname : s.name = none)
    (hcategory : category ≠ .keyword) : g.expects (past ++ [(token, category)]) rest = none := by
  rw [expects_concat_of_ne_keyword hcategory, ← h.name, hname, ite_self]

/-- Behind a token of a string, the string is open. -/
theorem of_string (h : g.Reads past (token :: rest) s) (hname : s.name = none)
    (hquote : next.quote = (past.openString ++ token).head?) (hne : token ≠ [])
    (hescaped : next.escaped = (Context.trailingBackslashes (past.text ++ token) % 2 == 1))
    (hcomment : next.inComment = false) (hnext : next.name = none) :
    g.Reads (past ++ [(token, .string)]) rest next where
  inComment := by simp [hcomment]
  quote := by simp [hquote]
  escaped := by
    have hsome : (past.openString ++ token).head?.isSome = true := by simp [hne]
    rw [Styled.openString_concat, if_pos rfl, hsome, Bool.true_and, hescaped]
    simp
  name := by rw [hnext, h.expects_concat_eq_none hname (by simp)]
  code := fun hsome => absurd hnext hsome

/-- Behind a token of a comment, the comment is open unless the token has a line break. -/
theorem of_comment (h : g.Reads past (token :: rest) s) (hname : s.name = none)
    (hcomment : next.inComment = !token.hasLineBreak) (hquote : next.quote = none)
    (hescaped : next.escaped = false) (hnext : next.name = none) :
    g.Reads (past ++ [(token, .comment)]) rest next where
  inComment := by simp [hcomment]
  quote := by simp [hquote]
  escaped := by simp [hescaped]
  name := by rw [hnext, h.expects_concat_eq_none hname (by simp)]
  code := fun hsome => absurd hnext hsome

/-- Behind any other token, nothing is open but perhaps a name to come. -/
theorem of_code (hstring : category ≠ .string) (hcategory : category ≠ .comment)
    (hcomment : next.inComment = false) (hquote : next.quote = none)
    (hescaped : next.escaped = false)
    (hname : next.name = g.expects (past ++ [(token, category)]) rest) :
    g.Reads (past ++ [(token, category)]) rest next where
  inComment := by simp [hcomment, hcategory]
  quote := by simp [hquote, hstring]
  escaped := by simp [hescaped, hstring]
  name := hname
  code := fun _ => ⟨hcomment, hquote⟩

/-- One step keeps the state readable. -/
theorem step (hg : g.IsOrdinary) (hmem : token ∈ g.tokenizer.tokens text)
    (h : g.Reads past (token :: rest) s) (hmove : g.Moves {} token rest s category next) :
    g.Reads (past ++ [(token, category)]) rest next := by
  have hne := Tokenizer.ne_nil_of_mem_tokens hmem
  -- only a token that is just a backslash changes the parity of the backslashes
  have hslash : token ≠ ['\\'] → Context.trailingBackslashes (past.text ++ token) = 0 := fun hnot =>
    Context.trailingBackslashes_append_of_not_mem hne fun hc =>
      hnot (hg.eq_backslash_of_mem hmem hc)
  have hopen : ∀ {opening}, s.quote = some opening →
      s.inComment = false ∧ s.quote = (past.openString ++ token).head? ∧
      s.escaped = (Context.trailingBackslashes past.text % 2 == 1) := by
    intro opening hquote
    have hstring := h.openString_ne_nil hquote
    refine ⟨h.inComment.trans (Styled.endsInComment_eq_false hstring), ?_, ?_⟩
    · rw [h.quote, List.head?_append_of_ne_nil _ hstring]
    · have hsome : past.openString.head?.isSome = true := by rw [← h.quote, hquote]; rfl
      rw [h.escaped, hsome, Bool.true_and]
  cases hmove with
  | wait hname hblank =>
      obtain ⟨hcomment, hquote⟩ := h.code (by simp [hname])
      refine of_code (by simp) (by simp) hcomment hquote (h.escaped_eq_false hquote) ?_
      rw [expects_concat_of_ne_keyword (by simp), if_pos hblank, h.name]
  | name hname hblank =>
      obtain ⟨hcomment, hquote⟩ := h.code (by simp [hname])
      have hcategory := h.name_eq_or hname
      have hkeyword : category ≠ .keyword := by rintro rfl; simp at hcategory
      refine of_code ?_ ?_ hcomment hquote (h.escaped_eq_false hquote) ?_
      · rintro rfl; simp at hcategory
      · rintro rfl; simp at hcategory
      · rw [expects_concat_of_ne_keyword hkeyword, if_neg (by simp [hblank])]
  | escaped hname hquote hescaped =>
      obtain ⟨hcomment, hhead, hparity⟩ := hopen hquote
      refine h.of_string hname hhead hne ?_ hcomment hname
      by_cases hbackslash : token = ['\\']
      · rw [hbackslash, Context.trailingBackslashes_concat]
        rw [hescaped, eq_comm, beq_iff_eq] at hparity
        simp [Nat.add_mod, hparity]
      · simp [hslash hbackslash]
  | escape hname hquote hescaped hbackslash =>
      obtain ⟨hcomment, hhead, hparity⟩ := hopen hquote
      refine h.of_string hname hhead hne ?_ hcomment hname
      rw [hescaped, eq_comm, beq_eq_false_iff_ne] at hparity
      have heven : Context.trailingBackslashes past.text % 2 = 0 := by omega
      rw [hbackslash, Context.trailingBackslashes_concat]
      simp [Nat.add_mod, heven]
  | cut hname hquote hescaped hbackslash hbreak =>
      exact of_code (by simp) (by simp) (hopen hquote).1 rfl hescaped
        (hname.trans (h.expects_concat_eq_none hname (by simp)).symm)
  | close hname hquote hescaped hbackslash hbreak hclose =>
      exact of_code (by simp) (by simp) (hopen hquote).1 rfl hescaped
        (hname.trans (h.expects_concat_eq_none hname (by simp)).symm)
  | body hname hquote hescaped hbackslash hbreak hclose =>
      obtain ⟨hcomment, hhead, -⟩ := hopen hquote
      exact h.of_string hname hhead hne (by simp [hslash hbackslash, hescaped]) hcomment hname
  | comment hname hquote hcomment =>
      exact h.of_comment hname rfl hquote (h.escaped_eq_false hquote) hname
  | declare hname hquote hcomment hword =>
      have hblank : token.isBlank = false := by
        by_contra hblank
        rw [hg.declaration?_of_isBlank (by simpa using hblank)] at hword
        simp at hword
      refine of_code (by simp) (by simp) hcomment hquote (h.escaped_eq_false hquote) ?_
      rw [expects_concat_keyword hblank, hword, Option.bind_some]
  | lead hname hquote hcomment hword hlead =>
      refine h.of_comment hname ?_ hquote (h.escaped_eq_false hquote) hname
      simp [Tokenizer.hasLineBreak_eq_false_of_opensComment hg.orderly hmem hlead]
  | @opening opening hname hquote hcomment hword hlead hopens =>
      obtain ⟨htoken, -, -, hnot⟩ := hg.quote?_spec hopens
      have hnil : past.openString = [] := by
        rw [← List.head?_eq_none_iff, ← h.quote, hquote]
      have hzero := hslash (by simpa [htoken] using hnot)
      refine h.of_string hname ?_ hne ?_ hcomment hname
      · simp [hnil, htoken]
      · simp [hzero, h.escaped_eq_false hquote]
  | other hname hquote hcomment hword hlead hopens =>
      have hnot := g.classify_not_mem token
      refine of_code ?_ ?_ hcomment hquote (h.escaped_eq_false hquote) ?_
      · intro heq; simp [heq] at hnot
      · intro heq; simp [heq] at hnot
      · rw [hname]
        by_cases hkeyword : g.classify token = .keyword
        · have hblank : token.isBlank = false := by
            by_contra hblank
            rw [hg.classify_of_isBlank (by simpa using hblank)] at hkeyword
            simp at hkeyword
          rw [hkeyword, expects_concat_keyword hblank, hword, Option.bind_none]
        · exact (h.expects_concat_eq_none hname hkeyword).symm

/--
A run over the front of the tokens goes on behind them from the state there, which is still
readable.
-/
theorem run (hg : g.IsOrdinary) {front : List Token}
    (hmem : ∀ token ∈ front, token ∈ g.tokenizer.tokens text)
    (h : g.Reads past (front ++ rest) s) :
    ∃ categories, categories.length = front.length ∧
      g.stylesFrom {} s (front ++ rest) =
        categories ++ g.stylesFrom {} (g.stateAfter {} s front rest) rest ∧
      g.Reads (past ++ front.zip categories) rest (g.stateAfter {} s front rest) := by
  induction front generalizing past s with
  | nil => exact ⟨[], rfl, rfl, by simpa [stateAfter] using h⟩
  | cons token front ih =>
      have hstep := step hg (hmem token List.mem_cons_self) h
        (g.moves_step {} s token (front ++ rest))
      obtain ⟨categories, hlength, hstyles, hreads⟩ :=
        ih (fun token hin => hmem token (List.mem_cons_of_mem _ hin)) hstep
      refine ⟨(g.step {} s token (front ++ rest)).1 :: categories, by simp [hlength], ?_, ?_⟩
      · rw [List.cons_append, stylesFrom_cons, hstyles, List.cons_append, stateAfter]
      · simpa [stateAfter] using hreads

end Reads

/-! ### What a step sees of the text behind it -/

/-- Outside of strings and comments a blank is plain, even before a declared name. -/
theorem step_of_isBlank (hg : g.IsOrdinary) (hblank : token.isBlank = true)
    (hcomment : s.inComment = false) (hquote : s.quote = none) :
    g.step context s token following = (.plain, s) := by
  simp only [step, hquote, hcomment]
  cases s.name with
  | none => simp [hg.stepCode_of_isBlank context s following hblank]
  | some category => simp [hblank]

variable {context₁ context₂ : Context} {s₁ s₂ : State} {behind₁ behind₂ middle : List Token}

theorem followsClassName_append
    (hview : g.followsClassName context₁ behind₁ = g.followsClassName context₂ behind₂)
    (middle : List Token) : g.followsClassName context₁ (middle ++ behind₁) =
      g.followsClassName context₂ (middle ++ behind₂) := by
  induction middle with
  | nil => exact hview
  | cons token middle ih => simp only [List.cons_append, followsClassName, ih]

/-- Whether a name is announced does not depend on what stands behind the name's follower. -/
theorem announced?_append
    (hview : g.followsClassName context₁ behind₁ = g.followsClassName context₂ behind₂)
    (declaration : Declaration) (hword : ¬ ∀ token ∈ middle, token.isBlank = true) :
    g.announced? context₁ declaration (middle ++ behind₁) =
      g.announced? context₂ declaration (middle ++ behind₂) := by
  have hne : middle.dropWhile (·.isBlank) ≠ [] := by
    rw [ne_eq, List.dropWhile_eq_nil_iff]
    exact hword
  obtain ⟨name, more, hdrop⟩ := List.exists_cons_of_ne_nil hne
  simp only [announced?, List.dropWhile_append, hdrop, List.isEmpty_cons, Bool.false_eq_true,
    if_false, List.cons_append, followsClassName_append hview more]

/--
Two states that style some tokens alike: they are the same, or they differ only in the name
that is still to come, no string or comment is open, and the tokens are all blank.
-/
def Alike (s₁ s₂ : State) (tokens : List Token) : Prop :=
  s₁ = s₂ ∨ ((∀ token ∈ tokens, token.isBlank = true) ∧ s₁.inComment = false ∧ s₁.quote = none ∧
    s₂ = { s₁ with name := s₂.name })

/-- Only a declaration word looks at what follows it. -/
theorem step_eq_or_declare (g : Grammar) (context₁ context₂ : Context) (s : State) (token : Token)
    (following₁ following₂ : List Token) :
    g.step context₁ s token following₁ = g.step context₂ s token following₂ ∨
      ∃ declaration, s.inComment = false ∧ s.quote = none ∧
        g.step context₁ s token following₁ =
          (.keyword, { s with name := g.announced? context₁ declaration following₁ }) ∧
        g.step context₂ s token following₂ =
          (.keyword, { s with name := g.announced? context₂ declaration following₂ }) := by
  cases hname : s.name with
  | some category => exact .inl (by simp only [step, hname])
  | none =>
      cases hquote : s.quote with
      | some opening => exact .inl (by simp only [step, hname, hquote])
      | none =>
          cases hcomment : s.inComment with
          | true => exact .inl (by simp only [step, hname, hquote, hcomment, if_true])
          | false =>
              cases hword : g.declaration? token with
              | none =>
                  exact .inl (by simp only [step, hname, hquote, hcomment, stepCode, hword])
              | some declaration =>
                  refine .inr ⟨declaration, rfl, rfl, ?_⟩
                  simp [step, hname, hquote, hcomment, stepCode, hword]

theorem step_congr (hg : g.IsOrdinary)
    (hview : g.followsClassName context₁ behind₁ = g.followsClassName context₂ behind₂)
    (h : Alike s₁ s₂ (token :: middle)) :
    (g.step context₁ s₁ token (middle ++ behind₁)).1 =
        (g.step context₂ s₂ token (middle ++ behind₂)).1 ∧
      Alike (g.step context₁ s₁ token (middle ++ behind₁)).2
        (g.step context₂ s₂ token (middle ++ behind₂)).2 middle := by
  rcases h with rfl | ⟨hblank, hcomment, hquote, heq⟩
  · rcases g.step_eq_or_declare context₁ context₂ s₁ token (middle ++ behind₁)
      (middle ++ behind₂) with heq | ⟨declaration, hcomment, hquote, hstep₁, hstep₂⟩
    · rw [heq]
      exact ⟨rfl, .inl rfl⟩
    · rw [hstep₁, hstep₂]
      refine ⟨rfl, ?_⟩
      by_cases hmiddle : ∀ token ∈ middle, token.isBlank = true
      · exact .inr ⟨hmiddle, hcomment, hquote, rfl⟩
      · exact .inl (by simp only [announced?_append hview declaration hmiddle])
  · have hfirst := hblank token List.mem_cons_self
    have hcomment₂ : s₂.inComment = false := by rw [heq, hcomment]
    have hquote₂ : s₂.quote = none := by rw [heq, hquote]
    rw [step_of_isBlank hg hfirst hcomment hquote, step_of_isBlank hg hfirst hcomment₂ hquote₂]
    exact ⟨rfl, .inr ⟨fun token hin => hblank token (List.mem_cons_of_mem _ hin),
      hcomment, hquote, heq⟩⟩

/-- Alike states style the same tokens alike, with the same view of what is behind them. -/
theorem stylesFrom_congr (hg : g.IsOrdinary)
    (hview : g.followsClassName context₁ behind₁ = g.followsClassName context₂ behind₂)
    (h : Alike s₁ s₂ middle) :
    ∃ categories next₁ next₂, categories.length = middle.length ∧
      g.stylesFrom context₁ s₁ (middle ++ behind₁) =
        categories ++ g.stylesFrom context₁ next₁ behind₁ ∧
      g.stylesFrom context₂ s₂ (middle ++ behind₂) =
        categories ++ g.stylesFrom context₂ next₂ behind₂ ∧ Alike next₁ next₂ [] := by
  induction middle generalizing s₁ s₂ with
  | nil => exact ⟨[], s₁, s₂, rfl, rfl, rfl, h⟩
  | cons token middle ih =>
      obtain ⟨hcategory, hnext⟩ := step_congr hg hview h
      obtain ⟨categories, next₁, next₂, hlength, hstyles₁, hstyles₂, hlast⟩ := ih hnext
      refine ⟨(g.step context₁ s₁ token (middle ++ behind₁)).1 :: categories, next₁, next₂,
        by simp [hlength], ?_, ?_, hlast⟩
      · rw [List.cons_append, stylesFrom_cons, hstyles₁, List.cons_append]
      · rw [List.cons_append, stylesFrom_cons, hstyles₂, hcategory, List.cons_append]

/-- The first character that counts behind a range tells what the tokens there tell. -/
theorem followsClassName_eq_nextInline (g : Grammar) (past : Styled) {tail : List Token}
    (htail : ∀ token ∈ tail, token ≠ [] ∧
      ∀ c ∈ token, Text.isBlank c = true → token.isBlank = true) :
    g.followsClassName {} tail =
      (Context.around past tail.flatten).nextInline.any (· ∈ g.classFollowers) := by
  induction tail with
  | nil => rfl
  | cons token tail ih =>
      obtain ⟨hne, hblank⟩ := htail token List.mem_cons_self
      have ih := ih fun token hin => htail token (List.mem_cons_of_mem _ hin)
      simp only [Context.around, List.flatten_cons, List.find?_append] at ih ⊢
      rw [followsClassName]
      split
      · next hbreak =>
          obtain ⟨c, hc, hcbreak⟩ := List.any_eq_true.1 hbreak
          have hall := hblank c hc (Text.isBlank_of_isLineBreak hcbreak)
          rw [Token.isBlank, List.all_eq_true] at hall
          have hsome : (token.find? fun c => Text.isLineBreak c || !Text.isBlank c).isSome :=
            List.find?_isSome.2 ⟨c, hc, by simp [hcbreak]⟩
          obtain ⟨d, hfind⟩ := Option.isSome_iff_exists.1 hsome
          have hd : Text.isLineBreak d = true := by
            have := List.find?_some hfind
            simpa [hall d (List.mem_of_find?_eq_some hfind)] using this
          simp [hfind, hd]
      · next hbreak =>
          have hnone : ∀ c ∈ token, Text.isLineBreak c = false := by
            simpa [Token.hasLineBreak, Text.hasLineBreak] using hbreak
          split
          · next hall =>
              rw [Token.isBlank, List.all_eq_true] at hall
              have hfind : token.find? (fun c => Text.isLineBreak c || !Text.isBlank c) = none := by
                rw [List.find?_eq_none]
                intro c hc
                simp [hnone c hc, hall c hc]
              rw [ih, hfind, Option.none_or]
          · next hall =>
              obtain ⟨c, cs, rfl⟩ := List.exists_cons_of_ne_nil hne
              have hc : Text.isBlank c = false := by
                by_contra hc
                exact hall (hblank c List.mem_cons_self (by simpa using hc))
              simp [hc, hnone c List.mem_cons_self]

/-! ### Resuming -/

/-- What is captured at a place is, for the tokens of a range, as good as the state there. -/
theorem Reads.alike_start {tail : List Token} (h : g.Reads past (middle ++ tail) s)
    (hview : g.followsClassName (Context.around past tail.flatten) [] =
      g.followsClassName {} tail) :
    Alike (g.start (Context.around past tail.flatten) middle) s middle := by
  have hstate : s = { g.start (Context.around past tail.flatten) middle with name := s.name } := by
    simp only [start, Context.opened, Context.around, ← h.quote, ← h.inComment]
    rw [h.quote, ← h.escaped, ← h.quote]
  by_cases hcode : s.inComment = false ∧ s.quote = none
  · obtain ⟨hcomment, hquote⟩ := hcode
    by_cases hblank : ∀ token ∈ middle, token.isBlank = true
    · exact .inr ⟨hblank, h.inComment.symm.trans hcomment, h.quote.symm.trans hquote, hstate⟩
    · left
      suffices hname : (g.start (Context.around past tail.flatten) middle).name = s.name by
        rw [hstate, ← hname]
      have hopen : past.openString.head? = none := h.quote.symm.trans hquote
      have hended : past.endsInComment = false := h.inComment.symm.trans hcomment
      rw [h.name, expects]
      simp only [start, pending?, Context.around, hopen, hended]
      cases hlast : past.lastWord? with
      | none => rfl
      | some p =>
          obtain ⟨word, category⟩ := p
          by_cases hkeyword : category = .keyword
          · cases hword : g.declaration? word with
            | none => simp [hkeyword, hword]
            | some declaration =>
                have := announced?_append hview declaration hblank
                simpa [hkeyword, hword, Context.around, hopen, hended, hlast] using this
          · simp [hkeyword]
  · -- a string or a comment is open: no name is to come, here or there
    have hname : s.name = none := by
      by_contra hname
      exact hcode (h.code hname)
    left
    rw [hstate, hname]
    simp only [start, pending?, Context.around, ← h.quote, ← h.inComment]
    rw [if_neg]
    · rfl
    · simp only [Bool.and_eq_true, Bool.not_eq_true', Option.isNone_iff_eq_none]
      exact fun hall => hcode hall.1

/--
Highlighting is independent of where it is interrupted: the styles of some tokens in the
middle of a text are those that come out from what is captured there.
-/
theorem styles_resume (hg : g.IsOrdinary) {front tail : List Token}
    (htokens : g.tokenizer.tokens text = front ++ (middle ++ tail)) :
    ∃ before inside behind, before.length = front.length ∧ inside.length = middle.length ∧
      g.styles {} (front ++ (middle ++ tail)) = before ++ (inside ++ behind) ∧
      g.styles (Context.around (front.zip before) tail.flatten) middle = inside := by
  have hmem : ∀ token ∈ front, token ∈ g.tokenizer.tokens text := fun token hin => by
    simp [htokens, hin]
  obtain ⟨before, hbefore, hstyles, hreads⟩ :=
    (g.reads_start (front ++ (middle ++ tail))).run hg hmem
  rw [List.nil_append] at hreads
  have htail : ∀ token ∈ tail, token ≠ [] ∧
      ∀ c ∈ token, Text.isBlank c = true → token.isBlank = true := by
    intro token hin
    have hmem : token ∈ g.tokenizer.tokens text := by simp [htokens, hin]
    exact ⟨Tokenizer.ne_nil_of_mem_tokens hmem,
      fun c hc => Tokenizer.isBlank_of_mem_tokens hg.orderly hmem hc⟩
  have hview : g.followsClassName (Context.around (front.zip before) tail.flatten) [] =
      g.followsClassName {} tail := (g.followsClassName_eq_nextInline _ htail).symm
  obtain ⟨inside, _, last, hinside, hmiddle, hrest, -⟩ :=
    stylesFrom_congr hg hview (hreads.alike_start hview)
  refine ⟨before, inside, g.stylesFrom {} last tail, hbefore, hinside, ?_, ?_⟩
  · rw [styles, hstyles, hrest]
  · simpa [styles, stylesFrom] using hmiddle

end Grammar

end EditorCore
