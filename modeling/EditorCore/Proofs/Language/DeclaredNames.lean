import EditorCore.Proofs.Language.Shown
import Mathlib.Data.List.Nodup

/-!
# Declared names

The machine for programs finds a declared name by looking ahead from its declaration word. In
the styles that come out, the names can be told by looking back: a name is an identifier, and
the last word in front of it is a declaration word that is itself styled as a keyword, and not
as the name of the declaration before. The name of a class also needs a follower on its line.
-/

namespace EditorCore

variable {g : Grammar} {context : Context} {text : List Char} {marks : List Char} {token : Token}
  {category : Category} {declaration : Declaration} {before later : Styled}
  {behind following : List Token}

namespace Styled

/-- The last word is what only blanks stand behind. -/
theorem lastWord?_eq_some_iff {p : Token × Category} : before.lastWord? = some p ↔
    p.1.isBlank = false ∧ ∃ front blanks, before = front ++ p :: blanks ∧
      ∀ q ∈ blanks, q.1.isBlank = true := by
  rw [lastWord?, List.find?_eq_some_iff_append]
  simp only [Bool.not_eq_true', Bool.not_not]
  constructor
  · rintro ⟨hword, blanks, front, hbefore, hblanks⟩
    refine ⟨hword, front.reverse, blanks.reverse, ?_, by simpa using hblanks⟩
    rw [← List.reverse_reverse before, hbefore]
    simp
  · rintro ⟨hword, front, blanks, rfl, hblanks⟩
    exact ⟨hword, blanks.reverse, front.reverse, by simp, by simpa using hblanks⟩

end Styled

/--
On the line that goes on behind a token, the first token that is not blank begins with one of
some characters.
-/
def IsFollowedBy (marks : List Char) (behind : List Token) : Prop :=
  ∃ blanks next rest, behind = blanks ++ next :: rest ∧
    (∀ blank ∈ blanks, blank.isBlank = true ∧ blank.hasLineBreak = false) ∧
    next.isBlank = false ∧ ∃ c ∈ marks, next.head? = some c

theorem isFollowedBy_cons_of_isBlank (hblank : token.isBlank = true) :
    IsFollowedBy marks (token :: following) ↔
      token.hasLineBreak = false ∧ IsFollowedBy marks following := by
  constructor
  · rintro ⟨blanks, next, rest, heq, hblanks, hnext, hmark⟩
    cases blanks with
    | nil =>
        obtain ⟨rfl, rfl⟩ := List.cons.inj heq
        rw [hblank] at hnext
        simp at hnext
    | cons first blanks =>
        obtain ⟨rfl, rfl⟩ := List.cons.inj heq
        refine ⟨(hblanks token List.mem_cons_self).2, blanks, next, rest, rfl, ?_, hnext, hmark⟩
        intro blank hin
        exact hblanks blank (List.mem_cons_of_mem _ hin)
  · rintro ⟨hbreak, blanks, next, rest, rfl, hblanks, hnext, hmark⟩
    refine ⟨token :: blanks, next, rest, rfl, ?_, hnext, hmark⟩
    intro blank hin
    rcases List.mem_cons.1 hin with rfl | hin
    · exact ⟨hblank, hbreak⟩
    · exact hblanks blank hin

theorem isFollowedBy_cons_of_word (hword : token.isBlank = false) :
    IsFollowedBy marks (token :: following) ↔ ∃ c ∈ marks, token.head? = some c := by
  constructor
  · rintro ⟨blanks, next, rest, heq, hblanks, hnext, hmark⟩
    cases blanks with
    | nil =>
        obtain ⟨rfl, rfl⟩ := List.cons.inj heq
        exact hmark
    | cons first blanks =>
        obtain ⟨rfl, rfl⟩ := List.cons.inj heq
        have := (hblanks token List.mem_cons_self).1
        rw [hword] at this
        simp at this
  · intro hmark
    exact ⟨[], token, following, rfl, by simp, hword, hmark⟩

namespace Grammar

/-- What a declaration word in front of a token must find to make the token its name. -/
structure Declares (g : Grammar) (declaration : Declaration) (before : Styled) (token : Token)
    (behind : List Token) : Prop where
  identifier : token.isIdentifier = true
  /-- The last token in front that is not blank is a declaration word, styled as a keyword. -/
  word : ∃ (front : Styled) (word : Token) (blanks : Styled),
    before = front ++ (word, .keyword) :: blanks ∧
    (String.ofList word, declaration) ∈ g.declarations ∧ word.isBlank = false ∧
    ∀ p ∈ blanks, p.1.isBlank = true
  follower : declaration = .classLike → IsFollowedBy g.classFollowers behind

/-! ### Looking ahead -/

/-- If no word is listed twice, a word declares what it is listed with. -/
theorem declaration?_eq_some_iff (hwords : (g.declarations.map (·.1)).Nodup) :
    g.declaration? token = some declaration ↔
      (String.ofList token, declaration) ∈ g.declarations := by
  rw [declaration?, Option.map_eq_some_iff]
  constructor
  · rintro ⟨⟨word, kind⟩, hfind, rfl⟩
    obtain rfl : word = String.ofList token := by simpa using List.find?_some hfind
    exact List.mem_of_find?_eq_some hfind
  · intro hmem
    have hsome : (g.declarations.find? (·.1 = String.ofList token)).isSome :=
      List.find?_isSome.2 ⟨_, hmem, by simp⟩
    obtain ⟨⟨word, kind⟩, hfind⟩ := Option.isSome_iff_exists.1 hsome
    obtain rfl : word = String.ofList token := by simpa using List.find?_some hfind
    have hsame := List.inj_on_of_nodup_map hwords (List.mem_of_find?_eq_some hfind) hmem rfl
    exact ⟨_, hfind, congrArg Prod.snd hsame⟩

/-- What is looked for behind the name of a class is a follower on its line. -/
theorem followsClassName_iff
    (hbreak : ∀ token ∈ behind, token.hasLineBreak = true → token.isBlank = true) :
    g.followsClassName {} behind = true ↔ IsFollowedBy g.classFollowers behind := by
  induction behind with
  | nil => simp [followsClassName, IsFollowedBy]
  | cons token behind ih =>
      have ih := ih fun token hin => hbreak token (List.mem_cons_of_mem _ hin)
      rw [followsClassName]
      cases hblank : token.isBlank with
      | true =>
          rw [isFollowedBy_cons_of_isBlank hblank, ← ih]
          cases token.hasLineBreak <;> simp
      | false =>
          have hline : token.hasLineBreak = false := by
            by_contra hline
            have := hbreak token List.mem_cons_self (by simpa using hline)
            simp [hblank] at this
          rw [isFollowedBy_cons_of_word hblank, hline]
          simp [Option.any_eq_true, and_comm]

/-- A declaration word announces the next word if that is an identifier, as a class if followed. -/
theorem announced?_cons_eq_some_iff (hword : token.isBlank = false) :
    g.announced? context declaration (token :: following) = some category ↔
      token.isIdentifier = true ∧
        (declaration = .classLike → g.followsClassName context following = true) ∧
        category = declaration.category := by
  have hdrop : (token :: following).dropWhile (·.isBlank) = token :: following :=
    List.dropWhile_cons_of_neg (by simp [hword])
  have hfollower : (declaration != .classLike || g.followsClassName context following) = true ↔
      (declaration = .classLike → g.followsClassName context following = true) := by
    cases declaration <;> simp
  simp only [announced?, hdrop, Option.ite_none_right_eq_some, Bool.and_eq_true, hfollower,
    Option.some.injEq, and_assoc]
  rw [eq_comm (a := category)]

theorem category_inj {other : Declaration} :
    declaration.category = other.category ↔ declaration = other := by
  cases declaration <;> cases other <;> simp [Declaration.category]

/-- The name that is expected is the one that the last word announces. -/
theorem expects_eq_some_iff (hwords : (g.declarations.map (·.1)).Nodup)
    (hword : token.isBlank = false) :
    g.expects before (token :: following) = some declaration.category ↔
      token.isIdentifier = true ∧
        (∃ word, before.lastWord? = some (word, .keyword) ∧
          (String.ofList word, declaration) ∈ g.declarations) ∧
        (declaration = .classLike → g.followsClassName {} following = true) := by
  rw [expects, Option.bind_eq_some_iff]
  constructor
  · rintro ⟨⟨word, style⟩, hlast, hname⟩
    rw [Option.ite_none_right_eq_some] at hname
    obtain ⟨rfl, hname⟩ := hname
    obtain ⟨kind, hkind, hname⟩ := Option.bind_eq_some_iff.1 hname
    obtain ⟨hidentifier, hfollower, hcategory⟩ := (announced?_cons_eq_some_iff hword).1 hname
    obtain rfl := category_inj.1 hcategory
    exact ⟨hidentifier, ⟨word, hlast, (declaration?_eq_some_iff hwords).1 hkind⟩, hfollower⟩
  · rintro ⟨hidentifier, ⟨word, hlast, hmem⟩, hfollower⟩
    refine ⟨(word, .keyword), hlast, ?_⟩
    simp only [if_true, (declaration?_eq_some_iff hwords).2 hmem, Option.bind_some]
    exact (announced?_cons_eq_some_iff hword).2 ⟨hidentifier, hfollower, rfl⟩

/-! ### Looking back -/

/-- Of all moves, only the one that takes the expected name gives the style of a name. -/
theorem Moves.category_eq_iff {s next : State}
    (hmove : g.Moves context token following s category next) :
    category = declaration.category ↔
      token.isBlank = false ∧ s.name = some declaration.category := by
  have hname : declaration.category ∈ [Category.className, .functionName] := by
    cases declaration <;> decide
  cases hmove with
  | wait hpending hblank =>
      simp only [hblank, reduceCtorEq, false_and, iff_false]
      rintro heq
      simp [← heq] at hname
  | name hpending hblank => simp [hblank, hpending]
  | other hpending =>
      simp only [hpending, reduceCtorEq, and_false, iff_false]
      intro heq
      have hnot := g.classify_not_mem token
      rw [heq] at hnot
      simp only [List.mem_cons, List.not_mem_nil, or_false] at hname hnot
      simp [hname] at hnot
  | _ =>
      simp only [*, reduceCtorEq, and_false, iff_false]
      intro heq
      simp [← heq] at hname

/-- In one pass, each token is styled by a move from what the styled tokens before it say. -/
theorem exists_reads (hg : g.IsOrdinary)
    (hpass : (g.tokenizer.tokens text).zip (g.styles {} (g.tokenizer.tokens text)) =
      before ++ (token, category) :: later) :
    ∃ s next, g.Reads before (token :: later.map (·.1)) s ∧
      g.Moves {} token (later.map (·.1)) s category next := by
  obtain ⟨hreads, hstyles⟩ := reads_stateBetween hg hpass
  rw [List.map_cons, List.map_cons, stylesFrom_cons] at hstyles
  obtain ⟨hcategory, -⟩ := List.cons.inj hstyles
  have hmove := g.moves_step {} (g.stateBetween (before.map (·.1)) (token :: later.map (·.1)))
    token (later.map (·.1))
  rw [← hcategory] at hmove
  exact ⟨_, _, hreads, hmove⟩

/-- In one pass, the names are the tokens that are declared by what is before them. -/
theorem category_eq_iff_declares (hg : g.IsOrdinary) (hwords : (g.declarations.map (·.1)).Nodup)
    (hpass : (g.tokenizer.tokens text).zip (g.styles {} (g.tokenizer.tokens text)) =
      before ++ (token, category) :: later) :
    category = declaration.category ↔
      g.Declares declaration before token (later.map (·.1)) := by
  obtain ⟨s, next, hreads, hmove⟩ := exists_reads hg hpass
  have hbreak : ∀ other ∈ later.map (·.1), other.hasLineBreak = true → other.isBlank = true := by
    intro other hin
    have hmem : other ∈ g.tokenizer.tokens text := by
      obtain ⟨p, hp, rfl⟩ := List.mem_map.1 hin
      have hzip : p ∈ (g.tokenizer.tokens text).zip (g.styles {} (g.tokenizer.tokens text)) := by
        rw [hpass]
        simp [hp]
      exact (List.of_mem_zip hzip).1
    exact Tokenizer.isBlank_of_hasLineBreak hg.orderly hmem
  rw [hmove.category_eq_iff, hreads.name]
  constructor
  · rintro ⟨hword, hname⟩
    obtain ⟨hidentifier, ⟨word, hlast, hmem⟩, hfollower⟩ :=
      (expects_eq_some_iff hwords hword).1 hname
    obtain ⟨hnot, front, blanks, rfl, hblanks⟩ := Styled.lastWord?_eq_some_iff.1 hlast
    refine ⟨hidentifier, ⟨front, word, blanks, rfl, hmem, hnot, hblanks⟩, ?_⟩
    intro hclass
    exact (followsClassName_iff hbreak).1 (hfollower hclass)
  · rintro ⟨hidentifier, ⟨front, word, blanks, rfl, hmem, hnot, hblanks⟩, hfollower⟩
    have hword : token.isBlank = false := by
      by_contra hblank
      rw [Token.isIdentifier_eq_false_of_isBlank (by simpa using hblank)] at hidentifier
      simp at hidentifier
    refine ⟨hword, (expects_eq_some_iff hwords hword).2 ⟨hidentifier, ⟨word, ?_, hmem⟩, ?_⟩⟩
    · exact Styled.lastWord?_eq_some_iff.2 ⟨hnot, front, blanks, rfl, hblanks⟩
    · intro hclass
      exact (followsClassName_iff hbreak).2 (hfollower hclass)

end Grammar

namespace Lexer

variable {language : Language}

/-- The languages that are programs have ordinary grammars and list no declaration word twice. -/
theorem isOrdinary_of_ofLanguage (hlanguage : ofLanguage language = .program g) :
    g.IsOrdinary ∧ (g.declarations.map (·.1)).Nodup := by
  cases language with
  | text => simp [ofLanguage] at hlanguage
  | python =>
      obtain rfl := Lexer.program.inj hlanguage
      exact ⟨Python.grammar_isOrdinary, by decide⟩
  | c =>
      obtain rfl := Lexer.program.inj hlanguage
      exact ⟨C.grammar_isOrdinary, by decide⟩
  | rules => simp [ofLanguage] at hlanguage

/--
Names are styled exactly where a program declares them: in one pass over a text, a token has
the style of a declared class or function just if it is declared by what stands around it.
-/
theorem declared_names_styled (hlanguage : ofLanguage language = .program g)
    (hpass : ((ofLanguage language).tokenizer.tokens text).zip
      (((ofLanguage language).runsOfText text).map (·.category)) =
        before ++ (token, category) :: later) (declaration : Declaration) :
    category = declaration.category ↔
      g.Declares declaration before token (later.map (·.1)) := by
  obtain ⟨hg, hwords⟩ := isOrdinary_of_ofLanguage hlanguage
  rw [hlanguage, runsOfText, map_category_runs] at hpass
  exact Grammar.category_eq_iff_declares hg hwords hpass

/-- A declaration word that is the name of a function declares nothing itself. -/
theorem declared_names_styled_nested :
    ((ofLanguage .python).tokenizer.tokens "def class A:".toList).zip
        (((ofLanguage .python).runsOfText "def class A:".toList).map (·.category)) =
      [("def".toList, .keyword), ([' '], .plain)] ++ ("class".toList, .functionName) ::
        [([' '], .plain), (['A'], .plain), ([':'], .plain)] ∧
    Python.grammar.Declares .function [("def".toList, .keyword), ([' '], .plain)]
      "class".toList [[' '], ['A'], [':']] ∧
    ¬ Python.grammar.Declares .classLike
      [("def".toList, .keyword), ([' '], .plain), ("class".toList, .functionName), ([' '], .plain)]
      ['A'] [[':']] := by
  have hclass : ((ofLanguage .python).tokenizer.tokens "def class A:".toList).zip
      (((ofLanguage .python).runsOfText "def class A:".toList).map (·.category)) =
        [("def".toList, .keyword), ([' '], .plain)] ++ ("class".toList, .functionName) ::
          [([' '], .plain), (['A'], .plain), ([':'], .plain)] := by decide +kernel
  have hname : ((ofLanguage .python).tokenizer.tokens "def class A:".toList).zip
      (((ofLanguage .python).runsOfText "def class A:".toList).map (·.category)) =
        [("def".toList, .keyword), ([' '], .plain), ("class".toList, .functionName),
          ([' '], .plain)] ++ (['A'], .plain) :: [([':'], .plain)] := hclass
  refine ⟨hclass, ?_, ?_⟩
  · exact (declared_names_styled rfl hclass .function).1 rfl
  · intro h
    have hcategory := (declared_names_styled rfl hname .classLike).2 h
    simp [Declaration.category] at hcategory

end Lexer

end EditorCore
