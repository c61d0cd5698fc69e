import Mathlib.Data.List.TakeWhile
import EditorCore.Language.Lexer

/-!
# Lexers as machines

The loop of a lexer over the tokens of a range takes some tokens at once: a declared name
together with the blanks in front of it. The same styles come out of a machine that takes one
token in each step and carries along, with what is open, the name that is still to come. A run
of the loop gives each token the run of its length in the style of its step.
-/

namespace EditorCore

/-! ### Programs -/

namespace Grammar

/-- The category of the name that a declaration word announces, if a name follows it. -/
def announced? (g : Grammar) (context : Context) (declaration : Declaration)
    (following : List Token) : Option Category :=
  match following.dropWhile (·.isBlank) with
  | [] => none
  | name :: rest =>
    if name.isIdentifier &&
        (declaration != .classLike || g.followsClassName context rest) then
      some declaration.category
    else none

/-- What is open between two tokens, with the declared name that is still to come. -/
structure State extends Opened where
  /-- The category of a declared name that is still to come. -/
  name : Option Category
deriving DecidableEq, Repr

/-- What is open at the start of a range. -/
def start (g : Grammar) (context : Context) (tokens : List Token) : State where
  toOpened := context.opened
  name := (g.pending? context).bind (g.announced? context · tokens)

/-- The style of a token outside strings and comments, and what is open behind it. -/
def stepCode (g : Grammar) (context : Context) (s : State) (token : Token)
    (following : List Token) : Category × State :=
  match g.declaration? token with
  | some declaration =>
    (.keyword, { s with name := g.announced? context declaration following })
  | none =>
    let (category, opened) := g.wordStyle s.toOpened token
    (category, { s with toOpened := opened })

/-- The style of a token, and what is open behind it. -/
def step (g : Grammar) (context : Context) (s : State) (token : Token)
    (following : List Token) : Category × State :=
  match s.name, s.quote with
  | some category, _ =>
    if token.isBlank then (.plain, s) else (category, { s with name := none })
  | none, some opening =>
    let (category, opened) := g.stringStyle s.toOpened opening token
    (category, { s with toOpened := opened })
  | none, none =>
    if s.inComment then (.comment, { s with inComment := !token.hasLineBreak })
    else g.stepCode context s token following

/-- The style of each token, given what is open in front of the first. -/
def stylesFrom (g : Grammar) (context : Context) (s : State) : List Token → List Category
  | [] => []
  | token :: following =>
    let (category, next) := g.step context s token following
    category :: g.stylesFrom context next following

/-- The style of each token of a range. -/
def styles (g : Grammar) (context : Context) (tokens : List Token) : List Category :=
  g.stylesFrom context (g.start context tokens) tokens

theorem stylesFrom_cons (g : Grammar) (context : Context) (s : State) (token : Token)
    (following : List Token) : g.stylesFrom context s (token :: following) =
      (g.step context s token following).1 ::
        g.stylesFrom context (g.step context s token following).2 following := rfl

/-- The runs that the styles of a machine give to tokens. -/
def machineRuns (g : Grammar) (context : Context) (s : State) (tokens : List Token) : List Run :=
  List.zipWith Token.run tokens (g.stylesFrom context s tokens)

theorem machineRuns_cons (g : Grammar) (context : Context) (s : State) (token : Token)
    (following : List Token) : g.machineRuns context s (token :: following) =
      token.run (g.step context s token following).1 ::
        g.machineRuns context (g.step context s token following).2 following := rfl

/-- While a name is still to come, blanks are plain. -/
theorem machineRuns_of_isBlank (g : Grammar) (context : Context) (s : State) (blanks : List Token)
    (hblank : ∀ token ∈ blanks, token.isBlank = true) (hname : s.name.isSome = true)
    (following : List Token) : g.machineRuns context s (blanks ++ following) =
      blanks.map (·.run .plain) ++ g.machineRuns context s following := by
  obtain ⟨category, hname⟩ := Option.isSome_iff_exists.1 hname
  induction blanks with
  | nil => rfl
  | cons token blanks ih =>
      rw [List.forall_mem_cons] at hblank
      have hstep : g.step context s token (blanks ++ following) = (.plain, s) := by
        simp [step, hname, hblank.1]
      rw [List.cons_append, machineRuns_cons, hstep, ih hblank.2]
      rfl

theorem skipBlanks?_eq (cursor : Cursor) :
    cursor.skipBlanks? = (cursor.rest.dropWhile (·.isBlank)).head?.map fun token =>
      ((cursor.rest.takeWhile (·.isBlank)).length, token) := by
  have hpeek : cursor.peek? (cursor.rest.takeWhile (·.isBlank)).length =
      (cursor.rest.dropWhile (·.isBlank)).head? := by
    rw [Cursor.peek?, List.head?_eq_getElem?]
    conv => lhs; arg 1; rw [← List.takeWhile_append_dropWhile (p := (·.isBlank)) (l := cursor.rest)]
    rw [List.getElem?_append_right (Nat.le_refl _), Nat.sub_self]
  rw [Cursor.skipBlanks?, hpeek]

/--
What the loop hands out at once for a declared name is what the machine styles while the name
is still to come.
-/
theorem nameRuns_append_machineRuns (g : Grammar) (context : Context) (declaration : Declaration)
    (opened : Opened) (cursor : Cursor) :
    (g.nameRuns context declaration cursor).1 ++
        g.machineRuns context ⟨opened, none⟩ (g.nameRuns context declaration cursor).2.rest =
      g.machineRuns context ⟨opened, g.announced? context declaration cursor.rest⟩
        cursor.rest := by
  have hrest := List.takeWhile_append_dropWhile (p := (·.isBlank)) (l := cursor.rest)
  have hblank : ∀ token ∈ cursor.rest.takeWhile (·.isBlank), Token.isBlank token = true :=
    fun token h => List.mem_takeWhile_imp h
  simp only [nameRuns, announced?, skipBlanks?_eq]
  generalize cursor.rest.takeWhile (·.isBlank) = blanks at hrest hblank
  cases hdrop : cursor.rest.dropWhile (·.isBlank) with
  | nil => rfl
  | cons name following =>
      have hname : name.isBlank = false := by
        have := List.head?_dropWhile_not (·.isBlank) cursor.rest
        simpa [hdrop] using this
      rw [hdrop] at hrest
      have hbehind : cursor.rest.drop (blanks.length + 1) = following := by
        rw [← hrest]
        simp
      simp only [List.head?_cons, Option.map_some, hbehind]
      split
      · -- the blanks and the name are handed out at once
        have hskip : cursor.rest.take blanks.length = blanks ∧
            cursor.rest.drop blanks.length = name :: following := by simp [← hrest]
        simp only [Cursor.advance, hskip.1, hskip.2, List.take_one, List.drop_one, List.tail_cons]
        rw [← hrest, g.machineRuns_of_isBlank context _ blanks hblank rfl, machineRuns_cons,
          List.append_assoc]
        simp [step, hname]
      · rfl

/-- The loop gives each token the run of its length in the style of its step. -/
theorem runsFrom_eq_machineRuns (g : Grammar) (context : Context) (opened : Opened)
    (cursor : Cursor) :
    g.runsFrom context opened cursor = g.machineRuns context ⟨opened, none⟩ cursor.rest := by
  fun_induction runsFrom g context opened cursor with
  | case1 opened cursor hnext =>
      rw [Cursor.rest_eq_nil_of_next? hnext]
      rfl
  | case2 opened cursor token further hnext hlt opening hquote category next hstyle ih =>
      have hstep : g.step context ⟨opened, none⟩ token further.rest = (category, ⟨next, none⟩) := by
        simp [step, hquote, hstyle]
      rw [(Cursor.eq_of_next? hnext).1, machineRuns_cons, hstep, ih]
  | case3 opened cursor token further hnext hlt hquote hcomment next ih =>
      have hstep : g.step context ⟨opened, none⟩ token further.rest = (.comment, ⟨next, none⟩) := by
        simp [step, hquote, hcomment, next]
      rw [(Cursor.eq_of_next? hnext).1, machineRuns_cons, hstep, ih]
  | case4 opened cursor token further hnext hlt hquote hcomment declaration hword hle named ih =>
      have hstep : g.step context ⟨opened, none⟩ token further.rest =
          (.keyword, ⟨opened, g.announced? context declaration further.rest⟩) := by
        simp [step, hquote, hcomment, stepCode, hword]
      rw [(Cursor.eq_of_next? hnext).1, machineRuns_cons, hstep, ih,
        nameRuns_append_machineRuns]
  | case5 opened cursor token further hnext hlt hquote hcomment hword category next hstyle ih =>
      have hstep : g.step context ⟨opened, none⟩ token further.rest = (category, ⟨next, none⟩) := by
        simp [step, hquote, hcomment, stepCode, hword, hstyle]
      rw [(Cursor.eq_of_next? hnext).1, machineRuns_cons, hstep, ih]

theorem runs_eq (g : Grammar) (context : Context) (tokens : List Token) :
    g.runs context tokens = List.zipWith Token.run tokens (g.styles context tokens) := by
  rw [runs, styles, start]
  cases g.pending? context with
  | none => exact g.runsFrom_eq_machineRuns context _ _
  | some declaration =>
      simp only [runsFrom_eq_machineRuns]
      exact g.nameRuns_append_machineRuns context declaration context.opened
        (.ofTokens tokens context.previous)

end Grammar

/-! ### Rule files -/

namespace Rules

/-- The style of each token, given whether a comment is open and the token before. -/
def stylesFrom (context : Context) (inComment : Bool) (previous : Option Token) :
    List Token → List Category
  | [] => []
  | token :: rest =>
    if inComment then
      .comment :: stylesFrom context (!token.hasLineBreak) (some token) rest
    else
      let category := styleOf token previous (endsLine context rest)
      category :: stylesFrom context (category = .comment) (some token) rest

/-- The style of each token of a range. -/
def styles (context : Context) (tokens : List Token) : List Category :=
  stylesFrom context context.inComment context.previous tokens

/-- The token that the next one is handed out behind is the one handed out last, if there is one. -/
theorem runsFrom_eq (context : Context) (inComment : Bool) (cursor : Cursor) :
    runsFrom context inComment cursor = List.zipWith Token.run cursor.rest
      (stylesFrom context inComment (cursor.taken.head?.or cursor.before) cursor.rest) := by
  fun_induction runsFrom context inComment cursor with
  | case1 inComment cursor hnext =>
      rw [Cursor.rest_eq_nil_of_next? hnext]
      rfl
  | case2 cursor token further hnext hlt ih =>
      obtain ⟨hrest, hfurther⟩ := Cursor.eq_of_next? hnext
      have hlast : further.taken.head?.or further.before = some token := by
        rw [hfurther]
        rfl
      rw [ih, hlast, hrest]
      rfl
  | case3 inComment cursor token further hnext hlt hcomment category ih =>
      obtain ⟨hrest, hfurther⟩ := Cursor.eq_of_next? hnext
      have hprevious : further.previous? = cursor.taken.head?.or cursor.before := by
        rw [hfurther, Cursor.previous?]
        cases cursor.taken <;> rfl
      have hlast : further.taken.head?.or further.before = some token := by
        rw [hfurther]
        rfl
      rw [ih, hlast, hrest, stylesFrom, if_neg hcomment, ← hprevious]
      rfl

theorem runs_eq (context : Context) (tokens : List Token) :
    runs context tokens = List.zipWith Token.run tokens (styles context tokens) :=
  runsFrom_eq context _ _

end Rules

/-! ### All lexers -/

/-- The style of each token of plain text. -/
def Plain.styles (tokens : List Token) : List Category := tokens.map Plain.styleOf

theorem Plain.runs_eq (tokens : List Token) :
    Plain.runs tokens = List.zipWith Token.run tokens (Plain.styles tokens) := by
  rw [runs, styles, List.zipWith_map_right, List.zipWith_self]

namespace Lexer

/-- The style of each token of a range. -/
def styles (lexer : Lexer) (context : Context) (tokens : List Token) : List Category :=
  match lexer with
  | .plain => Plain.styles tokens
  | .rules => Rules.styles context tokens
  | .program grammar => grammar.styles context tokens

/-- A lexer has one run for each token: the token in its style. -/
theorem runs_eq (lexer : Lexer) (context : Context) (tokens : List Token) :
    lexer.runs context tokens = List.zipWith Token.run tokens (lexer.styles context tokens) := by
  cases lexer with
  | plain => exact Plain.runs_eq tokens
  | rules => exact Rules.runs_eq context tokens
  | program grammar => exact grammar.runs_eq context tokens

end Lexer

end EditorCore
