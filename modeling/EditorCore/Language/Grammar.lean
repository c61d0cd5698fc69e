import EditorCore.Language.Cursor
import EditorCore.Language.Kind
import EditorCore.Style.Context
import EditorCore.Style.Registry

/-!
# Program text

One loop over the tokens highlights every programming language; a grammar tells it the words
and characters of the language. Words are matched with regard to case.

A declaration word also styles the name that follows it, even across blanks and
line breaks; the name of a class counts only if a follower of the language comes
behind it on its line. A string runs from a quote to the next copy of the quote
that no backslash escapes, or to the end of the line.
-/

namespace EditorCore

/-- What a declaration word introduces. -/
inductive Declaration where
  /-- A class or another named type. -/
  | classLike
  /-- A function. -/
  | function
deriving DecidableEq, Repr

/-- The category of a declared name. -/
def Declaration.category : Declaration → Category
  | .classLike => .className
  | .function => .functionName

/-- What of the comments and strings of a text is open between two tokens. -/
structure Opened where
  /-- A comment is open. -/
  inComment : Bool
  /-- The quote of an open string. -/
  quote : Option Char
  /-- The next token of the string is escaped. -/
  escaped : Bool
deriving DecidableEq, Repr

/-- What is open in front of a range. -/
def Context.opened (context : Context) : Opened :=
  ⟨context.inComment, context.openQuote, context.escaped⟩

/-- The words and characters of a programming language. -/
structure Grammar where
  /-- The language. -/
  kind : Language
  /-- The name under which it is registered. -/
  name : String
  /-- What leads a line comment. -/
  commentLeads : List CommentLead
  /-- Keywords other than declaration words. -/
  keywords : List String
  /-- Names of constants. -/
  constants : List String
  /-- Names that come with the language. -/
  builtins : List String
  /-- Declaration words. -/
  declarations : List (String × Declaration)
  /-- The characters that may follow the name of a class. -/
  classFollowers : List Char
  /-- The characters that delimit strings. -/
  quotes : List Char
  /-- Brackets. -/
  brackets : List Char
  /-- Operators of one character. -/
  operators : List Char
deriving DecidableEq, Repr

namespace Grammar

/-- The tokenizer of a language. -/
def tokenizer (g : Grammar) : Tokenizer := ⟨g.commentLeads⟩

/-- The categories of a language. -/
def registry (g : Grammar) : Registry :=
  ⟨g.name,
    [(.plain, false), (.keyword, true), (.builtin, false), (.operator, false), (.bracket, false),
      (.comment, false), (.number, false), (.constant, false), (.className, true),
      (.functionName, true), (.string, false), (.stringEnd, false)]⟩

/-- What a word declares, if it is a declaration word. -/
def declaration? (g : Grammar) (token : Token) : Option Declaration :=
  (g.declarations.find? (·.1 = String.ofList token)).map (·.2)

/-- The quote that a token is, if it is one. -/
def quote? (g : Grammar) (token : Token) : Option Char :=
  token.single?.filter (· ∈ g.quotes)

/-- The style of a token by itself. -/
def classify (g : Grammar) (token : Token) : Category :=
  let word := String.ofList token
  if word ∈ g.keywords ∨ word ∈ g.declarations.map (·.1) then .keyword
  else if word ∈ g.constants then .constant
  else if token.isNumber then .number
  else if token.single?.any (· ∈ g.brackets) then .bracket
  else if word ∈ g.builtins then .builtin
  else if token.single?.any (· ∈ g.operators) then .operator
  else .plain

/-- Whether what comes behind the name of a class, on the same line, follows one. -/
def followsClassName (g : Grammar) (context : Context) : List Token → Bool
  | [] => context.nextInline.any (· ∈ g.classFollowers)
  | token :: rest =>
    if token.hasLineBreak then false
    else if token.isBlank then g.followsClassName context rest
    else token.head?.any (· ∈ g.classFollowers)

/-- The declaration word that a range starts behind, if its name is still to come. -/
def pending? (g : Grammar) (context : Context) : Option Declaration :=
  if !context.inComment && context.openQuote.isNone &&
      context.significantStyle == some .keyword then
    context.previousSignificant.bind g.declaration?
  else none

/--
The runs of a declared name and of the blanks in front of it. Nothing is handed out if there is
no name, or if nothing behind the name of a class follows one.
-/
def nameRuns (g : Grammar) (context : Context) (declaration : Declaration) (cursor : Cursor) :
    List Run × Cursor :=
  match cursor.skipBlanks? with
  | none => ([], cursor)
  | some (skipped, name) =>
    if name.isIdentifier &&
        (declaration != .classLike ||
          g.followsClassName context (cursor.rest.drop (skipped + 1))) then
      let (blanks, behindBlanks) := cursor.advance skipped
      let (_, behindName) := behindBlanks.advance 1
      (blanks.map (·.run .plain) ++ [name.run declaration.category], behindName)
    else ([], cursor)

/-- The style of a token inside a string, and what is open behind it. -/
def stringStyle (g : Grammar) (opened : Opened) (opening : Char) (token : Token) :
    Category × Opened :=
  if opened.escaped then (.string, { opened with escaped := false })
  else if token = ['\\'] then (.string, { opened with escaped := true })
  else if token.hasLineBreak then (.plain, { opened with quote := none })
  else if g.quote? token = some opening then (.stringEnd, { opened with quote := none })
  else (.string, opened)

/-- The style of a token outside strings and comments that declares nothing. -/
def wordStyle (g : Grammar) (opened : Opened) (token : Token) : Category × Opened :=
  if g.tokenizer.opensComment token then (.comment, { opened with inComment := true })
  else
    match g.quote? token with
    | some opening => (.string, { opened with quote := some opening })
    | none => (g.classify token, opened)

theorem length_rest_nameRuns_le (g : Grammar) (context : Context) (declaration : Declaration)
    (cursor : Cursor) : (g.nameRuns context declaration cursor).2.rest.length ≤
      cursor.rest.length := by
  rw [nameRuns]
  split
  · exact Nat.le_refl _
  · split
    · exact Nat.le_trans (Cursor.length_rest_advance_le _ _) (Cursor.length_rest_advance_le _ _)
    · exact Nat.le_refl _

/-- The runs of the tokens that are still to come, given what is open in front of them. -/
def runsFrom (g : Grammar) (context : Context) (opened : Opened) (cursor : Cursor) : List Run :=
  match h : cursor.next? with
  | none => []
  | some (token, further) =>
    have := Cursor.length_rest_of_next? h
    match opened.quote with
    | some opening =>
      let (category, next) := g.stringStyle opened opening token
      token.run category :: g.runsFrom context next further
    | none =>
      if opened.inComment then
        let next := { opened with inComment := !token.hasLineBreak }
        token.run .comment :: g.runsFrom context next further
      else
        match g.declaration? token with
        | some declaration =>
          have := g.length_rest_nameRuns_le context declaration further
          let named := g.nameRuns context declaration further
          token.run .keyword :: (named.1 ++ g.runsFrom context opened named.2)
        | none =>
          let (category, next) := g.wordStyle opened token
          token.run category :: g.runsFrom context next further
termination_by cursor.rest.length

/-- The runs of the tokens of a range. -/
def runs (g : Grammar) (context : Context) (tokens : List Token) : List Run :=
  let cursor := Cursor.ofTokens tokens context.previous
  -- the range can start between a declaration word and its name
  match g.pending? context with
  | some declaration =>
    let named := g.nameRuns context declaration cursor
    named.1 ++ g.runsFrom context context.opened named.2
  | none => g.runsFrom context context.opened cursor

end Grammar

end EditorCore
