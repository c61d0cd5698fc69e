import EditorCore.Text.Blank
import EditorCore.Text.Bytes
import EditorCore.Text.Line

/-!
# Tokens

A text is cut into tokens by one rule that all languages share; what differs is
only which characters lead a comment. The rule is an ordered list of
alternatives: at each place the first one that matches takes as much as it can.
The last alternative takes any one character, so tokens cover the whole text.
-/

namespace EditorCore

/-- A piece of text that is styled as a whole. -/
abbrev Token := List Char

namespace Token

/-- Whether a token has nothing but blanks. -/
def isBlank (token : Token) : Bool := token.all Text.isBlank

/-- Whether a token begins with a line break. -/
def startsWithLineBreak (token : Token) : Bool := token.head?.any Text.isLineBreak

/-- Whether a token has a line break, and so ends a comment. -/
def hasLineBreak (token : Token) : Bool := Text.hasLineBreak token

/-- The character of a token that has only one. -/
def single? : Token → Option Char
  | [c] => some c
  | _ => none

/-- An integer literal: ASCII digits, at least one. -/
def isNumber (token : Token) : Bool := !token.isEmpty && token.all Char.isDigit

/-- The characters of words: ASCII letters, ASCII digits and the underscore. -/
def isWordChar (c : Char) : Bool := c.isAlphanum || c == '_'

/-- A word that does not begin with a digit. -/
def isIdentifier (token : Token) : Bool :=
  token.head?.any (fun c => c.isAlpha || c == '_') && token.all isWordChar

end Token

/-- A comment starts with a run of one character, repeated often enough. -/
structure CommentLead where
  /-- The character that is repeated. -/
  char : Char
  /-- How often it must stand in a row; zero asks for one. -/
  minRun : Nat
deriving DecidableEq, Repr

namespace CommentLead

/-- Two slashes or more. -/
def slashes : CommentLead := ⟨'/', 2⟩

/-- A semicolon or more. -/
def semicolon : CommentLead := ⟨';', 1⟩

/-- A number sign or more. -/
def hash : CommentLead := ⟨'#', 1⟩

/-- The shortest run that leads a comment. -/
def least (lead : CommentLead) : Nat := max lead.minRun 1

/-- Whether a token begins with this lead. -/
def leads (lead : CommentLead) (token : Token) : Bool :=
  lead.least ≤ (token.takeWhile (· == lead.char)).length

end CommentLead

/-- One way for a token to begin. -/
inductive Alternative where
  /-- An asterisk by itself. -/
  | star
  /-- A run of the character of a comment lead. -/
  | lead (marker : CommentLead)
  /-- A run of blanks. -/
  | blanks
  /-- A run of word characters. -/
  | word
  /-- Any one character. -/
  | other
deriving DecidableEq, Repr

/-- A front of a text, provided that it is long enough. -/
def runOf (least : Nat) (belongs : Char → Bool) (text : List Char) : Option Token :=
  let run := text.takeWhile belongs
  if least ≤ run.length then some run else none

/-- The longest token at the front of a text that an alternative allows. -/
def Alternative.match? : Alternative → List Char → Option Token
  | .star, text => if text.head? = some '*' then some ['*'] else none
  | .lead marker, text => runOf marker.least (· == marker.char) text
  | .blanks, text => runOf 1 Text.isBlank text
  | .word, text => runOf 1 Token.isWordChar text
  | .other, text => text.head?.map ([·])

/-- Cuts text into tokens, knowing which characters lead a comment. -/
structure Tokenizer where
  /-- The comment leads, the first one first tried. -/
  commentLeads : List CommentLead
deriving DecidableEq, Repr

namespace Tokenizer

/-- The tokenizer of texts whose comments start with two slashes. -/
def standard : Tokenizer := ⟨[.slashes]⟩

/-- The ways for a token to begin, in the order in which they are tried. -/
def alternatives (t : Tokenizer) : List Alternative :=
  .star :: t.commentLeads.map .lead ++ [.blanks, .word, .other]

/-- Whether a token begins with one of the comment leads. -/
def opensComment (t : Tokenizer) (token : Token) : Bool :=
  t.commentLeads.any (·.leads token)

/-- What the first token of a text takes after the character it begins with. -/
def firstTail (t : Tokenizer) (c : Char) (cs : List Char) : List Char :=
  ((t.alternatives.findSome? (·.match? (c :: cs))).getD [c]).tail

/-- The tokens of a text, in order. -/
def tokens (t : Tokenizer) : List Char → List Token
  | [] => []
  | c :: cs =>
    let tail := t.firstTail c cs
    (c :: tail) :: t.tokens (cs.drop tail.length)
termination_by text => text.length
decreasing_by simp only [List.length_cons, List.length_drop]; omega

/-- The tokens of a text with the byte offset of each. -/
def placed (offset : Nat) : List Token → List (Nat × Token)
  | [] => []
  | token :: rest => (offset, token) :: placed (offset + Text.byteLength token) rest

end Tokenizer

end EditorCore
