import EditorCore.Token.Basic

/-!
# Tokens around a place

Tokens are found again from a place in the middle of a text, without cutting the
text from its start. Every token lies within one class of characters, so it is
enough to walk from the place over characters of one class.
-/

namespace EditorCore

/-- What kind of token a character can be part of. -/
inductive CharClass where
  /-- A blank; runs of blanks are one token. -/
  | blank
  /-- A word character; runs of them are one token. -/
  | word
  /-- A character that leads a comment when it is repeated often enough. -/
  | lead (char : Char)
  /-- A character that is a token by itself. -/
  | single
deriving DecidableEq, Repr

namespace Tokenizer

/-- The class of a character. -/
def classOf (t : Tokenizer) (c : Char) : CharClass :=
  if Text.isBlank c then .blank
  else if Token.isWordChar c then .word
  else if c != '*' && t.commentLeads.any (·.char == c) then .lead c
  else .single

/-- The shortest run of a character that leads a comment. -/
def leastRun (t : Tokenizer) (c : Char) : Nat :=
  (((t.commentLeads.filter (·.char == c)).map (·.least)).min?).getD 1

/-- The run of one class at the end of a text. -/
def runBefore (t : Tokenizer) (kind : CharClass) (before : List Char) : List Char :=
  (before.reverse.takeWhile fun c => t.classOf c == kind).reverse

/-- The run of one class at the front of a text. -/
def runAfter (t : Tokenizer) (kind : CharClass) (after : List Char) : List Char :=
  after.takeWhile fun c => t.classOf c == kind

/-- The token that ends where a text ends. -/
def tokenBefore? (t : Tokenizer) (before : List Char) : Option Token :=
  before.getLast?.map fun last =>
    match t.classOf last with
    | .single => [last]
    | .lead c =>
      let run := t.runBefore (.lead c) before
      if t.leastRun c ≤ run.length then run else [last]
    | kind => t.runBefore kind before

/-- The two sides of the token that a place cuts in two, if it cuts one. -/
def tokenAround? (t : Tokenizer) (before after : List Char) : Option (Token × Token) :=
  match before.getLast?, after.head? with
  | some last, some next =>
    let kind := t.classOf last
    if kind != t.classOf next || kind == .single then none
    else
      let left := t.runBefore kind before
      let right := t.runAfter kind after
      match kind with
      | .lead c => if left.length + right.length < t.leastRun c then none else some (left, right)
      | _ => some (left, right)
  | _, _ => none

/-- How far back from a place the token around it begins, in characters given. -/
def leftOf (t : Tokenizer) (before after : List Char) : Token :=
  ((t.tokenAround? before after).map (·.1)).getD []

/-- How far on from a place the token around it ends, in characters given. -/
def rightOf (t : Tokenizer) (before after : List Char) : Token :=
  ((t.tokenAround? before after).map (·.2)).getD []

/-- The start of the token around a byte offset, or the offset itself. -/
def alignStart? (t : Tokenizer) (text : List Char) (offset : Nat) : Option Nat := do
  let (before, after) ← Text.splitAt? text offset
  pure (offset - Text.byteLength (t.leftOf before after))

/-- The end of the token around a byte offset, or the offset itself. -/
def alignEnd? (t : Tokenizer) (text : List Char) (offset : Nat) : Option Nat := do
  let (before, after) ← Text.splitAt? text offset
  pure (offset + Text.byteLength (t.rightOf before after))

end Tokenizer

end EditorCore
