import EditorCore.Text.Line

/-!
# Line endings

The three conventions for ending a line: which one a text uses, and rewriting a
text to one of them. The pair of carriage return and line feed is one break.
-/

namespace EditorCore

/-- How a text ends its lines. -/
inductive LineEnding where
  /-- A line feed. -/
  | lf
  /-- A carriage return and a line feed. -/
  | crlf
  /-- A carriage return. -/
  | cr
deriving DecidableEq, Repr

namespace LineEnding

/-- The characters of one line break. -/
def chars : LineEnding → List Char
  | .lf => ['\n']
  | .crlf => ['\r', '\n']
  | .cr => ['\r']

/-- The name shown for a convention. -/
def name : LineEnding → String
  | .lf => "LF"
  | .crlf => "CRLF"
  | .cr => "CR"

/-- The convention of the first line break of a text; line feeds if it has none. -/
def detect : List Char → LineEnding
  | [] => .lf
  | '\n' :: _ => .lf
  | '\r' :: '\n' :: _ => .crlf
  | '\r' :: _ => .cr
  | _ :: cs => detect cs

/-- A text with every line break written as one line feed. -/
def unify : List Char → List Char
  | [] => []
  | '\r' :: '\n' :: cs => '\n' :: unify cs
  | '\r' :: cs => '\n' :: unify cs
  | c :: cs => c :: unify cs

/-- A text with every line break rewritten to one convention. -/
def normalize (ending : LineEnding) (text : List Char) : List Char :=
  (unify text).flatMap fun c => if c = '\n' then ending.chars else [c]

end LineEnding

end EditorCore
