/-!
# Lines

Two views of line structure. Editing and highlighting look at single characters:
a line feed or a carriage return breaks a line. Reading a text line by line looks
at line feeds only, each with the carriage return in front of it.
-/

namespace EditorCore.Text

/-- A line feed or a carriage return. -/
def isLineBreak (c : Char) : Bool := c == '\n' || c == '\r'

/-- Whether a text has a line break anywhere. -/
def hasLineBreak (text : List Char) : Bool := text.any isLineBreak

/-- The unfinished line at the end of a text: what follows its last line break. -/
def lastLine (text : List Char) : List Char :=
  (text.reverse.takeWhile fun c => !isLineBreak c).reverse

/-- The front of a text through its first line break. -/
def firstLine : List Char → List Char
  | [] => []
  | c :: cs => if isLineBreak c then [c] else c :: firstLine cs

theorem firstLine_length_pos {text : List Char} (h : text ≠ []) :
    0 < (firstLine text).length := by
  cases text with
  | nil => exact absurd rfl h
  | cons c cs => simp only [firstLine]; split <;> simp

/-- One line without the carriage return at its end. -/
def dropReturn (line : List Char) : List Char :=
  if line.getLast? = some '\r' then line.dropLast else line

/-- Read lines, the first of which has begun with the given characters, last one first. -/
def linesFrom (begun : List Char) : List Char → List (List Char)
  | [] => if begun.isEmpty then [] else [begun.reverse]
  | c :: cs =>
    if c = '\n' then dropReturn begun.reverse :: linesFrom [] cs
    else linesFrom (c :: begun) cs

/--
The lines of a text. A line ends at a line feed, which it loses together with the
carriage return in front of it; an unfinished line at the end keeps all of its
characters, and an empty one there is no line.
-/
def lines (text : List Char) : List (List Char) := linesFrom [] text

end EditorCore.Text
