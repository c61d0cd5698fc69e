import EditorCore.Document.Basic
import EditorCore.Theme.Basic

/-!
# Painting on a terminal

A styled text written with the control sequences that set colors and weight. The
text itself is written as it is; each span is led by the sequences of its look.
-/

namespace EditorCore.Paint

/-- A control sequence that selects how text is drawn, from its parameters. -/
def select (parameters : String) : List Char := '\x1b' :: '[' :: parameters.toList ++ ['m']

/-- The number of a palette color; none for the standard color and colors by their parts. -/
def paletteIndex? : Color → Option Nat
  | .standard | .rgb _ _ _ => none
  | .black => some 0
  | .red => some 1
  | .green => some 2
  | .yellow => some 3
  | .blue => some 4
  | .magenta => some 5
  | .cyan => some 6
  | .white => some 7
  | .brightBlack => some 8
  | .brightBlue => some 12
  | .brightMagenta => some 13

/-- The parameters that select a color, for the text or for what is behind it. -/
def colorParameters (behind : Bool) (color : Color) : String :=
  let which := if behind then "4" else "3"
  match color, paletteIndex? color with
  | .rgb red green blue, _ =>
    which ++ "8;2;" ++ toString red.toNat ++ ";" ++ toString green.toNat ++ ";" ++
      toString blue.toNat
  | _, some index => which ++ "8;5;" ++ toString index
  | _, none => which ++ "9"

/-- The parameters that select bold or normal weight. -/
def weightParameters (bold : Bool) : String := if bold then "1" else "22"

/-- A text with the sequences of its look in front of it. -/
def span (background : Bool) (look : Look) (text : List Char) : List Char :=
  select (colorParameters false look.foreground) ++
    (if background then select (colorParameters true look.background) else []) ++
    select (weightParameters look.bold) ++ text

/-- The sequences that end all selections. -/
def reset : List Char := select "0" ++ select "0"

/-- The painted spans of a text, or none if a span does not lie between two places. -/
def spans? (theme : Theme) (registry : Registry) (background : Bool) (text : List Char) :
    List Span → Option (List Char)
  | [] => some []
  | s :: rest => do
    let inside ← Text.slice? text s.start s.stop
    let painted ← spans? theme registry background text rest
    pure (span background (theme.lookOf s.category (registry.isBold s.category)) inside ++ painted)

/-- A painted document. -/
def document? (theme : Theme) (background : Bool) (document : Document) : Option (List Char) :=
  (spans? theme document.lexer.registry background document.text document.buffer.spans).map
    (· ++ reset)

end EditorCore.Paint
