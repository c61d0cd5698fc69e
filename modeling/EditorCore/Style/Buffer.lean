import EditorCore.Style.Category
import EditorCore.Text.Bytes
import EditorCore.Text.Decimal

/-!
# Styled text

A buffer holds a text and one style for each of its bytes. Styles are written in
order from a cursor on, run by run, and are read back as spans of equal style.
-/

namespace EditorCore

/-- So many bytes of one style. -/
structure Run where
  /-- The number of bytes. -/
  length : Nat
  /-- Their style. -/
  category : Category
deriving DecidableEq, Repr

/-- The styles of the bytes of some runs, one behind the other. -/
def Run.styles (runs : List Run) : List Category :=
  runs.flatMap fun run => List.replicate run.length run.category

/-- A stretch of bytes of one style at its place. -/
structure Span where
  /-- The offset of the first byte. -/
  start : Nat
  /-- The offset behind the last byte. -/
  stop : Nat
  /-- The style of all of them. -/
  category : Category
deriving DecidableEq, Repr

namespace Span

/-- The spans of a list of styles whose first one belongs to the byte at an offset. -/
def ofStyles (offset : Nat) : List Category → List Span
  | [] => []
  | category :: rest =>
    match ofStyles (offset + 1) rest with
    | [] => [⟨offset, offset + 1, category⟩]
    | span :: spans =>
      if span.category = category then ⟨offset, span.stop, category⟩ :: spans
      else ⟨offset, offset + 1, category⟩ :: span :: spans

end Span

/-- A text with one style per byte. -/
structure Buffer where
  /-- The text. -/
  text : List Char
  /-- The style of each byte. -/
  styles : List Category
  /-- Where the next run is written. -/
  cursor : Nat
deriving DecidableEq, Repr

namespace Buffer

/-- A text that is all plain. -/
def ofText (text : List Char) : Buffer :=
  ⟨text, List.replicate (Text.byteLength text) .plain, 0⟩

/-- The length of the text in bytes. -/
def length (buffer : Buffer) : Nat := Text.byteLength buffer.text

/-- The style of a byte. -/
def styleAt? (buffer : Buffer) (offset : Nat) : Option Category := buffer.styles[offset]?

/-- The spans of equal style, from the start of the text to its end. -/
def spans (buffer : Buffer) : List Span := Span.ofStyles 0 buffer.styles

/-- Write the next run at an offset. -/
def seek (buffer : Buffer) (offset : Nat) : Buffer := { buffer with cursor := offset }

/-- Write one run at the cursor and move behind it; what lies beyond the text is dropped. -/
def put (buffer : Buffer) (run : Run) : Buffer :=
  let start := min buffer.cursor buffer.styles.length
  let stop := min (buffer.cursor + run.length) buffer.styles.length
  { buffer with
    styles := buffer.styles.take start ++ List.replicate (stop - start) run.category ++
      buffer.styles.drop stop
    cursor := buffer.cursor + run.length }

/-- Write one run, unless the cursor would leave the range of offsets. -/
def put? (buffer : Buffer) (run : Run) : Option Buffer :=
  if buffer.cursor + run.length < Text.wordLimit then some (buffer.put run) else none

/-- Write runs one behind the other from an offset on; what lies beyond the text is dropped. -/
def putAll (buffer : Buffer) (offset : Nat) (runs : List Run) : Buffer :=
  let styles := Run.styles runs
  let start := min offset buffer.styles.length
  { buffer with
    styles := buffer.styles.take start ++ styles.take (buffer.styles.length - start) ++
      buffer.styles.drop (start + styles.length)
    cursor := offset + styles.length }

/-- Replace the bytes of a range by a text, which comes in plain. -/
def replace? (buffer : Buffer) (start stop : Nat) (inserted : List Char) : Option Buffer :=
  if start ≤ stop then do
    let (before, _) ← Text.splitAt? buffer.text start
    let (_, after) ← Text.splitAt? buffer.text stop
    pure { buffer with
      text := before ++ inserted ++ after
      styles := buffer.styles.take start ++
        List.replicate (Text.byteLength inserted) .plain ++ buffer.styles.drop stop }
  else none

end Buffer

end EditorCore
