import EditorCore.Document.Basic

/-!
# Editing a document

An edit replaces a range of bytes by a text. Only the damaged lines are styled
anew, and then the lines below them one by one, until a line comes out with the
styles that it had before and leaves no string open behind it.
-/

namespace EditorCore

namespace Tokenizer

/--
The line at the front of a text, through its line break and on to the end of the
token there, given the text in front of it.
-/
def wholeLine (t : Tokenizer) (before after : List Char) : List Char :=
  let line := Text.firstLine after
  line ++ t.rightOf (before ++ line) (after.drop line.length)

theorem wholeLine_length_pos (t : Tokenizer) (before after : List Char)
    (h : after ≠ []) : 0 < (t.wholeLine before after).length := by
  have := Text.firstLine_length_pos h
  simp [wholeLine]
  omega

end Tokenizer

namespace Lexer

/--
Style the lines behind a place one by one, until one of them settles. The answer
is the buffer with the offset up to which it was styled, or none if a range to be
styled has no context.
-/
def carryOn? (lexer : Lexer) (buffer : Buffer) (before : List Char) :
    List Char → Option (Buffer × Nat)
  | [] => some (buffer, Text.byteLength before)
  | c :: cs =>
    let line := lexer.tokenizer.wholeLine before (c :: cs)
    let start := Text.byteLength before
    let stop := start + Text.byteLength line
    match lexer.restyle? buffer start stop with
    | none => none
    | some styled =>
      let was := (buffer.styles.drop start).take (stop - start)
      let is := (styled.styles.drop start).take (stop - start)
      -- a string that goes on behind a line break still depends on its opening quote
      if is = was ∧ styled.styleAt? (stop - 1) ≠ some .string then some (styled, stop)
      else lexer.carryOn? styled (before ++ line) ((c :: cs).drop line.length)
termination_by after => after.length
decreasing_by
  have := lexer.tokenizer.wholeLine_length_pos before (c :: cs) (by simp)
  simp only [List.length_drop]
  simp only [List.length_cons] at this ⊢
  omega

end Lexer

namespace Document

/--
Replace a range of bytes by a text and style what that can have changed. The
answer is the document with the range that was styled, or none if the range does
not lie between two places of the text.
-/
def replace? (document : Document) (start stop : Nat) (inserted : List Char) :
    Option (Document × Nat × Nat) := do
  let edited ← document.buffer.replace? start stop inserted
  let tokenizer := document.lexer.tokenizer
  let (before, after) ← Text.splitAt? edited.text start
  let lineStart := start - Text.byteLength (Text.lastLine before)
  let first ← tokenizer.alignStart? edited.text lineStart
  let damagedFront := before ++ inserted
  let damagedEnd := tokenizer.wholeLine damagedFront (after.drop inserted.length)
  let front := damagedFront ++ damagedEnd
  let styled ← document.lexer.restyle? edited first (Text.byteLength front)
  let (settled, last) ←
    document.lexer.carryOn? styled front (edited.text.drop front.length)
  pure ({ document with buffer := settled, modified := true }, first, last)

/-- Insert a text at a byte offset. -/
def insert? (document : Document) (offset : Nat) (inserted : List Char) :
    Option (Document × Nat × Nat) :=
  document.replace? offset offset inserted

/-- Delete a range of bytes. -/
def delete? (document : Document) (start stop : Nat) : Option (Document × Nat × Nat) :=
  document.replace? start stop []

end Document

end EditorCore
