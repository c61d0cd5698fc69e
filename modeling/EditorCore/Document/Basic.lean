import EditorCore.Fault
import EditorCore.File.Disk
import EditorCore.Language.Detection
import EditorCore.Text.LineEnding

/-!
# Documents

A document is a styled text with the lexer that styles it, the path that it will
be saved to, and a note of whether it was changed since. Its operations are pure;
those that touch files take a disk and answer with the disk they leave.
-/

namespace EditorCore

/-- A text that is being edited. -/
structure Document where
  /-- Where the document is saved. -/
  path : Option Path
  /-- The text and its styles. -/
  buffer : Buffer
  /-- What styles the text. -/
  lexer : Lexer
  /-- The line ending that the document is recorded to use. -/
  lineEnding : LineEnding
  /-- Whether the text was changed since it was last read or written. -/
  modified : Bool
deriving DecidableEq, Repr

namespace Document

/-- The name shown for a document without a file name. -/
def unnamed : Name := "untitled".toList

/-- The text of a document. -/
def text (document : Document) : List Char := document.buffer.text

/-- The name of the document's file. -/
def name (document : Document) : Name :=
  (document.path.bind (·.fileName?)).getD unnamed

/-- Style the whole text anew. -/
def restyleAll (document : Document) : Document :=
  let buffer := document.buffer
  { document with
    buffer := (document.lexer.restyle? buffer 0 buffer.length).getD buffer }

/-- A document with a text, all of it styled. -/
def ofText (text : List Char) (lexer : Lexer) : Document :=
  restyleAll
    { path := none
      buffer := .ofText text
      lexer
      lineEnding := .detect text
      modified := false }

/-- The document for a file on a disk. -/
def open? (disk : Disk) (path : Path) : Except Fault Document :=
  if !disk.hasPath path then .error (.fileNotFound path.toString)
  else
    match disk.read? path with
    | none => .error .disk
    | some bytes =>
      match String.fromUTF8? bytes with
      | none => .error (.notText path.toString)
      | some text => .ok { ofText text.toList (.ofPath path) with path := some path }

/-- An empty document that will be saved to a path. -/
def untitled (path : Path) : Document := { ofText [] (.ofPath path) with path := some path }

/-- The bytes of a document's text written to its path. -/
def save (document : Document) (disk : Disk) : Except Fault (Document × Disk) :=
  match document.path with
  | none => .error .noFileName
  | some path =>
    match disk.writeText? path document.text with
    | none => .error .disk
    | some written => .ok ({ document with modified := false }, written)

/-- A document that goes by a new path; its text is styled anew if the language changes. -/
def rename (document : Document) (path : Path) : Document :=
  let lexer := Lexer.ofPath path
  let styled :=
    if lexer.language = document.lexer.language then document
    else restyleAll { document with lexer }
  { styled with path := some path }

/-- Save under a new path. The document goes by that path even if writing fails. -/
def saveAs (document : Document) (disk : Disk) (path : Path) :
    Document × Except Fault Disk :=
  let renamed := document.rename path
  match renamed.save disk with
  | .ok (saved, written) => (saved, .ok written)
  | .error fault => (renamed, .error fault)

/-- Rewrite every line break of the text to one convention, which is recorded. -/
def setLineEnding (document : Document) (ending : LineEnding) : Document :=
  let normalized := ending.normalize document.text
  let rewritten :=
    if normalized = document.text then document
    else
      let buffer := document.buffer
      let replaced := (buffer.replace? 0 buffer.length normalized).getD buffer
      { restyleAll { document with buffer := replaced } with modified := true }
  { rewritten with lineEnding := ending }

end Document

end EditorCore
