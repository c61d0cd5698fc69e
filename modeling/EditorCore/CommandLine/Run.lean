import EditorCore.CommandLine.Arguments
import EditorCore.Document.Edit
import EditorCore.Paint
import EditorCore.Search.Worker
import EditorCore.Session
import EditorCore.Settings
import EditorCore.Text.Quoted

/-!
# Running a command

What a command prints and how it leaves the disk. What was printed before a fault
stays printed, and what was written before it stays written.
-/

namespace EditorCore.CommandLine

/-- What a command comes to. -/
structure Outcome where
  /-- The text that it prints. -/
  printed : List Char
  /-- The disk that it leaves. -/
  disk : Disk
  /-- Why it failed, if it did. -/
  fault : Option Fault

namespace Outcome

/-- A command that printed a text and changed nothing. -/
def print (disk : Disk) (text : List Char) : Outcome := ⟨text, disk, none⟩

/-- A command that failed before it did anything. -/
def fail (disk : Disk) (fault : Fault) : Outcome := ⟨[], disk, some fault⟩

end Outcome

/-- A text with a line feed behind it. -/
def lineOf (text : String) : List Char := text.toList ++ ['\n']

/-- One span of a text: its bytes, its style and what it covers. -/
def spanLine (text : List Char) (span : Span) : List Char :=
  let inside := (Text.slice? text span.start span.stop).getD []
  lineOf (Text.padLeft 6 (toString span.start) ++ ".." ++ Text.padRight 6 (toString span.stop) ++
    " " ++ Text.padRight 14 span.category.name ++ " " ++ String.ofList (Text.quoted inside))

/-- All spans of a document, and what the document is like. -/
def listSpans (document : Document) : List Char :=
  document.buffer.spans.flatMap (spanLine document.text) ++
    lineOf (toString (Text.byteLength document.text) ++ " bytes, " ++ document.lineEnding.name ++
      " line endings")

/-- Show a file with its styles. -/
def highlight (disk : Disk) (settings : Settings) (file : Path) (spans : Bool)
    (theme : Option (List Char)) (dark light background : Bool) : Except Fault (List Char) := do
  let document ← Document.open? disk file
  if spans then pure (listSpans document)
  else
    let settings :=
      { settings with
        theme := theme.getD settings.theme
        darkMode := if dark || light then dark else settings.darkMode }
    let theme ← settings.theme? disk
    pure ((Paint.document? theme background document).getD [] ++ ['\n'])

/-- Search the files below a folder. -/
def search (disk : Disk) (settings : Settings) (pattern : List Char) (root : Option Path)
    (ignoreCase regex hidden : Bool) (maxResults : Option Nat) : Except Fault (List Char) := do
  let chosen := settings.searchOptions
  let options : SearchOptions :=
    { ignoreCase := chosen.ignoreCase || ignoreCase
      regex := chosen.regex || regex
      includeHidden := chosen.includeHidden || hidden
      maxResults := (maxResults.map (max 1)).getD chosen.maxResults }
  let items ← Search.run disk ⟨pattern, .folder (root.getD ⟨Path.here⟩), options⟩
  pure (items.flatMap fun item => lineOf item.display)

/-- List the categories of a file's language. -/
def listStyles (file : Path) : List Char :=
  let lexer := Lexer.ofPath file
  let entry := fun (entry : (Category × Bool) × Nat) =>
    lineOf (Text.padLeft 3 (toString entry.2) ++ "  " ++ Text.padRight 14 entry.1.1.name ++ " " ++
      (if entry.1.2 then "bold" else "normal"))
  lineOf (lexer.name ++ " (" ++ lexer.language.name ++ ")") ++
    lexer.registry.entries.zipIdx.flatMap entry

/-- List the themes, the chosen one marked. -/
def listThemes (disk : Disk) (settings : Settings) : Except Fault (List Char) := do
  let themes ← settings.themes disk
  pure (themes.names.flatMap fun name =>
    lineOf ((if name = String.ofList settings.theme then "* " else "  ") ++ name))

/-- Rewrite the line breaks of a file. -/
def normalize (disk : Disk) (file : Path) (ending : LineEnding) :
    Except Fault (List Char × Disk) := do
  let document ← Document.open? disk file
  let rewritten := document.setLineEnding ending
  let name := String.ofList document.name
  if rewritten.modified then
    let (_, written) ← rewritten.save disk
    pure (lineOf (name ++ ": converted to " ++ ending.name), written)
  else pure (lineOf (name ++ ": already " ++ ending.name), disk)

/--
The byte offsets at which a text occurs in another, each behind the end of the one
before it, given the offset of the text that is looked through.
-/
def occurrences (pattern : List Char) (offset : Nat) : List Char → List Nat
  | [] => []
  | c :: cs =>
    if pattern.isPrefixOf (c :: cs) ∧ pattern ≠ [] then
      offset :: occurrences pattern (offset + Text.byteLength pattern)
        ((c :: cs).drop pattern.length)
    else occurrences pattern (offset + c.utf8Size) cs
termination_by text => text.length
decreasing_by
  · rename_i h
    have := List.length_pos_iff.2 h.2
    simp only [List.length_drop, List.length_cons]
    omega
  · simp

/-- Replace a text at some offsets of a document, the last one first. -/
def replaceAt (document : Document) (pattern inserted : List Char) (offsets : List Nat) :
    Document :=
  offsets.reverse.foldl
    (fun document offset =>
      match document.replace? offset (offset + Text.byteLength pattern) inserted with
      | some (edited, _, _) => edited
      | none => document)
    document

/-- Replace a text everywhere in a file, or show what that would come to. -/
def replace (disk : Disk) (file : Path) (pattern inserted : List Char) (dryRun : Bool) :
    Except Fault (List Char × Disk) := do
  if pattern.isEmpty then .error .emptyPattern
  else
    let document ← Document.open? disk file
    let found := occurrences pattern 0 document.text
    let edited := replaceAt document pattern inserted found
    let summary :=
      lineOf (String.ofList document.name ++ ": " ++ toString found.length ++ " replacements")
    if dryRun then pure (listSpans edited ++ summary, disk)
    else if edited.modified then
      let (_, written) ← edited.save disk
      pure (summary, written)
    else pure (summary, disk)

/-- Copy a file to a new name beside it. -/
def duplicate (disk : Disk) (file : Path) : Except Fault (List Char × Disk) :=
  match disk.resolve? file with
  | none => .error (.fileNotFound file.toString)
  | some location => do
    let canonical := Disk.pathOf location
    let session := Session.ofRoot (Disk.pathOf location.dropLast)
    let (index, session) ← session.open? disk canonical
    let (copy, session) := session.duplicatePath disk canonical
    match session.document? index with
    | none => .error (.noSuchDocument index)
    | some document =>
      let (saved, result) := document.saveAs disk copy
      let written ← result
      pure (lineOf (copy.toString ++ " (" ++ saved.lexer.name ++ ")"), written)

/-- A command that prints and changes nothing. -/
def printing (disk : Disk) : Except Fault (List Char) → Outcome
  | .ok text => .print disk text
  | .error fault => .fail disk fault

/-- A command that prints after it has written. -/
def writing (disk : Disk) : Except Fault (List Char × Disk) → Outcome
  | .ok (text, written) => ⟨text, written, none⟩
  | .error fault => .fail disk fault

/-- Show the settings, and then save them if that is asked for. -/
def showSettings (disk : Disk) (home : Option Path) (settings : Settings) (save : Bool) :
    Outcome :=
  let printed := settings.toText
  if save then
    match settings.save disk home with
    | .ok written => ⟨printed, written, none⟩
    | .error fault => ⟨printed, disk, some fault⟩
  else .print disk printed

/-- Run a command for a user with a home folder. -/
def run (disk : Disk) (home : Option Path) (command : Command) : Outcome :=
  let settings := Settings.load disk home
  match command with
  | .highlight file spans theme dark light background =>
    printing disk (highlight disk settings file spans theme dark light background)
  | .search pattern root ignoreCase regex hidden maxResults =>
    printing disk (search disk settings pattern root ignoreCase regex hidden maxResults)
  | .styles file => .print disk (listStyles file)
  | .themes => printing disk (listThemes disk settings)
  | .normalize file ending => writing disk (normalize disk file ending)
  | .replace file pattern inserted dryRun =>
    writing disk (replace disk file pattern inserted dryRun)
  | .duplicate file => writing disk (duplicate disk file)
  | .settings save => showSettings disk home settings save
  | .newName extension stem root =>
    let (path, _) := (Session.ofRoot root).nextNewPath disk extension stem
    .print disk (lineOf path.toString)
  | .version => .print disk (lineOf "epiccoder 0.1.0")

end EditorCore.CommandLine
