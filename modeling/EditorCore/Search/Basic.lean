import EditorCore.File.Collect
import EditorCore.Pattern.Matcher
import EditorCore.Text.Line
import EditorCore.Text.Width

/-!
# Searching files

A search looks for a pattern in every line of many files and reports one item for
each line that has a match. Files that do not hold text are passed over. The
items come in the order of the files and lines, up to a number that was asked
for.
-/

namespace EditorCore

/-- How a search is done. -/
structure SearchOptions where
  /-- Letters match without regard to case. -/
  ignoreCase : Bool := false
  /-- The pattern is a regular expression and not plain text. -/
  regex : Bool := false
  /-- Hidden files and folders are searched too. -/
  includeHidden : Bool := false
  /-- The number of items after which the search ends. -/
  maxResults : Nat := 5000
deriving DecidableEq, Repr

/-- Where a search is done. -/
inductive SearchScope where
  /-- In all files below a folder. -/
  | folder (root : Path)
  /-- In some files, in the order given. -/
  | files (paths : List Path)
deriving DecidableEq, Repr

/-- What is asked of a search. -/
structure SearchRequest where
  /-- What is looked for. -/
  pattern : List Char
  /-- Where it is looked for. -/
  scope : SearchScope
  /-- How it is looked for. -/
  options : SearchOptions
deriving DecidableEq, Repr

/-- A line with a match. -/
structure SearchItem where
  /-- The file of the line. -/
  path : Path
  /-- The number of the line, the first one being one. -/
  line : Nat
  /-- The byte offset in the line behind the match. -/
  stop : Nat
  /-- The part of the line that is shown. -/
  snippet : List Char
deriving DecidableEq, Repr

namespace SearchItem

/-- The name shown for the file of an item. -/
def name (item : SearchItem) : List Char := item.path.fileName?.getD item.path.chars

/-- An item on one line. -/
def display (item : SearchItem) : String :=
  String.ofList item.name ++ ":" ++ toString item.line ++ ":" ++ toString item.stop ++ " - " ++
    String.ofList item.snippet ++ " ..."

end SearchItem

namespace Search

/-- How many columns of a line are shown. -/
def snippetColumns : Nat := 50

/-- How many bytes of a file tell whether it is binary. -/
def sniffedBytes : Nat := 1024

/-- The longest front of a text that fits into so many columns. -/
def fitting (width : Nat) : List Char → List Char
  | [] => []
  | c :: cs => if Text.columns c ≤ width then c :: fitting (width - Text.columns c) cs else []

/-- The part of a text that is shown: trimmed, and as much as fits. -/
def snippet (text : List Char) : List Char := fitting snippetColumns (Text.trim text)

/-- Whether bytes are those of a binary file: one of the first is zero. -/
def isBinary (content : ByteArray) : Bool :=
  (content.extract 0 sniffedBytes).toList.contains 0

/-- Whether the file that a path leads to is binary; so is what cannot be read. -/
def isBinaryFile (disk : Disk) (path : Path) : Bool := (disk.read? path).all isBinary

/-- The text that a search looks through at a path, if it looks there at all. -/
def textAt? (disk : Disk) (path : Path) : Option (List Char) :=
  if isBinaryFile disk path then none else disk.readText? path

/-- The matcher that a request asks for. -/
def matcher? (request : SearchRequest) : Option Matcher :=
  let ignoreCase := request.options.ignoreCase
  if request.options.regex then Matcher.ofRegex? ignoreCase request.pattern
  else Matcher.ofText? ignoreCase request.pattern

/--
The item for a line, if a match is found in it. A regular expression is shown from its match
on. What finds matches is any function, here and where lines are looked through.
-/
def lineItem? (find? : List Char → Option Found) (fromMatch : Bool) (path : Path)
    (line : List Char) (number : Nat) : Option SearchItem :=
  (find? line).map fun found =>
    { path
      line := number
      stop := Text.byteLength (line.take found.stop)
      snippet := snippet (if fromMatch then line.drop found.start else line) }

/-- The first items of some numbered lines. -/
def lineItems (find? : List Char → Option Found) (fromMatch : Bool) (path : Path)
    (budget : Nat) : List (List Char × Nat) → List SearchItem
  | [] => []
  | (line, number) :: rest =>
    match budget, lineItem? find? fromMatch path line number with
    | 0, _ => []
    | budget + 1, some item => item :: lineItems find? fromMatch path budget rest
    | budget + 1, none => lineItems find? fromMatch path (budget + 1) rest

/-- The first items of a file. -/
def fileItems (disk : Disk) (find? : List Char → Option Found) (fromMatch : Bool) (budget : Nat)
    (path : Path) : List SearchItem :=
  match textAt? disk path with
  | none => []
  | some text => lineItems find? fromMatch path budget ((Text.lines text).zipIdx 1)

/-- The first items of some files. -/
def items (disk : Disk) (find? : List Char → Option Found) (fromMatch : Bool) (budget : Nat) :
    List Path → List SearchItem
  | [] => []
  | path :: rest =>
    let found := fileItems disk find? fromMatch budget path
    if budget ≤ found.length then found
    else found ++ items disk find? fromMatch (budget - found.length) rest

/-- The files that a request looks through. -/
def filesOf (disk : Disk) (request : SearchRequest) : Except Fault (List Path) :=
  match request.scope with
  | .folder root => disk.collectFiles root request.options.includeHidden
  | .files paths => .ok paths

/--
The items of a search. An empty pattern finds nothing, and a pattern that cannot
be read is refused before any file is looked for. At least one item is reported if
there is one, even if none was asked for.
-/
def run (disk : Disk) (request : SearchRequest) : Except Fault (List SearchItem) :=
  if request.pattern.isEmpty then .ok []
  else
    match matcher? request with
    | none => .error .badPattern
    | some matcher => do
      let files ← filesOf disk request
      pure (items disk matcher.find? request.options.regex (max 1 request.options.maxResults)
        files)

end Search

end EditorCore
