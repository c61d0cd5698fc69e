import EditorCore.Document.Edit

/-!
# Editing sessions

A session is a project folder with the documents that are open in it, each known
by its number. It also hands out names for new files; all names share one
counter, which has 32 bits and goes round at its end.
-/

namespace EditorCore

/-- A project folder and its open documents. -/
structure Session where
  /-- The project folder. -/
  root : Path
  /-- The number that the next generated name is tried with. -/
  counter : UInt32
  /-- The open documents; the number of a document is its index. -/
  documents : List Document
deriving DecidableEq, Repr

namespace Session

/-- A session in a folder, with nothing open. -/
def ofRoot (root : Path) : Session := ⟨root, 1, []⟩

/-- How many names are tried before one is handed out regardless. -/
def nameAttempts : Nat := 9999

/-- An extension as it ends a generated name: in small letters and with one dot, or empty. -/
def normalizeExtension (extension : List Char) : List Char :=
  let bare := Text.lowercase ((Text.trim extension).dropWhile (· == '.'))
  if bare.isEmpty then [] else '.' :: bare

/-- The stem of a generated name. -/
def stemOrUnnamed (stem : Option (List Char)) : List Char :=
  (stem.filter (!·.isEmpty)).getD Document.unnamed

/-- The path with a number. -/
def candidate (root : Path) (stem extension : List Char) (number : Nat) : Path :=
  root.join ⟨stem ++ (toString number).toList ++ extension⟩

/--
The first number from a given one on whose path is free on a disk; when so many
tries have failed, the last one tried. Behind the last number of 32 bits comes zero.
-/
def firstFree (disk : Disk) (path : Nat → Path) : Nat → UInt32 → UInt32
  | 0, number => number
  | tries + 1, number =>
    if disk.hasPath (path number.toNat) then firstFree disk path tries (number + 1) else number

/-- A path in the project folder where nothing is yet. -/
def nextNewPath (session : Session) (disk : Disk) (extension : List Char)
    (stem : Option (List Char)) : Path × Session :=
  let path := candidate session.root (stemOrUnnamed stem) (normalizeExtension extension)
  let number := firstFree disk path (nameAttempts - 1) session.counter
  (path number.toNat, { session with counter := number + 1 })

/-- A path in the project folder for a copy of a file. -/
def duplicatePath (session : Session) (disk : Disk) (path : Path) : Path × Session :=
  session.nextNewPath disk (path.extension?.getD []) path.fileStem?

/-- Open an empty document under a generated name. -/
def newDocument (session : Session) (disk : Disk) (extension : List Char) : Nat × Session :=
  let (path, next) := session.nextNewPath disk extension none
  (next.documents.length, { next with documents := next.documents ++ [.untitled path] })

/-- Open a file, unless a document shows it already; the answer is the number of the document. -/
def open? (session : Session) (disk : Disk) (path : Path) : Except Fault (Nat × Session) :=
  let path := session.root.join path
  match disk.canonical? path with
  | none => .error (.fileNotFound path.toString)
  | some canonical =>
    let shows := fun (document : Document) => document.path.bind disk.canonical? = some canonical
    match session.documents.findIdx? (shows ·) with
    | some index => .ok (index, session)
    | none =>
      match Document.open? disk canonical with
      | .error fault => .error fault
      | .ok document =>
        .ok (session.documents.length,
          { session with documents := session.documents ++ [document] })

/-- Close a document; the numbers of those behind it go down by one. -/
def close (session : Session) (index : Nat) : Except Fault (Document × Session) :=
  match session.documents[index]? with
  | none => .error (.noSuchDocument index)
  | some document =>
    .ok (document, { session with documents := session.documents.eraseIdx index })

/-- The document with a number. -/
def document? (session : Session) (index : Nat) : Option Document := session.documents[index]?

/-- A session with one document in the place of another. -/
def setDocument (session : Session) (index : Nat) (document : Document) : Session :=
  { session with documents := session.documents.set index document }

end Session

end EditorCore
