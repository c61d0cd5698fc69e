/-!
# Paths

A path is the text by which a file is asked for. It is kept as it was written:
joining puts one path behind another, and the name, stem and extension of a file
are read off the text. What a path leads to is a matter of the disk.
-/

namespace EditorCore

/-- The name of a file or folder within its folder. -/
abbrev Name := List Char

/-- A path as it was written, parts between slashes. -/
structure Path where
  /-- The text of the path. -/
  chars : List Char
deriving DecidableEq, Repr

namespace Path

/-- The path with a text. -/
def ofString (text : String) : Path := ⟨text.toList⟩

/-- The text of a path. -/
def toString (path : Path) : String := String.ofList path.chars

/-- Whether a path starts at the root of the disk. -/
def isAbsolute (path : Path) : Bool := path.chars.head? == some '/'

/-- The parts of a text between slashes, empty parts among them. -/
def splitSlash : List Char → List Name
  | [] => [[]]
  | c :: cs =>
    if c = '/' then [] :: splitSlash cs
    else
      match splitSlash cs with
      | [] => [[c]]
      | part :: parts => (c :: part) :: parts

/-- The parts of a path as written, empty parts among them. -/
def parts (path : Path) : List Name := splitSlash path.chars

/-- The folder itself, as a part of a path. -/
def here : Name := ['.']

/-- The folder above, as a part of a path. -/
def above : Name := ['.', '.']

/-- One path behind another; an absolute one stands for itself. -/
def join (base path : Path) : Path :=
  if path.isAbsolute then path
  else if base.chars.isEmpty || base.chars.getLast? == some '/' then ⟨base.chars ++ path.chars⟩
  else ⟨base.chars ++ '/' :: path.chars⟩

/-- A name behind a path. -/
def child (base : Path) (name : Name) : Path := base.join ⟨name⟩

/--
The name of the file that a path leads to: its last part, slashes and parts that
mean the folder itself left out. A path that ends in the folder above names no file.
-/
def fileName? (path : Path) : Option Name :=
  match (path.parts.filter fun part => !part.isEmpty && part != here).getLast? with
  | none => none
  | some part => if part = above then none else some part

/-- A file name cut at its last dot, which is in neither part; a leading dot does not count. -/
def splitName (name : Name) : Name × Option Name :=
  let tail := (name.reverse.takeWhile (· != '.')).reverse
  let stem := name.take (name.length - tail.length - 1)
  if tail.length < name.length ∧ stem ≠ [] then (stem, some tail) else (name, none)

/-- The name of the file without its extension. -/
def fileStem? (path : Path) : Option Name := path.fileName?.map fun name => (splitName name).1

/-- The extension of the file name, without the dot. -/
def extension? (path : Path) : Option Name := path.fileName?.bind fun name => (splitName name).2

end Path

end EditorCore
