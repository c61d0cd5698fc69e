import EditorCore.File.Node
import EditorCore.Text.Bytes

/-!
# Disks

A disk holds a tree of files and folders, a working folder from which relative
paths start, and a say in which places may be read and written. A path is followed
part by part, and through symbolic links up to a limit; the location that it comes
to is the path in canonical form.
-/

namespace EditorCore

/-- A tree of files with a working folder. -/
structure Disk where
  /-- The folder that all absolute paths start from. -/
  root : Node
  /-- The folder that relative paths start from. -/
  working : Location
  /-- Whether the disk lets the file at a place be written. -/
  writable : Location → Bool := fun _ => true
  /-- Whether the disk lets the file at a place be read, or the folder there be listed. -/
  readable : Location → Bool := fun _ => true

namespace Disk

/-- The longest name of a file in bytes. -/
def nameLimit : Nat := 255

/-- The longest path in bytes that can be asked for. -/
def pathLimit : Nat := 4095

/-- How many symbolic links are followed on the way of one path. -/
def linkLimit : Nat := 40

/-- Whether a path can be asked for: it has a text, and not too long a one. -/
def isProperPath (path : Path) : Bool :=
  !path.chars.isEmpty && Text.byteLength path.chars ≤ pathLimit

/-- Whether a part of a path stands for an entry of a folder, and not for a folder on the way. -/
def isEntry (part : Name) : Bool := !part.isEmpty && part != Path.here && part != Path.above

/-- Whether a file can have a name. -/
def isProperName (name : Name) : Bool :=
  isEntry name && !name.contains '\x00' && Text.byteLength name ≤ nameLimit

/--
Follow the parts of a path from a location, each looked up in a folder. What the parts of a
link, and those behind it, lead to is up to a function. Where a file may be created, the last
part can be a name that the folder does not have yet.
-/
def walk (root : Node) (create : Bool) (onward : Location → List Name → Option Location)
    (location : Location) : List Name → Option Location
  | [] => some location
  | part :: rest =>
    match root.held? location with
    | some (.folder _) =>
      if part = Path.above then walk root create onward location.dropLast rest
      else if !isEntry part then walk root create onward location rest
      else
        match root.held? (location ++ [part]) with
        | some (.link target) =>
          onward (if target.isAbsolute then [] else location) (target.parts ++ rest)
        | some _ => walk root create onward (location ++ [part]) rest
        | none =>
          if create && rest.isEmpty && isProperName part then some (location ++ [part]) else none
    | _ => none

/-- Follow the parts of a path from a location, through at most so many links. -/
def follow? (root : Node) (create : Bool) : Nat → Location → List Name → Option Location
  | 0 => walk root create fun _ _ => none
  | links + 1 => walk root create (follow? root create links)

/-- The location from which a path starts. -/
def origin (disk : Disk) (path : Path) : Location := if path.isAbsolute then [] else disk.working

/-- Where a path leads, if something is there, when its parts are asked for one by one. -/
def resolve? (disk : Disk) (path : Path) : Option Location :=
  if path.chars.isEmpty then none
  else follow? disk.root false linkLimit (disk.origin path) path.parts

/-- Where a path leads, if something is there, when it is asked for as a whole. -/
def locate? (disk : Disk) (path : Path) : Option Location :=
  if isProperPath path then disk.resolve? path else none

/-- What is where a path leads. -/
def node? (disk : Disk) (path : Path) : Option Node := (disk.locate? path).bind disk.root.get?

/-- Whether something is where a path leads. -/
def hasPath (disk : Disk) (path : Path) : Bool := (disk.locate? path).isSome

/-- Whether a path leads to a folder. -/
def isFolder (disk : Disk) (path : Path) : Bool := (disk.node? path).any (·.isFolder)

/-- The bytes that the file at the end of a path holds, be it readable or not. -/
def content? (disk : Disk) (path : Path) : Option ByteArray :=
  (disk.node? path).bind (·.content?)

/-- The bytes of the file that a path leads to, if the disk lets them be read. -/
def read? (disk : Disk) (path : Path) : Option ByteArray := do
  let location ← disk.locate? path
  if disk.readable location then (← disk.root.get? location).content? else none

/-- The text of the file that a path leads to, if its bytes are UTF-8. -/
def readText? (disk : Disk) (path : Path) : Option (List Char) := do
  let bytes ← disk.read? path
  let text ← String.fromUTF8? bytes
  pure text.toList

/-- The absolute path of a location. -/
def pathOf (location : Location) : Path :=
  if location.isEmpty then ⟨['/']⟩ else ⟨location.flatMap fun name => '/' :: name⟩

/-- The canonical form of a path that leads somewhere, of whatever length. -/
def canonical? (disk : Disk) (path : Path) : Option Path := (disk.resolve? path).map pathOf

/-- The location of the file that writing to a path makes or replaces. -/
def target? (disk : Disk) (path : Path) : Option Location := do
  if !isProperPath path then none
  else
    let location ← follow? disk.root true linkLimit (disk.origin path) path.parts
    match disk.root.held? location with
    | some (.folder _) => none
    | _ => if disk.writable location then some location else none

/-- The disk after bytes were written to a location; a device there drops them. -/
def writeAt (disk : Disk) (location : Location) (content : ByteArray) : Disk :=
  match disk.root.held? location with
  | some .device => disk
  | _ => { disk with root := disk.root.put location (.file content) }

/-- The disk after a file was written, if that is possible. -/
def write? (disk : Disk) (path : Path) (content : ByteArray) : Option Disk :=
  (disk.target? path).map fun location => disk.writeAt location content

/-- The bytes of a text. -/
def encode (text : List Char) : ByteArray := (String.ofList text).toUTF8

/-- The disk after a text was written, if that is possible. -/
def writeText? (disk : Disk) (path : Path) (text : List Char) : Option Disk :=
  disk.write? path (encode text)

end Disk

end EditorCore
