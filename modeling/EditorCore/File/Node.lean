import EditorCore.File.Path

/-!
# Files and folders

The contents of a disk as a tree. A folder lists its entries in some order, which
no operation but listing can see. Where a node is in the tree is told by the
names on the way to it from the root. A symbolic link stands in the tree with the
path that it points to; nothing is below it there.
-/

namespace EditorCore

/-- Where a node is: the names on the way to it, the one below the root first. -/
abbrev Location := List Name

/-- What a folder can hold. -/
inductive Node where
  /-- A file with its bytes. -/
  | file (content : ByteArray)
  /-- A folder with its entries. -/
  | folder (entries : List (Name × Node))
  /-- A symbolic link with the path that it points to. -/
  | link (target : Path)
  /-- A device that drops what is written to it, and that nothing is read from. -/
  | device

namespace Node

/-- A folder without entries. -/
def empty : Node := .folder []

/-- The entry of a folder with a name. -/
def child? (node : Node) (name : Name) : Option Node :=
  match node with
  | .folder entries => entries.lookup name
  | _ => none

/-- The node at a location. -/
def get? (node : Node) : Location → Option Node
  | [] => some node
  | name :: rest => (node.child? name).bind (·.get? rest)

/-- Whether a node is a folder. -/
def isFolder : Node → Bool
  | .folder _ => true
  | _ => false

/-- The bytes of a file; those of a device are none at all. -/
def content? : Node → Option ByteArray
  | .file content => some content
  | .device => some .empty
  | _ => none

/-- A node without the entries of a folder. -/
def surface : Node → Node
  | .folder _ => .empty
  | node => node

/-- What is held at a location, apart from what is below it. -/
def held? (root : Node) (location : Location) : Option Node := (root.get? location).map surface

/-- Entries with one more, which takes the place of an entry of its name. -/
def withEntry (name : Name) (node : Node) : List (Name × Node) → List (Name × Node)
  | [] => [(name, node)]
  | (other, old) :: rest =>
    if other = name then (name, node) :: rest else (other, old) :: withEntry name node rest

/-- A tree with a node put at a location; nothing changes where there is no folder to hold it. -/
def put (root : Node) (location : Location) (node : Node) : Node :=
  match location, root with
  | [], _ => node
  | [name], .folder entries => .folder (withEntry name node entries)
  | name :: rest, .folder entries =>
    match entries.lookup name with
    | none => .folder entries
    | some inner => .folder (withEntry name (inner.put rest node) entries)
  | _ :: _, other => other

end Node

end EditorCore
