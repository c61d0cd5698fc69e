import EditorCore.CommandLine.Run

/-!
# The command line program

Reads the part of the disk that a command can see, runs the command on it, prints
what it prints and writes what it has changed. What the command does is settled by
`CommandLine.read?` and `CommandLine.run`; this module only moves bytes.
-/

namespace EditorCore.Program

open CommandLine

/-- The paths that a command looks at, and the folder that it looks through. -/
def seen : Command → List Path × Option Path
  | .highlight file _ _ _ _ _ => ([file], none)
  | .search _ root _ _ _ _ => ([], some (root.getD ⟨Path.here⟩))
  | .styles _ | .themes | .settings _ | .version => ([], none)
  | .normalize file _ | .replace file _ _ _ | .duplicate file => ([file], none)
  | .newName _ _ root => ([root], none)

/-- The files of a tree whose bytes differ from those in a tree from before. -/
def written (before : Node) : (fuel : Nat) → Location → Node → List (Location × ByteArray)
  | 0, _, _ => []
  | _ + 1, location, .file content =>
    if (before.get? location).bind (·.content?) == some content then [] else [(location, content)]
  | fuel + 1, location, .folder entries =>
    entries.flatMap fun (name, node) => written before fuel (location ++ [name]) node
  | _ + 1, _, .link _ => []
  | _ + 1, _, .device => []

/-- The largest depth of the folders that are looked at. -/
def depthLimit : Nat := 256

/-- The name of a file or folder as the disk tells it. -/
def nameOf (entry : IO.FS.DirEntry) : Name := entry.fileName.toList

/-- Read what is at an absolute path: folders down to a depth, and files if asked for. -/
def readNode (depth : Nat) (files : Bool) (path : String) : IO (Option Node) := do
  let here ← IO.currentDir
  let place := here / path
  if ← place.isDir then
    match depth with
    | 0 => pure (some .empty)
    | depth + 1 =>
      let entries ← place.readDir
      let nodes ← entries.toList.filterMapM fun entry => do
        let node ← readNode depth files (path ++ "/" ++ entry.fileName)
        pure (node.map (nameOf entry, ·))
      pure (some (.folder nodes))
  else if ← place.pathExists then
    if files then
      try
        pure (some (.file (← IO.FS.readBinFile place)))
      catch _ => pure none
    else pure (some (.file ByteArray.empty))
  else pure none

/-- The text of an absolute path to a location. -/
def textOf (location : Location) : String := (Disk.pathOf location).toString

/-- A tree with a node put where nothing is known so far. -/
def learn (root : Node) (location : Location) (node : Node) : Node :=
  match root.get? location with
  | some (.folder (_ :: _)) => root
  | _ => root.put location node

/-- Read what a folder holds, and nothing of what is in its files. -/
def readNames (root : Node) (location : Location) : IO Node := do
  match ← readNode 1 false (textOf location) with
  | some folder => pure (learn root location folder)
  | none => pure root

/-- Read along the parts of a path: the folders on the way with what they hold, and its end. -/
def readAlong (root : Node) (location : Location) : List Name → IO Node
  | [] => do
    match ← readNode 0 true (textOf location) with
    | some (.file content) => pure (root.put location (.file content))
    | _ => readNames root location
  | part :: rest => do
    let root ← readNames root location
    if part.isEmpty || part == Path.here then readAlong root location rest
    else if part == Path.above then readAlong root location.dropLast rest
    else readAlong root (location ++ [part]) rest

/-- Read the part of the disk that a path leads through. -/
def readPath (disk : Disk) (path : Path) : IO Disk := do
  let root ← readAlong disk.root (disk.origin path) path.parts
  pure { disk with root := root }

/-- Read the whole folder that a path leads to. -/
def readFolder (disk : Disk) (path : Path) : IO Disk := do
  let disk ← readPath disk path
  match disk.locate? path with
  | none => pure disk
  | some location =>
    match ← readNode depthLimit true (textOf location) with
    | some node => pure { disk with root := disk.root.put location node }
    | none => pure disk

/-- Read what a command can see for a user with a home folder. -/
def readDisk (home : Option Path) (command : Command) : IO Disk := do
  let here ← IO.currentDir
  let working := (Path.ofString here.toString).parts.filter (!·.isEmpty)
  let bare : Disk := { root := .empty, working := working }
  let disk ← readPath bare (Disk.pathOf working)
  let disk ← (home.map Settings.pathIn).toList.foldlM readPath disk
  let disk ← (Settings.load disk home).themeFile.toList.foldlM readPath disk
  let (paths, folder) := seen command
  let disk ← paths.foldlM readPath disk
  folder.toList.foldlM readFolder disk

/-- Write the files that a command has changed. -/
def writeDisk (before after : Disk) : IO Unit :=
  (written before.root (depthLimit + before.working.length) [] after.root).forM
    fun (location, content) => IO.FS.writeBinFile (textOf location) content

/-- Tell the user why a command failed. -/
def complain (message : String) : IO UInt32 := do
  IO.eprintln ("Error: " ++ message)
  pure 1

/-- Run a command and do what it asks for. -/
def perform (command : Command) : IO UInt32 := do
  let home := (← IO.getEnv "HOME").map Path.ofString
  let disk ← readDisk home command
  let outcome := run disk home command
  try
    writeDisk disk outcome.disk
    IO.print (String.ofList outcome.printed)
    match outcome.fault with
    | none => pure 0
    | some fault => complain fault.message
  catch problem => complain (Fault.disk.message ++ ": " ++ toString problem)

end EditorCore.Program

/-- Run the command that the words of the command line ask for. -/
def main (words : List String) : IO UInt32 :=
  match EditorCore.CommandLine.read? (words.map (·.toList)) with
  | some command => EditorCore.Program.perform command
  | none => do
    IO.eprintln "Error: no such command"
    pure 2
