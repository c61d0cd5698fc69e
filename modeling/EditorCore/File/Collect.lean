import EditorCore.Fault
import EditorCore.File.Disk

/-!
# The files below a folder

All files that a folder holds, directly or in folders within it. Folders are listed one
by one, each time the one that was found last. Folders of a few names are passed over,
hidden files and folders on request, links and devices always; a folder that cannot be
listed is passed over with all that is in it. The files come in the order of their paths,
name by name, so the order in which folders list their entries does not show.
-/

namespace EditorCore

namespace Node

/-- The names of folders that are never entered. -/
def excludedFolders : List Name :=
  [".git", ".svn", ".hg", ".bzr", "__pycache__", "build", "dist"].map (·.toList)

/-- Whether a name is that of a hidden file or folder. -/
def isHidden (name : Name) : Bool := name.head? == some '.'

end Node

/-- A folder that was found below another one and is still to be listed. -/
structure PendingFolder where
  /-- The names on the way to it. -/
  location : Location
  /-- What it holds. -/
  entries : List (Name × Node)

/-- How far the files below a folder have been collected. -/
structure Collecting where
  /-- The folders that are still to be listed, the one found last first. -/
  pending : List PendingFolder
  /-- The names on the way to the files that were found, the one found last first. -/
  files : List Location

namespace Collecting

/-- Take note of one entry of a folder. -/
def note (includeHidden : Bool) (folder : Location) (found : Collecting)
    (entry : Name × Node) : Collecting :=
  if Node.isHidden entry.1 && !includeHidden then found
  else
    match entry.2 with
    | .folder entries =>
      if Node.excludedFolders.contains entry.1 then found
      else { found with pending := ⟨folder ++ [entry.1], entries⟩ :: found.pending }
    | .file _ => { found with files := (folder ++ [entry.1]) :: found.files }
    | _ => found

/-- Take note of all entries of a folder. -/
def list (includeHidden : Bool) (folder : PendingFolder) (found : Collecting) : Collecting :=
  folder.entries.foldl (note includeHidden folder.location) found

/-- How much the folders hold that are still to be listed. -/
noncomputable def size (found : Collecting) : Nat :=
  found.pending.foldr (fun folder rest => sizeOf folder.entries + 1 + rest) 0

theorem size_note_le (includeHidden : Bool) (folder : Location) (found : Collecting)
    (entry : Name × Node) :
    (found.note includeHidden folder entry).size ≤ found.size + sizeOf entry := by
  obtain ⟨name, node⟩ := entry
  rw [note]
  split
  · omega
  · split
    · next entries hfolder =>
      split
      · omega
      · obtain rfl : node = .folder entries := hfolder
        simp [size]
        omega
    · simp [size]
    · omega

theorem size_list_le (includeHidden : Bool) (folder : PendingFolder) (found : Collecting) :
    (list includeHidden folder found).size ≤ found.size + sizeOf folder.entries := by
  rw [list]
  induction folder.entries generalizing found with
  | nil => simp
  | cons entry entries ih =>
      have hentry := found.size_note_le includeHidden folder.location entry
      have hrest := ih (found.note includeHidden folder.location entry)
      simp only [List.foldl_cons, List.cons.sizeOf_spec]
      omega

/-- List the folders that are still to be listed, and those found in them, if they can be listed. -/
def finish (lists : Location → Bool) (includeHidden : Bool) : Collecting → List Location
  | ⟨[], files⟩ => files
  | ⟨folder :: pending, files⟩ =>
    if lists folder.location then
      finish lists includeHidden (list includeHidden folder ⟨pending, files⟩)
    else finish lists includeHidden ⟨pending, files⟩
termination_by found => found.size
decreasing_by
  · have := size_list_le includeHidden folder ⟨pending, files⟩
    simp only [size, List.foldr_cons] at this ⊢
    omega
  · simp only [size, List.foldr_cons]
    omega

end Collecting

namespace Disk

/-- Names are in the order of the code points of their characters. -/
def nameBefore (a b : Name) : Bool := List.lex a b fun c d => Nat.blt c.toNat d.toNat

/-- Whether the folder that a path leads to can be listed. -/
def canList (disk : Disk) (path : Path) : Bool := (disk.locate? path).any disk.readable

/-- The path of what is at some names below a folder. -/
def below (root : Path) (location : Location) : Path := location.foldl Path.child root

/-- The paths of the files below a folder, in order. -/
def collectFiles (disk : Disk) (root : Path) (includeHidden : Bool) :
    Except Fault (List Path) :=
  match disk.node? root with
  | some (.folder entries) =>
    let found :=
      Collecting.finish (fun folder => disk.canList (below root folder)) includeHidden
        ⟨[⟨[], entries⟩], []⟩
    let locations := found.mergeSort fun a b => !List.lex b a nameBefore
    .ok (locations.map (below root))
  | _ => .error (.fileNotFound root.toString)

end Disk

end EditorCore
