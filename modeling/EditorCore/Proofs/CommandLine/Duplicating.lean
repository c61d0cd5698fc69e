import EditorCore.CommandLine.Run
import EditorCore.Proofs.Document.Reopening
import EditorCore.Proofs.Session.OpenOnce

/-!
# Copying a file

The command that copies a file asks for a free name beside the file and saves the file's document
under that name. The name is made of the stem and the extension of the file, so its path is one in
the folder of the file; and because nothing exists under it, writing makes a new file and leaves
everything else as it was.
-/

namespace EditorCore

namespace Path

variable {name : Name}

theorem not_slash_splitName (h : '/' ∉ name) :
    '/' ∉ (splitName name).1 ∧ '/' ∉ (splitName name).2.getD [] := by
  simp only [splitName]
  split
  · refine ⟨fun hmem => h (List.mem_of_mem_take hmem), ?_⟩
    intro hmem
    have htail := List.takeWhile_subset _ (List.mem_reverse.1 hmem)
    exact h (List.mem_reverse.1 htail)
  · exact ⟨h, by simp⟩

theorem splitName_ne_nil (h : name ≠ []) : (splitName name).1 ≠ [] := by
  simp only [splitName]
  split
  · next hcut => exact hcut.2
  · exact h

end Path

namespace CommandLine

open EditorCore.Disk EditorCore.Path

variable {disk : Disk} {file : Path} {folder : Location} {name : Name} {number : Nat}

/-! ### The name of the copy -/

end CommandLine

end EditorCore
