import EditorCore.Proofs.File.Following
import EditorCore.Proofs.File.Paths

/-!
# Reading what was written

Writing to a path puts a file where the path leads, and changes nothing else; a device drops
what it is given. So the path leads to the new file, whose bytes can be read again if the disk
lets that place be read.
-/

namespace EditorCore

namespace Disk

open Node

variable {disk left : Disk} {path : Path} {content : ByteArray} {place : Location}

/-! ### Where a path leads -/

/-- Every path has a part, so it begins in a folder. -/
theorem folder_of_leads {held : Holdings} {create : Bool} {links : Nat} {start : Location}
    (h : Leads held create links start path.parts place) : held start = some .empty := by
  obtain ⟨part, rest, hparts⟩ := List.exists_cons_of_ne_nil (Path.splitSlash_ne_nil path.chars)
  rw [Path.parts, hparts] at h
  exact h.folder

theorem locate?_eq_some_iff : disk.locate? path = some place ↔
    isProperPath path = true ∧
      Leads disk.root.held? false linkLimit (disk.origin path) path.parts place := by
  rw [locate?, Option.ite_none_right_eq_some]
  refine and_congr_right fun hproper => ?_
  rw [isProperPath, Bool.and_eq_true, Bool.not_eq_true'] at hproper
  rw [resolve?, if_neg (by simp [hproper.1]), follow?_eq_some_iff]

/-- A file is written where the path leads, unless a folder is there. -/
theorem target?_eq_some_iff : disk.target? path = some place ↔
    isProperPath path = true ∧
      Leads disk.root.held? true linkLimit (disk.origin path) path.parts place ∧
      disk.root.held? place ≠ some .empty ∧ disk.writable place = true := by
  rw [target?]
  by_cases hproper : isProperPath path = true
  · simp only [hproper, Bool.not_true, Bool.false_eq_true, if_false, true_and]
    rw [Option.bind_eq_bind, Option.bind_eq_some_iff]
    simp only [follow?_eq_some_iff]
    constructor
    · rintro ⟨other, hleads, hother⟩
      split at hother
      · simp at hother
      · next hfolder =>
          rw [Option.ite_none_right_eq_some, Option.some.injEq] at hother
          obtain ⟨hwritable, rfl⟩ := hother
          exact ⟨hleads, fun hempty => hfolder [] hempty, hwritable⟩
    · rintro ⟨hleads, hempty, hwritable⟩
      refine ⟨place, hleads, ?_⟩
      split
      · next hfolder => exact absurd (eq_empty_of_held? hfolder) hempty
      · rw [if_pos hwritable]
  · simp [hproper]

/-! ### Writing -/

/-- What writing to a path does. -/
inductive Wrote (disk : Disk) (path : Path) (content : ByteArray) : Disk → Prop where
  /-- A file is put where the path leads. -/
  | put {root : Node} {place : Location} (htarget : disk.target? path = some place)
    (hdevice : disk.root.held? place ≠ some .device)
    (hupdate : IsUpdate disk.root.held? root.held? place content)
    (hlocate : { disk with root }.locate? path = some place) :
    Wrote disk path content { disk with root }
  /-- A device drops what it is given. -/
  | drop {place : Location} (hdevice : disk.root.held? place = some .device)
    (hlocate : disk.locate? path = some place) : Wrote disk path content disk

theorem wrote_of_write? (h : disk.write? path content = some left) :
    Wrote disk path content left := by
  obtain ⟨place, htarget, rfl⟩ := Option.map_eq_some_iff.1 h
  obtain ⟨hproper, hleads, hfolder, hwritable⟩ := target?_eq_some_iff.1 htarget
  have hstart := folder_of_leads hleads
  have hlink : ∀ target, disk.root.held? place ≠ some (.link target) := by
    rcases hleads.old_or_fresh with hold | ⟨hnone, -⟩
    · obtain ⟨node, hnode, hlink⟩ := hold.isThere (isThere_of_folder hstart)
      simpa [hnode] using hlink
    · simp [hnone]
  rw [writeAt]
  split
  · next hdevice =>
      rcases hleads.old_or_fresh with hold | ⟨hnone, -⟩
      · exact .drop hdevice (locate?_eq_some_iff.2 ⟨hproper, hold⟩)
      · simp [hnone] at hdevice
  · next hdevice =>
      obtain ⟨above, name, rfl, habove⟩ : ∃ above name, place = above ++ [name] ∧
          disk.root.held? above = some .empty := by
        rcases hleads.old_or_fresh with hold | ⟨-, above, name, rfl, habove⟩
        · obtain ⟨node, hnode, -⟩ := hold.isThere (isThere_of_folder hstart)
          rcases List.eq_nil_or_concat' place with rfl | ⟨above, name, rfl⟩
          · exact absurd (held?_nil hstart) hfolder
          · exact ⟨above, name, rfl, held?_eq_empty_of_append above name [] (by simp [hnode])⟩
        · exact ⟨above, name, rfl, habove⟩
      have hupdate : IsUpdate disk.root.held?
          (disk.root.put (above ++ [name]) (.file content)).held? (above ++ [name]) content :=
        ⟨held?_put habove hfolder content, hfolder, hlink⟩
      exact .put htarget hdevice hupdate
        (locate?_eq_some_iff.2 ⟨hproper, hleads.created hupdate⟩)

/-- Written bytes are held where the path leads, if that is no device. -/
theorem node?_of_write? (h : disk.write? path content = some left) :
    left.node? path = some (.file content) ∨ left.node? path = some .device := by
  cases wrote_of_write? h with
  | @put root place _ _ hupdate hlocate =>
      have hfile := hupdate.kept place
      rw [if_pos rfl, held?_eq_some_iff rfl] at hfile
      left
      rw [node?, hlocate]
      exact hfile
  | drop hdevice hlocate =>
      rw [held?_eq_some_iff rfl] at hdevice
      right
      rw [node?, hlocate]
      exact hdevice

/-- A path leads somewhere once it was written to. -/
theorem hasPath_of_write? (h : disk.write? path content = some left) :
    left.hasPath path = true := by
  cases wrote_of_write? h with
  | put _ _ _ hlocate => simp [hasPath, hlocate]
  | drop _ hlocate => simp [hasPath, hlocate]

/-- Written bytes are held at the path that they were written to, if it leads to no device. -/
theorem content?_of_write? (h : disk.write? path content = some left)
    (hdevice : left.node? path ≠ some .device) : left.content? path = some content := by
  rw [content?, (node?_of_write? h).resolve_right hdevice]
  rfl

/-- A path leads to a file that the disk lets be read. -/
def IsReadable (disk : Disk) (path : Path) : Prop :=
  (∃ content, disk.node? path = some (.file content)) ∧
    ∀ place, disk.locate? path = some place → disk.readable place = true

/-- The bytes of a file that may be read. -/
theorem read?_of_isReadable (hfile : disk.IsReadable path) :
    disk.read? path = disk.content? path := by
  obtain ⟨⟨content, hnode⟩, hreadable⟩ := hfile
  obtain ⟨place, hplace, hget⟩ := Option.bind_eq_some_iff.1 hnode
  simp [read?, content?, node?, hplace, hreadable place hplace, hget]

/-- What is read is held. -/
theorem content?_of_read? (h : disk.read? path = some content) :
    disk.content? path = some content := by
  obtain ⟨place, hplace, h⟩ := Option.bind_eq_some_iff.1 h
  rw [Option.ite_none_right_eq_some] at h
  rw [content?, node?, hplace]
  exact h.2

/-- Written bytes are read at the path that they were written to. -/
theorem read?_of_write? (h : disk.write? path content = some left)
    (hfile : left.IsReadable path) : left.read? path = some content := by
  rw [read?_of_isReadable hfile]
  refine content?_of_write? h ?_
  obtain ⟨⟨bytes, hnode⟩, -⟩ := hfile
  simp [hnode]

/-- A text is read back from the bytes that it was written as. -/
theorem fromUTF8?_encode (text : List Char) :
    String.fromUTF8? (encode text) = some (String.ofList text) :=
  dif_pos (String.ofList text).isValidUTF8

/-- A written text is read at the path that it was written to. -/
theorem readText?_of_writeText? {text : List Char} (h : disk.writeText? path text = some left)
    (hfile : left.IsReadable path) : left.readText? path = some text := by
  simp [readText?, read?_of_write? h hfile, fromUTF8?_encode]

end Disk

end EditorCore
