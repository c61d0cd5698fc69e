import EditorCore.Document.Edit
import EditorCore.Proofs.File.Writing
import EditorCore.Proofs.Language.Conservation

/-!
# Documents and their files

A document that was opened is worked on and saved, on a disk that nothing else changes. As
long as it is not modified, the file that was last read or written holds exactly its text,
unless it is a device, which drops what is written. That file is the one at the document's
path, unless saving under a new path was refused: the document goes by the new path then,
although nothing was written there.
-/

namespace EditorCore

/-- Text that was read from bytes is written as those bytes. -/
theorem Disk.encode_of_fromUTF8? {bytes : ByteArray} {text : String}
    (h : String.fromUTF8? bytes = some text) : encode text.toList = bytes := by
  rw [String.fromUTF8?] at h
  split at h
  · obtain rfl := Option.some.inj h
    rw [encode, String.ofList_toList]
    rfl
  · simp at h

namespace Document

variable {document next : Document} {disk left : Disk} {path : Path}

/-! ### What operations change -/

@[simp] theorem text_restyleAll (document : Document) :
    document.restyleAll.text = document.text := by
  rw [restyleAll, text, text]
  cases hstyled : document.lexer.restyle? document.buffer 0 document.buffer.length with
  | none => rfl
  | some styled => exact Lexer.text_of_restyle? hstyled

@[simp] theorem text_ofText (text : List Char) (lexer : Lexer) :
    (ofText text lexer).text = text := by
  rw [ofText, text_restyleAll]
  rfl

@[simp] theorem text_rename (document : Document) (path : Path) :
    (document.rename path).text = document.text := by
  simp only [rename]
  split
  · rfl
  · exact text_restyleAll _

@[simp] theorem modified_rename (document : Document) (path : Path) :
    (document.rename path).modified = document.modified := by
  simp only [rename]
  split
  · rfl
  · rfl

/-- An edit changes nothing but the styled text, and notes that it was changed. -/
theorem eq_of_replace? {start stop first last : Nat} {inserted : List Char}
    (h : document.replace? start stop inserted = some (next, first, last)) :
    ∃ buffer, next = { document with buffer, modified := true } := by
  obtain ⟨edited, -, h⟩ := Option.bind_eq_some_iff.1 h
  obtain ⟨⟨before, after⟩, -, h⟩ := Option.bind_eq_some_iff.1 h
  obtain ⟨lineStart, -, h⟩ := Option.bind_eq_some_iff.1 h
  obtain ⟨styled, -, h⟩ := Option.bind_eq_some_iff.1 h
  obtain ⟨⟨settled, stop⟩, -, h⟩ := Option.bind_eq_some_iff.1 h
  obtain ⟨rfl, -⟩ := Prod.mk.inj (Option.some.inj h)
  exact ⟨settled, rfl⟩

/-- An edit modifies the document, which goes by the same path. -/
theorem modified_of_replace? {start stop first last : Nat} {inserted : List Char}
    (h : document.replace? start stop inserted = some (next, first, last)) :
    next.modified = true ∧ next.path = document.path := by
  obtain ⟨buffer, rfl⟩ := eq_of_replace? h
  exact ⟨rfl, rfl⟩

/-- Rewriting line breaks changes nothing that counts, or modifies the document. -/
theorem setLineEnding_spec (document : Document) (ending : LineEnding) :
    (document.setLineEnding ending).path = document.path ∧
      ((document.setLineEnding ending).modified = false →
        document.modified = false ∧ (document.setLineEnding ending).text = document.text) := by
  simp only [setLineEnding]
  split
  · exact ⟨rfl, fun h => ⟨h, rfl⟩⟩
  · exact ⟨rfl, fun h => absurd h (by simp)⟩

/-- What is opened is a file of text, and a document is made of that text. -/
theorem open?_eq_ok_iff : open? disk path = .ok document ↔ ∃ text,
    disk.readText? path = some text ∧
      document = { ofText text (.ofPath path) with path := some path } := by
  constructor
  · intro h
    simp only [open?] at h
    split at h
    · simp at h
    · split at h
      · simp at h
      · next bytes hbytes =>
          split at h
          · simp at h
          · next text htext =>
              refine ⟨text.toList, ?_, (Except.ok.inj h).symm⟩
              simp [Disk.readText?, hbytes, htext]
  · rintro ⟨text, h, rfl⟩
    obtain ⟨bytes, hbytes, h⟩ := Option.bind_eq_some_iff.1 h
    obtain ⟨read, hread, h⟩ := Option.bind_eq_some_iff.1 h
    obtain rfl := Option.some.inj h
    have hthere : disk.hasPath path = true := by
      obtain ⟨place, hplace, -⟩ := Option.bind_eq_some_iff.1 hbytes
      rw [Disk.hasPath, hplace]
      rfl
    simp [open?, hthere, hbytes, hread]

/-- A document that is opened has the text of its file. -/
theorem open?_spec (h : open? disk path = .ok document) :
    document.path = some path ∧ disk.read? path = some (Disk.encode document.text) := by
  obtain ⟨text, hread, rfl⟩ := open?_eq_ok_iff.1 h
  obtain ⟨bytes, hbytes, hread⟩ := Option.bind_eq_some_iff.1 hread
  obtain ⟨read, hvalid, hread⟩ := Option.bind_eq_some_iff.1 hread
  obtain rfl := Option.some.inj hread
  refine ⟨rfl, hbytes.trans (congrArg some ?_)⟩
  rw [← Disk.encode_of_fromUTF8? hvalid]
  exact congrArg Disk.encode (text_ofText _ _).symm

/-- A file of text is opened as an unmodified document of that text. -/
theorem open?_of_readText? {text : List Char} (h : disk.readText? path = some text) :
    ∃ document, open? disk path = .ok document ∧ document.text = text ∧
      document.modified = false :=
  ⟨_, open?_eq_ok_iff.2 ⟨text, h, rfl⟩, text_ofText _ _, rfl⟩

/-- Saving writes the text to the document's path and leaves the document unmodified. -/
theorem writeText?_of_save (h : document.save disk = .ok (next, left)) :
    next = { document with modified := false } ∧ ∃ path, document.path = some path ∧
      disk.writeText? path document.text = some left := by
  simp only [save] at h
  split at h
  · simp at h
  · next path hpath =>
      split at h
      · simp at h
      · next written hwritten =>
          obtain ⟨rfl, rfl⟩ := Prod.mk.inj (Except.ok.inj h)
          exact ⟨rfl, path, hpath, hwritten⟩

/-- A document is saved if its text can be written to its path. -/
theorem save_of_writeText? (hpath : document.path = some path)
    (h : disk.writeText? path document.text = some left) :
    document.save disk = .ok ({ document with modified := false }, left) := by
  simp [save, hpath, h]

/-- A path leads to a file with a text, or to a device. -/
def Keeps (disk : Disk) (path : Path) (text : List Char) : Prop :=
  disk.content? path = some (Disk.encode text) ∨ disk.node? path = some .device

/-- A document that is saved has its text in the file at its path, if that is no device. -/
theorem save_spec (h : document.save disk = .ok (next, left)) :
    next.text = document.text ∧ ∃ path, document.path = some path ∧ next.path = some path ∧
      Keeps left path document.text := by
  obtain ⟨rfl, path, hpath, hwritten⟩ := writeText?_of_save h
  refine ⟨rfl, path, hpath, hpath, ?_⟩
  exact (Disk.node?_of_write? hwritten).imp_left fun hnode => by rw [Disk.content?, hnode]; rfl

/-! ### Runs -/

/-- What can be done with a document that was opened. -/
inductive Action where
  /-- Replace a range of bytes by a text. -/
  | replace (start stop : Nat) (inserted : List Char)
  /-- Insert a text at a byte offset. -/
  | insert (offset : Nat) (inserted : List Char)
  /-- Delete a range of bytes. -/
  | delete (start stop : Nat)
  /-- Style the whole text anew. -/
  | restyleAll
  /-- Rewrite the line breaks. -/
  | setLineEnding (ending : LineEnding)
  /-- Save to the document's path. -/
  | save
  /-- Save under another path. -/
  | saveAs (path : Path)
  /-- Let the disk write to some places only, from now on. -/
  | permit (writable : Location → Bool)

/-- A document with the disk that it is kept on. -/
structure Kept where
  /-- The disk. -/
  disk : Disk
  /-- The document. -/
  document : Document
  /-- The path of the file that was read or written last. -/
  home : Path
  /-- Whether saving under another path was refused since then. -/
  astray : Bool

namespace Kept

/-- A document that was just opened. -/
def opened (disk : Disk) (document : Document) (path : Path) : Kept :=
  ⟨disk, document, path, false⟩

/-- An edit whose range does not fit changes nothing. -/
def edited (kept : Kept) (answer : Option (Document × Nat × Nat)) : Kept :=
  { kept with document := (answer.map (·.1)).getD kept.document }

/-- The document and its disk behind an action. -/
def after (kept : Kept) : Action → Kept
  | .replace start stop inserted => kept.edited (kept.document.replace? start stop inserted)
  | .insert offset inserted => kept.edited (kept.document.insert? offset inserted)
  | .delete start stop => kept.edited (kept.document.delete? start stop)
  | .restyleAll => { kept with document := kept.document.restyleAll }
  | .setLineEnding ending => { kept with document := kept.document.setLineEnding ending }
  | .save =>
    match kept.document.save kept.disk with
    | .error _ => kept
    | .ok (saved, left) => ⟨left, saved, saved.path.getD kept.home, false⟩
  | .saveAs path =>
    match kept.document.saveAs kept.disk path with
    | (renamed, .error _) => { kept with document := renamed, astray := true }
    | (saved, .ok left) => ⟨left, saved, path, false⟩
  | .permit writable => { kept with disk := { kept.disk with writable } }

/-- The document and its disk behind some actions. -/
def run (kept : Kept) (actions : List Action) : Kept := actions.foldl after kept

/-- The file at home holds the text, as long as the document is not modified. -/
structure IsSound (kept : Kept) : Prop where
  file : kept.document.modified = false → Keeps kept.disk kept.home kept.document.text
  path : kept.astray = false → kept.document.path = some kept.home

variable {kept : Kept}

theorem IsSound.edited (h : kept.IsSound) {start stop : Nat} {inserted : List Char} :
    (kept.edited (kept.document.replace? start stop inserted)).IsSound := by
  cases hanswer : kept.document.replace? start stop inserted with
  | none => exact ⟨h.file, h.path⟩
  | some answer =>
      obtain ⟨next, first, last⟩ := answer
      obtain ⟨hmodified, hpath⟩ := modified_of_replace? hanswer
      constructor
      · intro hclean
        exact absurd (hmodified.symm.trans hclean) (by simp)
      · intro hastray
        exact hpath.trans (h.path hastray)

/-- One step: no action parts an unmodified document from its file. -/
theorem IsSound.after (h : kept.IsSound) (action : Action) : (kept.after action).IsSound := by
  cases action with
  | replace start stop inserted => exact h.edited
  | insert offset inserted => exact h.edited
  | delete start stop => exact h.edited
  | restyleAll =>
      refine ⟨?_, h.path⟩
      intro hclean
      simpa [Kept.after] using h.file hclean
  | setLineEnding ending =>
      obtain ⟨hpath, htext⟩ := kept.document.setLineEnding_spec ending
      constructor
      · intro hclean
        obtain ⟨hmodified, hsame⟩ := htext hclean
        simpa [Kept.after, hsame] using h.file hmodified
      · intro hastray
        exact hpath.trans (h.path hastray)
  | save =>
      simp only [Kept.after]
      split
      · exact h
      · next saved left hsave =>
          obtain ⟨htext, path, -, hpath, hkeeps⟩ := save_spec hsave
          constructor
          · intro _
            simpa [hpath, htext] using hkeeps
          · intro _
            simp [hpath]
  | saveAs path =>
      simp only [Kept.after, saveAs]
      split
      · next renamed fault hrefused =>
          split at hrefused
          · simp at hrefused
          · obtain ⟨rfl, -⟩ := Prod.mk.inj hrefused
            refine ⟨?_, by simp⟩
            intro hclean
            simpa using h.file (by simpa using hclean)
      · next saved left hsaved =>
          split at hsaved
          · next next written hsave =>
              obtain ⟨rfl, hleft⟩ := Prod.mk.inj hsaved
              obtain rfl := Except.ok.inj hleft
              obtain ⟨htext, there, hthere, hpath, hkeeps⟩ := save_spec hsave
              obtain rfl : path = there := Option.some.inj hthere
              constructor
              · intro _
                simpa [htext] using hkeeps
              · intro _
                exact hpath
          · simp at hsaved
  | permit writable => exact ⟨h.file, h.path⟩

theorem IsSound.run (h : kept.IsSound) (actions : List Action) : (kept.run actions).IsSound := by
  induction actions generalizing kept with
  | nil => exact h
  | cons action actions ih => exact ih (h.after action)

end Kept

/--
Whatever is done with a document that was opened: while it is not modified, the file that
was read or written last holds exactly its text, if it is no device, and that file is the one
at its path unless saving under another path was refused since.
-/
theorem unmodified_matches_file {kept : Kept} {actions : List Action}
    (hopen : open? disk path = .ok document)
    (hrun : (Kept.opened disk document path).run actions = kept)
    (hclean : kept.document.modified = false) :
    (kept.disk.content? kept.home = some (Disk.encode kept.document.text) ∨
      kept.disk.node? kept.home = some .device) ∧
      (kept.astray = false → kept.document.path = some kept.home) := by
  have hsound : (Kept.opened disk document path).IsSound :=
    ⟨fun _ => .inl (Disk.content?_of_read? (open?_spec hopen).2), fun _ => (open?_spec hopen).1⟩
  obtain ⟨hfile, hpath⟩ := hrun ▸ hsound.run actions
  exact ⟨hfile hclean, hpath⟩

/--
Saving into a folder that is not there is refused. The document is not modified and goes by
the new path, where no file is; the old file holds its text.
-/
theorem unmodified_astray : ∃ disk document kept,
    disk = Disk.mk (.folder [(['a'], .file (Disk.encode ['x']))]) [] (fun _ => true)
      (fun _ => true) ∧
    open? disk ⟨['a']⟩ = .ok document ∧
    (Kept.opened disk document ⟨['a']⟩).run [.saveAs ⟨['b', '/', 'a']⟩] = kept ∧
    kept.document.modified = false ∧ kept.document.path = some ⟨['b', '/', 'a']⟩ ∧
    kept.disk.hasPath ⟨['b', '/', 'a']⟩ = false ∧ kept.home = ⟨['a']⟩ ∧
    kept.disk.content? kept.home = some (Disk.encode kept.document.text) := by
  have hopen : open? (Disk.mk (.folder [(['a'], .file (Disk.encode ['x']))]) [] (fun _ => true)
      (fun _ => true)) ⟨['a']⟩ =
        .ok { ofText ['x'] (.ofPath ⟨['a']⟩) with path := some ⟨['a']⟩ } := by
    rfl
  refine ⟨_, _, _, rfl, hopen, rfl, ?_, ?_, ?_, ?_, ?_⟩
  · rfl
  · rfl
  · rfl
  · rfl
  · have hfile : some (Node.file (Disk.encode ['x'])) ≠ some .device := by simp
    exact (unmodified_matches_file hopen rfl rfl).1.resolve_right hfile

end Document

end EditorCore
