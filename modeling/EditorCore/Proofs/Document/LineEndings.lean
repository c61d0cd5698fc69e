import EditorCore.Proofs.Document.Reopening
import EditorCore.Proofs.Session.OpenOnce
import EditorCore.Proofs.Text.LineBreaks

/-!
# The line ending of a document

A document keeps a record of a line ending, which is that of the first break of its file until
the line breaks are rewritten. Saving does not look at the record: it writes the text as it is.
So the line breaks in the file are those of the record exactly if those in the text are, and
edits see to that only as far as they bring in no other ones and tear none apart.
-/

namespace EditorCore

theorem Disk.encode_inj {text other : List Char} : encode text = encode other ↔ text = other := by
  constructor
  · intro h
    have hread := congrArg String.fromUTF8? h
    rw [fromUTF8?_encode, fromUTF8?_encode, Option.some.injEq] at hread
    exact String.ofList_injective hread
  · exact congrArg encode

namespace Document

variable {document next : Document}

/-! ### What edits do to the text -/

theorem lineEnding_of_replace? {start stop first last : Nat} {inserted : List Char}
    (h : document.replace? start stop inserted = some (next, first, last)) :
    next.lineEnding = document.lineEnding := by
  obtain ⟨buffer, rfl⟩ := eq_of_replace? h
  rfl

/-- Rewriting the line breaks normalizes the text. -/
theorem text_setLineEnding (document : Document) (ending : LineEnding) :
    (document.setLineEnding ending).text = ending.normalize document.text := by
  simp only [setLineEnding]
  split
  · next hsame => exact hsame.symm
  · have hwhole : document.buffer.text = [] ++ (document.buffer.text ++ []) := by simp
    have hreplaced := Buffer.replace?_eq hwhole (ending.normalize document.text)
    simp only [List.nil_append, List.append_nil, Text.byteLength_nil] at hreplaced
    rw [Buffer.length, hreplaced]
    exact text_restyleAll _

/-- The line ending on record is at first that of the first line break. -/
theorem lineEnding_opened {disk : Disk} {path : Path} (h : open? disk path = .ok document) :
    document.lineEnding = .detect document.text := by
  obtain ⟨text, -, rfl⟩ := open?_eq_ok_iff.1 h
  exact congrArg LineEnding.detect (text_ofText text (.ofPath path)).symm

/-! ### Keeping to a line ending -/

/-- An offset that is between a carriage return and its line feed. -/
def Tears (document : Document) (offset : Nat) : Prop :=
  ∃ front back, document.text = front ++ back ∧ offset = Text.byteLength front ∧
    LineEnding.Tears front back

/-- An operation that brings in no other line breaks than the document's, and tears none. -/
def Operation.KeepsBreaks (document : Document) : Operation → Prop
  | .replace start stop inserted => document.lineEnding.UsesOnly inserted ∧
    ¬ document.Tears start ∧ ¬ document.Tears stop
  | .insert offset inserted => document.lineEnding.UsesOnly inserted ∧ ¬ document.Tears offset
  | .delete start stop => ¬ document.Tears start ∧ ¬ document.Tears stop
  | .restyleAll | .setLineEnding _ => True
  | .save _ | .saveAs _ _ => False

/-- All line breaks in the text of a document are of the line ending that it has on record. -/
def UsesItsBreaks (document : Document) : Prop := document.lineEnding.UsesOnly document.text

/-- Rewriting the line breaks leaves only those of the line ending that is put on record. -/
theorem usesItsBreaks_setLineEnding (document : Document) (ending : LineEnding) :
    (document.setLineEnding ending).UsesItsBreaks := by
  rw [UsesItsBreaks, text_setLineEnding]
  exact LineEnding.usesOnly_normalize ending document.text

theorem UsesItsBreaks.of_replace? (h : document.UsesItsBreaks) (hstyled : document.IsStyled)
    {start stop first last : Nat} {inserted : List Char}
    (hinserted : document.lineEnding.UsesOnly inserted) (hstart : ¬ document.Tears start)
    (hstop : ¬ document.Tears stop)
    (hreplace : document.replace? start stop inserted = some (next, first, last)) :
    next.UsesItsBreaks := by
  obtain ⟨before, removed, after, htext, rfl, rfl, hnext, -⟩ := hstyled.exists_cut hreplace
  rw [UsesItsBreaks, htext] at h
  have hbefore := (h.of_append fun htorn => hstart ⟨_, _, htext, rfl, htorn⟩).1
  rw [← List.append_assoc] at h htext
  have hafter := (h.of_append fun htorn => hstop ⟨_, _, htext, rfl, htorn⟩).2
  rw [UsesItsBreaks, lineEnding_of_replace? hreplace, hnext]
  exact hbefore.append (hinserted.append hafter)

/-- One step: an operation that keeps to the line ending of a document. -/
theorem UsesItsBreaks.of_result? (h : document.UsesItsBreaks) (hstyled : document.IsStyled)
    {operation : Operation} (hkeeps : operation.KeepsBreaks document)
    (hnext : operation.result? document = some next) : next.UsesItsBreaks := by
  cases operation with
  | replace start stop inserted =>
      obtain ⟨⟨edited, first, last⟩, hedited, rfl⟩ := Option.map_eq_some_iff.1 hnext
      exact h.of_replace? hstyled hkeeps.1 hkeeps.2.1 hkeeps.2.2 hedited
  | insert offset inserted =>
      obtain ⟨⟨edited, first, last⟩, hedited, rfl⟩ := Option.map_eq_some_iff.1 hnext
      exact h.of_replace? hstyled hkeeps.1 hkeeps.2 hkeeps.2 hedited
  | delete start stop =>
      obtain ⟨⟨edited, first, last⟩, hedited, rfl⟩ := Option.map_eq_some_iff.1 hnext
      exact h.of_replace? hstyled .nil hkeeps.1 hkeeps.2 hedited
  | restyleAll =>
      obtain rfl := Option.some.inj hnext
      rw [UsesItsBreaks, text_restyleAll]
      exact h
  | setLineEnding ending =>
      obtain rfl := Option.some.inj hnext
      exact usesItsBreaks_setLineEnding document ending
  | save disk => exact hkeeps.elim
  | saveAs disk path => exact hkeeps.elim

/-! ### Runs -/

variable {begun : Document}

/-- What edits make of a document. -/
inductive Edited (begun : Document) : Document → Prop where
  | none : Edited begun begun
  | step {document next : Document} (operation : Operation) (h : Edited begun document)
    (hedit : operation.IsEdit) (hnext : operation.result? document = some next) :
    Edited begun next

/--
What edits make of a document that keep to its line ending, from the beginning or since the line
breaks were rewritten.
-/
inductive KeptToBreaks (begun : Document) : Document → Prop where
  | none (h : begun.UsesItsBreaks) : KeptToBreaks begun begun
  | rewritten {document : Document} (h : Edited begun document) (ending : LineEnding) :
    KeptToBreaks begun (document.setLineEnding ending)
  | step {document next : Document} (operation : Operation) (h : KeptToBreaks begun document)
    (hkeeps : operation.KeepsBreaks document) (hnext : operation.result? document = some next) :
    KeptToBreaks begun next

theorem Edited.path_eq (h : begun.Edited document) : document.path = begun.path := by
  induction h with
  | none => rfl
  | step operation _ hedit hnext ih => exact (hedit.path_eq hnext).trans ih

theorem Edited.isStyled (h : begun.Edited document) (hbegun : begun.IsStyled) :
    document.IsStyled := by
  induction h with
  | none => exact hbegun
  | step operation _ _ hnext ih => exact ih.of_result? hnext

theorem KeptToBreaks.isStyled (h : begun.KeptToBreaks document) (hbegun : begun.IsStyled) :
    document.IsStyled := by
  induction h with
  | none => exact hbegun
  | rewritten h ending => exact (h.isStyled hbegun).setLineEnding ending
  | step operation _ _ hnext ih => exact ih.of_result? hnext

/-- A run: edits that keep to the line ending leave a document that uses only it. -/
theorem KeptToBreaks.usesItsBreaks (h : begun.KeptToBreaks document) (hbegun : begun.IsStyled) :
    document.UsesItsBreaks := by
  induction h with
  | none h => exact h
  | rewritten _ ending => exact usesItsBreaks_setLineEnding _ ending
  | step operation h hkeeps hnext ih => exact ih.of_result? (h.isStyled hbegun) hkeeps hnext

/--
A document that is opened has the line ending of the first line break on record, and saving it
after any edits writes its text as it is. So the file, if it is no device, has only line breaks of
the line ending on record exactly if the text has only those. That is so if the file that was
opened had only those, or the line breaks were rewritten, and all edits since then kept to the
line ending.
-/
theorem save_writes_text {disk other left : Disk} {path : Path} {saved : Document}
    (hopen : open? disk path = .ok begun) (hedited : begun.Edited document)
    (hsave : document.save other = .ok (saved, left)) :
    begun.lineEnding = .detect begun.text ∧
    other.writeText? path document.text = some left ∧
    (left.node? path ≠ some .device →
      left.content? path = some (Disk.encode document.text) ∧
      (left.content? path = some (Disk.encode (document.lineEnding.normalize document.text)) ↔
        document.UsesItsBreaks)) ∧
    (left.IsReadable path → left.read? path = some (Disk.encode document.text)) ∧
    (begun.KeptToBreaks document → document.UsesItsBreaks) := by
  obtain ⟨-, there, hthere, hwritten⟩ := writeText?_of_save hsave
  have hpath : document.path = some path := hedited.path_eq.trans (open?_spec hopen).1
  obtain rfl : there = path := Option.some.inj (hthere.symm.trans hpath)
  refine ⟨lineEnding_opened hopen, hwritten, ?_, fun hfile => Disk.read?_of_write? hwritten hfile,
    fun h => h.usesItsBreaks (isStyled_opened hopen)⟩
  intro hdevice
  have hheld := Disk.content?_of_write? hwritten hdevice
  refine ⟨hheld, ?_⟩
  rw [hheld, Option.some.injEq, Disk.encode_inj, eq_comm, LineEnding.normalize_eq_iff]
  rfl

/-- A file with breaks of two kinds is saved as it was, under the record of the first one. -/
theorem save_writes_text_mixed : ∃ disk document saved left,
    disk = Disk.mk (.folder [(['f'], .file (Disk.encode ['a', '\r', '\n', 'b', '\n']))]) []
      (fun _ => true) (fun _ => true) ∧
    open? disk ⟨['f']⟩ = .ok document ∧ document.lineEnding = .crlf ∧
    document.save disk = .ok (saved, left) ∧
    left.read? ⟨['f']⟩ = some (Disk.encode ['a', '\r', '\n', 'b', '\n']) ∧
    left.read? ⟨['f']⟩ ≠ some (Disk.encode (document.lineEnding.normalize document.text)) := by
  obtain ⟨disk, hdisk⟩ : ∃ disk, disk = Disk.mk (.folder [(['f'], .file
      (Disk.encode ['a', '\r', '\n', 'b', '\n']))]) [] (fun _ => true) (fun _ => true) := ⟨_, rfl⟩
  have hfile : disk.readText? ⟨['f']⟩ = some ['a', '\r', '\n', 'b', '\n'] := by
    rw [hdisk]
    rfl
  obtain ⟨document, hopen, htext, -⟩ := open?_of_readText? hfile
  obtain ⟨left, hwritten, hreadable⟩ : ∃ left,
      disk.writeText? ⟨['f']⟩ document.text = some left ∧ left.IsReadable ⟨['f']⟩ := by
    rw [hdisk]
    exact ⟨_, rfl, ⟨_, rfl⟩, fun _ _ => rfl⟩
  have hsave := save_of_writeText? (open?_spec hopen).1 hwritten
  obtain ⟨hrecord, -, hheld, hread, -⟩ := save_writes_text hopen .none hsave
  have hread := hread hreadable
  obtain ⟨-, hsame⟩ := hheld (by obtain ⟨⟨content, hnode⟩, -⟩ := hreadable; simp [hnode])
  rw [← Disk.read?_of_isReadable hreadable] at hsame
  rw [htext] at hrecord hread
  refine ⟨disk, document, _, left, hdisk, hopen, hrecord, hsave, hread, ?_⟩
  rw [Ne, hsame, UsesItsBreaks, hrecord, htext]
  decide

end Document

end EditorCore
