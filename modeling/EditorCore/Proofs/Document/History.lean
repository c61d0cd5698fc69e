import EditorCore.Proofs.Document.Edit

/-!
# The history of a document

A document is begun from a text, from a file or empty, and then goes through operations one
after the other. The disk that an operation finds can be any disk, so that a file can be
refused whenever it is written. All along, the text is styled as in one pass.
-/

namespace EditorCore

variable {before after : List Char}

/-- A range between two places is what is between two fronts of the text. -/
theorem Text.exists_range {text : List Char} {start stop : Nat} (hle : start ≤ stop)
    (hstart : start ∈ places text) (hstop : stop ∈ places text) :
    ∃ before removed after, text = before ++ (removed ++ after) ∧
      byteLength before = start ∧ byteLength (before ++ removed) = stop := by
  obtain ⟨before, back, htext, rfl⟩ := mem_places_iff.1 hstart
  obtain ⟨front, after, htext', rfl⟩ := mem_places_iff.1 hstop
  obtain ⟨removed, rfl, rfl⟩ := exists_between (htext.symm.trans htext') hle
  exact ⟨before, removed, after, htext, rfl, rfl⟩

/-- A range that can be replaced lies between two places. -/
theorem Buffer.places_of_replace? {buffer edited : Buffer} {start stop : Nat} {inserted : List Char}
    (h : buffer.replace? start stop inserted = some edited) :
    start ≤ stop ∧ start ∈ Text.places buffer.text ∧ stop ∈ Text.places buffer.text := by
  rw [Buffer.replace?] at h
  split at h
  · next hle =>
      obtain ⟨⟨front, back⟩, hstart, h⟩ := Option.bind_eq_some_iff.1 h
      obtain ⟨⟨front', back'⟩, hstop, -⟩ := Option.bind_eq_some_iff.1 h
      exact ⟨hle, Text.mem_places_iff.2 ⟨front, back, Text.eq_of_splitAt? hstart⟩,
        Text.mem_places_iff.2 ⟨front', back', Text.eq_of_splitAt? hstop⟩⟩
  · simp at h

namespace Document

variable {document next : Document}

/-! ### Operations -/

/-- What can be done with a document. -/
inductive Operation where
  /-- Replace a range of bytes by a text. -/
  | replace (start stop : Nat) (inserted : List Char)
  /-- Insert a text at a byte offset. -/
  | insert (offset : Nat) (inserted : List Char)
  /-- Delete a range of bytes. -/
  | delete (start stop : Nat)
  /-- Style the whole text anew. -/
  | restyleAll
  /-- Rewrite the line breaks. -/
  | setLineEnding (ending : LineEnding)
  /-- Save on a disk. -/
  | save (disk : Disk)
  /-- Save on a disk, under a new path. -/
  | saveAs (disk : Disk) (path : Path)

/-- The document behind an operation; a refused file leaves the text as it is. -/
def Operation.result? (document : Document) : Operation → Option Document
  | .replace start stop inserted => (document.replace? start stop inserted).map (·.1)
  | .insert offset inserted => (document.insert? offset inserted).map (·.1)
  | .delete start stop => (document.delete? start stop).map (·.1)
  | .restyleAll => some document.restyleAll
  | .setLineEnding ending => some (document.setLineEnding ending)
  | .save disk =>
    match document.save disk with
    | .ok (saved, _) => some saved
    | .error _ => some document
  | .saveAs disk path => some (document.saveAs disk path).1

/-- What one operation can make of a document. -/
inductive Step (document : Document) : Document → Prop where
  | replaced {start stop first last : Nat} {inserted : List Char} {next : Document}
    (h : document.replace? start stop inserted = some (next, first, last)) : Step document next
  | restyled : Step document document.restyleAll
  | rewritten (ending : LineEnding) : Step document (document.setLineEnding ending)
  | saved {disk left : Disk} {next : Document} (h : document.save disk = .ok (next, left)) :
    Step document next
  | savedAs (disk : Disk) (path : Path) : Step document (document.saveAs disk path).1
  | refused : Step document document

theorem step_of_result? {operation : Operation} (h : operation.result? document = some next) :
    document.Step next := by
  cases operation with
  | replace start stop inserted =>
      obtain ⟨⟨edited, first, last⟩, hedited, rfl⟩ := Option.map_eq_some_iff.1 h
      exact .replaced hedited
  | insert offset inserted =>
      obtain ⟨⟨edited, first, last⟩, hedited, rfl⟩ := Option.map_eq_some_iff.1 h
      exact .replaced hedited
  | delete start stop =>
      obtain ⟨⟨edited, first, last⟩, hedited, rfl⟩ := Option.map_eq_some_iff.1 h
      exact .replaced hedited
  | restyleAll => exact Option.some.inj h ▸ .restyled
  | setLineEnding ending => exact Option.some.inj h ▸ .rewritten ending
  | save disk =>
      simp only [Operation.result?] at h
      split at h
      · next hsave => exact Option.some.inj h ▸ .saved hsave
      · exact Option.some.inj h ▸ .refused
  | saveAs disk path => exact Option.some.inj h ▸ .savedAs disk path

/-- An operation fits a document if its range lies between two places of the text. -/
def Operation.Fits (document : Document) : Operation → Prop
  | .replace start stop _ =>
    start ≤ stop ∧ start ∈ Text.places document.text ∧ stop ∈ Text.places document.text
  | .insert offset _ => offset ∈ Text.places document.text
  | .delete start stop =>
    start ≤ stop ∧ start ∈ Text.places document.text ∧ stop ∈ Text.places document.text
  | _ => True

/-- The documents that come out of some operations on a document just begun. -/
inductive Reached : Document → Prop where
  | ofText (text : List Char) (language : Language) :
    Reached (ofText text (.ofLanguage language))
  | opened {disk : Disk} {path : Path} {document : Document}
    (h : open? disk path = .ok document) : Reached document
  | untitled (path : Path) : Reached (untitled path)
  | step {document next : Document} (operation : Operation) (h : Reached document)
    (hnext : operation.result? document = some next) : Reached next

/-! ### What each operation keeps -/

/-- Nothing but the text, its styles and the lexer counts. -/
theorem IsStyled.of_eq (h : document.IsStyled) (hbuffer : next.buffer = document.buffer)
    (hlexer : next.lexer = document.lexer) : next.IsStyled where
  builtIn := hlexer ▸ h.builtIn
  styles := by
    rw [hbuffer, hlexer, text, hbuffer]
    exact h.styles

/-- Styling the whole text anew needs only a style for each byte to write over. -/
theorem isStyled_restyleAll (hlexer : ∃ language, document.lexer = .ofLanguage language)
    (hlength : document.buffer.styles.length = document.buffer.length) :
    document.restyleAll.IsStyled := by
  obtain ⟨language, hlexer⟩ := hlexer
  have hagrees : (Lexer.ofLanguage language).Agrees document.buffer 0 := ⟨hlength, rfl⟩
  have hend : document.buffer.length ∈
      (Lexer.ofLanguage language).tokenizer.boundaries document.buffer.text := by
    simp [Tokenizer.boundaries, Buffer.length]
  obtain ⟨styled, hstyled, hsame, hwhole, -⟩ := hagrees.restyle_boundaries
    (Tokenizer.zero_mem_boundaries _ _) hend (Nat.zero_le _)
  have hout : document.restyleAll = { document with buffer := styled } := by
    rw [restyleAll, hlexer, hstyled]
    rfl
  rw [hout]
  refine ⟨⟨language, hlexer⟩, ?_⟩
  have : styled.length = document.buffer.length := by rw [Buffer.length, hsame, Buffer.length]
  rw [← this] at hwhole
  rw [hlexer]
  exact hwhole.styles_eq

theorem isStyled_ofText (text : List Char) (language : Language) :
    (ofText text (.ofLanguage language)).IsStyled :=
  isStyled_restyleAll ⟨language, rfl⟩ (by simp [Buffer.ofText, Buffer.length])

theorem IsStyled.length (h : document.IsStyled) :
    document.buffer.styles.length = document.buffer.length := by
  rw [h.styles, Lexer.length_byteStyles]
  rfl

theorem IsStyled.rename (h : document.IsStyled) (path : Path) :
    (document.rename path).IsStyled := by
  rw [Document.rename]
  split
  · exact h.of_eq rfl rfl
  · have hanew : (restyleAll { document with lexer := .ofPath path }).IsStyled :=
      isStyled_restyleAll ⟨.ofPath path, rfl⟩ h.length
    exact hanew.of_eq rfl rfl

theorem IsStyled.setLineEnding (h : document.IsStyled) (ending : LineEnding) :
    (document.setLineEnding ending).IsStyled := by
  rw [Document.setLineEnding]
  split
  · exact h.of_eq rfl rfl
  · have hwhole : document.buffer.text = [] ++ (document.buffer.text ++ []) := by simp
    obtain ⟨buffer, hbuffer, hlength⟩ : ∃ buffer : Buffer, document.buffer.replace? 0
        document.buffer.length (ending.normalize document.text) = some buffer ∧
          buffer.styles.length = buffer.length := by
      have hreplaced := Buffer.replace?_eq hwhole (ending.normalize document.text)
      rw [Text.byteLength_nil, List.nil_append] at hreplaced
      refine ⟨_, hreplaced, ?_⟩
      simp [Buffer.length, h.length]
    have hanew : (restyleAll { document with buffer }).IsStyled :=
      isStyled_restyleAll h.builtIn hlength
    simp only [hbuffer, Option.getD_some]
    exact hanew.of_eq rfl rfl

theorem isStyled_opened {disk : Disk} {path : Path} (h : open? disk path = .ok document) :
    document.IsStyled := by
  simp only [open?] at h
  split at h
  · simp at h
  · split at h
    · simp at h
    · split at h
      · simp at h
      · next text _ =>
          obtain rfl := Except.ok.inj h
          exact (isStyled_ofText text.toList (.ofPath path)).of_eq rfl rfl

theorem IsStyled.save {disk left : Disk} (h : document.IsStyled)
    (hsave : document.save disk = .ok (next, left)) : next.IsStyled := by
  simp only [Document.save] at hsave
  split at hsave
  · simp at hsave
  · split at hsave
    · simp at hsave
    · obtain ⟨rfl, -⟩ := Prod.mk.inj (Except.ok.inj hsave)
      exact h.of_eq rfl rfl

theorem IsStyled.saveAs (h : document.IsStyled) (disk : Disk) (path : Path) :
    (document.saveAs disk path).1.IsStyled := by
  have hrenamed := h.rename path
  simp only [Document.saveAs]
  split
  · next hsave => exact hrenamed.save hsave
  · exact hrenamed

/-- An edit cuts the text at both ends of its range, and leaves it styled as in one pass. -/
theorem IsStyled.exists_cut (h : document.IsStyled) {start stop first last : Nat}
    {inserted : List Char}
    (hreplace : document.replace? start stop inserted = some (next, first, last)) :
    ∃ before removed after, document.text = before ++ (removed ++ after) ∧
      start = Text.byteLength before ∧ stop = Text.byteLength (before ++ removed) ∧
      next.text = before ++ (inserted ++ after) ∧ next.IsStyled := by
  obtain ⟨edited, hedited, -⟩ := Option.bind_eq_some_iff.1 hreplace
  obtain ⟨hle, hstart, hstop⟩ := Buffer.places_of_replace? hedited
  obtain ⟨before, removed, after, htext, rfl, rfl⟩ := Text.exists_range hle hstart hstop
  obtain ⟨styled, _, _, hstyled, hedit, hout⟩ := h.replace htext inserted
  obtain ⟨rfl, -⟩ := Prod.mk.inj (Option.some.inj (hreplace.symm.trans hstyled))
  exact ⟨before, removed, after, htext, rfl, rfl, hedit, hout⟩

theorem IsStyled.of_replace? (h : document.IsStyled) {start stop first last : Nat}
    {inserted : List Char}
    (hreplace : document.replace? start stop inserted = some (next, first, last)) :
    next.IsStyled := by
  obtain ⟨-, -, -, -, -, -, -, hout⟩ := h.exists_cut hreplace
  exact hout

/-- One step: an operation that succeeds leaves the text styled as in one pass. -/
theorem IsStyled.of_result? (h : document.IsStyled) {operation : Operation}
    (hnext : operation.result? document = some next) : next.IsStyled := by
  cases step_of_result? hnext with
  | replaced hedited => exact h.of_replace? hedited
  | restyled => exact isStyled_restyleAll h.builtIn h.length
  | rewritten ending => exact h.setLineEnding ending
  | saved hsave => exact h.save hsave
  | savedAs disk path => exact h.saveAs disk path
  | refused => exact h

/-- A range between two places can be replaced. -/
theorem IsStyled.exists_replace (h : document.IsStyled) {start stop : Nat} (inserted : List Char)
    (hle : start ≤ stop) (hstart : start ∈ Text.places document.text)
    (hstop : stop ∈ Text.places document.text) :
    ∃ next, (document.replace? start stop inserted).map (·.1) = some next := by
  obtain ⟨before, removed, after, htext, rfl, rfl⟩ := Text.exists_range hle hstart hstop
  obtain ⟨next, first, last, hnext, -⟩ := h.replace htext inserted
  exact ⟨next, by rw [hnext]; rfl⟩

/-- An operation that fits succeeds. -/
theorem IsStyled.exists_result (h : document.IsStyled) {operation : Operation}
    (hfits : operation.Fits document) : ∃ next, operation.result? document = some next := by
  cases operation with
  | replace start stop inserted => exact h.exists_replace inserted hfits.1 hfits.2.1 hfits.2.2
  | insert offset inserted => exact h.exists_replace inserted le_rfl hfits hfits
  | delete start stop => exact h.exists_replace [] hfits.1 hfits.2.1 hfits.2.2
  | restyleAll => exact ⟨_, rfl⟩
  | setLineEnding ending => exact ⟨_, rfl⟩
  | save disk =>
      simp only [Operation.result?]
      split
      · exact ⟨_, rfl⟩
      · exact ⟨_, rfl⟩
  | saveAs disk path => exact ⟨_, rfl⟩

/-- A run: every document that is reached is styled as in one pass. -/
theorem Reached.isStyled (h : Reached document) : document.IsStyled := by
  induction h with
  | ofText text language => exact isStyled_ofText text language
  | opened h => exact isStyled_opened h
  | untitled path => exact (isStyled_ofText [] (.ofPath path)).of_eq rfl rfl
  | step operation _ hnext ih => exact ih.of_result? hnext

/--
However a document is begun and whatever is done with it, its styles are those of one pass
over its text; and every operation whose range fits can be done next.
-/
theorem reached_styles_eq (h : Reached document) :
    document.buffer.styles = Run.styles (document.lexer.runsOfText document.text) ∧
      ∀ operation : Operation, operation.Fits document →
        ∃ next, operation.result? document = some next ∧ Reached next := by
  refine ⟨h.isStyled.styles, fun operation hfits => ?_⟩
  obtain ⟨next, hnext⟩ := h.isStyled.exists_result hfits
  exact ⟨next, hnext, h.step operation hnext⟩

/-- Without its backslash, a string ends with its line, and the quote below opens another. -/
theorem reached_without_backslash : ∃ document,
    (Operation.delete 1 2).result? (ofText ['"', '\\', '\n', 'x', '"'] (.ofLanguage .c)) =
      some document ∧ document.text = ['"', '\n', 'x', '"'] ∧
      document.buffer.styles = [.string, .plain, .plain, .string] := by
  have hfits : (Operation.delete 1 2).Fits (ofText ['"', '\\', '\n', 'x', '"'] (.ofLanguage .c)) :=
    ⟨by decide, by decide +kernel, by decide +kernel⟩
  obtain ⟨document, hnext, hreached⟩ :=
    (reached_styles_eq (.ofText ['"', '\\', '\n', 'x', '"'] .c)).2 (.delete 1 2) hfits
  have hrest : ((Operation.delete 1 2).result?
      (ofText ['"', '\\', '\n', 'x', '"'] (.ofLanguage .c))).map (fun d => (d.text, d.lexer)) =
        some (['"', '\n', 'x', '"'], .ofLanguage .c) := by decide +kernel
  rw [hnext, Option.map_some, Option.some.injEq, Prod.mk.injEq] at hrest
  refine ⟨document, hnext, hrest.1, ?_⟩
  rw [(reached_styles_eq hreached).1, hrest.1, hrest.2]
  decide +kernel

end Document

end EditorCore
