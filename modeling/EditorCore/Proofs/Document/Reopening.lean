import EditorCore.Proofs.Document.History
import EditorCore.Proofs.Document.Kept

/-!
# Saving a document and opening it again

A document with a path has the lexer for that path, whatever was done with it. So the file
that it is saved to is opened as the same text in the same language, and because the text is
styled as in one pass all along, also with the same styles. That takes a file which may be
read: a device drops what is written to it, and a disk may let a file be written but not read.
-/

namespace EditorCore

namespace Document

variable {document next saved : Document} {disk left : Disk} {path : Path}

/-! ### Lexers and paths -/

/-- The lexer of a document follows from its path. -/
def HasLexerOfPath (document : Document) : Prop :=
  ∀ path, document.path = some path → document.lexer = .ofPath path

theorem lexer_of_replace? {start stop first last : Nat} {inserted : List Char}
    (h : document.replace? start stop inserted = some (next, first, last)) :
    next.lexer = document.lexer := by
  obtain ⟨buffer, rfl⟩ := eq_of_replace? h
  rfl

theorem lexer_setLineEnding (document : Document) (ending : LineEnding) :
    (document.setLineEnding ending).lexer = document.lexer := by
  simp only [setLineEnding]
  split
  · rfl
  · rfl

/-- A built-in lexer is the only one of its language. -/
theorem lexer_rename (h : document.IsStyled) (path : Path) :
    (document.rename path).lexer = .ofPath path := by
  obtain ⟨language, hlexer⟩ := h.builtIn
  simp only [rename]
  split
  · next hsame =>
      rw [hlexer, Lexer.language_ofPath, Lexer.language_ofLanguage] at hsame
      rw [Lexer.ofPath, hsame]
      exact hlexer
  · rfl

theorem HasLexerOfPath.of_eq (h : document.HasLexerOfPath) (hpath : next.path = document.path)
    (hlexer : next.lexer = document.lexer) : next.HasLexerOfPath := by
  intro path hnext
  rw [hlexer]
  exact h path (hpath.symm.trans hnext)

theorem HasLexerOfPath.of_replace? (h : document.HasLexerOfPath) {start stop first last : Nat}
    {inserted : List Char}
    (hreplace : document.replace? start stop inserted = some (next, first, last)) :
    next.HasLexerOfPath :=
  h.of_eq (modified_of_replace? hreplace).2 (lexer_of_replace? hreplace)

theorem hasLexerOfPath_rename (h : document.IsStyled) (path : Path) :
    (document.rename path).HasLexerOfPath := by
  intro other hother
  obtain rfl : path = other := Option.some.inj hother
  exact lexer_rename h path

/-- What saving under a new path leaves is the document that goes by that path, saved. -/
theorem save_of_saveAs (h : document.saveAs disk path = (saved, .ok left)) :
    (document.rename path).save disk = .ok (saved, left) := by
  simp only [saveAs] at h
  split at h
  · next hsave =>
      obtain ⟨rfl, hleft⟩ := Prod.mk.inj h
      obtain rfl := Except.ok.inj hleft
      exact hsave
  · simp at h

theorem hasLexerOfPath_saveAs (h : document.IsStyled) (disk : Disk) (path : Path) :
    (document.saveAs disk path).1.HasLexerOfPath := by
  have hrenamed := hasLexerOfPath_rename h path
  simp only [saveAs]
  split
  · next hsave =>
      rw [(writeText?_of_save hsave).1]
      exact hrenamed.of_eq rfl rfl
  · exact hrenamed

/-- One step: an operation leaves a document with the lexer for its path. -/
theorem HasLexerOfPath.of_result? (h : document.HasLexerOfPath) (hstyled : document.IsStyled)
    {operation : Operation} (hnext : operation.result? document = some next) :
    next.HasLexerOfPath := by
  cases step_of_result? hnext with
  | replaced hedited => exact h.of_replace? hedited
  | restyled => exact h
  | rewritten ending =>
      exact h.of_eq (document.setLineEnding_spec ending).1 (document.lexer_setLineEnding ending)
  | saved hsave =>
      rw [(writeText?_of_save hsave).1]
      exact h.of_eq rfl rfl
  | savedAs disk path => exact hasLexerOfPath_saveAs hstyled disk path
  | refused => exact h

/-- A run: every document that is reached has the lexer for its path. -/
theorem Reached.hasLexerOfPath (h : Reached document) : document.HasLexerOfPath := by
  induction h with
  | ofText text language =>
      intro path hpath
      cases hpath
  | @opened disk path document hopen =>
      obtain ⟨text, -, rfl⟩ := open?_eq_ok_iff.1 hopen
      intro other hother
      obtain rfl : path = other := Option.some.inj hother
      rfl
  | untitled path =>
      intro other hother
      obtain rfl : path = other := Option.some.inj hother
      rfl
  | step operation hreached hnext ih => exact ih.of_result? hreached.isStyled hnext

/-! ### Opening what was saved -/

/-- Writing a text to a file that may be read and opening it makes a fresh document of the text. -/
theorem open?_of_writeText? {text : List Char} (h : disk.writeText? path text = some left)
    (hfile : left.IsReadable path) :
    open? left path = .ok { ofText text (.ofPath path) with path := some path } := by
  simp [open?, Disk.hasPath_of_write? h, Disk.read?_of_write? h hfile, Disk.fromUTF8?_encode]

/-- What opening a file gives that a document was saved to. -/
structure IsCopyOf (copy saved : Document) (path : Path) : Prop where
  text : copy.text = saved.text
  language : copy.lexer.language = saved.lexer.language
  spans : copy.buffer.spans = saved.buffer.spans
  path : copy.path = some path
  modified : copy.modified = false

/-- A fresh document of a text is styled as any other document of the same text and lexer. -/
theorem IsStyled.isCopyOf (h : saved.IsStyled) (hlexer : saved.lexer = .ofPath path) :
    IsCopyOf { ofText saved.text (.ofPath path) with path := some path } saved path := by
  have hfresh := (isStyled_ofText saved.text (.ofPath path)).styles
  refine ⟨text_ofText _ _, ?_, ?_, rfl, rfl⟩
  · rw [hlexer]
    rfl
  · rw [Buffer.spans, Buffer.spans, h.styles, hlexer]
    rw [text_ofText] at hfresh
    exact congrArg _ hfresh

/-- A document is reopened from a file that may be read. -/
def Reopens (disk : Disk) (saved : Document) (path : Path) : Prop :=
  disk.IsReadable path → ∃ copy, open? disk path = .ok copy ∧ copy.IsCopyOf saved path

/-- Saving to the document's path makes a file that is opened as a copy of the document. -/
theorem IsStyled.reopens (h : document.IsStyled) (hlexer : document.HasLexerOfPath)
    (hsave : document.save disk = .ok (saved, left)) :
    ∃ path, saved.path = some path ∧ Reopens left saved path := by
  obtain ⟨rfl, path, hpath, hwritten⟩ := writeText?_of_save hsave
  exact ⟨path, hpath, fun hfile => ⟨_, open?_of_writeText? hwritten hfile,
    (h.save hsave).isCopyOf (hlexer path hpath)⟩⟩

/--
However a document is begun and whatever is done with it: if it has a path, its language is
that of the path; and when it was saved, to its path or under a new one, and the path leads to
a file that may be read, it can be opened on the disk that is left, which gives an unmodified
document of the same text, language and styles.
-/
theorem reached_reopens (h : Reached document) :
    (∀ path, document.path = some path → document.lexer.language = .ofPath path) ∧
    (∀ disk saved left, document.save disk = .ok (saved, left) → ∃ path, saved.path = some path ∧
      (left.IsReadable path →
        ∃ copy, open? left path = .ok copy ∧ copy.IsCopyOf saved path)) ∧
    ∀ disk path saved left, document.saveAs disk path = (saved, .ok left) →
      saved.path = some path ∧ (left.IsReadable path →
        ∃ copy, open? left path = .ok copy ∧ copy.IsCopyOf saved path) := by
  refine ⟨?_, ?_, ?_⟩
  · intro path hpath
    rw [h.hasLexerOfPath path hpath, Lexer.language_ofPath]
  · intro disk saved left hsave
    exact h.isStyled.reopens h.hasLexerOfPath hsave
  · intro disk path saved left hsaveAs
    have hsave := save_of_saveAs hsaveAs
    obtain ⟨there, hthere, hreopens⟩ :=
      (h.isStyled.rename path).reopens (hasLexerOfPath_rename h.isStyled path) hsave
    have hpath : saved.path = some path := by
      rw [(writeText?_of_save hsave).1]
      rfl
    obtain rfl : there = path := Option.some.inj (hthere.symm.trans hpath)
    exact ⟨hpath, hreopens⟩

/-- What was typed into an empty text file and saved as a program is opened as a program. -/
theorem reached_reopens_program : ∃ document saved left copy,
    (Operation.insert 0 ['d', 'e', 'f', ' ', 'f']).result? (untitled ⟨['a']⟩) = some document ∧
    document.lexer.language = .text ∧
    document.saveAs { root := .empty, working := [] } ⟨['a', '.', 'p', 'y']⟩ = (saved, .ok left) ∧
    open? left ⟨['a', '.', 'p', 'y']⟩ = .ok copy ∧ copy.text = ['d', 'e', 'f', ' ', 'f'] ∧
    copy.lexer.language = .python ∧
    copy.buffer.spans = [⟨0, 3, .keyword⟩, ⟨3, 4, .plain⟩, ⟨4, 5, .functionName⟩] ∧
    copy.modified = false := by
  have hfits : (Operation.insert 0 ['d', 'e', 'f', ' ', 'f']).Fits (untitled ⟨['a']⟩) := by
    simp only [Operation.Fits]
    decide +kernel
  have hbegun : Reached (untitled ⟨['a']⟩) := .untitled ⟨['a']⟩
  obtain ⟨document, hnext⟩ := hbegun.isStyled.exists_result hfits
  have hdocument : ((Operation.insert 0 ['d', 'e', 'f', ' ', 'f']).result?
      (untitled ⟨['a']⟩)).map (fun d => (d.text, d.lexer, d.path)) =
        some (['d', 'e', 'f', ' ', 'f'], .plain, some ⟨['a']⟩) := by decide +kernel
  rw [hnext, Option.map_some, Option.some.injEq, Prod.mk.injEq, Prod.mk.injEq] at hdocument
  obtain ⟨htext, hlexer, hpath⟩ := hdocument
  obtain ⟨saved, left, hsave, hfile⟩ : ∃ saved left, document.saveAs
      { root := .empty, working := [] } ⟨['a', '.', 'p', 'y']⟩ = (saved, .ok left) ∧
        left.IsReadable ⟨['a', '.', 'p', 'y']⟩ := ⟨_, _, rfl, ⟨_, rfl⟩, fun _ _ => rfl⟩
  have hreached : Reached document := hbegun.step _ hnext
  obtain ⟨hthere, hreopens⟩ := (reached_reopens hreached).2.2 _ _ _ _ hsave
  obtain ⟨copy, hopen, hcopy⟩ := hreopens hfile
  have hrenamed := hreached.isStyled.rename ⟨['a', '.', 'p', 'y']⟩
  have hprogram := lexer_rename hreached.isStyled ⟨['a', '.', 'p', 'y']⟩
  obtain ⟨rfl, -⟩ := writeText?_of_save (save_of_saveAs hsave)
  refine ⟨document, _, left, copy, hnext, by rw [hlexer]; rfl, hsave, hopen, ?_, ?_, ?_,
    hcopy.modified⟩
  · rw [hcopy.text]
    exact (document.text_rename _).trans htext
  · rw [hcopy.language, hprogram]
    decide +kernel
  · rw [hcopy.spans, Buffer.spans, hrenamed.styles, hprogram, text_rename, htext]
    decide +kernel

/--
What is saved to a device is gone, although saving succeeds; and a file that may be written but
not read is saved to and cannot be opened.
-/
theorem reached_reopens_device : ∃ document : Document,
    (Operation.insert 0 ['x']).result? (untitled ⟨['a']⟩) = some document ∧
    document.text = ['x'] ∧
    (∃ disk saved left copy, disk =
        { root := .folder [(['d', 'e', 'v'], .folder [(['n', 'u', 'l', 'l'], .device)])]
          working := [] : Disk } ∧
      document.saveAs disk (.ofString "/dev/null") = (saved, .ok left) ∧
      open? left (.ofString "/dev/null") = .ok copy ∧ copy.text = []) ∧
    ∃ disk saved left, disk =
        { root := .empty, working := [], readable := fun place => place != [['a']] : Disk } ∧
      document.save disk = .ok (saved, left) ∧ saved.path = some ⟨['a']⟩ ∧
      open? left ⟨['a']⟩ = .error .disk := by
  have hfits : (Operation.insert 0 ['x']).Fits (untitled ⟨['a']⟩) := by
    simp only [Operation.Fits]
    decide +kernel
  have hbegun : Reached (untitled ⟨['a']⟩) := .untitled ⟨['a']⟩
  obtain ⟨document, hnext⟩ := hbegun.isStyled.exists_result hfits
  have hdocument : ((Operation.insert 0 ['x']).result? (untitled ⟨['a']⟩)).map
      (fun d => (d.text, d.path)) = some (['x'], some ⟨['a']⟩) := by decide +kernel
  rw [hnext, Option.map_some, Option.some.injEq, Prod.mk.injEq] at hdocument
  obtain ⟨htext, hpath⟩ := hdocument
  refine ⟨document, hnext, htext, ?_, ?_⟩
  · obtain ⟨disk, hdisk⟩ : ∃ disk : Disk, disk =
        { root := .folder [(['d', 'e', 'v'], .folder [(['n', 'u', 'l', 'l'], .device)])]
          working := [] } := ⟨_, rfl⟩
    have hwritten : ∀ text, disk.writeText? (.ofString "/dev/null") text = some disk := by
      intro text
      rw [hdisk]
      rfl
    have hread : disk.readText? (.ofString "/dev/null") = some [] := by
      rw [hdisk]
      rfl
    have hpath : (document.rename (.ofString "/dev/null")).path = some (.ofString "/dev/null") :=
      rfl
    have hsave := save_of_writeText? hpath (hwritten _)
    obtain ⟨copy, hopen, hempty, -⟩ := open?_of_readText? hread
    exact ⟨disk, _, disk, copy, hdisk, by rw [saveAs, hsave], hopen, hempty⟩
  · obtain ⟨disk, hdisk⟩ : ∃ disk : Disk, disk =
        { root := .empty, working := [], readable := fun place => place != [['a']] } := ⟨_, rfl⟩
    obtain ⟨left, hwritten, hclosed⟩ : ∃ left, disk.writeText? ⟨['a']⟩ document.text = some left ∧
        left.read? ⟨['a']⟩ = none := by
      rw [hdisk]
      exact ⟨_, rfl, rfl⟩
    refine ⟨disk, _, left, hdisk, save_of_writeText? hpath hwritten, hpath, ?_⟩
    simp [open?, Disk.hasPath_of_write? hwritten, hclosed]

end Document

end EditorCore
