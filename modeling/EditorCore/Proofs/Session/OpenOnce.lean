import EditorCore.Proofs.Document.History
import EditorCore.Proofs.Document.Kept
import EditorCore.Proofs.File.Canonical
import EditorCore.Proofs.Session.Names
import EditorCore.Proofs.Text.SmallLetters

/-!
# No file is open twice

A file may be asked for by many paths, and a new document has a path before it has a file. A
session compares canonical paths when it opens a file, so what has to be shown is that no two
documents ever come to share a file later on. Files come into being by saving only, and then
at the path of the document that is saved. New documents have different names in one folder,
so the file of one of them is never the file of another.
-/

namespace EditorCore

/-! ### Names without slashes -/

namespace Session

variable {extension ending : List Char} {number other : Nat}

theorem not_slash_normalizeExtension (h : '/' ∉ extension) :
    '/' ∉ normalizeExtension extension := by
  have hbare : '/' ∉ (Text.trim extension).dropWhile (· == '.') := by
    intro hc
    have hend := List.mem_reverse.1 (List.dropWhile_subset _ hc)
    have hstart := List.mem_reverse.1 (List.dropWhile_subset _ hend)
    exact h (List.dropWhile_subset _ hstart)
  rw [normalizeExtension]
  split
  · simp
  · rw [List.mem_cons, not_or]
    refine ⟨by decide, ?_⟩
    exact fun hc => hbare (Text.mem_of_mem_lowercase (by decide) (by decide) hc)

/-- A numbered name is none of the parts with a meaning of their own. -/
theorem isPart_numbered {stem : List Char} (hstem : '/' ∉ stem) (hextension : '/' ∉ extension)
    (number : Nat) :
    Path.IsPart (stem ++ (toString number).toList ++ normalizeExtension extension) := by
  obtain ⟨c, hc⟩ := List.exists_mem_of_ne_nil _ (Text.toString_ne_nil number)
  have hdigit := Text.isDigit_of_mem_toString hc
  have hmem : c ∈ stem ++ (toString number).toList ++ normalizeExtension extension :=
    List.mem_append_left _ (List.mem_append_right _ hc)
  refine ⟨List.ne_nil_of_mem hmem, ?_, ?_, ?_⟩
  · rw [List.mem_append, List.mem_append, not_or, not_or]
    refine ⟨⟨hstem, ?_⟩, not_slash_normalizeExtension hextension⟩
    intro hslash
    exact absurd (Text.isDigit_of_mem_toString hslash) (by decide)
  · intro hhere
    rw [hhere, Path.here, List.mem_singleton] at hmem
    simp [hmem] at hdigit
  · intro habove
    rw [habove, Path.above] at hmem
    simp at hmem
    simp [hmem] at hdigit

/-- The name of a new document. -/
def nameOf (extension : List Char) (number : Nat) : Name :=
  Document.unnamed ++ (toString number).toList ++ normalizeExtension extension

/-- The name of a new document is that of a file in the project folder. -/
theorem isPart_nameOf (h : '/' ∉ extension) (number : Nat) :
    Path.IsPart (nameOf extension number) :=
  isPart_numbered (by decide) h number

/-- New documents with different numbers have different names. -/
theorem nameOf_ne (extension ending : List Char) (h : number ≠ other) :
    nameOf extension number ≠ nameOf ending other := by
  intro hname
  have hissue : ∀ (extension : List Char) (number : Nat), Issue.IsSound
      ⟨[], number, normalizeExtension extension,
        some ⟨(toString number).toList ++ normalizeExtension extension⟩⟩ :=
    fun extension number => ⟨rfl, head?_normalizeExtension extension⟩
  rw [nameOf, nameOf, List.append_assoc, List.append_assoc, List.append_cancel_left_eq] at hname
  exact Issue.tail_ne (hissue extension number) (hissue ending other) h hname

/-- The path of a new document is in the project folder, under a number not used so far. -/
theorem exists_nextNewPath_none {session : Session} {disk : Disk}
    (h : session.counter < (session.nextNewPath disk extension none).2.counter) :
    ∃ number counter, session.counter.toNat ≤ number ∧ number < counter.toNat ∧
      session.nextNewPath disk extension none =
        (session.root.child (nameOf extension number), { session with counter }) := by
  obtain ⟨passed, hpassed, hnumber, -⟩ := firstFree_spec disk (candidate session.root
    (stemOrUnnamed none) (normalizeExtension extension)) (nameAttempts - 1) session.counter
  simp only [nextNewPath, hnumber] at h
  obtain ⟨hlast, hnext⟩ :=
    toNat_of_lt_counter (Nat.lt_of_le_of_lt hpassed (by decide)) h
  refine ⟨(session.counter + .ofNat passed).toNat, _, ?_, ?_, by rw [nextNewPath, hnumber]; rfl⟩
  · omega
  · omega

end Session

/-! ### What can be done in a session -/

/-- An operation that touches no file. -/
def Document.Operation.IsEdit : Operation → Prop
  | .save _ => False
  | .saveAs _ _ => False
  | _ => True

/-- Editing keeps the path. -/
theorem Document.Operation.IsEdit.path_eq {operation : Operation} {document next : Document}
    (hedit : operation.IsEdit) (h : operation.result? document = some next) :
    next.path = document.path := by
  cases operation with
  | replace start stop inserted =>
      obtain ⟨⟨edited, first, last⟩, hedited, rfl⟩ := Option.map_eq_some_iff.1 h
      exact (modified_of_replace? hedited).2
  | insert offset inserted =>
      obtain ⟨⟨edited, first, last⟩, hedited, rfl⟩ := Option.map_eq_some_iff.1 h
      exact (modified_of_replace? hedited).2
  | delete start stop =>
      obtain ⟨⟨edited, first, last⟩, hedited, rfl⟩ := Option.map_eq_some_iff.1 h
      exact (modified_of_replace? hedited).2
  | restyleAll =>
      obtain rfl := Option.some.inj h
      rfl
  | setLineEnding ending =>
      obtain rfl := Option.some.inj h
      exact (document.setLineEnding_spec ending).1
  | save disk => exact hedit.elim
  | saveAs disk path => exact hedit.elim

/-- The canonical path of the file that a document shows, if the file is there. -/
def Document.shown? (document : Document) (disk : Disk) : Option Path :=
  document.path.bind disk.canonical?

/-- Opening a file finds a document that shows it, or adds one if there is none. -/
theorem Session.open?_cases {session next : Session} {disk : Disk} {path : Path} {index : Nat}
    (h : session.open? disk path = .ok (index, next)) :
    ∃ file, disk.canonical? (session.root.join path) = some file ∧
      ((next = session ∧ ∃ document, session.documents[index]? = some document ∧
          document.shown? disk = some file) ∨
        (∀ document ∈ session.documents, document.shown? disk ≠ some file) ∧
          index = session.documents.length ∧ ∃ document, Document.open? disk file = .ok document ∧
            next = { session with documents := session.documents ++ [document] }) := by
  simp only [open?] at h
  split at h
  · simp at h
  · next file hfile =>
      refine ⟨file, hfile, ?_⟩
      split at h
      · next found hfound =>
          obtain ⟨rfl, rfl⟩ := Prod.mk.inj (Except.ok.inj h)
          obtain ⟨hlt, hshown, -⟩ := List.findIdx?_eq_some_iff_getElem.1 hfound
          exact .inl ⟨rfl, _, List.getElem?_eq_getElem hlt,
            by simpa [Document.shown?] using hshown⟩
      · next hnone =>
          split at h
          · simp at h
          · next document hopen =>
              obtain ⟨rfl, rfl⟩ := Prod.mk.inj (Except.ok.inj h)
              refine .inr ⟨?_, rfl, document, hopen, rfl⟩
              intro document hdocument
              simpa [Document.shown?] using List.findIdx?_eq_none_iff.1 hnone document hdocument

/-- A session with the disk that it works on. -/
structure Workspace where
  /-- The disk. -/
  disk : Disk
  /-- The session. -/
  session : Session

namespace Workspace

/-- What can be done in a session. -/
inductive Action where
  /-- Ask for the path of a new file. -/
  | nextPath (extension : List Char) (stem : Option (List Char))
  /-- Ask for the path of a copy. -/
  | duplicatePath (path : Path)
  /-- Open an empty document under a new name. -/
  | newDocument (extension : List Char)
  /-- Open a file. -/
  | openFile (path : Path)
  /-- Close a document. -/
  | close (index : Nat)
  /-- Edit a document. -/
  | edit (index : Nat) (operation : Document.Operation)
  /-- Save a document to its path. -/
  | save (index : Nat)
  /-- Let the disk write to some places and read from some places only, from now on. -/
  | permit (writable readable : Location → Bool)

/--
The counter goes up with every name that is handed out. New documents are in the project folder,
under names that are free, and not too long to be asked for. Editing touches no file.
-/
def Action.Fits (workspace : Workspace) : Action → Prop
  | .nextPath extension stem => workspace.session.counter <
      (workspace.session.nextNewPath workspace.disk extension stem).2.counter
  | .duplicatePath path => workspace.session.counter <
      (workspace.session.duplicatePath workspace.disk path).2.counter
  | .newDocument extension =>
    let next := workspace.session.nextNewPath workspace.disk extension none
    '/' ∉ extension ∧ workspace.disk.hasPath next.1 = false ∧
      Disk.isProperPath next.1 = true ∧ workspace.session.counter < next.2.counter
  | .edit _ operation => operation.IsEdit
  | _ => True

/-- The session and its disk behind an action; what is refused changes nothing. -/
def after (workspace : Workspace) : Action → Workspace
  | .nextPath extension stem =>
    { workspace with session := (workspace.session.nextNewPath workspace.disk extension stem).2 }
  | .duplicatePath path =>
    { workspace with session := (workspace.session.duplicatePath workspace.disk path).2 }
  | .newDocument extension =>
    { workspace with session := (workspace.session.newDocument workspace.disk extension).2 }
  | .openFile path =>
    match workspace.session.open? workspace.disk path with
    | .ok (_, session) => { workspace with session }
    | .error _ => workspace
  | .close index =>
    match workspace.session.close index with
    | .ok (_, session) => { workspace with session }
    | .error _ => workspace
  | .edit index operation =>
    match (workspace.session.document? index).bind operation.result? with
    | some edited => { workspace with session := workspace.session.setDocument index edited }
    | none => workspace
  | .save index =>
    match workspace.session.document? index with
    | none => workspace
    | some document =>
      match document.save workspace.disk with
      | .ok (saved, left) => ⟨left, workspace.session.setDocument index saved⟩
      | .error _ => workspace
  | .permit writable readable =>
    { workspace with disk := { workspace.disk with writable, readable } }

/-- What comes out of some actions that fit, in a session that was begun with nothing open. -/
inductive Reached : Workspace → Prop where
  | begun {disk : Disk} (root : Path) (hworking : disk.HasWorkingPath)
    (hlinks : disk.HasNoLinks) : Reached ⟨disk, .ofRoot root⟩
  | step {workspace : Workspace} (action : Action) (h : Reached workspace)
    (hfits : action.Fits workspace) : Reached (workspace.after action)

/-! ### Paths that never share a file -/

/-- A path that leads somewhere, or the path of a new document with a number in use. -/
def IsPlaced (disk : Disk) (session : Session) (path : Option Path) : Prop :=
  (path.bind disk.canonical?).isSome ∨ ∃ extension number, '/' ∉ extension ∧
    number < session.counter.toNat ∧
    path = some (session.root.child (Session.nameOf extension number))

/-- Different paths that do not lead to the same file. -/
def IsApart (disk : Disk) (path other : Option Path) : Prop :=
  path ≠ other ∧ ∀ file, path.bind disk.canonical? = some file →
    other.bind disk.canonical? ≠ some file

/-- The paths of the open documents are known, and apart from each other. -/
structure IsSound (workspace : Workspace) : Prop where
  working : workspace.disk.HasWorkingPath
  links : workspace.disk.HasNoLinks
  placed : ∀ path ∈ workspace.session.documents.map (·.path),
    IsPlaced workspace.disk workspace.session path
  apart : (workspace.session.documents.map (·.path)).Pairwise (IsApart workspace.disk)

variable {workspace : Workspace} {disk left : Disk} {session next : Session}
  {path other : Option Path}

theorem IsApart.symm (h : IsApart disk path other) : IsApart disk other path :=
  ⟨h.1.symm, fun file hother hpath => h.2 file hpath hother⟩

theorem IsPlaced.of_counter (h : IsPlaced disk session path) (hroot : next.root = session.root)
    (hcounter : session.counter.toNat ≤ next.counter.toNat) : IsPlaced disk next path := by
  rcases h with h | ⟨extension, number, hextension, hnumber, hpath⟩
  · exact .inl h
  · exact .inr ⟨extension, number, hextension, by omega, by rw [hroot]; exact hpath⟩

/-- Nothing but the paths of the documents counts, as long as numbers only go up. -/
theorem IsSound.of_paths (h : workspace.IsSound) (hroot : next.root = workspace.session.root)
    (hcounter : workspace.session.counter.toNat ≤ next.counter.toNat)
    (hpaths : (next.documents.map (·.path)).Sublist
      (workspace.session.documents.map (·.path))) :
    IsSound ⟨workspace.disk, next⟩ where
  working := h.working
  links := h.links
  placed path hpath := (h.placed path (hpaths.subset hpath)).of_counter hroot hcounter
  apart := h.apart.sublist hpaths

/-- One more document, whose path is known and apart from all others. -/
theorem IsSound.append (h : workspace.IsSound) (hroot : next.root = workspace.session.root)
    (hcounter : workspace.session.counter.toNat ≤ next.counter.toNat)
    (hpaths : next.documents.map (·.path) = workspace.session.documents.map (·.path) ++ [path])
    (hplaced : IsPlaced workspace.disk next path)
    (hapart : ∀ other ∈ workspace.session.documents.map (·.path),
      IsApart workspace.disk other path) : IsSound ⟨workspace.disk, next⟩ where
  working := h.working
  links := h.links
  placed := by
    rw [hpaths]
    intro other hother
    rw [List.mem_append, List.mem_singleton] at hother
    rcases hother with hother | rfl
    · exact (h.placed other hother).of_counter hroot hcounter
    · exact hplaced
  apart := by
    rw [hpaths, List.pairwise_append]
    refine ⟨h.apart, List.pairwise_singleton _ _, ?_⟩
    intro other hother added hadded
    rw [List.mem_singleton.1 hadded]
    exact hapart other hother

/-- A new document is apart from those open: its name is new, and no file has it. -/
theorem IsSound.newDocument (h : workspace.IsSound) {extension : List Char}
    (hfits : (Action.newDocument extension).Fits workspace) :
    (workspace.after (.newDocument extension)).IsSound := by
  rw [Action.Fits] at hfits
  obtain ⟨hextension, hfree, hproper, hcounter⟩ := hfits
  obtain ⟨number, counter, hnumber, hlast, hnext⟩ := Session.exists_nextNewPath_none hcounter
  rw [hnext] at hfree hproper hcounter
  have hnone : workspace.disk.canonical?
      (workspace.session.root.child (Session.nameOf extension number)) = none := by
    rw [Disk.hasPath, Disk.locate?, if_pos hproper] at hfree
    rw [Disk.canonical?, Option.map_eq_none_iff]
    simpa using hfree
  have hsession : (workspace.session.newDocument workspace.disk extension).2 =
      { workspace.session with
        counter
        documents := workspace.session.documents ++
          [.untitled (workspace.session.root.child (Session.nameOf extension number))] } := by
    rw [Session.newDocument, hnext]
  simp only [after, hsession]
  refine h.append rfl (by simp only; omega) (by simp [Document.untitled])
    (.inr ⟨extension, number, hextension, hlast, rfl⟩) ?_
  intro other hother
  rcases h.placed other hother with hthere | ⟨ending, used, hending, hused, rfl⟩
  · constructor
    · rintro rfl
      simp [hnone] at hthere
    · intro file _
      simp [hnone]
  · constructor
    · intro hsame
      have hname := Path.child_inj (Session.isPart_nameOf hending used).not_slash
        (Session.isPart_nameOf hextension number).not_slash (Option.some.inj hsame)
      exact Session.nameOf_ne ending extension (by omega) hname
    · intro file _
      simp [hnone]

/-- A file that is opened anew is shown by no other document. -/
theorem IsSound.opened (h : workspace.IsSound) {path : Path} {index : Nat}
    (hopen : workspace.session.open? workspace.disk path = .ok (index, next)) :
    IsSound ⟨workspace.disk, next⟩ := by
  obtain ⟨file, hfile, ⟨rfl, -⟩ | ⟨hnone, -, document, hdocument, rfl⟩⟩ :=
    Session.open?_cases hopen
  · exact h
  · have hcanonical := Disk.canonical?_canonical h.working hfile
    have hpaths : (workspace.session.documents ++ [document]).map (·.path) =
        workspace.session.documents.map (·.path) ++ [some file] := by
      simp [(Document.open?_spec hdocument).1]
    refine h.append rfl le_rfl hpaths (.inl (by simp [hcanonical])) ?_
    intro other hother
    obtain ⟨shown, hshown, rfl⟩ := List.mem_map.1 hother
    have hother := hnone shown hshown
    constructor
    · intro hsame
      exact hother (by rw [Document.shown?, hsame]; exact hcanonical)
    · intro shared hshared hfile
      rw [Option.bind_some, hcanonical, Option.some.injEq] at hfile
      exact hother (by rw [Document.shown?, hshared, hfile])

/-- A document in the place of one with the same path. -/
theorem map_path_setDocument {index : Nat} {document edited : Document}
    (hdocument : session.document? index = some document) (hpath : edited.path = document.path) :
    (session.setDocument index edited).documents.map (·.path) =
      session.documents.map (·.path) := by
  obtain ⟨hlt, hget⟩ := List.getElem?_eq_some_iff.1 hdocument
  have hindex : index < (session.documents.map (·.path)).length := by simpa using hlt
  have hsame := List.set_getElem_self hindex
  rw [List.getElem_map, hget] at hsame
  rw [Session.setDocument, List.map_set, hpath, hsame]

/-- A path that leads to a new file is the path of a new document. -/
theorem IsPlaced.exists_name {file asked : Path} {content : ByteArray} {location : Location}
    (h : IsPlaced disk session (some asked)) (hlinks : left.HasNoLinks)
    (hwrite : disk.write? file content = some left)
    (hleads : left.resolve? asked = some location) (hnew : disk.root.held? location = none) :
    ∃ name folder, asked = session.root.child name ∧ location = folder ++ [name] := by
  rcases h with h | ⟨extension, number, hextension, -, hasked⟩
  · rw [Option.bind_some, Disk.canonical?, Option.isSome_map] at h
    obtain ⟨place, hplace⟩ := Option.isSome_iff_exists.1 h
    have hsame := Disk.resolve?_of_write? hwrite hplace
    obtain rfl : location = place := Option.some.inj (hleads.symm.trans hsame)
    obtain ⟨⟨node, hnode, -⟩, -⟩ := Disk.isThere_of_resolve? hplace
    simp [hnew] at hnode
  · obtain rfl := Option.some.inj hasked
    obtain ⟨folder, rfl⟩ := Disk.exists_of_resolve?_child hlinks
      (Session.isPart_nameOf hextension number) hleads
    exact ⟨_, folder, rfl, rfl⟩

/-- Writing a file leads no two paths to it that were apart. -/
theorem IsApart.written {file : Path} {content : ByteArray} (h : IsApart disk path other)
    (hpath : IsPlaced disk session path) (hother : IsPlaced disk session other)
    (hworking : left.HasWorkingPath) (hlinks : left.HasNoLinks)
    (hwrite : disk.write? file content = some left) : IsApart left path other := by
  refine ⟨h.1, ?_⟩
  intro shared hshared hsame
  obtain ⟨first, rfl, hfirst⟩ := Option.bind_eq_some_iff.1 hshared
  obtain ⟨second, rfl, hsecond⟩ := Option.bind_eq_some_iff.1 hsame
  obtain ⟨location, hlocation, rfl⟩ := Option.map_eq_some_iff.1 hfirst
  obtain ⟨place, hplace, hcanonical⟩ := Option.map_eq_some_iff.1 hsecond
  obtain rfl : place = location := Disk.pathOf_inj (Disk.isPart_of_resolve? hworking hplace)
    (Disk.isPart_of_resolve? hworking hlocation) hcanonical
  rcases Disk.resolve?_of_written hwrite hlocation with hold | ⟨-, hnew⟩
  · rcases Disk.resolve?_of_written hwrite hplace with hold' | ⟨-, hnew⟩
    · exact h.2 (Disk.pathOf place) (by simp [Disk.canonical?, hold])
        (by simp [Disk.canonical?, hold'])
    · obtain ⟨⟨node, hnode, -⟩, -⟩ := Disk.isThere_of_resolve? hold
      simp [hnew] at hnode
  · obtain ⟨name, folder, rfl, hname⟩ := hpath.exists_name hlinks hwrite hlocation hnew
    obtain ⟨name', folder', rfl, hname'⟩ := hother.exists_name hlinks hwrite hplace hnew
    obtain ⟨-, hsingle⟩ := List.append_inj' (hname.symm.trans hname') rfl
    exact h.1 (by rw [List.singleton_inj.1 hsingle])

/-- Writing a file makes no two documents share one. -/
theorem IsSound.written (h : workspace.IsSound) {file : Path} {content : ByteArray}
    (hwrite : workspace.disk.write? file content = some left) :
    IsSound ⟨left, workspace.session⟩ := by
  have hworking := h.working.of_write? hwrite
  have hlinks := h.links.of_write? hwrite
  refine ⟨hworking, hlinks, ?_, ?_⟩
  · intro path hpath
    rcases h.placed path hpath with hthere | hname
    · refine .inl ?_
      obtain ⟨canonical, hcanonical⟩ := Option.isSome_iff_exists.1 hthere
      obtain ⟨asked, rfl, hasked⟩ := Option.bind_eq_some_iff.1 hcanonical
      obtain ⟨location, hlocation, rfl⟩ := Option.map_eq_some_iff.1 hasked
      simp [Disk.canonical?, Disk.resolve?_of_write? hwrite hlocation]
    · exact .inr hname
  · refine h.apart.imp_of_mem ?_
    intro path other hpath hother hapart
    exact hapart.written (h.placed path hpath) (h.placed other hother) hworking hlinks hwrite

/-- One step: no action lets two documents share a file. -/
theorem IsSound.after (h : workspace.IsSound) {action : Action} (hfits : action.Fits workspace) :
    (workspace.after action).IsSound := by
  cases action with
  | nextPath extension stem =>
      exact h.of_paths rfl (Nat.le_of_lt hfits) (List.Sublist.refl _)
  | duplicatePath path =>
      exact h.of_paths rfl (Nat.le_of_lt hfits) (List.Sublist.refl _)
  | newDocument extension => exact h.newDocument hfits
  | openFile path =>
      simp only [Workspace.after]
      split
      · next hopen => exact h.opened hopen
      · exact h
  | close index =>
      simp only [Workspace.after, Session.close]
      split
      · next hclose =>
          split at hclose
          · simp at hclose
          · obtain ⟨-, rfl⟩ := Prod.mk.inj (Except.ok.inj hclose)
            exact h.of_paths rfl le_rfl ((List.eraseIdx_sublist _ _).map _)
      · exact h
  | edit index operation =>
      simp only [Workspace.after]
      split
      · next edited hedited =>
          obtain ⟨document, hdocument, hresult⟩ := Option.bind_eq_some_iff.1 hedited
          refine h.of_paths rfl le_rfl ?_
          rw [map_path_setDocument hdocument (Document.Operation.IsEdit.path_eq hfits hresult)]
      · exact h
  | save index =>
      simp only [Workspace.after]
      split
      · exact h
      · next document hdocument =>
          split
          · next saved left hsave =>
              obtain ⟨hsaved, file, -, hwrite⟩ := Document.writeText?_of_save hsave
              refine (h.written hwrite).of_paths rfl le_rfl ?_
              rw [map_path_setDocument hdocument (by rw [hsaved])]
          · exact h
  | permit writable readable => exact ⟨h.working, h.links, h.placed, h.apart⟩

/-- A run: in every session that is reached, no two documents share a file. -/
theorem Reached.isSound (h : Reached workspace) : workspace.IsSound := by
  induction h with
  | begun root hworking hlinks =>
      exact ⟨hworking, hlinks, by simp [Session.ofRoot], by simp [Session.ofRoot]⟩
  | step action _ hfits ih => exact ih.after hfits

end Workspace

end EditorCore
