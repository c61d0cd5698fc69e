import EditorCore.Proofs.CommandLine.Duplicating
import EditorCore.Proofs.Language.Stability
import EditorCore.Proofs.Search.Item
import EditorCore.Proofs.Text.SmallLetters

/-!
# The language of a copy

The language of a file is told by its extension, in small letters. The name of a copy has the
same extension in small letters, which stay as they are, but it is trimmed first: what a copy
has is the language of the extension without the blanks at its ends. With a blank in it an
extension is that of no language, so a copy can have a language that the file does not have.
-/

namespace EditorCore

/-- What is trimmed off a text is blank. -/
theorem Text.IsTrimmed.exists_isBlank {text inner : List Char} (h : IsTrimmed text inner)
    (hne : text ≠ inner) : ∃ c ∈ text, isBlank c = true := by
  obtain ⟨front, back, rfl, hfront, hback⟩ := h.ends
  by_cases hnil : front = []
  · have hback' : back ≠ [] := by
      rintro rfl
      simp [hnil] at hne
    obtain ⟨c, hc⟩ := List.exists_mem_of_ne_nil back hback'
    exact ⟨c, by simp [hc], hback c hc⟩
  · obtain ⟨c, hc⟩ := List.exists_mem_of_ne_nil front hnil
    exact ⟨c, by simp [hc], hfront c hc⟩

/-! ### Names and extensions -/

namespace Path

variable {base path : Path} {name stem ending : Name} {c : Char}

theorem isPart_of_fileName? (h : path.fileName? = some name) : IsPart name := by
  rw [fileName?] at h
  split at h
  · simp at h
  · next part hlast =>
      obtain ⟨habove, hname⟩ := Option.ite_none_left_eq_some.1 h
      obtain rfl := Option.some.inj hname
      obtain ⟨hmem, hkept⟩ := List.mem_filter.1 (List.mem_of_getLast? hlast)
      simp only [Bool.and_eq_true, Bool.not_eq_true', List.isEmpty_eq_false_iff,
        bne_iff_ne] at hkept
      exact ⟨hkept.1, not_slash_of_mem_splitSlash hmem, hkept.2, habove⟩

/-- A child has the name that was put behind its folder. -/
theorem fileName?_child (base : Path) (h : IsPart name) :
    (base.child name).fileName? = some name := by
  obtain ⟨front, -, hfront⟩ := exists_parts_child base
  have hkept : (!name.isEmpty && name != here) = true := by
    simp [h.ne_nil, h.ne_here]
  simp [fileName?, hfront name h.not_slash, List.filter_append, hkept, h.ne_above]

/-- An extension has no dot. -/
theorem not_dot_splitName (h : (splitName name).2 = some ending) : '.' ∉ ending := by
  simp only [splitName] at h
  split at h
  · obtain rfl := Option.some.inj h
    intro hdot
    simpa using List.mem_takeWhile_imp (List.mem_reverse.1 hdot)
  · simp at h

theorem not_dot_extension (path : Path) : '.' ∉ path.extension?.getD [] := by
  cases hextension : path.extension? with
  | none => simp
  | some extension =>
      obtain ⟨name, -, hname⟩ := Option.bind_eq_some_iff.1 hextension
      exact not_dot_splitName hname

/-- A name is cut at its last dot, unless nothing is in front of it. -/
theorem splitName_append (hstem : stem ≠ []) (hending : '.' ∉ ending) :
    splitName (stem ++ '.' :: ending) = (stem, some ending) := by
  have htail : ((stem ++ '.' :: ending).reverse.takeWhile (· != '.')).reverse = ending := by
    have hnot : ∀ c ∈ ending.reverse, (c != '.') = true := by
      intro c hc
      rw [bne_iff_ne]
      rintro rfl
      exact hending (List.mem_reverse.1 hc)
    rw [List.reverse_append, List.reverse_cons, List.append_assoc,
      List.takeWhile_append_of_pos hnot]
    simp
  have hlength : (stem ++ '.' :: ending).length - ending.length - 1 = stem.length := by
    rw [List.length_append, List.length_cons]
    omega
  have htake : (stem ++ '.' :: ending).take stem.length = stem := List.take_left
  simp only [splitName, htail, hlength, htake]
  rw [if_pos ⟨by simp; omega, hstem⟩]

/-- The last character of a name is in its extension, if it has one and is no dot. -/
theorem mem_of_splitName (hlast : name.getLast? = some c) (hdot : c ≠ '.')
    (h : (splitName name).2 = some ending) : c ∈ ending := by
  simp only [splitName] at h
  split at h
  · obtain rfl := Option.some.inj h
    obtain ⟨front, rfl⟩ := List.getLast?_eq_some_iff.1 hlast
    simp [hdot]
  · simp at h

end Path

namespace Language

variable {path : Path} {name extension : Name} {c : Char}

/-- The extensions of files that are not plain text. -/
def extensions : List String := rulesExtension :: (Python.extensions ++ C.extensions)

theorem dropWhile_dot (hdot : '.' ∉ extension) : extension.dropWhile (· == '.') = extension := by
  cases extension with
  | nil => rfl
  | cons c cs =>
      rw [List.mem_cons, not_or] at hdot
      exact List.dropWhile_cons_of_neg (by simpa using Ne.symm hdot.1)

theorem ofExtension_eq_text (hdot : '.' ∉ extension)
    (h : String.ofList (Text.lowercase extension) ∉ extensions) :
    ofExtension extension = .text := by
  simp only [extensions, List.mem_cons, List.mem_append, not_or] at h
  simp only [ofExtension, dropWhile_dot hdot]
  rw [if_neg h.1, if_neg h.2.1, if_neg h.2.2]

/-- Extensions are made of letters. -/
theorem isAlpha_of_mem_extensions :
    ∀ word ∈ extensions, word.toList.all Char.isAlpha = true := by
  decide +kernel

/-- Files whose extension has a character that stays as it is and is no letter are plain text. -/
theorem ofExtension_eq_text_of_mem (hdot : '.' ∉ extension) (hsmall : Text.IsSmall c)
    (hletter : c.isAlpha = false) (h : c ∈ extension) : ofExtension extension = .text := by
  refine ofExtension_eq_text hdot ?_
  intro hmem
  have hletters := isAlpha_of_mem_extensions _ hmem
  rw [String.toList_ofList, List.all_eq_true] at hletters
  simp [hletters c (Text.mem_lowercase hsmall h)] at hletter

/-- An extension is that of the same language in small letters. -/
theorem ofExtension_lowercase (hdot : '.' ∉ extension) :
    ofExtension (Text.lowercase extension) = ofExtension extension := by
  have hdot' : '.' ∉ Text.lowercase extension := fun h =>
    hdot (Text.mem_of_mem_lowercase (by decide) (by decide) h)
  simp only [ofExtension, dropWhile_dot hdot, dropWhile_dot hdot', Text.lowercase_lowercase]

/-- Files whose extension has a blank are plain text. -/
theorem ofExtension_eq_text_of_isBlank (hdot : '.' ∉ extension) (hblank : Text.isBlank c = true)
    (h : c ∈ extension) : ofExtension extension = .text :=
  ofExtension_eq_text_of_mem hdot (Text.isSmall_of_isBlank hblank)
    (Token.isAlpha_eq_false_of_isBlank hblank) h

theorem ofPath_eq (path : Path) : ofPath path = ofExtension (path.extension?.getD []) := by
  rw [ofPath]
  cases path.extension? with
  | none => decide +kernel
  | some extension => rfl

/-- Files whose names end with a digit are plain text. -/
theorem ofPath_eq_text (hname : path.fileName? = some name) (hlast : name.getLast? = some c)
    (hdigit : c.isDigit = true) : ofPath path = .text := by
  have hdot : c ≠ '.' := by
    rintro rfl
    exact absurd hdigit (by decide)
  rw [ofPath, Path.extension?, hname, Option.bind_some]
  cases hending : (Path.splitName name).2 with
  | none => rfl
  | some ending =>
      exact ofExtension_eq_text_of_mem (Path.not_dot_splitName hending)
        (Text.isSmall_of_isDigit hdigit) (Text.isAlpha_eq_false_of_isDigit hdigit)
        (Path.mem_of_splitName hlast hdot hending)

end Language

namespace Session

variable {session : Session} {disk : Disk} {path : Path} {stem extension inner : List Char}

/-- A numbered name has the language of its extension, without the blanks at the ends. -/
theorem ofPath_numbered (base : Path) (hstem : stem ≠ []) (hslash : '/' ∉ stem ++ extension)
    (hdot : '.' ∉ extension) (number : Nat) :
    Language.ofPath
        (base.child (stem ++ (toString number).toList ++ normalizeExtension extension)) =
      Language.ofExtension (Text.trim extension) := by
  rw [List.mem_append, not_or] at hslash
  have hname := Path.fileName?_child base (isPart_numbered hslash.1 hslash.2 number)
  have htrim : '.' ∉ Text.trim extension := fun h =>
    hdot ((Text.isTrimmed_trim extension).subset h)
  by_cases hnil : Text.trim extension = []
  · -- the name ends with its number
    have hnone : normalizeExtension extension = [] := by
      simp [normalizeExtension, hnil, Text.lowercase_eq_nil_iff]
    obtain ⟨front, c, hdigits⟩ :=
      (List.eq_nil_or_concat' _).resolve_left (Text.toString_ne_nil number)
    have hlast : (stem ++ (toString number).toList ++ normalizeExtension extension).getLast? =
        some c := by
      rw [hnone, List.append_nil, hdigits, ← List.append_assoc, List.getLast?_concat]
    have hdigit : c.isDigit = true := Text.isDigit_of_mem_toString (hdigits ▸ List.mem_concat_self)
    rw [Language.ofPath_eq_text hname hlast hdigit, hnil]
    decide +kernel
  · have hsome : normalizeExtension extension = '.' :: Text.lowercase (Text.trim extension) := by
      simp [normalizeExtension, Language.dropWhile_dot htrim, Text.lowercase_eq_nil_iff, hnil]
    have hlower : '.' ∉ Text.lowercase (Text.trim extension) := fun h =>
      htrim (Text.mem_of_mem_lowercase (by decide) (by decide) h)
    have hne : stem ++ (toString number).toList ≠ [] := by simp [hstem]
    have hextension := Path.splitName_append hne hlower
    rw [Language.ofPath, Path.extension?, hname, hsome, Option.bind_some, hextension]
    exact Language.ofExtension_lowercase htrim

/-- A copy has the language of the file's extension without the blanks at its ends. -/
theorem ofPath_duplicatePath (session : Session) (disk : Disk) (path : Path) :
    Language.ofPath (session.duplicatePath disk path).1 =
      Language.ofExtension (Text.trim (path.extension?.getD [])) := by
  obtain ⟨number, hpath⟩ : ∃ number, (session.duplicatePath disk path).1 =
      session.root.child (stemOrUnnamed path.fileStem? ++ (toString number).toList ++
        normalizeExtension (path.extension?.getD [])) := ⟨_, rfl⟩
  rw [hpath]
  refine ofPath_numbered _ (stemOrUnnamed_ne_nil _) ?_ ?_ number
  · cases hname : path.fileName? with
    | none =>
        have hunnamed : '/' ∉ Document.unnamed := by decide
        simpa [Path.fileStem?, Path.extension?, hname, stemOrUnnamed] using hunnamed
    | some name =>
        have hpart := Path.isPart_of_fileName? hname
        obtain ⟨hstem, hextension⟩ := Path.not_slash_splitName hpart.not_slash
        have hne := Path.splitName_ne_nil hpart.ne_nil
        simp [Path.fileStem?, Path.extension?, hname, stemOrUnnamed, Option.filter, hne, hstem,
          hextension]
  · exact path.not_dot_extension

/--
A copy has the language of the file's extension without the blanks at its ends. That is the
language of the file, unless there is such a blank and the extension without it is that of a
language: then the file is plain text and its copy is not.
-/
theorem duplicatePath_keeps_language (session : Session) (disk : Disk) (path : Path) :
    ∃ inner, Text.IsTrimmed (path.extension?.getD []) inner ∧
      Language.ofPath (session.duplicatePath disk path).1 = Language.ofExtension inner ∧
      (Language.ofPath (session.duplicatePath disk path).1 = Language.ofPath path ↔
        path.extension?.getD [] = inner ∨ Language.ofExtension inner = .text) ∧
      (Language.ofPath (session.duplicatePath disk path).1 ≠ Language.ofPath path →
        Language.ofPath path = .text) := by
  have htrim := Text.isTrimmed_trim (path.extension?.getD [])
  refine ⟨_, htrim, ofPath_duplicatePath session disk path, ?_⟩
  rw [ofPath_duplicatePath, Language.ofPath_eq]
  by_cases hsame : path.extension?.getD [] = Text.trim (path.extension?.getD [])
  · simp [← hsame]
  · obtain ⟨c, hc, hblank⟩ := htrim.exists_isBlank hsame
    rw [Language.ofExtension_eq_text_of_isBlank path.not_dot_extension hblank hc]
    simp [hsame]

/-- A file of plain text whose copy is a program, because its extension ends with a blank. -/
theorem duplicatePath_changes_language :
    let disk : Disk := ⟨.folder [("a.py ".toList, .file .empty)], [], fun _ => true, fun _ => true⟩
    let file : Path := ⟨"a.py ".toList⟩
    let copy := ((ofRoot ⟨['.']⟩).duplicatePath disk file).1
    copy = ⟨"./a1.py".toList⟩ ∧ disk.hasPath copy = false ∧
      Language.ofPath file = .text ∧ Language.ofPath copy = .python := by
  decide +kernel

end Session

end EditorCore
