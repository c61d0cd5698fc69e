import EditorCore.Proofs.Pattern.Building
import EditorCore.Proofs.Search.Results

/-!
# Searches and what matches

What a search reports can be said by what matches alone, for anything that finds the first
match of each line: exactly the lines with a match are reported, each by a match that no other
one begins in front of. What a search uses finds the first match, plain text as well as the
machine of a regular expression.
-/

namespace EditorCore.Search

variable {disk : Disk} {request : SearchRequest} {matcher : Matcher}
  {IsMatch : List Char → Found → Prop} {find? : List Char → Option Found} {fromMatch : Bool}
  {path : Path} {files : List Path} {item : SearchItem}

/-- A line of a file that is searched, by its number. -/
def IsLine (disk : Disk) (path : Path) (number : Nat) (line : List Char) : Prop :=
  ∃ text lines i, Searched disk path text ∧ Text.AreLines text lines ∧ lines[i]? = some line ∧
    number = i + 1

/-- Exactly the lines with a match are reported, each by one that none begins in front of. -/
structure Reports (disk : Disk) (IsMatch : List Char → Found → Prop) (fromMatch : Bool)
    (files : List Path) (items : List SearchItem) : Prop where
  complete : ∀ path ∈ files, ∀ number line found, IsLine disk path number line →
    IsMatch line found → ∃ item ∈ items, item.path = path ∧ item.line = number
  sound : ∀ item ∈ items, item.path ∈ files ∧ ∃ line found,
    IsLine disk item.path item.line line ∧ IsMatch line found ∧
    (∀ other, IsMatch line other → found.start ≤ other.start) ∧
    IsItem fromMatch item.path line item.line found item

theorem mem_zipIdx_lines_iff {text line : List Char} {number : Nat}
    (htext : Searched disk path text) :
    (line, number) ∈ (Text.lines text).zipIdx 1 ↔ IsLine disk path number line := by
  rw [List.mk_mem_zipIdx_iff_le_and_getElem?_sub]
  constructor
  · rintro ⟨hnumber, hline⟩
    exact ⟨text, _, number - 1, htext, Text.areLines_lines text, hline, by omega⟩
  · rintro ⟨other, lines, i, hother, hlines, hline, rfl⟩
    obtain rfl := Option.some.inj
      ((textAt?_eq_some_iff.2 htext).symm.trans (textAt?_eq_some_iff.2 hother))
    obtain rfl := Text.areLines_iff.1 hlines
    exact ⟨by omega, hline⟩

theorem mem_allOfFile_iff : item ∈ allOfFile disk find? fromMatch path ↔
    ∃ number line found, IsLine disk path number line ∧ find? line = some found ∧
      IsItem fromMatch path line number found item := by
  rw [allOfFile]
  cases htext : textAt? disk path with
  | none =>
      refine ⟨by simp, ?_⟩
      rintro ⟨number, line, found, ⟨text, lines, i, hsearched, -⟩, -⟩
      rw [textAt?_eq_some_iff.2 hsearched] at htext
      simp at htext
  | some text =>
      have hsearched := textAt?_eq_some_iff.1 htext
      simp only [allOfLines, List.mem_filterMap, Prod.exists, lineItem?_eq_some_iff,
        mem_zipIdx_lines_iff hsearched]
      constructor
      · rintro ⟨line, number, hline, found, hfound⟩
        exact ⟨number, line, found, hline, hfound⟩
      · rintro ⟨number, line, found, hline, hfound⟩
        exact ⟨line, number, hline, found, hfound⟩

/-- Whatever finds the first match of each line, its items report the lines with a match. -/
theorem reports_of_findsFirst (hfinds : ∀ line, FindsFirst (IsMatch line) (find? line)) :
    Reports disk IsMatch fromMatch files (files.flatMap (allOfFile disk find? fromMatch)) where
  complete := by
    intro path hpath number line found hline hmatch
    obtain ⟨first, hfirst, -⟩ := (hfinds line).leftmost found hmatch
    obtain ⟨item, hitem⟩ : ∃ item, lineItem? find? fromMatch path line number = some item := by
      rw [lineItem?, hfirst]
      exact ⟨_, rfl⟩
    obtain ⟨found, hfound, hreported⟩ := lineItem?_eq_some_iff.1 hitem
    exact ⟨item, List.mem_flatMap.2 ⟨path, hpath,
      mem_allOfFile_iff.2 ⟨number, line, found, hline, hfound, hreported⟩⟩,
      hreported.path_eq, hreported.line_eq⟩
  sound := by
    intro item hmem
    obtain ⟨path, hpath, hmem⟩ := List.mem_flatMap.1 hmem
    obtain ⟨number, line, found, hline, hfound, hitem⟩ := mem_allOfFile_iff.1 hmem
    obtain rfl := hitem.path_eq
    obtain rfl := hitem.line_eq
    refine ⟨hpath, line, found, hline, (hfinds line).isMatch found hfound, ?_, hitem⟩
    intro other hother
    obtain ⟨first, hfirst, hle⟩ := (hfinds line).leftmost other hother
    obtain rfl := Option.some.inj (hfound.symm.trans hfirst)
    exact hle

/-! ### What a request looks for -/

/-- What a request looks for in a line: its text, or what its regular expression stands for. -/
inductive IsHit (request : SearchRequest) (line : List Char) (found : Found) : Prop where
  | plain (hregex : request.options.regex = false)
    (hoccurs : Matcher.Occurs request.options.ignoreCase request.pattern line found)
  | regular {regex : Regex} {pattern : Pattern} {flags : Flags}
    (hregex : request.options.regex = true)
    (hread : Regex.ofText? request.pattern = some regex)
    (hpattern : regex.pattern? { ignoreCase := request.options.ignoreCase } =
      some (pattern, flags))
    (hmatch : pattern.IsMatch line found)

theorem isHit_plain_iff {line : List Char} {found : Found}
    (hregex : request.options.regex = false) : IsHit request line found ↔
      Matcher.Occurs request.options.ignoreCase request.pattern line found := by
  refine ⟨?_, .plain hregex⟩
  rintro (⟨-, hoccurs⟩ | ⟨htrue, -⟩)
  · exact hoccurs
  · simp [hregex] at htrue

theorem isHit_regular_iff {regex : Regex} {pattern : Pattern} {flags : Flags}
    {line : List Char} {found : Found} (hregex : request.options.regex = true)
    (hread : Regex.ofText? request.pattern = some regex)
    (hpattern : regex.pattern? { ignoreCase := request.options.ignoreCase } =
      some (pattern, flags)) :
    IsHit request line found ↔ pattern.IsMatch line found := by
  refine ⟨?_, .regular hregex hread hpattern⟩
  rintro (⟨hfalse, -⟩ | ⟨-, hother, hmeans, hmatch⟩)
  · simp [hregex] at hfalse
  · obtain rfl := Option.some.inj (hread.symm.trans hother)
    obtain ⟨rfl, -⟩ := Prod.mk.inj (Option.some.inj (hpattern.symm.trans hmeans))
    exact hmatch

/-- The matcher of a request finds what the request looks for. -/
theorem findsFirst_of_matcher? (hmatcher : matcher? request = some matcher) (line : List Char) :
    FindsFirst (IsHit request line) (matcher.find? line) := by
  rw [matcher?] at hmatcher
  split at hmatcher
  · next hregex =>
      simp only [Matcher.ofRegex?, Option.bind_eq_bind, Option.bind_eq_some_iff,
        Option.ite_none_right_eq_some, Option.some.injEq, Prod.exists] at hmatcher
      obtain ⟨regex, hread, pattern, flags, hpattern, -, rfl⟩ := hmatcher
      exact (pattern.findsFirst_find? line).congr fun _ =>
        isHit_regular_iff hregex hread hpattern
  · next hregex =>
      simp only [Matcher.ofText?, Option.ite_none_right_eq_some, Option.some.injEq] at hmatcher
      obtain ⟨-, rfl⟩ := hmatcher
      exact (Matcher.findsFirst_find?_plain _ _ line).congr fun _ =>
        isHit_plain_iff (Bool.eq_false_iff.2 hregex)

/-- A search reports what its request looks for, in the files that it visits. -/
theorem run_reports (hpattern : request.pattern ≠ [])
    (hmatcher : matcher? request = some matcher) (hfiles : Visits disk request files) :
    ∃ all, Reports disk (IsHit request) request.options.regex files all ∧
      run disk request = .ok (all.take (max 1 request.options.maxResults)) := by
  refine ⟨_, reports_of_findsFirst (findsFirst_of_matcher? hmatcher), ?_⟩
  rw [run, if_neg (by simpa using hpattern), hmatcher, hfiles.filesOf_eq, ← items_eq_take]
  rfl

end EditorCore.Search
