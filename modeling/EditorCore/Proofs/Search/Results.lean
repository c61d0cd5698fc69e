import EditorCore.Proofs.Search.Item
import EditorCore.Proofs.Text.Lines

/-!
# The results of a search

A search visits its files in order and the lines of each one in order, and it stops as soon
as it has enough items. What it gives is the front of the list of all items: one for each
line with a match in each file that can be searched, none left out and none twice.
-/

namespace EditorCore.Search

variable {disk : Disk} {request : SearchRequest} {matcher : Matcher}
  {find? : List Char → Option Found} {fromMatch : Bool} {path : Path} {paths files : List Path}
  {lines : List (List Char)} {number budget : Nat} {items all : List SearchItem}

/-! ### All items -/

/-- The items of lines that are numbered from some number on. -/
inductive LineItems (find? : List Char → Option Found) (fromMatch : Bool) (path : Path) :
    Nat → List (List Char) → List SearchItem → Prop where
  | nil (number : Nat) : LineItems find? fromMatch path number [] []
  /-- A line without a match is not reported. -/
  | miss {number : Nat} {line : List Char} {lines : List (List Char)} {items : List SearchItem}
    (hfind : find? line = none)
    (rest : LineItems find? fromMatch path (number + 1) lines items) :
    LineItems find? fromMatch path number (line :: lines) items
  /-- A line with a match is reported once. -/
  | hit {number : Nat} {line : List Char} {lines : List (List Char)} {items : List SearchItem}
    {found : Found} {item : SearchItem} (hfind : find? line = some found)
    (hitem : IsItem fromMatch path line number found item)
    (rest : LineItems find? fromMatch path (number + 1) lines items) :
    LineItems find? fromMatch path number (line :: lines) (item :: items)

/-- The items of files that are visited one after the other. -/
inductive FileItems (disk : Disk) (find? : List Char → Option Found) (fromMatch : Bool) :
    List Path → List SearchItem → Prop where
  | nil : FileItems disk find? fromMatch [] []
  /-- A file that cannot be searched is passed over. -/
  | skip {path : Path} {paths : List Path} {items : List SearchItem}
    (htext : ∀ text, ¬ Searched disk path text)
    (rest : FileItems disk find? fromMatch paths items) :
    FileItems disk find? fromMatch (path :: paths) items
  /-- The lines of a file are looked through from the first one on. -/
  | file {path : Path} {paths : List Path} {text : List Char} {lines : List (List Char)}
    {found items : List SearchItem} (htext : Searched disk path text)
    (hlines : Text.AreLines text lines)
    (hfound : LineItems find? fromMatch path 1 lines found)
    (rest : FileItems disk find? fromMatch paths items) :
    FileItems disk find? fromMatch (path :: paths) (found ++ items)

/-- All items of numbered lines. -/
def allOfLines (find? : List Char → Option Found) (fromMatch : Bool) (path : Path)
    (numbered : List (List Char × Nat)) : List SearchItem :=
  numbered.filterMap fun line => lineItem? find? fromMatch path line.1 line.2

/-- All items of a file. -/
def allOfFile (disk : Disk) (find? : List Char → Option Found) (fromMatch : Bool) (path : Path) :
    List SearchItem :=
  match textAt? disk path with
  | none => []
  | some text => allOfLines find? fromMatch path ((Text.lines text).zipIdx 1)

theorem lineItems_iff : LineItems find? fromMatch path number lines items ↔
    items = allOfLines find? fromMatch path (lines.zipIdx number) := by
  constructor
  · intro h
    induction h with
    | nil number => rfl
    | @miss number line _ _ hfind _ ih =>
        have hreport : lineItem? find? fromMatch path line number = none := by
          rw [lineItem?, hfind]
          rfl
        rw [allOfLines, List.zipIdx_cons, List.filterMap_cons, hreport]
        exact ih
    | hit hfind hitem _ ih =>
        have hreport := lineItem?_eq_some_iff.2 ⟨_, hfind, hitem⟩
        rw [allOfLines, List.zipIdx_cons, List.filterMap_cons, hreport]
        exact congrArg _ ih
  · rintro rfl
    induction lines generalizing number with
    | nil => exact .nil number
    | cons line lines ih =>
        rw [allOfLines, List.zipIdx_cons, List.filterMap_cons]
        cases hreport : lineItem? find? fromMatch path line number with
        | none => exact .miss (by simpa [lineItem?] using hreport) ih
        | some item =>
            obtain ⟨found, hfind, hitem⟩ := lineItem?_eq_some_iff.1 hreport
            exact .hit hfind hitem ih

theorem fileItems_iff : FileItems disk find? fromMatch paths items ↔
    items = paths.flatMap (allOfFile disk find? fromMatch) := by
  constructor
  · intro h
    induction h with
    | nil => rfl
    | @skip path paths items htext _ ih =>
        have hnone : textAt? disk path = none := by
          rw [Option.eq_none_iff_forall_ne_some]
          intro text hsome
          exact htext text (textAt?_eq_some_iff.1 hsome)
        rw [List.flatMap_cons, allOfFile, hnone, ih]
        rfl
    | file htext hlines hfound _ ih =>
        rw [List.flatMap_cons, allOfFile, textAt?_eq_some_iff.2 htext, ← ih]
        simp only [lineItems_iff.1 hfound, Text.areLines_iff.1 hlines]
  · rintro rfl
    induction paths with
    | nil => exact .nil
    | cons path paths ih =>
        rw [List.flatMap_cons, allOfFile]
        cases htext : textAt? disk path with
        | none =>
            refine .skip ?_ ih
            intro text hsearched
            rw [textAt?_eq_some_iff.2 hsearched] at htext
            simp at htext
        | some text =>
            exact .file (textAt?_eq_some_iff.1 htext) (Text.areLines_iff.2 rfl)
              (lineItems_iff.2 rfl) ih

/-! ### Enough items -/

/-- Lines are looked through until there are enough items. -/
theorem lineItems_eq_take (numbered : List (List Char × Nat)) :
    lineItems find? fromMatch path budget numbered =
      (allOfLines find? fromMatch path numbered).take budget := by
  induction numbered generalizing budget with
  | nil => simp [lineItems, allOfLines]
  | cons line numbered ih =>
      obtain ⟨line, number⟩ := line
      rw [allOfLines, List.filterMap_cons]
      cases budget with
      | zero => simp [lineItems]
      | succ budget =>
          cases hitem : lineItem? find? fromMatch path line number with
          | none =>
              simp only [lineItems, hitem]
              exact ih
          | some item =>
              simp only [lineItems, hitem, ih, List.take_succ_cons]
              rfl

theorem fileItems_eq_take (disk : Disk) (path : Path) :
    fileItems disk find? fromMatch budget path =
      (allOfFile disk find? fromMatch path).take budget := by
  rw [fileItems, allOfFile]
  cases textAt? disk path with
  | none => simp
  | some text => exact lineItems_eq_take _

/-- Files are visited until there are enough items. -/
theorem items_eq_take (disk : Disk) (paths : List Path) :
    Search.items disk find? fromMatch budget paths =
      (paths.flatMap (allOfFile disk find? fromMatch)).take budget := by
  induction paths generalizing budget with
  | nil => simp [Search.items]
  | cons path paths ih =>
      have hlength : ((allOfFile disk find? fromMatch path).take budget).length =
          min budget (allOfFile disk find? fromMatch path).length := List.length_take
      rw [Search.items, fileItems_eq_take, List.flatMap_cons, List.take_append]
      split
      · next henough =>
          have hzero : budget - (allOfFile disk find? fromMatch path).length = 0 := by omega
          rw [hzero, List.take_zero, List.append_nil]
      · next hmore =>
          have hall : (allOfFile disk find? fromMatch path).take budget =
              allOfFile disk find? fromMatch path := List.take_of_length_le (by omega)
          rw [hall, ih]

/-! ### Searches -/

/-- The files that a request visits: all below its folder, or those that it names, as named. -/
inductive Visits (disk : Disk) (request : SearchRequest) (files : List Path) : Prop where
  | folder (root : Path) (hscope : request.scope = .folder root)
    (hfiles : disk.collectFiles root request.options.includeHidden = .ok files)
  | files (hscope : request.scope = .files files)

theorem Visits.filesOf_eq (h : Visits disk request files) : filesOf disk request = .ok files := by
  cases h with
  | folder root hscope hfiles => rw [filesOf, hscope]; exact hfiles
  | files hscope => rw [filesOf, hscope]

/-- A plain search that regards case looks for the pattern itself. -/
theorem eq_plain_of_matcher? (hregex : request.options.regex = false)
    (hcase : request.options.ignoreCase = false) (hmatcher : matcher? request = some matcher) :
    matcher = .plain false request.pattern := by
  simp only [matcher?, hregex, hcase, Bool.false_eq_true, if_false, Matcher.ofText?,
    Option.ite_none_right_eq_some, Option.some.injEq] at hmatcher
  exact hmatcher.2.symm

/--
A search with a pattern that can be read gives the first items, at least one, of all that
there are: the lines with a match, in order, of the files that can be searched, in order. In
a plain search that regards case, a match is the first place where the pattern stands. A
folder that is not there is a fault.
-/
theorem run_eq_first_items (hpattern : request.pattern ≠ [])
    (hmatcher : matcher? request = some matcher) :
    (request.options.regex = false → request.options.ignoreCase = false → ∀ line,
      (matcher.find? line = none ↔ ¬ request.pattern <:+: line) ∧
        ∀ found, matcher.find? line = some found ↔
          Matcher.IsFirst request.pattern line found) ∧
    (∀ files, Visits disk request files → ∃ all,
      (∀ other, FileItems disk matcher.find? request.options.regex files other ↔ other = all) ∧
        run disk request = .ok (all.take (max 1 request.options.maxResults))) ∧
    ∀ root fault, request.scope = .folder root →
      disk.collectFiles root request.options.includeHidden = .error fault →
        run disk request = .error fault := by
  have hrun : run disk request = (filesOf disk request).bind fun files => .ok
      (Search.items disk matcher.find? request.options.regex (max 1 request.options.maxResults)
        files) := by
    rw [run, if_neg (by simpa using hpattern), hmatcher]
    rfl
  refine ⟨?_, ?_, ?_⟩
  · intro hregex hcase line
    obtain rfl := eq_plain_of_matcher? hregex hcase hmatcher
    constructor
    · exact Matcher.find?_plain_eq_none_iff
    · intro found
      exact Matcher.find?_plain_eq_some_iff
  · intro files hfiles
    refine ⟨_, fun other => fileItems_iff, ?_⟩
    rw [hrun, hfiles.filesOf_eq, ← items_eq_take]
    rfl
  · intro root fault hscope hfault
    have hfiles : filesOf disk request = .error fault := by
      rw [filesOf, hscope]
      exact hfault
    rw [hrun, hfiles]
    rfl

/-- A file that is named twice is searched twice, and one that is not there is passed over. -/
theorem run_named_twice : ∃ text disk request matcher all,
    text = ['a', 'b', '\n', 'c', '\r', '\n', 'b'] ∧
    disk = ⟨.folder [(['a'], .file (Disk.encode text))], [], fun _ => true, fun _ => true⟩ ∧
    request = ⟨['b'], .files [⟨['a']⟩, ⟨['x']⟩, ⟨['a']⟩], ⟨false, false, false, 3⟩⟩ ∧
    request.pattern ≠ [] ∧ matcher? request = some matcher ∧
    FileItems disk matcher.find? false [⟨['a']⟩, ⟨['x']⟩, ⟨['a']⟩] all ∧ all.length = 4 ∧
    run disk request = .ok [⟨⟨['a']⟩, 1, 2, ['a', 'b']⟩, ⟨⟨['a']⟩, 3, 1, ['b']⟩,
      ⟨⟨['a']⟩, 1, 2, ['a', 'b']⟩] := by
  obtain ⟨text, htext⟩ : ∃ text, text = ['a', 'b', '\n', 'c', '\r', '\n', 'b'] := ⟨_, rfl⟩
  obtain ⟨disk, hdisk⟩ : ∃ disk : Disk,
    disk = ⟨.folder [(['a'], .file (Disk.encode text))], [], fun _ => true, fun _ => true⟩ :=
      ⟨_, rfl⟩
  have hsearched : Searched disk ⟨['a']⟩ text := by
    subst hdisk htext
    exact ⟨_, rfl, by decide, rfl⟩
  have hmissing : ∀ text, ¬ Searched disk ⟨['x']⟩ text := by
    subst hdisk
    rintro text ⟨bytes, hread, -⟩
    cases hread
  have hfits : ∀ text : List Char, text.length ≤ 16 → Text.IsFitting 50 text text := by
    intro text hshort
    have := Text.width_le text
    exact Text.isFitting_self (by omega)
  have hlines : LineItems (Matcher.plain false ['b']).find? false ⟨['a']⟩ 1 (Text.lines text)
      [⟨⟨['a']⟩, 1, 2, ['a', 'b']⟩, ⟨⟨['a']⟩, 3, 1, ['b']⟩] := by
    have hfirst : (Matcher.plain false ['b']).find? ['a', 'b'] = some ⟨1, 2⟩ := rfl
    have hthird : (Matcher.plain false ['b']).find? ['b'] = some ⟨0, 1⟩ := rfl
    subst htext
    refine .hit hfirst ⟨rfl, rfl, rfl, _, Text.isTrimmed_trim _, hfits _ (by decide)⟩
      (.miss rfl (.hit hthird ⟨rfl, rfl, rfl, _, Text.isTrimmed_trim _, hfits _ (by decide)⟩ ?_))
    exact .nil _
  have hall : FileItems disk (Matcher.plain false ['b']).find? false [⟨['a']⟩, ⟨['x']⟩, ⟨['a']⟩]
      [⟨⟨['a']⟩, 1, 2, ['a', 'b']⟩, ⟨⟨['a']⟩, 3, 1, ['b']⟩, ⟨⟨['a']⟩, 1, 2, ['a', 'b']⟩,
        ⟨⟨['a']⟩, 3, 1, ['b']⟩] :=
    .file hsearched (Text.areLines_lines text) hlines (.skip hmissing
      (.file hsearched (Text.areLines_lines text) hlines .nil))
  have hmatcher : matcher? ⟨['b'], .files [⟨['a']⟩, ⟨['x']⟩, ⟨['a']⟩],
      ⟨false, false, false, 3⟩⟩ = some (.plain false ['b']) := by
    rfl
  obtain ⟨all, hiff, hrun⟩ := (run_eq_first_items (by simp) hmatcher).2.1 _ (.files rfl)
  obtain rfl := (hiff _).1 hall
  exact ⟨text, disk, _, _, _, htext, hdisk, rfl, by simp, hmatcher, hall, rfl, hrun⟩

end EditorCore.Search
