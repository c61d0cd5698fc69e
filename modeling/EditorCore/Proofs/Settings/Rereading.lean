import EditorCore.Proofs.File.Writing
import EditorCore.Proofs.Search.Item
import EditorCore.Proofs.Text.Decimal
import EditorCore.Proofs.Text.Lines
import EditorCore.Settings

/-!
# Reading settings that were written

A settings file is written without any escapes, so not all settings could be read back. Those
that were read can: a value that a line gives has no line feed and no blank at either end, an
empty name of a theme or of a file of themes does not count, and the number of items is kept
between its bounds.
-/

namespace EditorCore

namespace Settings

variable {settings : Settings} {text key value line : List Char}
  {entries : List (List Char × List Char)}

/-! ### Lines -/

/-- A text that can be the value of a line. -/
structure IsValue (value : List Char) : Prop where
  feed : '\n' ∉ value
  isTrimmed : Text.IsTrimmed value value

/-- A text that a line can begin with as its key, and that is read as it is. -/
structure IsKey (key : List Char) : Prop where
  ne_nil : key ≠ []
  equals : '=' ∉ key
  feed : '\n' ∉ key
  comment : key.head? ≠ some '#'
  isTrimmed : Text.IsTrimmed key key
  lowercase_eq : Text.lowercase key = key

theorem splitEquals?_append (h : '=' ∉ key) (value : List Char) :
    splitEquals? (key ++ '=' :: value) = some (key, value) := by
  have hkey : (key ++ '=' :: value).takeWhile (· != '=') = key := by
    rw [List.takeWhile_append_of_pos, List.takeWhile_cons_of_neg (by simp), List.append_nil]
    intro c hc
    simpa using ne_of_mem_of_not_mem hc h
  rw [splitEquals?, hkey]
  simp

/-- A line is cut in front of its first equals sign and behind it. -/
theorem splitEquals?_eq_some_iff :
    splitEquals? line = some (key, value) ↔ '=' ∉ key ∧ line = key ++ '=' :: value := by
  constructor
  · intro h
    by_cases hequals : '=' ∈ line
    · obtain ⟨front, behind, rfl, hfront⟩ := List.eq_append_cons_of_mem hequals
      rw [splitEquals?_append hfront, Option.some.injEq, Prod.mk.injEq] at h
      obtain ⟨rfl, rfl⟩ := h
      exact ⟨hfront, rfl⟩
    · have hline : line.takeWhile (· != '=') = line := by
        refine List.takeWhile_eq_self_iff.2 ?_
        intro c hc
        simpa using ne_of_mem_of_not_mem hc hequals
      rw [splitEquals?, hline] at h
      simp at h
  · rintro ⟨hkey, rfl⟩
    exact splitEquals?_append hkey value

/-- The value that a line gives can be the value of a line. -/
theorem isValue_of_readLine? (hline : '\n' ∉ line) (h : readLine? line = some (key, value)) :
    IsValue value := by
  rw [readLine?] at h
  split at h
  · simp at h
  · obtain ⟨⟨front, behind⟩, hsplit, hentry⟩ := Option.map_eq_some_iff.1 h
    obtain ⟨-, hcut⟩ := splitEquals?_eq_some_iff.1 hsplit
    obtain ⟨-, rfl⟩ := Prod.mk.inj hentry
    have hvalue := Text.isTrimmed_trim behind
    refine ⟨?_, Text.isTrimmed_self hvalue.first hvalue.last⟩
    intro hfeed
    refine hline ((Text.isTrimmed_trim line).subset ?_)
    rw [hcut]
    exact List.mem_append_right _ (List.mem_cons_of_mem _ (hvalue.subset hfeed))

theorem isValue_of_mem_readLines (h : (key, value) ∈ readLines text) : IsValue value := by
  obtain ⟨line, hline, hread⟩ := List.mem_filterMap.1 h
  exact isValue_of_readLine? ((Text.areLines_lines text).not_mem hline) hread

/-- The line that is written for a key and a value. -/
def lineOf (key value : List Char) : List Char := key ++ (" = ".toList ++ value)

theorem getLast?_lineOf (key : List Char) (hvalue : value ≠ []) :
    (lineOf key value).getLast? = value.getLast? := by
  rw [lineOf, ← List.append_assoc, List.getLast?_append_of_ne_nil _ hvalue]

theorem isBlank_of_mem_space : ∀ c ∈ [' '], Text.isBlank c = true :=
  List.forall_mem_singleton.2 rfl

/--
Trimming the line of a key and a value takes nothing away but the blank behind the equals
sign, and that only if the value is empty.
-/
theorem exists_trim_lineOf (hkey : IsKey key) (hvalue : IsValue value) :
    ∃ behind, Text.trim (lineOf key value) = key ++ ' ' :: '=' :: behind ∧
      Text.trim behind = value := by
  have hfirst : ∀ rest : List Char, ∀ c ∈ (key ++ rest).head?, Text.isBlank c = false := by
    intro rest
    rw [List.head?_append_of_ne_nil key hkey.ne_nil]
    exact hkey.isTrimmed.first
  by_cases hempty : value = []
  · subst hempty
    have hline : Text.IsTrimmed (lineOf key []) (key ++ [' ', '=']) := by
      refine ⟨⟨[], [' '], by simp [lineOf], by simp, isBlank_of_mem_space⟩, hfirst _, ?_⟩
      intro c hc
      obtain rfl : '=' = c := by simpa using hc
      decide
    exact ⟨[], hline.eq_trim.symm, rfl⟩
  · have hline : Text.IsTrimmed (lineOf key value) (lineOf key value) := by
      refine Text.isTrimmed_self (hfirst _) ?_
      rw [getLast?_lineOf key hempty]
      exact hvalue.isTrimmed.last
    have hbehind : Text.IsTrimmed (' ' :: value) value :=
      ⟨⟨[' '], [], by simp, isBlank_of_mem_space, by simp⟩, hvalue.isTrimmed.first,
        hvalue.isTrimmed.last⟩
    exact ⟨' ' :: value, hline.eq_trim.symm, hbehind.eq_trim.symm⟩

/-- The line of a key and a value is read as just these. -/
theorem readLine?_lineOf (hkey : IsKey key) (hvalue : IsValue value) :
    readLine? (lineOf key value) = some (key, value) := by
  obtain ⟨behind, htrim, hbehind⟩ := exists_trim_lineOf hkey hvalue
  have hcounts : ¬ ((key ++ ' ' :: '=' :: behind).isEmpty ∨
      (key ++ ' ' :: '=' :: behind).head? = some '#') := by
    rw [List.head?_append_of_ne_nil key hkey.ne_nil]
    simp [hkey.comment]
  have hsplit : splitEquals? (key ++ ' ' :: '=' :: behind) = some (key ++ [' '], behind) := by
    refine splitEquals?_eq_some_iff.2 ⟨?_, by simp⟩
    simp [hkey.equals]
  have hback : Text.IsTrimmed (key ++ [' ']) key :=
    ⟨⟨[], [' '], by simp, by simp, isBlank_of_mem_space⟩, hkey.isTrimmed.first,
      hkey.isTrimmed.last⟩
  rw [readLine?, htrim, if_neg hcounts, hsplit, Option.map_some]
  simp only [← hback.eq_trim, hbehind, hkey.lowercase_eq]

/-- A blank cannot be a value: it is read as an empty one. -/
example : readLine? (lineOf "theme".toList [' ']) = some ("theme".toList, []) := by decide +kernel

/-- The line of a key and a value is cut off nowhere, and loses nothing at its end. -/
theorem feeds_lineOf (hkey : IsKey key) (hvalue : IsValue value) :
    '\n' ∉ lineOf key value ∧ (lineOf key value).getLast? ≠ some '\r' := by
  constructor
  · simp [lineOf, hkey.feed, hvalue.feed]
  · by_cases hempty : value = []
    · simp [hempty, lineOf]
    · rw [getLast?_lineOf key hempty]
      intro hreturn
      exact absurd (hvalue.isTrimmed.last '\r' hreturn) (by decide)

/-! ### Keys and values -/

/-- Of several lines for one key the last one counts. -/
theorem valueOf?_eq_some_iff {key : String} :
    valueOf? entries key = some value ↔ ∃ front back,
      entries = front ++ (key.toList, value) :: back ∧ ∀ entry ∈ back, entry.1 ≠ key.toList := by
  simp only [valueOf?, Option.map_eq_some_iff, List.find?_eq_some_iff_append]
  constructor
  · rintro ⟨⟨_, _⟩, ⟨hkey, back, front, hreverse, hback⟩, rfl⟩
    obtain rfl := of_decide_eq_true hkey
    refine ⟨front.reverse, back.reverse, ?_, ?_⟩
    · simpa using congrArg List.reverse hreverse
    · simpa using hback
  · rintro ⟨front, back, rfl, hback⟩
    refine ⟨(key.toList, value), ⟨by simp, back.reverse, front.reverse, by simp, ?_⟩, rfl⟩
    simpa using hback

/-- If each key has one line, that line counts. -/
theorem valueOf?_of_mem {key : String} (hnodup : (entries.map (·.1)).Nodup)
    (h : (key.toList, value) ∈ entries) : valueOf? entries key = some value := by
  obtain ⟨front, back, rfl⟩ := List.append_of_mem h
  refine valueOf?_eq_some_iff.2 ⟨front, back, rfl, ?_⟩
  intro entry hentry hkey
  rw [List.map_append, List.map_cons, List.nodup_append, List.nodup_cons] at hnodup
  exact hnodup.2.1.1 (List.mem_map.2 ⟨entry, hentry, hkey⟩)

/-- The keys and values of a settings file that is written for some settings. -/
def choices (settings : Settings) : List (List Char × List Char) :=
  [("theme".toList, settings.theme),
    ("dark-mode".toList, showBool settings.darkMode),
    ("theme-file".toList, (settings.themeFile.map (·.chars)).getD []),
    ("search-ignore-case".toList, showBool settings.searchIgnoreCase),
    ("search-hidden".toList, showBool settings.searchHidden),
    ("search-regex".toList, showBool settings.searchRegex),
    ("max-search-results".toList, (toString settings.maxSearchResults).toList)]

/-- The keys of a settings file, in the order in which they are written. -/
def keys : List (List Char) :=
  ["theme".toList, "dark-mode".toList, "theme-file".toList, "search-ignore-case".toList,
    "search-hidden".toList, "search-regex".toList, "max-search-results".toList]

theorem map_fst_choices (settings : Settings) : settings.choices.map (·.1) = keys := rfl

/-- The lines in front of the first key. -/
def heading : List (List Char) :=
  ["# epiccoder configuration".toList, "# Generated automatically".toList, []]

theorem toText_eq (settings : Settings) : settings.toText =
    (heading ++ settings.choices.map fun entry => lineOf entry.1 entry.2).flatMap
      (· ++ ['\n']) := by
  have hheading : "# epiccoder configuration\n# Generated automatically\n\n".toList =
      heading.flatMap (· ++ ['\n']) := by simp [heading]
  unfold toText
  rw [List.flatMap_append, ← hheading]
  simp only [choices, lineOf, List.map_cons, List.map_nil, List.flatMap_cons, List.flatMap_nil,
    List.append_assoc, List.append_nil]

/-! ### Settings that can be read back -/

/-- Settings that can be read back once they are written. -/
structure IsReadable (settings : Settings) : Prop where
  theme_ne : settings.theme ≠ []
  theme : IsValue settings.theme
  themeFile : ∀ path ∈ settings.themeFile, path.chars ≠ [] ∧ IsValue path.chars
  results : 1 ≤ settings.maxSearchResults ∧ settings.maxSearchResults ≤ resultsLimit

theorem isValue_showBool (truth : Bool) : IsValue (showBool truth) := by
  cases truth
  · exact ⟨by decide, Text.isTrimmed_iff.2 (by decide)⟩
  · exact ⟨by decide, Text.isTrimmed_iff.2 (by decide)⟩

theorem isValue_toString (n : Nat) : IsValue (toString n).toList := by
  have hblank : ∀ c ∈ (toString n).toList, Text.isBlank c = false := fun c hc =>
    Text.isBlank_eq_false_of_isDigit (Text.isDigit_of_mem_toString hc)
  refine ⟨?_, Text.isTrimmed_self (fun c hc => hblank c (List.mem_of_mem_head? hc)) fun c hc =>
    hblank c (List.mem_of_mem_getLast? hc)⟩
  intro hfeed
  exact absurd (hblank '\n' hfeed) (by decide)

@[simp] theorem isYes_showBool (truth : Bool) : isYes (showBool truth) = truth := by
  cases truth <;> decide

theorem clampResults_bounds (n : Nat) : 1 ≤ clampResults n ∧ clampResults n ≤ resultsLimit := by
  rw [clampResults, resultsLimit]
  omega

theorem clampResults_eq {n : Nat} (h : 1 ≤ n ∧ n ≤ resultsLimit) : clampResults n = n := by
  rw [clampResults]
  omega

theorem isKey_of_mem_choices (h : (key, value) ∈ settings.choices) : IsKey key := by
  have hkeys : ∀ key ∈ keys, key ≠ [] ∧ '=' ∉ key ∧ '\n' ∉ key ∧ key.head? ≠ some '#' ∧
      key = Text.trim key ∧ Text.lowercase key = key := by
    decide +kernel
  have hmem : key ∈ settings.choices.map (·.1) := List.mem_map.2 ⟨_, h, rfl⟩
  rw [map_fst_choices] at hmem
  obtain ⟨hne, hequals, hfeed, hcomment, htrim, hlowercase⟩ := hkeys key hmem
  exact ⟨hne, hequals, hfeed, hcomment, Text.isTrimmed_iff.2 htrim, hlowercase⟩

theorem nodup_choices (settings : Settings) : (settings.choices.map (·.1)).Nodup := by
  rw [map_fst_choices]
  decide +kernel

theorem isReadable_standard : standard.IsReadable where
  theme_ne := by decide
  theme := ⟨by decide, Text.isTrimmed_iff.2 (by decide)⟩
  themeFile := by simp [standard]
  results := by decide

theorem mem_of_valueOf? {key : String} (h : valueOf? entries key = some value) :
    (key.toList, value) ∈ entries := by
  obtain ⟨front, back, rfl, -⟩ := valueOf?_eq_some_iff.1 h
  simp

/-- Settings stay readable when values that lines can give are chosen. -/
theorem IsReadable.apply (h : settings.IsReadable)
    (hentries : ∀ entry ∈ entries, IsValue entry.2) : (settings.apply entries).IsReadable := by
  have htheme : (settings.apply entries).theme ≠ [] ∧ IsValue (settings.apply entries).theme := by
    simp only [Settings.apply]
    cases hvalue : (valueOf? entries "theme").filter (!·.isEmpty) with
    | none => exact ⟨h.theme_ne, h.theme⟩
    | some value =>
        obtain ⟨hvalue, hne⟩ := Option.filter_eq_some_iff.1 hvalue
        exact ⟨by simpa using hne, hentries _ (mem_of_valueOf? hvalue)⟩
  refine ⟨htheme.1, htheme.2, ?_, ?_⟩
  · intro path hpath
    simp only [Settings.apply] at hpath
    cases hvalue : valueOf? entries "theme-file" with
    | none =>
        rw [hvalue] at hpath
        exact h.themeFile path hpath
    | some value =>
        rw [hvalue] at hpath
        simp only [Option.mem_def, Option.ite_none_left_eq_some, Option.some.injEq] at hpath
        obtain ⟨hne, rfl⟩ := hpath
        exact ⟨by simpa using hne, hentries _ (mem_of_valueOf? hvalue)⟩
  · simp only [Settings.apply]
    cases (valueOf? entries "max-search-results").bind Text.readWord? with
    | none => exact h.results
    | some n => exact clampResults_bounds n

theorem isReadable_ofText (text : List Char) : (ofText text).IsReadable := by
  refine isReadable_standard.apply ?_
  intro entry hentry
  exact isValue_of_mem_readLines hentry

/-- A value that is written for readable settings can be the value of a line. -/
theorem IsReadable.isValue (h : settings.IsReadable) (hmem : (key, value) ∈ settings.choices) :
    IsValue value := by
  have hempty : IsValue [] := ⟨by simp, Text.isTrimmed_trim []⟩
  have hfile : IsValue ((settings.themeFile.map (·.chars)).getD []) := by
    cases hpath : settings.themeFile with
    | none => exact hempty
    | some path => exact (h.themeFile path hpath).2
  simp only [choices, List.mem_cons, Prod.mk.injEq, List.not_mem_nil, or_false] at hmem
  rcases hmem with ⟨-, rfl⟩ | ⟨-, rfl⟩ | ⟨-, rfl⟩ | ⟨-, rfl⟩ | ⟨-, rfl⟩ | ⟨-, rfl⟩ | ⟨-, rfl⟩
  · exact h.theme
  · exact isValue_showBool _
  · exact hfile
  · exact isValue_showBool _
  · exact isValue_showBool _
  · exact isValue_showBool _
  · exact isValue_toString _

theorem IsReadable.lines_toText (h : settings.IsReadable) : Text.lines settings.toText =
    heading ++ settings.choices.map fun entry => lineOf entry.1 entry.2 := by
  rw [toText_eq]
  refine Text.lines_flatMap ?_
  intro line hline
  rcases List.mem_append.1 hline with hline | hline
  · have hheading : ∀ line ∈ heading, '\n' ∉ line ∧ line.getLast? ≠ some '\r' := by decide
    exact hheading line hline
  · obtain ⟨entry, hentry, rfl⟩ := List.mem_map.1 hline
    exact feeds_lineOf (isKey_of_mem_choices hentry) (h.isValue hentry)

/-- The lines of readable settings are read as the choices that they were written for. -/
theorem IsReadable.readLines_toText (h : settings.IsReadable) :
    readLines settings.toText = settings.choices := by
  have hheading : heading.filterMap readLine? = [] := by decide
  have hread : ∀ entry ∈ settings.choices,
      (readLine? ∘ fun entry => lineOf entry.1 entry.2) entry = some entry := by
    intro entry hentry
    exact readLine?_lineOf (isKey_of_mem_choices hentry) (h.isValue hentry)
  rw [readLines, h.lines_toText, List.filterMap_append, hheading, List.nil_append,
    List.filterMap_map, List.filterMap_congr hread, List.filterMap_some]

/-- Readable settings are read back. -/
theorem IsReadable.ofText_toText (h : settings.IsReadable) : ofText settings.toText = settings := by
  have hvalue : ∀ (i : Nat) (key : String) (value : List Char),
      settings.choices[i]? = some (key.toList, value) →
        valueOf? settings.choices key = some value := fun _ _ _ hi =>
    valueOf?_of_mem settings.nodup_choices (List.mem_of_getElem? hi)
  have htheme : (some settings.theme).filter (!·.isEmpty) = some settings.theme := by
    simp [h.theme_ne]
  have hfile : (if ((settings.themeFile.map (·.chars)).getD []).isEmpty then none
      else some (⟨(settings.themeFile.map (·.chars)).getD []⟩ : Path)) = settings.themeFile := by
    cases hpath : settings.themeFile with
    | none => rfl
    | some path => simp [(h.themeFile path hpath).1]
  have hresults : Text.readWord? (toString settings.maxSearchResults).toList =
      some settings.maxSearchResults :=
    Text.readWord?_toString (Nat.lt_of_le_of_lt h.results.2 (by decide))
  rw [ofText, h.readLines_toText]
  simp only [Settings.apply, hvalue 0 "theme" _ rfl, hvalue 1 "dark-mode" _ rfl,
    hvalue 2 "theme-file" _ rfl, hvalue 3 "search-ignore-case" _ rfl,
    hvalue 4 "search-hidden" _ rfl, hvalue 5 "search-regex" _ rfl,
    hvalue 6 "max-search-results" _ rfl, htheme, hfile, hresults, Option.map_some,
    Option.getD_some, Option.bind_some, isYes_showBool, clampResults_eq h.results]

/-- Settings are read back exactly if some text makes them. -/
theorem isReadable_iff : settings.IsReadable ↔ ∃ text, ofText text = settings := by
  constructor
  · intro h
    exact ⟨settings.toText, h.ofText_toText⟩
  · rintro ⟨text, rfl⟩
    exact isReadable_ofText text

/--
Settings that a text makes are written so that they are read back as they are, and the number
of items that they keep is within its bounds, whatever the text is.
-/
theorem ofText_reread (text : List Char) : ofText (ofText text).toText = ofText text ∧
    1 ≤ (ofText text).maxSearchResults ∧ (ofText text).maxSearchResults ≤ 100000 := by
  have hreadable := isReadable_ofText text
  exact ⟨hreadable.ofText_toText, hreadable.results.1, hreadable.results.2⟩

/-! ### Files of settings -/

theorem isReadable_load (disk : Disk) (home : Option Path) : (load disk home).IsReadable := by
  rw [load]
  split
  · exact isReadable_ofText _
  · exact isReadable_standard

/-- Readable settings are loaded again from the file that they are saved to. -/
theorem IsReadable.load_of_save {disk left : Disk} {home : Path} (h : settings.IsReadable)
    (hsave : settings.save disk (some home) = .ok left) (hfile : left.IsReadable (pathIn home)) :
    load left (some home) = settings := by
  simp only [save] at hsave
  split at hsave
  · simp at hsave
  · next written hwritten =>
      obtain rfl := Except.ok.inj hsave
      simp [load, Disk.readText?_of_writeText? hwritten hfile, h.ofText_toText]

/-- Saving the settings that were loaded leaves a disk that they are loaded from again. -/
theorem load_of_save_load {disk left : Disk} {home : Option Path}
    (h : (load disk home).save disk home = .ok left)
    (hfile : ∀ folder ∈ home, left.IsReadable (pathIn folder)) :
    load left home = load disk home := by
  cases home with
  | none => rfl
  | some home => exact (isReadable_load disk (some home)).load_of_save h (hfile home rfl)

end Settings

end EditorCore
