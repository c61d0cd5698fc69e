import EditorCore.Proofs.Text.LineBreaks

/-!
# What normalizing keeps

A text is cut into lines at its line breaks, whatever mixture of the three conventions it has;
a carriage return with a line feed behind it is one break. Normalizing puts the same lines
together with breaks of one convention. It can be done by replacing one break after the other
throughout the text: what one round puts in is never half of a break that a later round finds.
-/

namespace EditorCore

namespace Text

/-- A text with a pattern replaced wherever it is next found from the left. -/
def replaceAll (pattern inserted : List Char) : List Char → List Char
  | [] => []
  | c :: cs =>
    if pattern.isPrefixOf (c :: cs) ∧ pattern ≠ [] then
      inserted ++ replaceAll pattern inserted (cs.drop (pattern.length - 1))
    else c :: replaceAll pattern inserted cs
termination_by text => text.length
decreasing_by all_goals simp only [List.length_drop, List.length_cons]; omega

/-- A pattern of one character is replaced in each character by itself. -/
theorem replaceAll_singleton (d : Char) (inserted text : List Char) :
    replaceAll [d] inserted text = text.flatMap fun c => if c = d then inserted else [c] := by
  induction text with
  | nil => rw [replaceAll, List.flatMap_nil]
  | cons c cs ih =>
      rw [replaceAll, List.flatMap_cons]
      by_cases hc : c = d
      · simp [hc, ih]
      · simp [hc, Ne.symm hc, ih]

end Text

namespace LineEnding

variable {ending other : LineEnding} {text line rest : List Char} {lines others : List (List Char)}

/-! ### Lines between breaks -/

/-- A text is lines with line breaks of any convention between them. -/
inductive IsBrokenInto : List Char → List (List Char) → Prop where
  /-- Behind the last break there is one more line. -/
  | last {line : List Char} (hline : Text.hasLineBreak line = false) : IsBrokenInto line [line]
  /-- A line ends at the first break, which is not half of a longer one. -/
  | next {line rest : List Char} {lines : List (List Char)} (ending : LineEnding)
    (hline : Text.hasLineBreak line = false) (hwhole : ¬ Tears ending.chars rest)
    (h : IsBrokenInto rest lines) : IsBrokenInto (line ++ (ending.chars ++ rest)) (line :: lines)

theorem hasLineBreak_cons_eq_false_iff {c : Char} : Text.hasLineBreak (c :: line) = false ↔
    (c ≠ '\n' ∧ c ≠ '\r') ∧ Text.hasLineBreak line = false := by
  simp [Text.hasLineBreak, Text.isLineBreak]

/-- Only a carriage return can be half of a longer break. -/
theorem tears_chars_iff :
    Tears ending.chars rest ↔ ending = .cr ∧ rest.head? = some '\n' := by
  have hhead : (∃ after, rest = '\n' :: after) ↔ rest.head? = some '\n' :=
    List.head?_eq_some_iff.symm
  have hlast : (∃ before, ending.chars = before ++ ['\r']) ↔ ending.chars.getLast? = some '\r' :=
    List.getLast?_eq_some_iff.symm
  have htears : Tears ending.chars rest ↔
      ending.chars.getLast? = some '\r' ∧ rest.head? = some '\n' := by
    rw [← hlast, ← hhead]
    simp [Tears]
  rw [htears]
  cases ending <;> simp [chars]

/-- Every text is lines with breaks between them. -/
theorem exists_isBrokenInto (text : List Char) : ∃ lines, IsBrokenInto text lines := by
  induction text using unify.induct with
  | case1 => exact ⟨[[]], .last rfl⟩
  | case2 cs ih =>
      obtain ⟨lines, h⟩ := ih
      exact ⟨[] :: lines, @IsBrokenInto.next [] cs lines .crlf rfl (by simp [tears_chars_iff]) h⟩
  | case3 cs hfeed ih =>
      obtain ⟨lines, h⟩ := ih
      refine ⟨[] :: lines, @IsBrokenInto.next [] cs lines .cr rfl ?_ h⟩
      rintro htears
      obtain ⟨after, rfl⟩ := List.head?_eq_some_iff.1 (tears_chars_iff.1 htears).2
      exact hfeed after rfl
  | case4 c cs _ hreturn ih =>
      obtain ⟨lines, h⟩ := ih
      by_cases hfeed : c = '\n'
      · subst hfeed
        exact ⟨[] :: lines, @IsBrokenInto.next [] cs lines .lf rfl (by simp [tears_chars_iff]) h⟩
      · have hc : ∀ {line}, Text.hasLineBreak line = false →
            Text.hasLineBreak (c :: line) = false :=
          fun hline => hasLineBreak_cons_eq_false_iff.2 ⟨⟨hfeed, hreturn⟩, hline⟩
        cases h with
        | last hline => exact ⟨[c :: cs], .last (hc hline)⟩
        | @next line rest lines ending hline hwhole h =>
            exact ⟨(c :: line) :: lines,
              @IsBrokenInto.next (c :: line) _ _ ending (hc hline) hwhole h⟩

/-! ### Putting lines together -/

theorem normalize_line (ending : LineEnding) (hline : Text.hasLineBreak line = false)
    (rest : List Char) : ending.normalize (line ++ rest) = line ++ ending.normalize rest := by
  induction line with
  | nil => rfl
  | cons c line ih =>
      obtain ⟨⟨hfeed, hreturn⟩, hline⟩ := hasLineBreak_cons_eq_false_iff.1 hline
      have ih := ih hline
      rw [normalize, normalize] at ih
      rw [List.cons_append, normalize, unify_cons hreturn, List.flatMap_cons, if_neg hfeed, ih]
      rfl

/-- A break that is whole is rewritten by itself. -/
theorem normalize_chars (ending : LineEnding) (hwhole : ¬ Tears other.chars rest) :
    ending.normalize (other.chars ++ rest) = ending.chars ++ ending.normalize rest := by
  have hunify : unify (other.chars ++ rest) = '\n' :: unify rest := by
    cases other with
    | lf => exact unify_cons (by decide) rest
    | crlf => exact unify.eq_2 rest
    | cr =>
        refine unify.eq_3 rest ?_
        rintro cs rfl
        exact hwhole (tears_chars_iff.2 ⟨rfl, rfl⟩)
  rw [normalize, hunify, List.flatMap_cons, if_pos rfl]
  rfl

/-- What is normalized to a convention does not complete one of its breaks. -/
theorem not_tears_normalize (ending : LineEnding) (text : List Char) :
    ¬ Tears ending.chars (ending.normalize text) := by
  rw [tears_chars_iff]
  rintro ⟨rfl, hhead⟩
  exact (usesOnly_normalize .cr text).head?_ne hhead

theorem IsBrokenInto.ne_nil (h : IsBrokenInto text lines) : lines ≠ [] := by
  cases h with
  | last => simp
  | next => simp

/-- Normalizing puts a break of the convention between the lines. -/
theorem IsBrokenInto.normalize_eq (h : IsBrokenInto text lines) (ending : LineEnding) :
    ending.normalize text = ending.chars.intercalate lines := by
  induction h with
  | @last line hline => simpa [normalize, unify] using ending.normalize_line hline []
  | @next line rest lines other hline hwhole h ih =>
      rw [ending.normalize_line hline, normalize_chars ending hwhole, ih,
        List.intercalate_cons_of_ne_nil h.ne_nil, List.append_assoc]

/-- Normalizing leaves the lines as they are. -/
theorem IsBrokenInto.normalize (h : IsBrokenInto text lines) (ending : LineEnding) :
    IsBrokenInto (ending.normalize text) lines := by
  induction h with
  | @last line hline =>
      have hsame : ending.normalize line = line := by
        simpa [LineEnding.normalize, unify] using ending.normalize_line hline []
      rw [hsame]
      exact .last hline
  | @next line rest lines other hline hwhole _ ih =>
      rw [ending.normalize_line hline, normalize_chars ending hwhole]
      exact .next ending hline (ending.not_tears_normalize rest) ih

theorem IsBrokenInto.not_feed (h : IsBrokenInto text lines) : ∀ line ∈ lines, '\n' ∉ line := by
  have hfeed : ∀ {line}, Text.hasLineBreak line = false → '\n' ∉ line := by
    intro line hline hmem
    exact absurd hline (by simpa [Text.hasLineBreak] using ⟨'\n', hmem, rfl⟩)
  induction h with
  | last hline => simpa using hfeed hline
  | next _ hline _ _ ih => exact List.forall_mem_cons.2 ⟨hfeed hline, ih⟩

/-- A text is broken into lines in one way only: by normalizing to line feeds they are found. -/
theorem IsBrokenInto.unique (h : IsBrokenInto text lines) (hothers : IsBrokenInto text others) :
    others = lines := by
  rw [← List.splitOn_intercalate '\n' hothers.not_feed hothers.ne_nil,
    ← List.splitOn_intercalate '\n' h.not_feed h.ne_nil]
  have hsame := (hothers.normalize_eq .lf).symm.trans (h.normalize_eq .lf)
  rw [chars] at hsame
  rw [hsame]

/-! ### Detecting -/

theorem detect_line (hline : Text.hasLineBreak line = false) (rest : List Char) :
    detect (line ++ rest) = detect rest := by
  induction line with
  | nil => rfl
  | cons c line ih =>
      obtain ⟨⟨hfeed, hreturn⟩, hline⟩ := hasLineBreak_cons_eq_false_iff.1 hline
      rw [List.cons_append, detect, ih hline]
      all_goals simp [hfeed, hreturn]

/-- The first break that is whole is detected. -/
theorem detect_chars (hwhole : ¬ Tears ending.chars rest) :
    detect (ending.chars ++ rest) = ending := by
  cases ending with
  | lf | crlf => rfl
  | cr =>
      refine detect.eq_4 rest ?_
      rintro cs rfl
      exact hwhole (tears_chars_iff.2 ⟨rfl, rfl⟩)

/-- A text with a break anywhere is normalized to what is detected. -/
theorem detect_normalize (ending : LineEnding) (hbreak : Text.hasLineBreak text = true) :
    detect (ending.normalize text) = ending := by
  obtain ⟨lines, h⟩ := exists_isBrokenInto text
  cases h with
  | last hline => simp [hline] at hbreak
  | @next line rest lines other hline hwhole h =>
      rw [ending.normalize_line hline, normalize_chars ending hwhole, detect_line hline,
        detect_chars (ending.not_tears_normalize rest)]

/-! ### Rounds of replacing -/

/--
Normalizing in rounds: the pairs are replaced by line feeds, then the carriage returns that are
left, and then all line feeds by the break of the convention.
-/
def normalizeInRounds (ending : LineEnding) (text : List Char) : List Char :=
  let unified := Text.replaceAll ['\r'] ['\n'] (Text.replaceAll ['\r', '\n'] ['\n'] text)
  if ending = .lf then unified else Text.replaceAll ['\n'] ending.chars unified

/-- The first two rounds leave line feeds only. -/
theorem replaceAll_eq_unify (text : List Char) :
    Text.replaceAll ['\r'] ['\n'] (Text.replaceAll ['\r', '\n'] ['\n'] text) = unify text := by
  rw [Text.replaceAll_singleton]
  induction text using unify.induct with
  | case1 => simp [Text.replaceAll, unify]
  | case2 cs ih => simp [Text.replaceAll, unify, ih]
  | case3 cs hfeed ih =>
      have hpair : ['\n'].isPrefixOf cs = false := by
        cases cs with
        | nil => rfl
        | cons c cs =>
            have hc : '\n' ≠ c := by
              rintro rfl
              exact hfeed cs rfl
            simp [List.isPrefixOf, hc]
      simp [Text.replaceAll, hpair, unify, ih]
  | case4 c cs _ hreturn ih =>
      have hne : c ≠ '\r' := hreturn
      simp [Text.replaceAll, hne, Ne.symm hne, unify_cons hne, ih]

/-- Normalizing in rounds makes the same text. -/
theorem normalizeInRounds_eq (ending : LineEnding) (text : List Char) :
    ending.normalizeInRounds text = ending.normalize text := by
  rw [normalizeInRounds, replaceAll_eq_unify, Text.replaceAll_singleton]
  split
  · next hlf =>
      have hsame : ∀ c, (if c = '\n' then lf.chars else [c]) = [c] := by
        intro c
        split
        · next hc => rw [hc, chars]
        · rfl
      simp only [hlf, normalize, hsame, List.flatMap_singleton']
  · rfl

/--
Every text is broken into lines in exactly one way. To normalize it, in one go or in rounds, is
to put a break of the convention between those lines: they are the lines of the result too, what
the text was normalized to before does not matter, and the convention is detected if the text
has a break at all.
-/
theorem normalize_rejoins_lines (text : List Char) : ∃ lines, IsBrokenInto text lines ∧
    (∀ others, IsBrokenInto text others → others = lines) ∧ ∀ ending : LineEnding,
      ending.normalize text = ending.chars.intercalate lines ∧
      ending.normalizeInRounds text = ending.chars.intercalate lines ∧
      IsBrokenInto (ending.normalize text) lines ∧
      (∀ former : LineEnding, ending.normalize (former.normalize text) = ending.normalize text) ∧
      (Text.hasLineBreak text = true → detect (ending.normalize text) = ending) := by
  obtain ⟨lines, h⟩ := exists_isBrokenInto text
  refine ⟨lines, h, fun others => h.unique, ?_⟩
  intro ending
  refine ⟨h.normalize_eq ending, ?_, h.normalize ending, ?_, ending.detect_normalize⟩
  · rw [normalizeInRounds_eq, h.normalize_eq]
  · intro former
    rw [(h.normalize former).normalize_eq, h.normalize_eq]

example : LineEnding.cr.normalize ['a', '\r', '\r', '\n', 'b', '\n', '\r', 'c'] =
    ['a', '\r', '\r', 'b', '\r', '\r', 'c'] := by decide

end LineEnding

end EditorCore
