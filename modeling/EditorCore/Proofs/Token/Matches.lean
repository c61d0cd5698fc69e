import EditorCore.Proofs.Pattern.Preference
import EditorCore.Proofs.Token.Priority
import EditorCore.Token.Rule
import Mathlib.Data.List.Permutation

/-!
# Tokens as matches

The rule for tokens is a pattern of alternatives, and the tokens of a text are what that
pattern matches, one match behind the other. Each alternative of the pattern prefers what the
alternative of the rule takes; only the last one, which the pattern leaves to characters that
are neither blanks nor characters of words, takes any character of the rule, because the others
go first.
-/

namespace EditorCore

variable {t : Tokenizer} {front text rest token : List Char} {c : Char}

/-! ### Classes of characters -/

namespace LetterClass

theorem ranges_spaceSet : spaceSet.ranges = [(9, 13), (0x20, 0x20), (0x85, 0x85), (0xA0, 0xA0),
    (0x1680, 0x1680), (0x2000, 0x200A), (0x2028, 0x2029), (0x202F, 0x202F), (0x205F, 0x205F),
    (0x3000, 0x3000)].toArray := by
  cbv

theorem ranges_asciiWordSet : asciiWordSet.ranges =
    [(0x30, 0x39), (0x41, 0x5A), (0x5F, 0x5F), (0x61, 0x7A)].toArray := by
  cbv

/-- The intervals of what is neither a blank nor a character of words. -/
theorem ranges_complement : (asciiWordSet.union spaceSet).complement.ranges = [(0, 8),
    (0x0E, 0x1F), (0x21, 0x2F), (0x3A, 0x40), (0x5B, 0x5E), (0x60, 0x60), (0x7B, 0x84),
    (0x86, 0x9F), (0xA1, 0x167F), (0x1681, 0x1FFF), (0x200B, 0x2027), (0x202A, 0x202E),
    (0x2030, 0x205E), (0x2060, 0x2FFF), (0x3001, 0x10FFFF)].toArray := by
  cbv

theorem contains_spaceSet (c : Char) : spaceSet.contains c = Text.isBlank c := by
  rw [Bool.eq_iff_iff, CharSet.contains_iff ranges_spaceSet (by decide), Text.isBlank]
  simp only [List.mem_cons, List.not_mem_nil, or_false, exists_eq_or_imp, exists_eq_left,
    Bool.or_eq_true, Bool.and_eq_true, decide_eq_true_eq, beq_iff_eq]
  omega

theorem contains_asciiWordSet (c : Char) : asciiWordSet.contains c = Token.isWordChar c := by
  rw [Bool.eq_iff_iff, CharSet.contains_iff ranges_asciiWordSet (by decide),
    Token.isWordChar_iff, ← Char.toNat_inj]
  simp only [List.mem_cons, List.not_mem_nil, or_false, exists_eq_or_imp, exists_eq_left,
    Char.reduceToNat]
  omega

/-- Every character is a blank, a character of words, or one of the others. -/
theorem contains_complement (hblank : Text.isBlank c = false) (hword : Token.isWordChar c = false) :
    (asciiWordSet.union spaceSet).complement.contains c = true := by
  have hlast : c.toNat ≤ 0x10FFFF := by
    rcases c.valid with hlow | hhigh
    · exact Nat.le_of_lt (Nat.lt_trans hlow (by decide))
    · exact Nat.le_of_lt_succ hhigh.2
  rw [← contains_spaceSet, Bool.eq_false_iff, Ne,
    CharSet.contains_iff ranges_spaceSet (by decide)] at hblank
  rw [← contains_asciiWordSet, Bool.eq_false_iff, Ne,
    CharSet.contains_iff ranges_asciiWordSet (by decide)] at hword
  rw [CharSet.contains_iff ranges_complement (by decide)]
  simp only [List.mem_cons, List.not_mem_nil, or_false, exists_eq_or_imp, exists_eq_left]
    at hblank hword ⊢
  omega

end LetterClass

/-! ### Alternatives -/

namespace Pattern

/-- A set with two intervals or more is neither empty nor a single character. -/
theorem ofSet_eq {chars : CharSet} {first second : Nat × Nat} {others : List (Nat × Nat)}
    (h : chars.ranges = (first :: second :: others).toArray) (asByte : Bool) :
    ofSet chars asByte = .set chars asByte := by
  simp [ofSet, CharSet.isEmpty, CharSet.single?, h]

/-- What is repeated without a bound stays a repetition, if each iteration takes text. -/
theorem ofTimes_eq {body : Pattern} (h : body.isHollow = false) (least : Nat) (greedy : Bool) :
    ofTimes body least none greedy = .times body least none greedy := by
  simp [ofTimes, h]

theorem branchesOf_eq {branches : List Pattern} (h : ∀ branch ∈ branches, ∀ inner,
    branch ≠ .alternation inner) : branchesOf branches = branches := by
  fun_induction branchesOf branches with
  | case1 => rfl
  | case2 inner others => exact absurd rfl (h _ List.mem_cons_self inner)
  | case3 branch others _ ih => rw [ih fun b hb => h b (List.mem_cons_of_mem _ hb)]

theorem singles?_eq_none {branches : List Pattern} {branch : Pattern} (hmem : branch ∈ branches)
    (h : ∀ c, branch ≠ .literal [c]) : singles? branches = none := by
  fun_induction singles? branches with
  | case1 => simp at hmem
  | case2 c others ih =>
      rcases List.mem_cons.1 hmem with rfl | hmem
      · exact absurd rfl (h c)
      · rw [ih hmem, Option.map_none]
  | case3 => rfl

end Pattern

namespace Alternative

variable {alternative : Alternative}

theorem pattern_blanks :
    blanks.pattern = .times (.set LetterClass.spaceSet false) 1 none true := by
  rw [pattern, Pattern.ofSet_eq LetterClass.ranges_spaceSet, Pattern.ofTimes_eq rfl]

theorem pattern_word :
    word.pattern = .times (.set LetterClass.asciiWordSet false) 1 none true := by
  rw [pattern, Pattern.ofSet_eq LetterClass.ranges_asciiWordSet, Pattern.ofTimes_eq rfl]

theorem pattern_lead (marker : CommentLead) :
    (lead marker).pattern = .times (.literal [marker.char]) marker.least none true := by
  rw [pattern, Pattern.ofTimes_eq rfl]

theorem pattern_other : other.pattern =
    .set (LetterClass.asciiWordSet.union LetterClass.spaceSet).complement false := by
  rw [pattern, Pattern.ofSet_eq LetterClass.ranges_complement]

/-- A repetition prefers the run that it takes. -/
theorem head?_ways_run {body : Pattern} {belongs : Char → Bool} (h : body.TakesOne belongs)
    (least : Nat) (front text : List Char) :
    ((Pattern.times body least none true).ways (.between front text)).head? =
      (runOf least belongs text).map fun token =>
        .between (front ++ token) (text.drop token.length) := by
  have hdrop : text.drop (text.takeWhile belongs).length = text.dropWhile belongs := by
    have hleft : (text.takeWhile belongs ++ text.dropWhile belongs).drop
        (text.takeWhile belongs).length = text.dropWhile belongs := List.drop_left
    rwa [List.takeWhile_append_dropWhile] at hleft
  rw [h.head?_ways_times, runOf]
  split
  · rw [Option.map_some, hdrop]
  · rfl

/-- The pattern of an alternative prefers what the alternative takes. -/
theorem head?_ways (halternative : alternative ≠ .other) (front text : List Char) :
    (alternative.pattern.ways (.between front text)).head? =
      (alternative.match? text).map fun token =>
        .between (front ++ token) (text.drop token.length) := by
  cases alternative with
  | star =>
      cases text with
      | nil => rw [pattern, (Pattern.takesOne_literal '*' front).1]; rfl
      | cons c text =>
          rw [pattern, (Pattern.takesOne_literal '*' front).2, match?, List.head?_cons]
          by_cases hc : c = '*' <;> simp [hc]
  | lead marker => rw [pattern_lead, head?_ways_run (Pattern.takesOne_literal _), match?]
  | blanks =>
      rw [pattern_blanks, head?_ways_run (Pattern.takesOne_set _ _),
        funext LetterClass.contains_spaceSet, match?]
  | word =>
      rw [pattern_word, head?_ways_run (Pattern.takesOne_set _ _),
        funext LetterClass.contains_asciiWordSet, match?]
  | other => exact absurd rfl halternative

end Alternative

/-! ### Tokens -/

namespace Tokenizer

/-- The alternatives stay apart, since some of them are repetitions. -/
theorem pattern_eq (t : Tokenizer) : t.pattern =
    .alternation (t.alternatives.map (·.pattern) ++ [.set LetterClass.spaceSet false]) := by
  obtain ⟨branches, hbranches⟩ : ∃ branches, branches =
    t.alternatives.map (·.pattern) ++ [.set LetterClass.spaceSet false] := ⟨_, rfl⟩
  have hplain : ∀ branch ∈ branches, ∀ inner, branch ≠ .alternation inner := by
    rw [hbranches]
    intro branch hmem inner
    rcases List.mem_append.1 hmem with hmem | hmem
    · obtain ⟨alternative, -, rfl⟩ := List.mem_map.1 hmem
      cases alternative with
      | star => simp [Alternative.pattern]
      | lead marker => simp [Alternative.pattern_lead]
      | blanks => simp [Alternative.pattern_blanks]
      | word => simp [Alternative.pattern_word]
      | other => simp [Alternative.pattern_other]
    · simp [List.mem_singleton.1 hmem]
  have hword : Alternative.word.pattern ∈ branches := by
    rw [hbranches]
    exact List.mem_append_left _ (List.mem_map_of_mem (by simp [alternatives]))
  have hsingles := Pattern.singles?_eq_none hword (by simp [Alternative.pattern_word])
  obtain ⟨second, others, hcons⟩ : ∃ second others,
      branches = .literal ['*'] :: second :: others := by
    cases hleads : t.commentLeads <;>
      simp [hbranches, alternatives, hleads, Alternative.pattern]
  have hsets : Pattern.sets? branches = none := by
    rw [hcons]
    rfl
  have hkept : Pattern.ofPlainBranches branches = .alternation branches := by
    rw [hcons] at hplain hsingles hsets ⊢
    simp [Pattern.ofPlainBranches, Pattern.branchesOf_eq hplain, hsingles, hsets]
  have hfront : Pattern.commonFront branches = [] := by
    simp [Pattern.commonFront, hcons, Pattern.parts?]
  rw [pattern, Pattern.ofSet_eq LetterClass.ranges_spaceSet, ← hbranches, Pattern.ofBranches,
    hkept]
  simp [hfront]

/-- The pattern prefers the first of the matches that its branches prefer. -/
theorem head?_ways_pattern (t : Tokenizer) (spot : Spot) :
    (t.pattern.ways spot).head? =
      (t.alternatives.findSome? fun alternative => (alternative.pattern.ways spot).head?).or
        ((Pattern.set LetterClass.spaceSet false).ways spot).head? := by
  rw [pattern_eq, Pattern.ways_alternation, List.head?_flatMap, List.findSome?_append,
    List.findSome?_map, List.findSome?_singleton]
  rfl

/-- The pattern matches nowhere behind a text. -/
theorem not_matchesAt_nil (t : Tokenizer) (front : List Char) : ¬ t.pattern.MatchesAt front [] := by
  rw [Pattern.MatchesAt, not_not, ← List.head?_eq_none_iff, head?_ways_pattern,
    Option.or_eq_none_iff, List.findSome?_eq_none_iff]
  refine ⟨?_, rfl⟩
  intro alternative _
  by_cases hother : alternative = .other
  · rw [hother, Alternative.pattern_other]
    rfl
  · rw [Alternative.head?_ways hother, Option.map_eq_none_iff, Option.eq_none_iff_forall_ne_some]
    intro token hmatch
    obtain ⟨hfront, hne⟩ := Alternative.match?_spec hmatch
    exact hne (List.prefix_nil.1 hfront)

/-- The pattern prefers the token that stands in front of a text. -/
theorem Takes.prefers (h : t.Takes token rest) (front : List Char) :
    t.pattern.Prefers front token rest := by
  obtain ⟨earlier, alternative, later, halternatives, hmatch, hnone⟩ :=
    List.findSome?_eq_some_iff.1 h
  obtain ⟨hearlier, hlast⟩ := earlier_of_alternatives_eq halternatives
  have hpassed : ∀ passed ∈ earlier,
      (passed.pattern.ways (.between front (token ++ rest))).head? = none := by
    intro passed hmem
    have hother : passed ≠ .other := by
      rintro rfl
      exact hearlier hmem
    rw [Alternative.head?_ways hother, hnone passed hmem, Option.map_none]
  have htaken : (alternative.pattern.ways (.between front (token ++ rest))).head? =
      some (.between (front ++ token) rest) := by
    by_cases hother : alternative = .other
    · -- a blank or a character of words would have been taken before
      obtain ⟨hblanks, hword⟩ := hlast hother
      rw [hother] at hmatch ⊢
      obtain ⟨c, hhead, rfl⟩ := Option.map_eq_some_iff.1 hmatch
      have hblank : Text.isBlank c = false := by
        simpa [Alternative.match?, runOf, Nat.pos_iff_ne_zero, List.takeWhile_cons] using
          hnone .blanks hblanks
      have hisWord : Token.isWordChar c = false := by
        simpa [Alternative.match?, runOf, Nat.pos_iff_ne_zero, List.takeWhile_cons] using
          hnone .word hword
      rw [Alternative.pattern_other, List.singleton_append, (Pattern.takesOne_set _ _ front).2,
        if_pos (LetterClass.contains_complement hblank hisWord)]
      rfl
    · rw [Alternative.head?_ways hother, hmatch, Option.map_some, List.drop_left]
  have hfirst : (t.alternatives.findSome? fun alternative =>
      (alternative.pattern.ways (.between front (token ++ rest))).head?) =
        some (.between (front ++ token) rest) :=
    List.findSome?_eq_some_iff.2 ⟨earlier, alternative, later, halternatives, htaken, hpassed⟩
  rw [Pattern.Prefers, head?_ways_pattern, hfirst, Option.some_or]

/-- The pattern matches in front of any text that is not empty. -/
theorem matchesAt (t : Tokenizer) (front : List Char) (h : text ≠ []) :
    t.pattern.MatchesAt front text := by
  obtain ⟨token, rest, rfl, htakes⟩ := t.exists_takes h
  intro hways
  have hprefers := htakes.prefers front
  rw [Pattern.Prefers, hways] at hprefers
  simp at hprefers

/-- What the pattern prefers in front of a text is the token that stands there. -/
theorem takes_of_prefers (h : t.pattern.Prefers front token rest) (hne : token ≠ []) :
    t.Takes token rest := by
  have hfull : token ++ rest ≠ [] := by simp [hne]
  obtain ⟨other, behind, htext, htakes⟩ := t.exists_takes hfull
  have hprefers := htakes.prefers front
  rw [Pattern.Prefers, ← htext, h, Option.some.injEq, Spot.between, Spot.between,
    Spot.mk.injEq] at hprefers
  obtain ⟨-, rfl⟩ := hprefers
  rwa [List.append_cancel_right htext]

/-- Behind anything, the matches of the pattern in a text are its tokens with their offsets. -/
theorem matches_iff_behind {pieces : List (Nat × Token)} :
    t.pattern.Matches front text pieces ↔
      pieces = placed (Text.byteLength front) (t.tokens text) := by
  constructor
  · intro h
    induction h with
    | @done front text hnone =>
        by_cases hnil : text = []
        · rw [hnil, tokens_nil]
          rfl
        · exact absurd (by simpa using t.matchesAt front hnil) (hnone [] text rfl)
    | @next front skipped taken rest others hskip hne htaken _ ih =>
        obtain rfl : skipped = [] := by
          by_contra hskipped
          have hfull : skipped ++ (taken ++ rest) ≠ [] := by simp [hskipped]
          exact hskip [] skipped rfl hskipped (by simpa using t.matchesAt front hfull)
        rw [List.append_nil] at htaken
        have htakes := takes_of_prefers htaken hne
        rw [List.nil_append, htakes.tokens_eq, placed, List.append_nil, ih, List.nil_append,
          Text.byteLength_append]
  · rintro rfl
    induction text using t.tokens_induction generalizing front with
    | nil =>
        rw [tokens_nil]
        refine .done ?_
        intro skipped rest htext
        obtain ⟨rfl, rfl⟩ := List.append_eq_nil_iff.1 htext.symm
        exact t.not_matchesAt_nil _
    | takes token rest htakes ih =>
        have hnext : t.pattern.Matches front ([] ++ (token ++ rest))
            ((Text.byteLength (front ++ []), token) ::
              placed (Text.byteLength (front ++ token)) (t.tokens rest)) := by
          refine .next ?_ htakes.ne_nil ?_ ih
          · intro passed ahead hempty hahead
            exact absurd (List.append_eq_nil_iff.1 hempty.symm).2 hahead
          · rw [List.append_nil]
            exact htakes.prefers front
        rw [htakes.tokens_eq, placed]
        rwa [List.append_nil, List.nil_append, Text.byteLength_append] at hnext

/-- The tokens of a text are the matches of the pattern, one behind the other. -/
theorem matches_iff {pieces : List (Nat × Token)} :
    t.pattern.Matches [] text pieces ↔ pieces = placed 0 (t.tokens text) :=
  matches_iff_behind

end Tokenizer

end EditorCore
