import EditorCore.Text.CharSet

/-!
# Members of character sets

A set of characters is asked by halving its intervals. Where these are in increasing order
and apart from each other, a character is found exactly if it lies in one of them.
-/

namespace EditorCore.CharSet

variable {s : CharSet} {n : Nat}

/-- Intervals in increasing order, none of which meets another one. -/
def IsApart (s : CharSet) : Prop := s.ranges.toList.Pairwise fun a b => a.1 ≤ b.1 ∧ a.2 < b.1

theorem IsApart.lt (h : s.IsApart) {i j : Nat} (hij : i < j) (hj : j < s.ranges.size) :
    s.ranges[i].1 ≤ s.ranges[j].1 ∧ s.ranges[i].2 < s.ranges[j].1 := by
  have hpair := List.pairwise_iff_getElem.1 h i j (by simpa using Nat.lt_trans hij hj)
    (by simpa using hj) hij
  simpa using hpair

open Text.Table in
/-- What a search between two indexes finds is the end of an interval that it has looked at. -/
theorem exists_of_searchLast {low high last : Nat} (hhigh : high ≤ s.ranges.size)
    (h : searchLast s.ranges n low high = some last) :
    ∃ i first, low ≤ i ∧ i < high ∧ s.ranges[i]? = some (first, last) ∧ first ≤ n := by
  fun_induction searchLast s.ranges n low high with
  | case1 => simp at h
  | case2 low high hlt middle start value hmiddle hstart ih =>
      have hbound : middle = (low + high) / 2 := rfl
      rw [Option.or_eq_some_iff] at h
      rcases h with hfound | ⟨-, hvalue⟩
      · obtain ⟨i, first, hi, hlast, hentry⟩ := ih hhigh hfound
        exact ⟨i, first, by omega, hlast, hentry⟩
      · obtain rfl := Option.some.inj hvalue
        exact ⟨middle, start, by omega, by omega, hmiddle, hstart⟩
  | case3 low high hlt middle start value hmiddle hstart ih =>
      have hbound : middle = (low + high) / 2 := rfl
      obtain ⟨i, first, hi, hlast, hentry⟩ := ih (by omega) h
      exact ⟨i, first, hi, by omega, hentry⟩
  | case4 => simp at h

open Text.Table in
/-- Among intervals that are apart, the one with a code point is found. -/
theorem searchLast_eq_some (hapart : s.IsApart) {low high first last i : Nat}
    (hhigh : high ≤ s.ranges.size) (hlow : low ≤ i) (hi : i < high)
    (hentry : s.ranges[i]? = some (first, last)) (hfirst : first ≤ n) (hlast : n ≤ last) :
    searchLast s.ranges n low high = some last := by
  obtain ⟨hsize, hi'⟩ := Array.getElem?_eq_some_iff.1 hentry
  fun_induction searchLast s.ranges n low high with
  | case1 low high hlt middle hmiddle =>
      have hbound : middle = (low + high) / 2 := rfl
      rw [Array.getElem?_eq_none_iff] at hmiddle
      omega
  | case2 low high hlt middle start value hmiddle hstart ih =>
      obtain ⟨hsize', hmiddle'⟩ := Array.getElem?_eq_some_iff.1 hmiddle
      rw [Option.or_eq_some_iff]
      rcases Nat.lt_or_ge middle i with hbehind | hle
      · exact .inl (ih hhigh hbehind hi)
      · -- an interval in front of the one in the middle would end there already
        have hsame : middle = i := by
          rcases Nat.eq_or_lt_of_le hle with hsame | hbefore
          · exact hsame.symm
          · have hgap := hapart.lt hbefore hsize'
            simp only [hi', hmiddle'] at hgap
            omega
        rw [hsame, hentry] at hmiddle
        obtain ⟨rfl, rfl⟩ := Prod.mk.inj (Option.some.inj hmiddle)
        refine .inr ⟨?_, rfl⟩
        rw [Option.eq_none_iff_forall_ne_some]
        intro other hrest
        obtain ⟨j, start, hj, -, hentry', hstart'⟩ := exists_of_searchLast hhigh hrest
        obtain ⟨hsize', hj'⟩ := Array.getElem?_eq_some_iff.1 hentry'
        have hgap := hapart.lt (i := i) (j := j) (by omega) hsize'
        simp only [hi', hj'] at hgap
        omega
  | case3 low high hlt middle start value hmiddle hstart ih =>
      have hbound : middle = (low + high) / 2 := rfl
      obtain ⟨hsize', hmiddle'⟩ := Array.getElem?_eq_some_iff.1 hmiddle
      refine ih (by omega) hlow ?_
      rcases Nat.lt_trichotomy i middle with hbefore | rfl | hbehind
      · exact hbefore
      · simp only [hmiddle', Prod.mk.injEq] at hi'
        omega
      · have hgap := hapart.lt hbehind hsize
        simp only [hi', hmiddle'] at hgap
        omega
  | case4 => omega

/-- A set has a code point exactly if one of its intervals has it. -/
theorem hasCode_iff (hapart : s.IsApart) :
    s.hasCode n = true ↔ ∃ interval ∈ s.ranges.toList, interval.1 ≤ n ∧ n ≤ interval.2 := by
  rw [hasCode, Text.Table.lastAtMost?, Option.any_eq_true]
  constructor
  · rintro ⟨last, hfound, hlast⟩
    obtain ⟨i, first, -, -, hentry, hfirst⟩ := exists_of_searchLast (Nat.le_refl _) hfound
    exact ⟨(first, last), by simpa using Array.mem_of_getElem? hentry, hfirst, by simpa using hlast⟩
  · rintro ⟨⟨first, last⟩, hmem, hfirst, hlast⟩
    obtain ⟨i, hi, hentry⟩ := Array.mem_iff_getElem.1 (Array.mem_toList_iff.1 hmem)
    refine ⟨last, ?_, by simpa using hlast⟩
    exact searchLast_eq_some hapart (Nat.le_refl _) (Nat.zero_le i) hi
      (Array.getElem?_eq_some_iff.2 ⟨hi, hentry⟩) hfirst hlast

/-- A set that is known by its intervals has the characters that lie in one of them. -/
theorem contains_iff {ranges : List (Nat × Nat)} {c : Char} (hranges : s.ranges = ranges.toArray)
    (hapart : ranges.Pairwise fun a b => a.1 ≤ b.1 ∧ a.2 < b.1) :
    s.contains c = true ↔ ∃ interval ∈ ranges, interval.1 ≤ c.toNat ∧ c.toNat ≤ interval.2 := by
  rw [contains, hasCode_iff (by rw [IsApart, hranges]; exact hapart), hranges]

@[simp] theorem contains_one {c d : Char} : (one c).contains d = (d == c) := by
  rw [Bool.eq_iff_iff, contains, hasCode_iff (by simp [IsApart, one, range])]
  simp only [one, range, List.mem_singleton, exists_eq_left, beq_iff_eq]
  constructor
  · rintro ⟨hge, hle⟩
    exact Char.toNat_inj.1 (by omega)
  · rintro rfl
    exact ⟨Nat.le_refl _, Nat.le_refl _⟩

end EditorCore.CharSet
