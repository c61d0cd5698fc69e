import EditorCore.Pattern.Match
import EditorCore.Proofs.Text.CharSets
import EditorCore.Text.Bytes
import Mathlib.Logic.Relation

/-!
# What patterns prefer

How patterns match, said without machines. From a place in a text a pattern leads to the
places behind each of its matches, the match that it prefers first: what is greedy goes on
before it stops, what is lazy stops first, and an alternative comes before those behind it.
The preferred match is the first one, and matches follow each other in a text where each of
them is the preferred one at the first place, from the end of the one before on, that has any.
-/

namespace EditorCore

variable {front text rest : List Char} {c : Char}

/--
What is found in a text is a match, and no match begins in front of it; nothing is found only
where there is no match.
-/
structure FindsFirst (IsMatch : Found → Prop) (result : Option Found) : Prop where
  isMatch : ∀ found, result = some found → IsMatch found
  leftmost : ∀ other, IsMatch other → ∃ found, result = some found ∧ found.start ≤ other.start

section FindsFirst

variable {IsMatch other : Found → Prop} {result : Option Found}

theorem FindsFirst.congr (h : FindsFirst IsMatch result)
    (hsame : ∀ found, other found ↔ IsMatch found) : FindsFirst other result := by
  rwa [funext fun found => propext (hsame found)]

theorem FindsFirst.eq_none_iff (h : FindsFirst IsMatch result) :
    result = none ↔ ∀ found, ¬ IsMatch found := by
  constructor
  · rintro rfl found hmatch
    obtain ⟨first, hfirst, -⟩ := h.leftmost found hmatch
    simp at hfirst
  · intro hnone
    rw [Option.eq_none_iff_forall_ne_some]
    exact fun found hfound => hnone found (h.isMatch found hfound)

end FindsFirst

/-- A place that matching has come to. -/
structure Spot where
  /-- The character in front. -/
  before : Option Char
  /-- What is left of the text. -/
  rest : List Char
deriving DecidableEq, Repr

namespace Spot

/-- The place between two parts of a text. -/
def between (front rest : List Char) : Spot := ⟨front.getLast?, rest⟩

/-- The characters on both sides. -/
def place (spot : Spot) : Place := ⟨spot.before, spot.rest.head?⟩

/-- The place behind a character, if it is one of a set. -/
def take? (chars : CharSet) : Spot → Option Spot
  | ⟨_, []⟩ => none
  | ⟨_, c :: rest⟩ => if chars.contains c then some ⟨some c, rest⟩ else none

@[simp] theorem rest_between (front rest : List Char) : (between front rest).rest = rest := rfl

theorem take?_between_nil (chars : CharSet) (front : List Char) :
    take? chars (between front []) = none := rfl

theorem take?_between_cons (chars : CharSet) (front : List Char) (c : Char) (rest : List Char) :
    take? chars (between front (c :: rest)) =
      if chars.contains c then some (between (front ++ [c]) rest) else none := by
  simp [take?, between]

end Spot

/-! ### Ways to match -/

namespace Pattern

/-- Going on or stopping at a place; what is greedy prefers to go on. -/
def orStop (greedy : Bool) (spot : Spot) (further : List Spot) : List Spot :=
  if greedy then further ++ [spot] else spot :: further

/-- The places behind so many iterations. -/
def exactly (body : Spot → List Spot) : Nat → Spot → List Spot
  | 0, spot => [spot]
  | n + 1, spot => (body spot).flatMap (exactly body n)

/-- The places behind at most so many iterations. -/
def atMost (greedy : Bool) (body : Spot → List Spot) : Nat → Spot → List Spot
  | 0, spot => [spot]
  | n + 1, spot => orStop greedy spot ((body spot).flatMap (atMost greedy body n))

/--
The places behind any number of iterations, of which no more than a bound take some text.
One that takes none is the last.
-/
def anyNumber (greedy : Bool) (body : Spot → List Spot) : Nat → Spot → List Spot
  | 0, spot => [spot]
  | bound + 1, spot =>
    orStop greedy spot ((body spot).flatMap fun next =>
      if next.rest.length < spot.rest.length then anyNumber greedy body bound next else [next])

/-- The places behind some more iterations, of which there may be a greatest number. -/
def more (greedy : Bool) (body : Spot → List Spot) : Option Nat → Spot → List Spot
  | some bound, spot => atMost greedy body bound spot
  | none, spot => anyNumber greedy body spot.rest.length spot

mutual

/-- The places behind the matches of a pattern at a place, the preferred one first. -/
def ways : Pattern → Spot → List Spot
  | .empty, spot => [spot]
  | .literal text, spot => (text.foldlM (fun spot c => Spot.take? (.one c) spot) spot).toList
  | .set chars _, spot => (spot.take? chars).toList
  | .edge condition, spot => if spot.place.meets condition then [spot] else []
  | .times body least most greedy, spot =>
    (exactly (fun spot => body.ways spot) least spot).flatMap fun spot =>
      more greedy (fun spot => body.ways spot) (most.map (· - least)) spot
  | .capture body, spot => body.ways spot
  | .concat parts, spot => waysOfAll parts spot
  | .alternation branches, spot => waysOfEach branches spot

/-- The places behind the matches of patterns one behind the other. -/
def waysOfAll : List Pattern → Spot → List Spot
  | [], spot => [spot]
  | part :: others, spot => (part.ways spot).flatMap fun spot => waysOfAll others spot

/-- The places behind the matches of patterns that are tried one after the other. -/
def waysOfEach : List Pattern → Spot → List Spot
  | [], _ => []
  | branch :: others, spot => branch.ways spot ++ waysOfEach others spot

end

theorem waysOfEach_eq_flatMap (branches : List Pattern) (spot : Spot) :
    waysOfEach branches spot = branches.flatMap fun branch => branch.ways spot := by
  induction branches with
  | nil => rfl
  | cons branch others ih => rw [waysOfEach, ih, List.flatMap_cons]

theorem ways_alternation (branches : List Pattern) (spot : Spot) :
    (alternation branches).ways spot = branches.flatMap fun branch => branch.ways spot := by
  rw [ways, waysOfEach_eq_flatMap]

/-! ### Ways lead on -/

variable {body others : Spot → List Spot} {spot next : Spot} {bound : Nat} {greedy : Bool}

@[simp] theorem mem_orStop {further : List Spot} :
    next ∈ orStop greedy spot further ↔ next ∈ further ∨ next = spot := by
  cases greedy <;> simp [orStop, or_comm]

/-- Ways that stay at a place or leave less of the text. -/
def Advances (body : Spot → List Spot) : Prop :=
  ∀ spot, ∀ next ∈ body spot, next = spot ∨ next.rest.length < spot.rest.length

theorem advances_singleton : Advances fun spot => [spot] :=
  fun _ _ hnext => .inl (List.mem_singleton.1 hnext)

theorem advances_take? (chars : CharSet) : Advances fun spot => (spot.take? chars).toList := by
  rintro ⟨before, _ | ⟨c, rest⟩⟩ next hnext
  · simp [Spot.take?] at hnext
  · simp only [Spot.take?, Option.mem_toList] at hnext
    split at hnext
    · obtain rfl := Option.some.inj hnext
      simp
    · simp at hnext

theorem advances_edge (condition : Edge) : Advances fun spot => (edge condition).ways spot := by
  intro spot next hnext
  simp only [ways] at hnext
  split at hnext
  · exact .inl (List.mem_singleton.1 hnext)
  · simp at hnext

theorem Advances.flatMap (h : Advances body) (hothers : Advances others) :
    Advances fun spot => (body spot).flatMap others := by
  intro spot next hmem
  obtain ⟨between, hbetween, hnext⟩ := List.mem_flatMap.1 hmem
  rcases h spot between hbetween with rfl | hless
  · exact hothers between next hnext
  · rcases hothers between next hnext with rfl | hfurther
    · exact .inr hless
    · exact .inr (Nat.lt_trans hfurther hless)

theorem Advances.orStop (h : Advances body) :
    Advances fun spot => orStop greedy spot (body spot) := by
  intro spot next hnext
  rcases mem_orStop.1 hnext with hnext | rfl
  · exact h spot next hnext
  · exact .inl rfl

theorem ways_literal_cons (c : Char) (text : List Char) (spot : Spot) :
    (literal (c :: text)).ways spot =
      (spot.take? (.one c)).toList.flatMap fun spot => (literal text).ways spot := by
  simp only [ways, List.foldlM_cons]
  cases spot.take? (.one c) <;> simp

theorem advances_literal (text : List Char) : Advances fun spot => (literal text).ways spot := by
  induction text with
  | nil => exact advances_singleton
  | cons c text ih =>
      simp only [ways_literal_cons]
      exact (advances_take? (.one c)).flatMap ih

theorem exactly_succ (n : Nat) :
    exactly body (n + 1) spot = (exactly body n spot).flatMap body := by
  induction n generalizing spot with
  | zero => simp [exactly]
  | succ n ih =>
      have hrest : exactly body (n + 1) = fun spot => (exactly body n spot).flatMap body :=
        funext fun _ => ih
      calc (body spot).flatMap (exactly body (n + 1))
          _ = (body spot).flatMap fun spot => (exactly body n spot).flatMap body := by rw [hrest]
          _ = ((body spot).flatMap (exactly body n)).flatMap body := List.flatMap_assoc.symm

theorem Advances.exactly (h : Advances body) (n : Nat) : Advances (exactly body n) := by
  induction n with
  | zero => exact advances_singleton
  | succ n ih => exact h.flatMap ih

theorem Advances.atMost (h : Advances body) (n : Nat) : Advances (atMost greedy body n) := by
  induction n with
  | zero => exact advances_singleton
  | succ n ih => exact (h.flatMap ih).orStop

/-- Ways that go through something again and again. -/
abbrev LeadsTo (body : Spot → List Spot) : Spot → Spot → Prop :=
  Relation.ReflTransGen fun spot next => next ∈ body spot

theorem leadsTo_of_mem_anyNumber (h : next ∈ anyNumber greedy body bound spot) :
    LeadsTo body spot next := by
  induction bound generalizing spot with
  | zero =>
      rw [anyNumber, List.mem_singleton] at h
      rw [h]
  | succ bound ih =>
      rw [anyNumber, mem_orStop, List.mem_flatMap] at h
      rcases h with ⟨between, hbetween, hnext⟩ | rfl
      · split at hnext
        · exact .head hbetween (ih hnext)
        · rw [List.mem_singleton.1 hnext]
          exact .single hbetween
      · exact .refl

theorem self_mem_anyNumber : spot ∈ anyNumber greedy body bound spot := by
  cases bound <;> simp [anyNumber]

/-- A bound on the iterations that take text does not matter if so much text is left. -/
theorem Advances.mem_anyNumber_iff (h : Advances body) (hbound : spot.rest.length ≤ bound) :
    next ∈ anyNumber greedy body bound spot ↔ LeadsTo body spot next := by
  refine ⟨leadsTo_of_mem_anyNumber, fun hleads => ?_⟩
  induction hleads using Relation.ReflTransGen.head_induction_on generalizing bound with
  | refl => exact self_mem_anyNumber
  | @head spot between hbetween _ ih =>
      rcases h spot between hbetween with rfl | hless
      · exact ih hbound
      · cases bound with
        | zero => omega
        | succ bound =>
            rw [anyNumber, mem_orStop, List.mem_flatMap]
            refine .inl ⟨between, hbetween, ?_⟩
            rw [if_pos hless]
            exact ih (by omega)

theorem Advances.mem_anyNumber_iff_head (h : Advances body) :
    next ∈ Pattern.anyNumber greedy body spot.rest.length spot ↔
      next ∈ Pattern.orStop greedy spot
        ((body spot).flatMap fun next => Pattern.anyNumber greedy body next.rest.length next) := by
  have hhead : LeadsTo body spot next ↔ spot = next ∨ ∃ between, between ∈ body spot ∧
      LeadsTo body between next := Relation.ReflTransGen.cases_head_iff
  rw [mem_orStop, List.mem_flatMap, h.mem_anyNumber_iff (Nat.le_refl _), hhead, or_comm, eq_comm]
  simp only [h.mem_anyNumber_iff (Nat.le_refl _)]

theorem Advances.leadsTo (h : Advances body) (hleads : LeadsTo body spot next) :
    next = spot ∨ next.rest.length < spot.rest.length := by
  induction hleads with
  | refl => exact .inl rfl
  | @tail between next _ hnext ih =>
      rcases h between next hnext with rfl | hless
      · exact ih
      · rcases ih with rfl | hfurther
        · exact .inr hless
        · exact .inr (Nat.lt_trans hless hfurther)

theorem Advances.more (h : Advances body) (most : Option Nat) :
    Advances fun spot => more greedy body most spot := by
  cases most with
  | some most => exact h.atMost most
  | none => exact fun spot next hnext => h.leadsTo (leadsTo_of_mem_anyNumber hnext)

mutual

theorem advances_ways : (pattern : Pattern) → Advances fun spot => pattern.ways spot
  | .empty => advances_singleton
  | .literal text => advances_literal text
  | .set chars _ => advances_take? chars
  | .edge condition => advances_edge condition
  | .times body least _ _ =>
      ((advances_ways body).exactly least).flatMap ((advances_ways body).more _)
  | .capture body => advances_ways body
  | .concat parts => advances_waysOfAll parts
  | .alternation branches => advances_waysOfEach branches

theorem advances_waysOfAll : (parts : List Pattern) → Advances fun spot => waysOfAll parts spot
  | [] => advances_singleton
  | part :: others => (advances_ways part).flatMap (advances_waysOfAll others)

theorem advances_waysOfEach :
    (branches : List Pattern) → Advances fun spot => waysOfEach branches spot
  | [] => fun _ _ hnext => absurd hnext List.not_mem_nil
  | branch :: others => fun spot next hnext =>
      (List.mem_append.1 hnext).elim (advances_ways branch spot next)
        (advances_waysOfEach others spot next)

end

/-! ### Matches -/

/-- Whether a pattern matches at the place between two parts of a text. -/
def MatchesAt (pattern : Pattern) (front rest : List Char) : Prop :=
  pattern.ways (.between front rest) ≠ []

/-- The match that a pattern prefers at a place, between the text in front and what follows. -/
def Prefers (pattern : Pattern) (front taken rest : List Char) : Prop :=
  (pattern.ways (.between front (taken ++ rest))).head? = some (.between (front ++ taken) rest)

/--
All matches that follow each other in a text, behind a front that was searched before, each
with its offset; none of them is empty.
-/
inductive Matches (pattern : Pattern) : List Char → List Char → List (Nat × List Char) → Prop
  /-- No match begins at any place that is left. -/
  | done {front text : List Char}
    (hnone : ∀ skipped rest, text = skipped ++ rest → ¬ pattern.MatchesAt (front ++ skipped) rest) :
    Matches pattern front text []
  /-- The first place that has a match is behind the characters that are skipped. -/
  | next {front skipped taken rest : List Char} {others : List (Nat × List Char)}
    (hskip : ∀ passed ahead, skipped = passed ++ ahead → ahead ≠ [] →
      ¬ pattern.MatchesAt (front ++ passed) (ahead ++ (taken ++ rest)))
    (hne : taken ≠ []) (htaken : pattern.Prefers (front ++ skipped) taken rest)
    (hrest : Matches pattern (front ++ (skipped ++ taken)) rest others) :
    Matches pattern front (skipped ++ (taken ++ rest))
      ((Text.byteLength (front ++ skipped), taken) :: others)

/-! ### Runs of one character -/

/-- A pattern that matches one character of a kind, and nothing else. -/
def TakesOne (pattern : Pattern) (belongs : Char → Bool) : Prop :=
  ∀ front, pattern.ways (.between front []) = [] ∧
    ∀ c rest, pattern.ways (.between front (c :: rest)) =
      if belongs c then [.between (front ++ [c]) rest] else []

variable {pattern : Pattern} {belongs : Char → Bool}

theorem takesOne_set (chars : CharSet) (asByte : Bool) :
    (set chars asByte).TakesOne chars.contains := by
  intro front
  refine ⟨rfl, ?_⟩
  intro c rest
  rw [ways, Spot.take?_between_cons]
  split <;> rfl

theorem takesOne_literal (d : Char) : (literal [d]).TakesOne (· == d) := by
  have hstep : ∀ spot, (literal [d]).ways spot = (Spot.take? (.one d) spot).toList := by
    intro spot
    simp [ways, List.foldlM]
  intro front
  refine ⟨by rw [hstep, Spot.take?_between_nil]; rfl, ?_⟩
  intro c rest
  rw [hstep, Spot.take?_between_cons, CharSet.contains_one]
  split <;> rfl

/-- So many iterations take so many characters, if a run is that long. -/
theorem TakesOne.exactly_eq (h : pattern.TakesOne belongs) (n : Nat) (front text : List Char) :
    exactly pattern.ways n (.between front text) =
      if n ≤ (text.takeWhile belongs).length then
        [.between (front ++ text.take n) (text.drop n)]
      else [] := by
  induction n generalizing front text with
  | zero => simp [exactly]
  | succ n ih =>
      rw [exactly]
      cases text with
      | nil => simp [(h front).1]
      | cons c text =>
          rw [(h front).2]
          cases hc : belongs c with
          | false => simp [hc]
          | true => simp [hc, ih]

/-- The preferred number of iterations is all of a run. -/
theorem TakesOne.head?_anyNumber (h : pattern.TakesOne belongs) (front text : List Char) :
    (anyNumber true pattern.ways text.length (.between front text)).head? =
      some (.between (front ++ text.takeWhile belongs) (text.dropWhile belongs)) := by
  induction text generalizing front with
  | nil => simp [anyNumber]
  | cons c text ih =>
      rw [List.length_cons, anyNumber, (h front).2]
      cases hc : belongs c with
      | false => simp [hc, orStop]
      | true =>
          simp [hc, orStop, List.head?_append, ih]

/-- A run is what is left of it behind some of its characters, and these. -/
theorem takeWhile_drop {n : Nat} (h : n ≤ (text.takeWhile belongs).length) :
    text.take n ++ (text.drop n).takeWhile belongs = text.takeWhile belongs ∧
      (text.drop n).dropWhile belongs = text.dropWhile belongs := by
  induction n generalizing text with
  | zero => simp
  | succ n ih =>
      cases text with
      | nil => simp
      | cons c text =>
          cases hc : belongs c with
          | false => simp [hc] at h
          | true =>
              have hlength : n ≤ (text.takeWhile belongs).length := by simpa [hc] using h
              simpa [hc] using ih hlength

/-- What is repeated greedily, at least so many times, prefers to take a whole run. -/
theorem TakesOne.head?_ways_times (h : pattern.TakesOne belongs) (least : Nat)
    (front text : List Char) :
    ((times pattern least none true).ways (.between front text)).head? =
      if least ≤ (text.takeWhile belongs).length then
        some (.between (front ++ text.takeWhile belongs) (text.dropWhile belongs))
      else none := by
  have hbody : (fun spot => pattern.ways spot) = pattern.ways := rfl
  rw [ways, hbody, h.exactly_eq]
  split
  · next hleast =>
      obtain ⟨htake, hdrop⟩ := takeWhile_drop hleast
      rw [List.flatMap_singleton, Option.map_none, more, Spot.rest_between, h.head?_anyNumber,
        List.append_assoc, htake, hdrop]
  · rfl

end Pattern

end EditorCore
