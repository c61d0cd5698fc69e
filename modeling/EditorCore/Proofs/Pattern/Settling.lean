import EditorCore.Proofs.Pattern.Preference
import Mathlib.Algebra.GroupWithZero.Nat
import Mathlib.Data.List.Perm.Subperm
import Mathlib.Logic.Relation

/-!
# Threads at one place

What a machine accepts is said by its steps alone: from a step and a place, a way takes
characters, slides along steps that take none, and ends where a step accepts. At one place a
machine lets its threads slide until each of them stands at a step that takes a character or
accepts, and it keeps one thread for each step. Nothing is lost by that: wherever a thread can
slide to, a thread stands in the end that began no later.
-/

namespace EditorCore

namespace Step

/-- Whether a thread stays at a step: there it takes a character, or it accepts. -/
def halts : Step → Bool
  | .take _ _ => true
  | .accept => true
  | .check _ _ => false
  | .fork _ => false

end Step

namespace Machine

/-! ### What a machine accepts -/

/-- A step leads on to another one without a character. -/
inductive Slides (steps : Array Step) (place : Place) (number : Nat) : Nat → Prop
  | check {condition : Edge} {next : Nat} (hstep : steps[number]? = some (.check condition next))
    (hmeets : place.meets condition = true) : Slides steps place number next
  | fork {ways : List Nat} {way : Nat} (hstep : steps[number]? = some (.fork ways))
    (hway : way ∈ ways) : Slides steps place number way

/-- A way from a step and a spot to one where a step accepts, with its length. -/
inductive Accepts (steps : Array Step) : Nat → Nat → Spot → Spot → Prop
  | accept {number : Nat} {spot : Spot} (hstep : steps[number]? = some .accept) :
    Accepts steps 0 number spot spot
  | take {n number next : Nat} {spot after stop : Spot} {chars : CharSet}
    (hstep : steps[number]? = some (.take chars next)) (htake : spot.take? chars = some after)
    (hrest : Accepts steps n next after stop) : Accepts steps (n + 1) number spot stop
  | slide {n number next : Nat} {spot stop : Spot}
    (hslide : Slides steps spot.place number next) (hrest : Accepts steps n next spot stop) :
    Accepts steps (n + 1) number spot stop

variable {machine : Machine} {steps : Array Step} {place : Place} {mark number next n : Nat}
  {spot stop : Spot} {step : Step} {thread : Thread} {todo : List Thread} {marks : Array Nat}
  {settled : List (Thread × Step)}

/-- Many slides, one behind the other. -/
abbrev SlidesTo (steps : Array Step) (place : Place) : Nat → Nat → Prop :=
  Relation.ReflTransGen (Slides steps place)

theorem not_slides_of_halts (hstep : steps[number]? = some step) (hhalts : step.halts = true) :
    ¬ Slides steps place number next := by
  rintro (⟨hcheck, -⟩ | ⟨hfork, -⟩)
  · rw [hstep, Option.some.injEq] at hcheck
    simp [hcheck, Step.halts] at hhalts
  · rw [hstep, Option.some.injEq] at hfork
    simp [hfork, Step.halts] at hhalts

theorem slides_check_iff {condition : Edge} {other : Nat}
    (hstep : steps[number]? = some (.check condition next)) :
    Slides steps place number other ↔ place.meets condition = true ∧ other = next := by
  constructor
  · rintro (⟨hcheck, hmeets⟩ | ⟨hfork, -⟩)
    · rw [hstep, Option.some.injEq, Step.check.injEq] at hcheck
      obtain ⟨rfl, rfl⟩ := hcheck
      exact ⟨hmeets, rfl⟩
    · simp [hstep] at hfork
  · rintro ⟨hmeets, rfl⟩
    exact .check hstep hmeets

theorem slides_fork_iff {ways : List Nat} (hstep : steps[number]? = some (.fork ways)) :
    Slides steps place number next ↔ next ∈ ways := by
  constructor
  · rintro (⟨hcheck, -⟩ | ⟨hfork, hway⟩)
    · simp [hstep] at hcheck
    · rw [hstep, Option.some.injEq, Step.fork.injEq] at hfork
      rwa [hfork]
  · exact .fork hstep

theorem lt_of_slides (h : Slides steps place number next) : number < steps.size := by
  cases h with
  | check hstep _ => exact (Array.getElem?_eq_some_iff.1 hstep).1
  | fork hstep _ => exact (Array.getElem?_eq_some_iff.1 hstep).1

/-- A way from a step that takes a character takes one. -/
theorem Accepts.of_take {chars : CharSet} (hstep : steps[number]? = some (.take chars next))
    (h : Accepts steps n number spot stop) :
    ∃ m after, m < n ∧ spot.take? chars = some after ∧ Accepts steps m next after stop := by
  cases h with
  | accept haccept => simp [hstep] at haccept
  | @take m _ _ _ after _ _ htake hafter hrest =>
      rw [hstep, Option.some.injEq, Step.take.injEq] at htake
      obtain ⟨rfl, rfl⟩ := htake
      exact ⟨m, after, Nat.lt_succ_self m, hafter, hrest⟩
  | slide hslide _ => exact absurd hslide (not_slides_of_halts hstep rfl)

/-- A way that accepts slides to a step where it halts, and goes on from there. -/
theorem Accepts.exists_halts (h : Accepts steps n number spot stop) :
    ∃ m other step, SlidesTo steps spot.place number other ∧ steps[other]? = some step ∧
      step.halts = true ∧ Accepts steps m other spot stop := by
  induction h with
  | accept hstep => exact ⟨0, _, _, .refl, hstep, rfl, .accept hstep⟩
  | take hstep htake hrest => exact ⟨_, _, _, .refl, hstep, rfl, .take hstep htake hrest⟩
  | slide hslide _ ih =>
      obtain ⟨m, other, step, hslides, hstep, hhalts, haccepts⟩ := ih
      exact ⟨m, other, step, .head hslide hslides, hstep, hhalts, haccepts⟩

/-- What is accepted behind slides is accepted in front of them. -/
theorem Accepts.of_slidesTo {other : Nat} (hslides : SlidesTo steps spot.place number other)
    (h : Accepts steps n other spot stop) : ∃ m, Accepts steps m number spot stop := by
  induction hslides using Relation.ReflTransGen.head_induction_on with
  | refl => exact ⟨n, h⟩
  | head hslide _ ih =>
      obtain ⟨m, haccepts⟩ := ih
      exact ⟨m + 1, .slide hslide haccepts⟩

/-! ### The bound on the work -/

/-- The number of ways that lead on from steps that do not carry the mark of a place. -/
def ahead (mark : Nat) : List Step → List Nat → Nat
  | step :: steps, carried :: marks =>
    (if carried = mark then 0 else step.ways) + ahead mark steps marks
  | _, _ => 0

theorem ahead_set {steps : List Step} {marks : List Nat} (hstep : steps[number]? = some step)
    (hlength : marks.length = steps.length) (hmark : marks[number]? ≠ some mark) :
    ahead mark steps (marks.set number mark) + step.ways = ahead mark steps marks := by
  induction steps generalizing marks number with
  | nil => simp at hstep
  | cons first steps ih =>
      cases marks with
      | nil => simp at hlength
      | cons carried marks =>
          cases number with
          | zero =>
              simp only [List.getElem?_cons_zero, Option.some.injEq, ne_eq] at hstep hmark
              simp [ahead, hstep, hmark]
              omega
          | succ number =>
              have hthere : steps[number]? = some step := by simpa using hstep
              have hcarried : marks[number]? ≠ some mark := by simpa using hmark
              have hrest := ih hthere (Nat.succ.inj hlength) hcarried
              simp only [List.set_cons_succ, ahead]
              omega

theorem ahead_le (mark : Nat) (steps : List Step) (marks : List Nat) :
    ahead mark steps marks ≤ (steps.map Step.ways).sum := by
  induction steps generalizing marks with
  | nil => simp [ahead]
  | cons step steps ih =>
      cases marks with
      | nil => simp [ahead]
      | cons carried marks =>
          have := ih marks
          simp only [ahead, List.map_cons, List.sum_cons]
          split <;> omega

theorem moves_eq (machine : Machine) :
    machine.moves = machine.steps.size + 1 + (machine.steps.toList.map Step.ways).sum := by
  have hfold : ∀ (steps : List Step) (total : Nat),
      steps.foldl (fun total step => total + 1 + step.ways) total =
        total + steps.length + (steps.map Step.ways).sum := by
    intro steps
    induction steps with
    | nil => simp
    | cons step steps ih =>
        intro total
        rw [List.foldl_cons, ih]
        simp only [List.length_cons, List.map_cons, List.sum_cons]
        omega
  rw [moves, ← Array.foldl_toList, hfold, Array.length_toList]
  omega

/-! ### One place -/

/-- Threads stand in the order in which they began. -/
def InOrder (threads : List Thread) : Prop := threads.Pairwise fun a b => a.origin ≤ b.origin

/--
What holds while threads settle at a place. Those that move on behind a level began there;
what was reached carries the mark, and all that it slides to was reached too or waits for it
with a thread that began at the level.
-/
structure IsSettling (machine : Machine) (place : Place) (mark level : Nat) (todo : List Thread)
    (marks : Array Nat) (settled : List (Thread × Step)) : Prop where
  size_eq : marks.size = machine.steps.size
  marks_le : ∀ number carried : Nat, marks[number]? = some carried → carried ≤ mark
  todo_inOrder : InOrder todo
  le_todo : ∀ thread ∈ todo, level ≤ thread.origin
  settled_le : ∀ entry ∈ settled, entry.1.origin ≤ level
  settled_inOrder : InOrder (settled.reverse.map (·.1))
  nodup : (settled.map (·.1.step)).Nodup
  halts : ∀ entry ∈ settled, marks[entry.1.step]? = some mark ∧
    machine.steps[entry.1.step]? = some entry.2 ∧ entry.2.halts = true
  closed : ∀ number next, marks[number]? = some mark → Slides machine.steps place number next →
    next < machine.steps.size →
      marks[next]? = some mark ∨ ∃ thread ∈ todo, thread.step = next ∧ thread.origin = level
  kept : ∀ number step, marks[number]? = some mark → machine.steps[number]? = some step →
    step.halts = true → ∃ entry ∈ settled, entry.1.step = number

namespace IsSettling

variable {level : Nat}

/-- From a step that was reached a halt was reached, or it waits to be. -/
theorem reached_or_waits (h : IsSettling machine place mark level todo marks settled)
    {other : Nat} (hreached : marks[number]? = some mark)
    (hslides : SlidesTo machine.steps place number other) (hother : other < machine.steps.size) :
    marks[other]? = some mark ∨ ∃ thread ∈ todo, thread.origin = level ∧
      SlidesTo machine.steps place thread.step other := by
  induction hslides using Relation.ReflTransGen.head_induction_on with
  | refl => exact .inl hreached
  | @head number next hslide hrest ih =>
      have hnext : next < machine.steps.size := by
        rcases Relation.ReflTransGen.cases_head hrest with rfl | ⟨_, hfurther, -⟩
        · exact hother
        · exact lt_of_slides hfurther
      rcases h.closed _ _ hreached hslide hnext with hmark | ⟨thread, hmem, rfl, horigin⟩
      · exact ih hmark
      · exact .inr ⟨thread, hmem, horigin, hrest⟩

theorem mark_set_iff {other : Nat} : (marks.setIfInBounds number mark)[other]? = some mark ↔
    marks[other]? = some mark ∨ other = number ∧ number < marks.size := by
  rw [Array.getElem?_setIfInBounds]
  by_cases hsame : number = other
  · subst hsame
    by_cases hlt : number < marks.size
    · simp [hlt]
    · simp [hlt]
  · have hother : other ≠ number := Ne.symm hsame
    simp [hsame, hother]

theorem le_of_set (h : ∀ number carried : Nat, marks[number]? = some carried → carried ≤ mark)
    (place : Nat) : ∀ number carried : Nat,
      (marks.setIfInBounds place mark)[number]? = some carried → carried ≤ mark := by
  intro number carried hcarried
  rw [Array.getElem?_setIfInBounds] at hcarried
  split at hcarried
  · split at hcarried
    · exact Nat.le_of_eq (Option.some.inj hcarried).symm
    · simp at hcarried
  · exact h number carried hcarried

/-- The level rises to where the next thread began. -/
theorem raise (h : IsSettling machine place mark level (thread :: todo) marks settled) :
    IsSettling machine place mark thread.origin (thread :: todo) marks settled := by
  have hlevel := h.le_todo thread List.mem_cons_self
  have horder := List.pairwise_cons.1 h.todo_inOrder
  refine { h with le_todo := ?_, settled_le := ?_, closed := ?_ }
  · intro other hmem
    rcases List.mem_cons.1 hmem with rfl | hmem
    · exact Nat.le_refl _
    · exact horder.1 other hmem
  · intro entry hmem
    exact Nat.le_trans (h.settled_le entry hmem) hlevel
  · intro number next hreached hslides hnext
    rcases h.closed number next hreached hslides hnext with hmark | ⟨other, hmem, hstep, horigin⟩
    · exact .inl hmark
    · refine .inr ⟨other, hmem, hstep, ?_⟩
      rcases List.mem_cons.1 hmem with rfl | hmem
      · rfl
      · have := horder.1 other hmem
        omega

/-- A thread at a step that was reached before is dropped, and one that stands at no step. -/
theorem drop (h : IsSettling machine place mark level (thread :: todo) marks settled)
    (hthread : thread.step < machine.steps.size → marks[thread.step]? = some mark) :
    IsSettling machine place mark thread.origin todo marks settled := by
  have h := h.raise
  refine { h with
    todo_inOrder := (List.pairwise_cons.1 h.todo_inOrder).2
    le_todo := fun other hmem => h.le_todo other (List.mem_cons_of_mem _ hmem)
    closed := ?_ }
  intro number next hreached hslides hnext
  rcases h.closed number next hreached hslides hnext with hmark | ⟨other, hmem, rfl, horigin⟩
  · exact .inl hmark
  · rcases List.mem_cons.1 hmem with rfl | hmem
    · exact .inl (hthread hnext)
    · exact .inr ⟨other, hmem, rfl, horigin⟩

/-- A thread that slides on is followed by threads for all steps that it slides to. -/
theorem slide (h : IsSettling machine place mark level (thread :: todo) marks settled)
    (hstep : machine.steps[thread.step]? = some step) (hhalts : step.halts = false)
    {further : List Thread} (horigin : ∀ other ∈ further, other.origin = thread.origin)
    (hfurther : ∀ next, Slides machine.steps place thread.step next →
      ∃ other ∈ further, other.step = next) :
    IsSettling machine place mark thread.origin (further ++ todo)
      (marks.setIfInBounds thread.step mark) settled := by
  have h := h.raise
  have horder := List.pairwise_cons.1 h.todo_inOrder
  refine { h with
    size_eq := by rw [Array.size_setIfInBounds, h.size_eq]
    marks_le := le_of_set h.marks_le _
    todo_inOrder := ?_, le_todo := ?_, halts := ?_, closed := ?_, kept := ?_ }
  · refine List.pairwise_append.2 ⟨?_, horder.2, ?_⟩
    · refine List.pairwise_of_forall_mem_list ?_
      intro a ha b hb
      exact Nat.le_of_eq ((horigin a ha).trans (horigin b hb).symm)
    · intro a ha b hb
      rw [horigin a ha]
      exact horder.1 b hb
  · intro other hmem
    rcases List.mem_append.1 hmem with hmem | hmem
    · exact Nat.le_of_eq (horigin other hmem).symm
    · exact h.le_todo other (List.mem_cons_of_mem _ hmem)
  · intro entry hmem
    obtain ⟨hmark, hrest⟩ := h.halts entry hmem
    exact ⟨mark_set_iff.2 (.inl hmark), hrest⟩
  · intro number next hreached hslides hnext
    rcases mark_set_iff.1 hreached with hreached | ⟨rfl, -⟩
    · rcases h.closed number next hreached hslides hnext with hmark | ⟨other, hmem, rfl, heq⟩
      · exact .inl (mark_set_iff.2 (.inl hmark))
      · rcases List.mem_cons.1 hmem with rfl | hmem
        · exact .inl (mark_set_iff.2 (.inr ⟨rfl, h.size_eq ▸ hnext⟩))
        · exact .inr ⟨other, List.mem_append_right _ hmem, rfl, heq⟩
    · obtain ⟨other, hmem, hother⟩ := hfurther next hslides
      exact .inr ⟨other, List.mem_append_left _ hmem, hother, horigin other hmem⟩
  · intro number other hreached hother hhalt
    rcases mark_set_iff.1 hreached with hreached | ⟨rfl, -⟩
    · exact h.kept number other hreached hother hhalt
    · rw [hstep, Option.some.injEq] at hother
      rw [← hother, hhalts] at hhalt
      exact absurd hhalt (by decide)

/-- A thread settles at a step where it halts. -/
theorem halt (h : IsSettling machine place mark level (thread :: todo) marks settled)
    (hmark : marks[thread.step]? ≠ some mark)
    (hstep : machine.steps[thread.step]? = some step) (hhalts : step.halts = true) :
    IsSettling machine place mark thread.origin todo
      (marks.setIfInBounds thread.step mark) ((thread, step) :: settled) := by
  have h := h.raise
  have horder := List.pairwise_cons.1 h.todo_inOrder
  have hlt : thread.step < marks.size := h.size_eq ▸ (Array.getElem?_eq_some_iff.1 hstep).1
  refine
    { size_eq := by rw [Array.size_setIfInBounds, h.size_eq]
      marks_le := le_of_set h.marks_le _
      todo_inOrder := horder.2
      le_todo := fun other hmem => h.le_todo other (List.mem_cons_of_mem _ hmem)
      settled_le := ?_, settled_inOrder := ?_, nodup := ?_, halts := ?_, closed := ?_, kept := ?_ }
  · intro entry hmem
    rcases List.mem_cons.1 hmem with rfl | hmem
    · exact Nat.le_refl _
    · exact h.settled_le entry hmem
  · rw [List.reverse_cons, List.map_append]
    refine List.pairwise_append.2 ⟨h.settled_inOrder, List.pairwise_singleton _ _, ?_⟩
    intro a ha b hb
    obtain ⟨entry, hmem, rfl⟩ := List.mem_map.1 ha
    obtain rfl : b = thread := by simpa using hb
    exact h.settled_le entry (List.mem_reverse.1 hmem)
  · rw [List.map_cons, List.nodup_cons]
    refine ⟨?_, h.nodup⟩
    intro hmem
    obtain ⟨entry, hentry, heq⟩ := List.mem_map.1 hmem
    exact hmark (heq ▸ (h.halts entry hentry).1)
  · intro entry hmem
    rcases List.mem_cons.1 hmem with rfl | hmem
    · exact ⟨mark_set_iff.2 (.inr ⟨rfl, hlt⟩), hstep, hhalts⟩
    · obtain ⟨hentry, hrest⟩ := h.halts entry hmem
      exact ⟨mark_set_iff.2 (.inl hentry), hrest⟩
  · intro number next hreached hslides hnext
    rcases mark_set_iff.1 hreached with hreached | ⟨rfl, -⟩
    · rcases h.closed number next hreached hslides hnext with hmark | ⟨other, hmem, rfl, heq⟩
      · exact .inl (mark_set_iff.2 (.inl hmark))
      · rcases List.mem_cons.1 hmem with rfl | hmem
        · exact .inl (mark_set_iff.2 (.inr ⟨rfl, hlt⟩))
        · exact .inr ⟨other, hmem, rfl, heq⟩
    · exact absurd hslides (not_slides_of_halts hstep hhalts)
  · intro number other hreached hother hhalt
    rcases mark_set_iff.1 hreached with hreached | ⟨rfl, -⟩
    · obtain ⟨entry, hmem, heq⟩ := h.kept number other hreached hother hhalt
      exact ⟨entry, List.mem_cons_of_mem _ hmem, heq⟩
    · exact ⟨(thread, step), List.mem_cons_self, rfl⟩

/-- A step that is marked is no longer ahead. -/
theorem ahead_mark (h : IsSettling machine place mark level todo marks settled)
    (hmark : marks[number]? ≠ some mark) (hstep : machine.steps[number]? = some step) :
    ahead mark machine.steps.toList (marks.setIfInBounds number mark).toList + step.ways =
      ahead mark machine.steps.toList marks.toList := by
  rw [Array.toList_setIfInBounds]
  exact ahead_set (by simpa using hstep) (by simpa using h.size_eq) (by simpa using hmark)

/-- There is a step for each thread that has settled. -/
theorem length_le (h : IsSettling machine place mark level todo marks settled) :
    settled.length ≤ machine.steps.size := by
  have hsubset : settled.map (·.1.step) ⊆ List.range machine.steps.size := by
    intro number hmem
    obtain ⟨entry, hentry, rfl⟩ := List.mem_map.1 hmem
    exact List.mem_range.2 (Array.getElem?_eq_some_iff.1 (h.halts entry hentry).2.1).1
  simpa using (List.subperm_of_subset h.nodup hsubset).length_le

end IsSettling

/-- What comes of threads that settle, those settled before among it. -/
structure Settles (machine : Machine) (place : Place) (mark : Nat) (todo : List Thread)
    (settled : List (Thread × Step)) (result : List (Thread × Step) × Array Nat) : Prop where
  isSettling : ∃ level, IsSettling machine place mark level [] result.2 result.1
  subset : settled ⊆ result.1
  /-- Wherever a thread can halt, one halts that began no later. -/
  complete : ∀ thread ∈ todo, ∀ other step, SlidesTo machine.steps place thread.step other →
    machine.steps[other]? = some step → step.halts = true →
      ∃ entry ∈ result.1, entry.1.step = other ∧ entry.1.origin ≤ thread.origin
  /-- Wherever a thread halts, one could slide to that began at its place. -/
  sound : ∀ entry ∈ result.1, entry ∈ settled ∨ ∃ thread ∈ todo,
    thread.origin = entry.1.origin ∧ SlidesTo machine.steps place thread.step entry.1.step

namespace Settles

variable {level : Nat} {others : List Thread} {result : List (Thread × Step) × Array Nat}

theorem nil (h : IsSettling machine place mark level [] marks settled) :
    Settles machine place mark [] settled (settled, marks) where
  isSettling := ⟨level, h⟩
  subset := List.Subset.refl _
  complete := by simp
  sound := fun _ hmem => .inl hmem

theorem sound_cons (h : Settles machine place mark todo settled result)
    (hmem : ∀ other ∈ todo, other ∈ others ∨
      other.origin = thread.origin ∧ SlidesTo machine.steps place thread.step other.step) :
    ∀ entry ∈ result.1, entry ∈ settled ∨ ∃ other ∈ thread :: others,
      other.origin = entry.1.origin ∧ SlidesTo machine.steps place other.step entry.1.step := by
  intro entry hentry
  rcases h.sound entry hentry with hsettled | ⟨other, hother, horigin, hslides⟩
  · exact .inl hsettled
  · rcases hmem other hother with hrest | ⟨hsame, hfirst⟩
    · exact .inr ⟨other, List.mem_cons_of_mem _ hrest, horigin, hslides⟩
    · exact .inr ⟨thread, List.mem_cons_self, hsame.symm.trans horigin, hfirst.trans hslides⟩

/-- What comes of the threads behind one that is dropped comes of it too. -/
theorem of_drop (h : IsSettling machine place mark level (thread :: others) marks settled)
    (hthread : thread.step < machine.steps.size → marks[thread.step]? = some mark)
    (hrest : Settles machine place mark others settled result) :
    Settles machine place mark (thread :: others) settled result where
  isSettling := hrest.isSettling
  subset := hrest.subset
  complete := by
    intro candidate hmem other step hslides hstep hhalts
    rcases List.mem_cons.1 hmem with rfl | hmem
    · have h := h.drop hthread
      have hother : other < machine.steps.size := (Array.getElem?_eq_some_iff.1 hstep).1
      have hlt : candidate.step < machine.steps.size := by
        rcases Relation.ReflTransGen.cases_head hslides with rfl | ⟨_, hfirst, -⟩
        · exact hother
        · exact lt_of_slides hfirst
      rcases h.reached_or_waits (hthread hlt) hslides hother with hmark | ⟨next, hnext, heq, hgoes⟩
      · obtain ⟨entry, hentry, hhere⟩ := h.kept other step hmark hstep hhalts
        exact ⟨entry, hrest.subset hentry, hhere, h.settled_le entry hentry⟩
      · rw [← heq]
        exact hrest.complete next hnext other step hgoes hstep hhalts
    · exact hrest.complete candidate hmem other step hslides hstep hhalts
  sound := hrest.sound_cons fun _ hmem => .inl hmem

/-- What comes of the threads that a thread slides on with comes of it. -/
theorem of_slide (hstep : machine.steps[thread.step]? = some step) (hhalts : step.halts = false)
    {further : List Thread} (horigin : ∀ other ∈ further, other.origin = thread.origin)
    (hslides : ∀ next, Slides machine.steps place thread.step next ↔
      ∃ other ∈ further, other.step = next)
    (hrest : Settles machine place mark (further ++ others) settled result) :
    Settles machine place mark (thread :: others) settled result where
  isSettling := hrest.isSettling
  subset := hrest.subset
  complete := by
    intro candidate hmem other last hgoes hlast hhalt
    rcases List.mem_cons.1 hmem with rfl | hmem
    · rcases Relation.ReflTransGen.cases_head hgoes with rfl | ⟨next, hfirst, hgoes⟩
      · rw [hstep, Option.some.injEq] at hlast
        rw [← hlast, hhalts] at hhalt
        exact absurd hhalt (by decide)
      · obtain ⟨follower, hfollower, rfl⟩ := (hslides next).1 hfirst
        rw [← horigin follower hfollower]
        exact hrest.complete follower (List.mem_append_left _ hfollower) other last hgoes hlast
          hhalt
    · exact hrest.complete candidate (List.mem_append_right _ hmem) other last hgoes hlast hhalt
  sound := by
    refine hrest.sound_cons ?_
    intro other hmem
    rcases List.mem_append.1 hmem with hmem | hmem
    · exact .inr ⟨horigin other hmem, .single ((hslides _).2 ⟨other, hmem, rfl⟩)⟩
    · exact .inl hmem

/-- A thread that halts is one of those that come of it. -/
theorem of_halt (hstep : machine.steps[thread.step]? = some step) (hhalts : step.halts = true)
    (hrest : Settles machine place mark others ((thread, step) :: settled) result) :
    Settles machine place mark (thread :: others) settled result where
  isSettling := hrest.isSettling
  subset := fun _ hmem => hrest.subset (List.mem_cons_of_mem _ hmem)
  complete := by
    intro candidate hmem other last hgoes hlast hhalt
    rcases List.mem_cons.1 hmem with rfl | hmem
    · rcases Relation.ReflTransGen.cases_head hgoes with rfl | ⟨next, hfirst, -⟩
      · exact ⟨(candidate, step), hrest.subset List.mem_cons_self, rfl, Nat.le_refl _⟩
      · exact absurd hfirst (not_slides_of_halts hstep hhalts)
    · exact hrest.complete candidate hmem other last hgoes hlast hhalt
  sound := by
    intro entry hentry
    rcases hrest.sound_cons (fun _ hmem => .inl hmem) entry hentry with hsettled | hfound
    · rcases List.mem_cons.1 hsettled with rfl | hsettled
      · exact .inr ⟨thread, List.mem_cons_self, rfl, .refl⟩
      · exact .inl hsettled
    · exact .inr hfound

end Settles

/-- Threads settle: each one is dropped, slides on or halts, and the work has a bound. -/
theorem settles_settle {level fuel : Nat}
    (h : IsSettling machine place mark level todo marks settled)
    (hfuel : todo.length + ahead mark machine.steps.toList marks.toList ≤ fuel) :
    Settles machine place mark todo settled
      (machine.settle place mark fuel todo marks settled) := by
  fun_induction Machine.settle machine place mark fuel todo marks settled generalizing level with
  | case1 todo marks settled =>
      have hnil : todo = [] := List.eq_nil_of_length_eq_zero (by omega)
      subst hnil
      exact .nil h
  | case2 => exact .nil h
  | case3 fuel thread others marks settled hmark ih =>
      rw [List.length_cons] at hfuel
      exact .of_drop h (fun _ => hmark) (ih (h.drop fun _ => hmark) (by omega))
  | case4 fuel thread others marks settled hmark marked hstep =>
      rename_i ih
      have hout : machine.steps.size ≤ thread.step := Array.getElem?_eq_none_iff.1 hstep
      have hsame : marked = marks :=
        Array.setIfInBounds_eq_of_size_le (by rw [h.size_eq]; exact hout)
      have hthread : thread.step < machine.steps.size → marks[thread.step]? = some mark := by
        omega
      rw [List.length_cons] at hfuel
      rw [hsame] at ih ⊢
      exact .of_drop h hthread (ih (h.drop hthread) (by omega))
  | case5 fuel thread others marks settled hmark marked ways hstep further =>
      rename_i ih
      have horigin : ∀ other ∈ further, other.origin = thread.origin := by
        intro other hmem
        obtain ⟨way, -, rfl⟩ := List.mem_map.1 hmem
        rfl
      have hslides : ∀ next, Slides machine.steps place thread.step next ↔
          ∃ other ∈ further, other.step = next := by
        intro next
        rw [slides_fork_iff hstep]
        simp [further]
      have hlength : further.length = (Step.fork ways).ways := List.length_map _
      have hwork : ahead mark machine.steps.toList marked.toList + (Step.fork ways).ways =
          ahead mark machine.steps.toList marks.toList := h.ahead_mark hmark hstep
      rw [List.length_cons] at hfuel
      refine .of_slide hstep rfl horigin hslides
        (ih (h.slide hstep rfl horigin fun next => (hslides next).1) ?_)
      rw [List.length_append]
      omega
  | case6 fuel thread others marks settled hmark marked condition next hstep further =>
      rename_i ih
      have horigin : ∀ other ∈ further, other.origin = thread.origin := by
        intro other hmem
        simp only [further] at hmem
        split at hmem <;> simp_all
      have hslides : ∀ other, Slides machine.steps place thread.step other ↔
          ∃ follower ∈ further, follower.step = other := by
        intro other
        rw [slides_check_iff hstep]
        by_cases hmeets : place.meets condition = true <;> simp [further, hmeets, eq_comm]
      have hlength : further.length ≤ (Step.check condition next).ways := by
        simp only [further, Step.ways]
        split <;> simp
      have hwork : ahead mark machine.steps.toList marked.toList +
          (Step.check condition next).ways =
            ahead mark machine.steps.toList marks.toList := h.ahead_mark hmark hstep
      rw [List.length_cons] at hfuel
      refine .of_slide hstep rfl horigin hslides
        (ih (h.slide hstep rfl horigin fun next => (hslides next).1) ?_)
      rw [List.length_append]
      omega
  | case7 fuel thread others marks settled hmark marked step hfork hcheck hstep =>
      rename_i ih
      have hhalts : step.halts = true := by
        cases step with
        | take => rfl
        | accept => rfl
        | check condition next => exact absurd rfl (hcheck condition next)
        | fork ways => exact absurd rfl (hfork ways)
      have hwork : ahead mark machine.steps.toList marked.toList + step.ways =
          ahead mark machine.steps.toList marks.toList := h.ahead_mark hmark hstep
      rw [List.length_cons] at hfuel
      exact .of_halt hstep hhalts (ih (h.halt hmark hstep hhalts) (by omega))

end Machine

end EditorCore
