import EditorCore.Proofs.Pattern.Running

/-!
# Machines of patterns

The machine of a pattern accepts exactly what the pattern matches. It is built from its end:
what is put in front of a machine leaves the steps there as they are, and from its own start
it leads, by ways that the pattern has, to the start of the machine behind it. Each way of
building keeps this, so it holds of every pattern. A loop is taken through its junction again
and again; each round is shorter than what is left of the way, and the rounds that take no text
change nothing.
-/

namespace EditorCore

namespace Machine

variable {old new steps : Array Step} {rest : Machine} {ways others : Spot → List Spot}
  {entry middle exit first n : Nat} {spot next stop : Spot} {greedy : Bool}

/-! ### Machines in front of machines -/

/-- Some steps are the first of others. -/
structure Extends (old new : Array Step) : Prop where
  size_le : old.size ≤ new.size
  step_eq : ∀ i < old.size, new[i]? = old[i]?

theorem Extends.refl (steps : Array Step) : Extends steps steps :=
  ⟨Nat.le_refl _, fun _ _ => rfl⟩

theorem Extends.trans {last : Array Step} (h : Extends old new) (hlast : Extends new last) :
    Extends old last :=
  ⟨Nat.le_trans h.size_le hlast.size_le, fun i hi =>
    (hlast.step_eq i (Nat.lt_of_lt_of_le hi h.size_le)).trans (h.step_eq i hi)⟩

theorem extends_behind (step : Nat → Step) (machine : Machine) :
    Extends machine.steps (machine.behind step).steps := by
  refine ⟨by simp [behind], ?_⟩
  intro i hi
  simp [behind, Array.getElem?_push, Nat.ne_of_lt hi]

/-- Some steps are those of a machine from a number on. -/
def HasFrom (steps : Array Step) (first : Nat) (built : Array Step) : Prop :=
  ∀ i, first ≤ i → i < built.size → steps[i]? = built[i]?

theorem HasFrom.mono (h : HasFrom steps first new) {later : Nat} (hle : first ≤ later) :
    HasFrom steps later new :=
  fun i hi => h i (Nat.le_trans hle hi)

theorem HasFrom.of_extends (h : HasFrom steps first new) (hextends : Extends old new) :
    HasFrom steps first old := by
  intro i hfirst hi
  rw [h i hfirst (Nat.lt_of_lt_of_le hi hextends.size_le), hextends.step_eq i hi]

/-- The step that is put in front of a machine. -/
theorem HasFrom.getElem?_behind {step : Nat → Step} {machine : Machine}
    (h : HasFrom steps first (machine.behind step).steps) (hfirst : first ≤ machine.steps.size) :
    steps[(machine.behind step).start]? = some (step machine.start) := by
  have hstart : (machine.behind step).start = machine.steps.size := rfl
  rw [hstart, h _ hfirst (by simp [behind])]
  simp [behind]

/--
What is accepted from an entry is what some ways lead to that is accepted from an exit. What is
left at the exit is no longer than the whole.
-/
structure Joins (steps : Array Step) (ways : Spot → List Spot) (entry exit : Nat) : Prop where
  sound : ∀ n spot stop, Accepts steps n entry spot stop →
    ∃ m next, m ≤ n ∧ next ∈ ways spot ∧ Accepts steps m exit next stop
  complete : ∀ n spot next stop, next ∈ ways spot → Accepts steps n exit next stop →
    ∃ m, Accepts steps m entry spot stop

theorem Joins.refl (steps : Array Step) (entry : Nat) :
    Joins steps (fun spot => [spot]) entry entry where
  sound := fun n spot _ h => ⟨n, spot, Nat.le_refl n, List.mem_singleton.2 rfl, h⟩
  complete := by
    intro n spot next stop hnext h
    rw [List.mem_singleton.1 hnext] at h
    exact ⟨n, h⟩

theorem Joins.trans (h : Joins steps ways entry middle) (hrest : Joins steps others middle exit) :
    Joins steps (fun spot => (ways spot).flatMap others) entry exit where
  sound := by
    intro n spot stop haccepts
    obtain ⟨m, between, hm, hbetween, haccepts⟩ := h.sound n spot stop haccepts
    obtain ⟨k, next, hk, hnext, haccepts⟩ := hrest.sound m between stop haccepts
    exact ⟨k, next, Nat.le_trans hk hm, List.mem_flatMap.2 ⟨between, hbetween, hnext⟩, haccepts⟩
  complete := by
    intro n spot next stop hmem haccepts
    obtain ⟨between, hbetween, hnext⟩ := List.mem_flatMap.1 hmem
    obtain ⟨m, haccepts⟩ := hrest.complete n between next stop hnext haccepts
    exact h.complete m spot between stop hbetween haccepts

theorem Joins.congr (h : Joins steps ways entry exit)
    (hsame : ∀ spot next, next ∈ ways spot ↔ next ∈ others spot) :
    Joins steps others entry exit where
  sound := by
    intro n spot stop haccepts
    obtain ⟨m, next, hm, hnext, haccepts⟩ := h.sound n spot stop haccepts
    exact ⟨m, next, hm, (hsame spot next).1 hnext, haccepts⟩
  complete := fun n spot next stop hnext => h.complete n spot next stop ((hsame spot next).2 hnext)

/-! ### Single steps -/

theorem joins_take {chars : CharSet} (hstep : steps[entry]? = some (.take chars exit)) :
    Joins steps (fun spot => (spot.take? chars).toList) entry exit where
  sound := by
    intro n spot stop haccepts
    obtain ⟨m, after, hm, htake, hrest⟩ := haccepts.of_take hstep
    exact ⟨m, after, Nat.le_of_lt hm, by simp [htake], hrest⟩
  complete := fun n spot next stop hnext haccepts =>
    ⟨n + 1, .take hstep (by simpa using hnext) haccepts⟩

/-- A way from a step that takes no character and does not accept slides on first. -/
theorem Accepts.of_slide {step : Step} (hstep : steps[entry]? = some step)
    (hhalts : step.halts = false) (h : Accepts steps n entry spot stop) :
    ∃ m way, m < n ∧ Slides steps spot.place entry way ∧ Accepts steps m way spot stop := by
  cases h with
  | accept haccept =>
      rw [hstep, Option.some.injEq] at haccept
      simp [haccept, Step.halts] at hhalts
  | take htake _ _ =>
      rw [hstep, Option.some.injEq] at htake
      simp [htake, Step.halts] at hhalts
  | slide hslide hrest => exact ⟨_, _, Nat.lt_succ_self _, hslide, hrest⟩

theorem joins_check {condition : Edge} (hstep : steps[entry]? = some (.check condition exit)) :
    Joins steps (fun spot => if spot.place.meets condition then [spot] else []) entry exit where
  sound := by
    intro n spot stop haccepts
    obtain ⟨m, way, hm, hslide, hrest⟩ := haccepts.of_slide hstep rfl
    obtain ⟨hmeets, rfl⟩ := (slides_check_iff hstep).1 hslide
    exact ⟨m, spot, Nat.le_of_lt hm, by simp [hmeets], hrest⟩
  complete := by
    intro n spot next stop hnext haccepts
    split at hnext
    · next hmeets =>
        rw [List.mem_singleton.1 hnext] at haccepts
        exact ⟨n + 1, .slide (.check hstep hmeets) haccepts⟩
    · simp at hnext

theorem slides_choice_iff {place : Place} {inside way : Nat}
    (hstep : steps[entry]? = some (choice greedy inside exit)) :
    Slides steps place entry way ↔ way = inside ∨ way = exit := by
  rw [slides_fork_iff hstep]
  cases greedy <;> simp [or_comm]

/-- A choice between what leads to an exit and the exit itself. -/
theorem joins_choice {inside : Nat} (hstep : steps[entry]? = some (choice greedy inside exit))
    (h : Joins steps ways inside exit) :
    Joins steps (fun spot => Pattern.orStop greedy spot (ways spot)) entry exit := by
  constructor
  · intro n spot stop haccepts
    obtain ⟨m, way, hm, hslide, hrest⟩ := haccepts.of_slide hstep rfl
    rcases (slides_choice_iff hstep).1 hslide with rfl | rfl
    · obtain ⟨k, next, hk, hnext, hrest⟩ := h.sound m spot stop hrest
      exact ⟨k, next, by omega, Pattern.mem_orStop.2 (.inl hnext), hrest⟩
    · exact ⟨m, spot, by omega, Pattern.mem_orStop.2 (.inr rfl), hrest⟩
  · intro n spot next stop hnext haccepts
    rcases Pattern.mem_orStop.1 hnext with hnext | rfl
    · obtain ⟨m, hrest⟩ := h.complete n spot next stop hnext haccepts
      exact ⟨m + 1, .slide ((slides_choice_iff hstep).2 (.inl rfl)) hrest⟩
    · exact ⟨n + 1, .slide ((slides_choice_iff hstep).2 (.inr rfl)) haccepts⟩

/-- What is accepted from any of some entries is what some ways lead to that an exit accepts. -/
structure EachJoins (steps : Array Step) (ways : Spot → List Spot) (entries : List Nat)
    (exit : Nat) : Prop where
  sound : ∀ entry ∈ entries, ∀ n spot stop, Accepts steps n entry spot stop →
    ∃ m next, m ≤ n ∧ next ∈ ways spot ∧ Accepts steps m exit next stop
  complete : ∀ n spot next stop, next ∈ ways spot → Accepts steps n exit next stop →
    ∃ entry ∈ entries, ∃ m, Accepts steps m entry spot stop

variable {entries : List Nat}

theorem EachJoins.nil (steps : Array Step) (exit : Nat) : EachJoins steps (fun _ => []) [] exit :=
  ⟨by simp, by simp⟩

theorem EachJoins.cons (hothers : EachJoins steps others entries exit)
    (h : Joins steps ways entry exit) :
    EachJoins steps (fun spot => ways spot ++ others spot) (entry :: entries) exit where
  sound := by
    intro way hway n spot stop haccepts
    rcases List.mem_cons.1 hway with rfl | hway
    · obtain ⟨m, next, hm, hnext, hrest⟩ := h.sound n spot stop haccepts
      exact ⟨m, next, hm, List.mem_append_left _ hnext, hrest⟩
    · obtain ⟨m, next, hm, hnext, hrest⟩ := hothers.sound way hway n spot stop haccepts
      exact ⟨m, next, hm, List.mem_append_right _ hnext, hrest⟩
  complete := by
    intro n spot next stop hnext haccepts
    rcases List.mem_append.1 hnext with hnext | hnext
    · exact ⟨entry, List.mem_cons_self, h.complete n spot next stop hnext haccepts⟩
    · obtain ⟨way, hway, hrest⟩ := hothers.complete n spot next stop hnext haccepts
      exact ⟨way, List.mem_cons_of_mem entry hway, hrest⟩

theorem EachJoins.joins (h : EachJoins steps ways entries exit)
    (hstep : steps[entry]? = some (.fork entries)) : Joins steps ways entry exit where
  sound := by
    intro n spot stop haccepts
    obtain ⟨m, way, hm, hslide, hrest⟩ := haccepts.of_slide hstep rfl
    obtain ⟨k, next, hk, hnext, hrest⟩ :=
      h.sound way ((slides_fork_iff hstep).1 hslide) m spot stop hrest
    exact ⟨k, next, by omega, hnext, hrest⟩
  complete := by
    intro n spot next stop hnext haccepts
    obtain ⟨way, hway, m, hrest⟩ := h.complete n spot next stop hnext haccepts
    exact ⟨m + 1, .slide (.fork hstep hway) hrest⟩

/-- From the junction of a loop its inside is gone through again and again, until it is left. -/
theorem joins_junction {junction inside : Nat}
    (hstep : steps[junction]? = some (choice greedy inside exit))
    (h : Joins steps ways inside junction) (hadvances : Pattern.Advances ways) :
    Joins steps (fun spot => Pattern.anyNumber greedy ways spot.rest.length spot)
      junction exit := by
  constructor
  · intro n
    induction n using Nat.strongRecOn with
    | ind n ih =>
        intro spot stop haccepts
        obtain ⟨m, way, hm, hslide, hrest⟩ := haccepts.of_slide hstep rfl
        rcases (slides_choice_iff hstep).1 hslide with rfl | rfl
        · -- a round is shorter than the way, so what is left is known
          obtain ⟨k, between, hk, hbetween, hrest⟩ := h.sound m spot stop hrest
          obtain ⟨l, next, hl, hnext, hrest⟩ := ih k (by omega) between stop hrest
          have hleads := Pattern.leadsTo_of_mem_anyNumber hnext
          exact ⟨l, next, by omega,
            (hadvances.mem_anyNumber_iff (Nat.le_refl _)).2 (.head hbetween hleads), hrest⟩
        · exact ⟨m, spot, by omega, Pattern.self_mem_anyNumber, hrest⟩
  · intro n spot next stop hnext haccepts
    have hleads := Pattern.leadsTo_of_mem_anyNumber hnext
    induction hleads using Relation.ReflTransGen.head_induction_on with
    | refl => exact ⟨n + 1, .slide ((slides_choice_iff hstep).2 (.inr rfl)) haccepts⟩
    | head hbetween hleads ih =>
        obtain ⟨m, hrest⟩ := ih ((hadvances.mem_anyNumber_iff (Nat.le_refl _)).2 hleads)
        obtain ⟨k, hrest⟩ := h.complete m _ _ stop hbetween hrest
        exact ⟨k + 1, .slide ((slides_choice_iff hstep).2 (.inl rfl)) hrest⟩

/-! ### Ways of building -/

/--
A way of building machines in front of others: it leaves their steps alone, and leads by some
ways to their starts, whatever becomes of the steps behind.
-/
structure Builds (build : Machine → Machine) (ways : Spot → List Spot) : Prop where
  extends_build : ∀ rest, Extends rest.steps (build rest).steps
  joins : ∀ rest steps, HasFrom steps rest.steps.size (build rest).steps →
    Joins steps ways (build rest).start rest.start

variable {build further : Machine → Machine}

theorem builds_id : Builds (fun rest => rest) (fun spot => [spot]) :=
  ⟨fun rest => Extends.refl rest.steps, fun rest steps _ => Joins.refl steps rest.start⟩

/-- One way of building in front of another. -/
theorem Builds.comp (h : Builds build ways) (hrest : Builds further others) :
    Builds (fun rest => build (further rest)) (fun spot => (ways spot).flatMap others) where
  extends_build := fun rest => (hrest.extends_build rest).trans (h.extends_build (further rest))
  joins := fun rest steps hsteps =>
    (h.joins (further rest) steps (hsteps.mono (hrest.extends_build rest).size_le)).trans
      (hrest.joins rest steps (hsteps.of_extends (h.extends_build (further rest))))

theorem Builds.congr (h : Builds build ways)
    (hsame : ∀ spot next, next ∈ ways spot ↔ next ∈ others spot) : Builds build others :=
  ⟨h.extends_build, fun rest steps hsteps => (h.joins rest steps hsteps).congr hsame⟩

theorem builds_behind {step : Nat → Step}
    (h : ∀ steps : Array Step, ∀ entry exit : Nat, steps[entry]? = some (step exit) →
      Joins steps ways entry exit) : Builds (behind step) ways where
  extends_build := extends_behind step
  joins := fun _ steps hsteps => h steps _ _ (hsteps.getElem?_behind (Nat.le_refl _))

theorem builds_take (chars : CharSet) :
    Builds (behind (.take chars)) fun spot => (spot.take? chars).toList :=
  builds_behind fun _ _ _ => joins_take

theorem builds_literal (text : List Char) :
    Builds (fun rest => text.foldr (fun c => behind (.take (.one c))) rest)
      fun spot => (Pattern.literal text).ways spot := by
  induction text with
  | nil => exact builds_id
  | cons c text ih =>
      simp only [Pattern.ways_literal_cons]
      exact (builds_take (.one c)).comp ih

theorem Builds.exactly (h : Builds build ways) (n : Nat) :
    Builds (n.repeat build) (Pattern.exactly ways n) := by
  induction n with
  | zero => exact builds_id
  | succ n ih => exact h.comp ih

theorem extends_option (exit : Nat) (machine : Machine) :
    Extends (build machine).steps (option greedy build exit machine).steps :=
  extends_behind _ _

theorem HasFrom.joins_option {machine : Machine}
    (h : HasFrom steps first (option greedy build exit machine).steps)
    (hfirst : first ≤ (build machine).steps.size)
    (hinside : Joins steps ways (build machine).start exit) :
    Joins steps (fun spot => Pattern.orStop greedy spot (ways spot))
      (option greedy build exit machine).start exit :=
  joins_choice (HasFrom.getElem?_behind h hfirst) hinside

theorem Builds.atMost (h : Builds build ways) (n : Nat) :
    Builds (fun rest => n.repeat (option greedy build rest.start) rest)
      (Pattern.atMost greedy ways n) := by
  induction n with
  | zero => exact builds_id
  | succ n ih =>
      have hinside := h.comp ih
      constructor
      · exact fun rest => (hinside.extends_build rest).trans (extends_option _ _)
      · intro rest steps hsteps
        exact HasFrom.joins_option hsteps (hinside.extends_build rest).size_le
          (hinside.joins rest steps (hsteps.of_extends (extends_option _ _)))

/-! ### Loops -/

theorem loop_eq (greedy : Bool) (build : Machine → Machine) (rest : Machine) :
    loop greedy build rest =
      let inside := build ⟨rest.steps.push .accept, rest.steps.size⟩
      (⟨inside.steps.setIfInBounds rest.steps.size (choice greedy inside.start rest.start),
        inside.start⟩, rest.steps.size) := rfl

/-- The inside of a loop leads to its junction, and this one out of the loop. -/
structure IsLoop (steps : Array Step) (ways : Spot → List Spot) (greedy : Bool)
    (inside junction exit : Nat) : Prop where
  inside : Joins steps ways inside junction
  junction : Joins steps (fun spot => Pattern.anyNumber greedy ways spot.rest.length spot)
    junction exit

theorem Builds.extends_loop (h : Builds build ways) (rest : Machine) :
    Extends rest.steps (loop greedy build rest).1.steps := by
  have hinside := h.extends_build ⟨rest.steps.push .accept, rest.steps.size⟩
  rw [loop_eq]
  constructor
  · have := hinside.size_le
    simp only [Array.size_push, Array.size_setIfInBounds] at this ⊢
    omega
  · intro i hi
    have hstep := hinside.step_eq i (by simp; omega)
    simp only at hstep ⊢
    rw [Array.getElem?_setIfInBounds_ne (Nat.ne_of_gt hi), hstep, Array.getElem?_push,
      if_neg (Nat.ne_of_lt hi)]

theorem Builds.isLoop (h : Builds build ways) (hadvances : Pattern.Advances ways) (rest : Machine)
    (hsteps : HasFrom steps rest.steps.size (loop greedy build rest).1.steps) :
    IsLoop steps ways greedy (loop greedy build rest).1.start (loop greedy build rest).2
      rest.start := by
  have hinside := h.extends_build ⟨rest.steps.push .accept, rest.steps.size⟩
  have hsize := hinside.size_le
  rw [loop_eq] at hsteps ⊢
  simp only [Array.size_push] at hsize hsteps ⊢
  have hjoins : Joins steps ways (build ⟨rest.steps.push .accept, rest.steps.size⟩).start
      rest.steps.size := by
    refine h.joins ⟨rest.steps.push .accept, rest.steps.size⟩ steps ?_
    -- only the junction is another step in the end, and it is not above itself
    intro i hfirst hi
    simp only [Array.size_push] at hfirst
    rw [hsteps i (by omega) (by simpa using hi)]
    exact Array.getElem?_setIfInBounds_ne (by omega)
  refine ⟨hjoins, joins_junction ?_ hjoins hadvances⟩
  have hlt := Nat.lt_of_succ_le hsize
  rw [hsteps _ (Nat.le_refl _) (by simpa using hlt)]
  exact Array.getElem?_setIfInBounds_self_of_lt hlt

theorem Builds.oneOrMore (h : Builds build ways) (hadvances : Pattern.Advances ways) :
    Builds (oneOrMore greedy build) fun spot =>
      (ways spot).flatMap fun next => Pattern.anyNumber greedy ways next.rest.length next where
  extends_build := h.extends_loop
  joins := fun rest _ hsteps =>
    have hloop := h.isLoop hadvances rest hsteps
    hloop.inside.trans hloop.junction

theorem anyNumber_true (greedy : Bool) (build : Machine → Machine) (rest : Machine) :
    anyNumber greedy true build rest =
      ⟨(loop greedy build rest).1.steps, (loop greedy build rest).2⟩ := rfl

theorem anyNumber_false (greedy : Bool) (build : Machine → Machine) (rest : Machine) :
    anyNumber greedy false build rest =
      (loop greedy build rest).1.behind fun first => choice greedy first rest.start := rfl

theorem Builds.anyNumber (h : Builds build ways) (hadvances : Pattern.Advances ways)
    (takesText : Bool) :
    Builds (anyNumber greedy takesText build) fun spot =>
      Pattern.anyNumber greedy ways spot.rest.length spot := by
  cases takesText with
  | true =>
      constructor
      · intro rest
        rw [anyNumber_true]
        exact h.extends_loop rest
      · intro rest steps hsteps
        rw [anyNumber_true] at hsteps ⊢
        exact (h.isLoop hadvances rest hsteps).junction
  | false =>
      constructor
      · intro rest
        rw [anyNumber_false]
        exact (h.extends_loop rest).trans (extends_behind _ _)
      · intro rest steps hsteps
        rw [anyNumber_false] at hsteps ⊢
        have hloop := h.isLoop hadvances rest (hsteps.of_extends (extends_behind _ _))
        have hjoins := joins_choice (hsteps.getElem?_behind (h.extends_loop rest).size_le)
          (hloop.inside.trans hloop.junction)
        exact hjoins.congr fun _ _ => hadvances.mem_anyNumber_iff_head.symm

theorem Builds.times (h : Builds build ways) (hadvances : Pattern.Advances ways)
    (takesText : Bool) (least : Nat) (most : Option Nat) :
    Builds (times greedy takesText least most build) fun spot =>
      (Pattern.exactly ways least spot).flatMap fun spot =>
        Pattern.more greedy ways (most.map (· - least)) spot := by
  cases most with
  | some most => exact (h.exactly least).comp (h.atMost (most - least))
  | none =>
      cases least with
      | zero =>
          refine (h.anyNumber hadvances takesText).congr fun spot next => ?_
          rw [Pattern.exactly, List.flatMap_singleton]
          rfl
      | succ least =>
          refine ((h.exactly least).comp (h.oneOrMore hadvances)).congr fun spot next => ?_
          rw [Pattern.exactly_succ, List.flatMap_assoc]
          rfl

/-! ### Alternatives -/

/-- A way of building a machine for each of some alternatives, all in front of one machine. -/
structure BuildsEach (build : Machine → List Nat × Array Step) (ways : Spot → List Spot) :
    Prop where
  extends_build : ∀ rest, Extends rest.steps (build rest).2
  joins : ∀ rest steps, HasFrom steps rest.steps.size (build rest).2 →
    EachJoins steps ways (build rest).1 rest.start

theorem buildsEach_nil : BuildsEach (fun rest => ([], rest.steps)) fun _ => [] :=
  ⟨fun rest => Extends.refl rest.steps, fun rest steps _ => EachJoins.nil steps rest.start⟩

theorem Builds.cons {each : Machine → List Nat × Array Step} (h : Builds build ways)
    (hothers : BuildsEach each others) :
    BuildsEach (fun rest =>
        let entries := each ⟨(build rest).steps, rest.start⟩
        ((build rest).start :: entries.1, entries.2))
      fun spot => ways spot ++ others spot where
  extends_build := fun rest =>
    (h.extends_build rest).trans (hothers.extends_build ⟨(build rest).steps, rest.start⟩)
  joins := by
    intro rest steps hsteps
    have hextends := hothers.extends_build ⟨(build rest).steps, rest.start⟩
    exact (hothers.joins ⟨_, rest.start⟩ steps (hsteps.mono (h.extends_build rest).size_le)).cons
      (h.joins rest steps (hsteps.of_extends hextends))

/-- A step that leads on to each of the alternatives. -/
theorem BuildsEach.builds {each : Machine → List Nat × Array Step} (h : BuildsEach each ways) :
    Builds (fun rest => behind (fun _ => .fork (each rest).1) ⟨(each rest).2, rest.start⟩)
      ways where
  extends_build := fun rest => (h.extends_build rest).trans (extends_behind _ ⟨_, rest.start⟩)
  joins := fun rest steps hsteps =>
    (h.joins rest steps (hsteps.of_extends (extends_behind _ ⟨_, rest.start⟩))).joins
      (hsteps.getElem?_behind (h.extends_build rest).size_le)

end Machine

/-! ### The machine of a pattern -/

namespace Pattern

open Machine

mutual

/-- What is put in front of a machine for a pattern leads to it by the ways of the pattern. -/
theorem builds_before :
    (pattern : Pattern) → Builds (fun rest => pattern.before rest) fun spot => pattern.ways spot
  | .empty => builds_id
  | .literal text => builds_literal text
  | .set chars _ => builds_take chars
  | .edge _ => builds_behind fun _ _ _ => joins_check
  | .times body least most _ =>
      (builds_before body).times (advances_ways body) body.takesText least most
  | .capture body => builds_before body
  | .concat parts => builds_allBefore parts
  | .alternation branches => (buildsEach_eachBefore branches).builds

theorem builds_allBefore : (parts : List Pattern) →
    Builds (fun rest => allBefore parts rest) fun spot => waysOfAll parts spot
  | [] => builds_id
  | part :: others => (builds_before part).comp (builds_allBefore others)

theorem buildsEach_eachBefore : (branches : List Pattern) →
    BuildsEach (fun rest => eachBefore branches rest.start rest.steps)
      fun spot => waysOfEach branches spot
  | [] => buildsEach_nil
  | branch :: others => (builds_before branch).cons (buildsEach_eachBefore others)

end

/-- The machine of a pattern accepts exactly what the pattern matches. -/
theorem accepts_machine_iff {pattern : Pattern} {spot stop : Spot} :
    (∃ n, Accepts pattern.machine.steps n pattern.machine.start spot stop) ↔
      stop ∈ pattern.ways spot := by
  have hbuilds := builds_before pattern
  have hjoins := hbuilds.joins done pattern.machine.steps fun _ _ _ => rfl
  have hdone : pattern.machine.steps[done.start]? = some .accept :=
    (hbuilds.extends_build done).step_eq 0 Nat.zero_lt_one
  constructor
  · rintro ⟨n, haccepts⟩
    obtain ⟨m, next, -, hnext, hrest⟩ := hjoins.sound n spot stop haccepts
    cases hrest with
    | accept => exact hnext
    | take hstep => simp [hdone] at hstep
    | slide hslide => exact absurd hslide (not_slides_of_halts hdone rfl)
  · intro hstop
    exact hjoins.complete 0 spot stop stop hstop (.accept hdone)

/-- A match of a pattern in a text: the pattern leads from where it begins to where it ends. -/
structure IsMatch (pattern : Pattern) (text : List Char) (found : Found) : Prop where
  start_le : found.start ≤ found.stop
  stop_le : found.stop ≤ text.length
  leads : Spot.behind text found.stop ∈ pattern.ways (.behind text found.start)

theorem isMatch_machine_iff {pattern : Pattern} {text : List Char} {found : Found} :
    pattern.machine.IsMatch text found ↔ pattern.IsMatch text found :=
  ⟨fun h => ⟨h.start_le, h.stop_le, accepts_machine_iff.1 h.accepts⟩,
    fun h => ⟨h.start_le, h.stop_le, accepts_machine_iff.2 h.leads⟩⟩

/-- What the machine of a pattern finds in a text is the first match of the pattern. -/
theorem findsFirst_find? (pattern : Pattern) (text : List Char) :
    FindsFirst (pattern.IsMatch text) (pattern.machine.find? text) :=
  (Machine.findsFirst_find? pattern.machine text).congr fun _ => isMatch_machine_iff.symm

end Pattern

end EditorCore
