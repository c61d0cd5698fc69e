import EditorCore.Proofs.Pattern.Settling

/-!
# Machines find the first match

A machine runs over a text with all its threads at once. What it finds is a match of the
machine, a way from its start at one place to where a step accepts at another, and no match
begins further to the front; where it finds nothing there is none. The invariant at a place:
for each match that begins in front of it, a match that begins no later was found already or
can still be completed by a thread.
-/

namespace EditorCore

/-- The place behind so many characters of a text. -/
def Spot.behind (text : List Char) (n : Nat) : Spot := .between (text.take n) (text.drop n)

namespace Machine

variable {machine : Machine} {steps : Array Step} {text : List Char} {number next n position : Nat}
  {spot stop : Spot} {thread : Thread} {threads : List Thread} {marks : Array Nat}
  {found : Option Found} {c : Char}

/-- A match of a machine: from its start a way leads to where a step accepts. -/
structure IsMatch (machine : Machine) (text : List Char) (found : Found) : Prop where
  start_le : found.start ≤ found.stop
  stop_le : found.stop ≤ text.length
  accepts : ∃ n, Accepts machine.steps n machine.start (.behind text found.start)
    (.behind text found.stop)

/-! ### Places in a text -/

theorem take?_behind {chars : CharSet} {after : Spot} (h : text[position]? = some c) :
    (Spot.behind text position).take? chars = some after ↔
      chars.contains c = true ∧ after = .behind text (position + 1) := by
  obtain ⟨hlt, rfl⟩ := List.getElem?_eq_some_iff.1 h
  have hspot : Spot.behind text position =
      .between (text.take position) (text[position] :: text.drop (position + 1)) := by
    rw [Spot.behind, List.drop_eq_getElem_cons hlt]
  rw [hspot, Spot.take?_between_cons, Spot.behind, List.take_succ_eq_append_getElem hlt,
    Option.ite_none_right_eq_some, Option.some.injEq, eq_comm (b := after)]

theorem take?_behind_length {chars : CharSet} {after : Spot} :
    (Spot.behind text text.length).take? chars ≠ some after := by
  simp [Spot.behind, Spot.take?_between_nil]

/-! ### Cutting behind the first thread that accepts -/

theorem cut_cases (entries : List (Thread × Step)) :
    (∀ entry ∈ (cut entries).1, entry.2 ≠ .accept) ∧
      ((∃ thread back, entries = (cut entries).1 ++ (thread, .accept) :: back ∧
        (cut entries).2 = some thread) ∨ entries = (cut entries).1 ∧ (cut entries).2 = none) := by
  fun_induction cut entries with
  | case1 => simp
  | case2 thread back => exact ⟨by simp, .inl ⟨thread, back, rfl, rfl⟩⟩
  | case3 entry rest hentry front accepted hcut ih =>
      rw [hcut] at ih
      obtain ⟨hfront, hcases⟩ := ih
      refine ⟨?_, ?_⟩
      · intro other hmem
        rcases List.mem_cons.1 hmem with rfl | hmem
        · intro haccept
          exact hentry other.1 (by rw [← haccept])
        · exact hfront other hmem
      · rcases hcases with ⟨thread, back, hrest, haccepted⟩ | ⟨hrest, haccepted⟩
        · exact .inl ⟨thread, back, by rw [List.cons_append, ← hrest], haccepted⟩
        · exact .inr ⟨congrArg (entry :: ·) hrest, haccepted⟩

/-! ### Arriving at a place -/

/--
What holds of a machine that runs over a text and comes to a place, before its threads have
moved on there.
-/
structure IsRunning (machine : Machine) (text : List Char) (position : Nat)
    (threads : List Thread) (marks : Array Nat) (found : Option Found) : Prop where
  size_eq : marks.size = machine.steps.size
  marks_le : ∀ number carried : Nat, marks[number]? = some carried → carried ≤ position
  few : threads.length ≤ machine.steps.size
  inOrder : InOrder threads
  origin_lt : ∀ thread ∈ threads, thread.origin < position
  /-- What a thread can complete is a match. -/
  sound : ∀ thread ∈ threads, ∀ n stop,
    Accepts machine.steps n thread.step (.behind text position) stop →
      ∃ m, Accepts machine.steps m machine.start (.behind text thread.origin) stop
  isMatch : ∀ first, found = some first → IsMatch machine text first ∧ first.start < position
  origin_le : ∀ first, found = some first → ∀ thread ∈ threads, thread.origin ≤ first.start
  /-- A match that begins no later was found, or a thread can complete one. -/
  leftmost : ∀ other, IsMatch machine text other → other.start < position →
    (∃ first, found = some first ∧ first.start ≤ other.start) ∨
      ∃ thread ∈ threads, thread.origin ≤ other.start ∧
        ∃ n stop, Accepts machine.steps n thread.step (.behind text position) stop

/-- What holds at the place once the threads have moved on there, each of them with its step. -/
structure HasArrived (machine : Machine) (text : List Char) (position : Nat)
    (entries : List (Thread × Step)) (marks : Array Nat) (found : Option Found) : Prop where
  size_eq : marks.size = machine.steps.size
  marks_le : ∀ number carried : Nat, marks[number]? = some carried → carried ≤ position + 1
  few : entries.length ≤ machine.steps.size
  inOrder : InOrder (entries.map (·.1))
  origin_le : ∀ entry ∈ entries, entry.1.origin ≤ position
  halts : ∀ entry ∈ entries, machine.steps[entry.1.step]? = some entry.2 ∧ entry.2.halts = true
  sound : ∀ entry ∈ entries, ∀ n stop,
    Accepts machine.steps n entry.1.step (.behind text position) stop →
      ∃ m, Accepts machine.steps m machine.start (.behind text entry.1.origin) stop
  isMatch : ∀ first, found = some first → IsMatch machine text first ∧ first.start ≤ position
  le_found : ∀ first, found = some first → ∀ entry ∈ entries, entry.1.origin ≤ first.start
  leftmost : ∀ other, IsMatch machine text other → other.start ≤ position →
    (∃ first, found = some first ∧ first.start ≤ other.start) ∨
      ∃ entry ∈ entries, entry.1.origin ≤ other.start ∧
        ∃ n stop, Accepts machine.steps n entry.1.step (.behind text position) stop

/-- The threads that come to a place, a new one among them until a match is found. -/
def arrivals (machine : Machine) (position : Nat) (threads : List Thread) (found : Option Found) :
    List Thread :=
  threads ++ if found.isSome then [] else [⟨machine.start, position⟩]

theorem mem_arrivals_iff : thread ∈ arrivals machine position threads found ↔
    thread ∈ threads ∨ found = none ∧ thread = ⟨machine.start, position⟩ := by
  rw [arrivals, List.mem_append]
  cases found <;> simp

namespace IsRunning

variable {place : Place}

theorem isSettling (h : IsRunning machine text position threads marks found) (place : Place) :
    IsSettling machine place (position + 1) 0 (arrivals machine position threads found) marks
      [] := by
  have hfresh : ∀ number : Nat, ¬ marks[number]? = some (position + 1) := by
    intro number hmark
    have := h.marks_le number _ hmark
    omega
  refine
    { size_eq := h.size_eq
      marks_le := fun number carried hcarried =>
        Nat.le_succ_of_le (h.marks_le number carried hcarried)
      todo_inOrder := ?_
      le_todo := fun _ _ => Nat.zero_le _
      settled_le := by simp
      settled_inOrder := List.Pairwise.nil
      nodup := List.nodup_nil
      halts := by simp
      closed := fun number _ hmark => absurd hmark (hfresh number)
      kept := fun number _ hmark => absurd hmark (hfresh number) }
  refine List.pairwise_append.2 ⟨h.inOrder, by split <;> simp, ?_⟩
  intro a ha b hb
  have horigin : b.origin = position := by
    split at hb
    · simp at hb
    · rw [List.mem_singleton.1 hb]
  have := h.origin_lt a ha
  omega

/-- The work of a machine at a place is enough for all its threads there. -/
theorem settles (h : IsRunning machine text position threads marks found) (place : Place) :
    Settles machine place (position + 1) (arrivals machine position threads found) []
      (machine.settle place (position + 1) machine.moves (arrivals machine position threads found)
        marks []) := by
  refine settles_settle (h.isSettling place) ?_
  have hahead := ahead_le (position + 1) machine.steps.toList marks.toList
  have hfew := h.few
  have hnew : (arrivals machine position threads found).length ≤ threads.length + 1 := by
    rw [arrivals, List.length_append]
    split <;> simp
  rw [moves_eq]
  omega

theorem arrivals_sound (h : IsRunning machine text position threads marks found)
    (hmem : thread ∈ arrivals machine position threads found) :
    thread.origin ≤ position ∧ ∀ n stop,
      Accepts machine.steps n thread.step (.behind text position) stop →
        ∃ m, Accepts machine.steps m machine.start (.behind text thread.origin) stop := by
  rcases mem_arrivals_iff.1 hmem with hmem | ⟨-, rfl⟩
  · exact ⟨Nat.le_of_lt (h.origin_lt thread hmem), h.sound thread hmem⟩
  · exact ⟨Nat.le_refl _, fun n _ haccepts => ⟨n, haccepts⟩⟩

theorem arrivals_leftmost (h : IsRunning machine text position threads marks found)
    {other : Found} (hother : IsMatch machine text other) (hstart : other.start ≤ position) :
    (∃ first, found = some first ∧ first.start ≤ other.start) ∨
      ∃ thread ∈ arrivals machine position threads found, thread.origin ≤ other.start ∧
        ∃ n stop, Accepts machine.steps n thread.step (.behind text position) stop := by
  rcases Nat.eq_or_lt_of_le hstart with rfl | hlt
  · cases hfound : found with
    | some first => exact .inl ⟨first, rfl, Nat.le_of_lt (h.isMatch first hfound).2⟩
    | none =>
        obtain ⟨n, haccepts⟩ := hother.accepts
        exact .inr ⟨⟨machine.start, other.start⟩, mem_arrivals_iff.2 (.inr ⟨rfl, rfl⟩),
          Nat.le_refl _, n, _, haccepts⟩
  · rcases h.leftmost other hother hlt with hfound | ⟨thread, hmem, hrest⟩
    · exact .inl hfound
    · exact .inr ⟨thread, mem_arrivals_iff.2 (.inl hmem), hrest⟩

/-- What a thread that has moved on can complete is a match that begins where it began. -/
theorem entry_sound (h : IsRunning machine text position threads marks found)
    {result : List (Thread × Step) × Array Nat}
    (hsettles : Settles machine (Spot.behind text position).place (position + 1)
      (arrivals machine position threads found) [] result)
    {entry : Thread × Step} (hmem : entry ∈ result.1) :
    entry.1.origin ≤ position ∧ (∀ n stop,
      Accepts machine.steps n entry.1.step (.behind text position) stop →
        ∃ m, Accepts machine.steps m machine.start (.behind text entry.1.origin) stop) ∧
      ∀ first, found = some first → entry.1.origin ≤ first.start := by
  rcases hsettles.sound entry hmem with hnil | ⟨thread, hthread, horigin, hslides⟩
  · simp at hnil
  · obtain ⟨hle, hsound⟩ := h.arrivals_sound hthread
    rw [← horigin]
    refine ⟨hle, ?_, ?_⟩
    · intro n stop haccepts
      obtain ⟨m, haccepts⟩ := haccepts.of_slidesTo hslides
      exact hsound m stop haccepts
    · intro first hfirst
      rcases mem_arrivals_iff.1 hthread with hold | ⟨hnone, -⟩
      · exact h.origin_le first hfirst thread hold
      · rw [hnone] at hfirst
        simp at hfirst

/-- The threads move on at a place that the machine comes to. -/
theorem hasArrived (h : IsRunning machine text position threads marks found)
    {result : List (Thread × Step) × Array Nat}
    (hsettles : Settles machine (Spot.behind text position).place (position + 1)
      (arrivals machine position threads found) [] result) :
    HasArrived machine text position result.1.reverse result.2 found := by
  obtain ⟨level, hsettling⟩ := hsettles.isSettling
  refine
    { size_eq := hsettling.size_eq
      marks_le := hsettling.marks_le
      few := by rw [List.length_reverse]; exact hsettling.length_le
      inOrder := hsettling.settled_inOrder
      origin_le := fun entry hmem => (h.entry_sound hsettles (List.mem_reverse.1 hmem)).1
      halts := fun entry hmem => (hsettling.halts entry (List.mem_reverse.1 hmem)).2
      sound := fun entry hmem => (h.entry_sound hsettles (List.mem_reverse.1 hmem)).2.1
      isMatch := fun first hfirst =>
        ⟨(h.isMatch first hfirst).1, Nat.le_of_lt (h.isMatch first hfirst).2⟩
      le_found := fun first hfirst entry hmem =>
        (h.entry_sound hsettles (List.mem_reverse.1 hmem)).2.2 first hfirst
      leftmost := ?_ }
  intro other hother hstart
  rcases h.arrivals_leftmost hother hstart with hfound | ⟨thread, hthread, horigin, n, stop, hway⟩
  · exact .inl hfound
  · obtain ⟨m, halt, step, hslides, hstep, hhalts, haccepts⟩ := hway.exists_halts
    obtain ⟨entry, hentry, rfl, hle⟩ :=
      hsettles.complete thread hthread halt step hslides hstep hhalts
    exact .inr ⟨entry, List.mem_reverse.2 hentry, Nat.le_trans hle horigin, m, stop, haccepts⟩

end IsRunning

namespace HasArrived

variable {entries front back : List (Thread × Step)}

/-- A thread that accepts ends the threads behind it, and what it found is preferred. -/
theorem accept (h : HasArrived machine text position (front ++ (thread, .accept) :: back) marks
    found) (hposition : position ≤ text.length) :
    HasArrived machine text position front marks (some ⟨thread.origin, position⟩) := by
  have hmem : (thread, Step.accept) ∈ front ++ (thread, .accept) :: back := by simp
  have hfront : ∀ entry ∈ front, entry ∈ front ++ (thread, .accept) :: back := fun entry =>
    List.mem_append_left _
  have hlength := h.few
  rw [List.length_append] at hlength
  have horder := h.inOrder
  rw [List.map_append, List.map_cons, InOrder, List.pairwise_append, List.pairwise_cons] at horder
  obtain ⟨hinOrder, ⟨hback, -⟩, hbefore⟩ := horder
  refine
    { size_eq := h.size_eq
      marks_le := h.marks_le
      few := by omega
      inOrder := hinOrder
      origin_le := fun entry hentry => h.origin_le entry (hfront entry hentry)
      halts := fun entry hentry => h.halts entry (hfront entry hentry)
      sound := fun entry hentry => h.sound entry (hfront entry hentry)
      isMatch := ?_, le_found := ?_, leftmost := ?_ }
  · rintro first hfirst
    obtain rfl := Option.some.inj hfirst
    obtain ⟨n, haccepts⟩ := h.sound _ hmem 0 _ (.accept (h.halts _ hmem).1)
    exact ⟨⟨h.origin_le _ hmem, hposition, n, haccepts⟩, h.origin_le _ hmem⟩
  · rintro first hfirst entry hentry
    obtain rfl := Option.some.inj hfirst
    exact hbefore entry.1 (List.mem_map_of_mem hentry) thread List.mem_cons_self
  · intro other hother hstart
    rcases h.leftmost other hother hstart with ⟨first, hfirst, hle⟩ | ⟨entry, hentry, hle, hway⟩
    · exact .inl ⟨_, rfl, Nat.le_trans (h.le_found first hfirst _ hmem) hle⟩
    · rcases List.mem_append.1 hentry with hentry | hentry
      · exact .inr ⟨entry, hentry, hle, hway⟩
      · refine .inl ⟨_, rfl, Nat.le_trans ?_ hle⟩
        rcases List.mem_cons.1 hentry with rfl | hentry
        · exact Nat.le_refl _
        · exact hback entry.1 (List.mem_map_of_mem hentry)

/-- Threads are cut off behind the first one that accepts. -/
theorem cut (h : HasArrived machine text position entries marks found)
    (hposition : position ≤ text.length) :
    HasArrived machine text position (Machine.cut entries).1 marks
      (((Machine.cut entries).2.map fun thread => ⟨thread.origin, position⟩) <|> found) := by
  obtain ⟨-, ⟨thread, back, hentries, haccepted⟩ | ⟨hentries, haccepted⟩⟩ := cut_cases entries
  · rw [haccepted]
    exact accept (hentries ▸ h) hposition
  · rw [haccepted, ← hentries]
    exact h

/-- A thread that does not accept stands at a character to take. -/
theorem exists_take (h : HasArrived machine text position entries marks found)
    (haccept : ∀ entry ∈ entries, entry.2 ≠ .accept) {entry : Thread × Step}
    (hentry : entry ∈ entries) : ∃ chars next, entry.2 = .take chars next := by
  have hhalts := (h.halts entry hentry).2
  have hnot := haccept entry hentry
  cases hstep : entry.2 with
  | take chars next => exact ⟨chars, next, rfl⟩
  | check condition next => simp [hstep, Step.halts] at hhalts
  | fork ways => simp [hstep, Step.halts] at hhalts
  | accept => exact absurd hstep hnot

end HasArrived

/-! ### Going on behind a character -/

theorem mem_advance_iff {entries : List (Thread × Step)} : thread ∈ advance c entries ↔
    ∃ entry ∈ entries, ∃ chars next, entry.2 = .take chars next ∧ chars.contains c = true ∧
      thread = { entry.1 with step := next } := by
  rw [advance, List.mem_filterMap]
  refine exists_congr fun entry => and_congr_right fun _ => ?_
  obtain ⟨old, step⟩ := entry
  cases step with
  | take chars next =>
      rw [Option.ite_none_right_eq_some, Option.some.injEq]
      constructor
      · rintro ⟨hc, rfl⟩
        exact ⟨chars, next, rfl, hc, rfl⟩
      · rintro ⟨_, _, htake, hc, rfl⟩
        obtain ⟨rfl, rfl⟩ := Step.take.inj htake
        exact ⟨hc, rfl⟩
  | check condition next => simp
  | fork ways => simp
  | accept => simp

theorem origin_advance_sublist (c : Char) (entries : List (Thread × Step)) :
    ((advance c entries).map (·.origin)).Sublist (entries.map (·.1.origin)) := by
  induction entries with
  | nil => exact List.Sublist.refl _
  | cons entry entries ih =>
      obtain ⟨old, step⟩ := entry
      have hrest : ((advance c entries).map (·.origin)).Sublist
        (old.origin :: entries.map (·.1.origin)) := ih.cons old.origin
      cases step with
      | take chars next =>
          by_cases hc : chars.contains c = true
          · have hcons : advance c ((old, .take chars next) :: entries) =
                { old with step := next } :: advance c entries := by
              simp [advance, hc]
            rw [hcons]
            exact ih.cons_cons old.origin
          · have hcons : advance c ((old, .take chars next) :: entries) = advance c entries := by
              simp [advance, hc]
            rw [hcons]
            exact hrest
      | check condition next => exact hrest
      | fork ways => exact hrest
      | accept => exact hrest

/-- Behind a character the machine runs on. -/
theorem HasArrived.advance {entries : List (Thread × Step)}
    (h : HasArrived machine text position entries marks found)
    (haccept : ∀ entry ∈ entries, entry.2 ≠ .accept) (hc : text[position]? = some c) :
    IsRunning machine text (position + 1) (Machine.advance c entries) marks found := by
  refine
    { size_eq := h.size_eq
      marks_le := h.marks_le
      few := Nat.le_trans (List.length_filterMap_le _ _) h.few
      inOrder := ?_, origin_lt := ?_, sound := ?_
      isMatch := fun first hfirst =>
        ⟨(h.isMatch first hfirst).1, Nat.lt_succ_of_le (h.isMatch first hfirst).2⟩
      origin_le := ?_, leftmost := ?_ }
  · have horigins : (entries.map (·.1.origin)).Pairwise (· ≤ ·) := by
      have hinOrder := h.inOrder
      rw [InOrder, List.pairwise_map] at hinOrder
      rwa [List.pairwise_map]
    exact List.pairwise_map.1 (horigins.sublist (origin_advance_sublist c entries))
  · intro thread hmem
    obtain ⟨entry, hentry, chars, next, -, -, rfl⟩ := mem_advance_iff.1 hmem
    exact Nat.lt_succ_of_le (h.origin_le entry hentry)
  · intro thread hmem n stop hway
    obtain ⟨entry, hentry, chars, next, hstep, hcontains, rfl⟩ := mem_advance_iff.1 hmem
    have hhere := (h.halts entry hentry).1
    rw [hstep] at hhere
    exact h.sound entry hentry _ _ (.take hhere ((take?_behind hc).2 ⟨hcontains, rfl⟩) hway)
  · intro first hfirst thread hmem
    obtain ⟨entry, hentry, chars, next, -, -, rfl⟩ := mem_advance_iff.1 hmem
    exact h.le_found first hfirst entry hentry
  · intro other hother hstart
    rcases h.leftmost other hother (Nat.le_of_lt_succ hstart) with
      hfound | ⟨entry, hentry, hle, n, stop, hway⟩
    · exact .inl hfound
    · obtain ⟨chars, next, hstep⟩ := h.exists_take haccept hentry
      have hhere := (h.halts entry hentry).1
      rw [hstep] at hhere
      obtain ⟨m, after, -, htake, hrest⟩ := hway.of_take hhere
      obtain ⟨hcontains, rfl⟩ := (take?_behind hc).1 htake
      exact .inr ⟨_, mem_advance_iff.2 ⟨entry, hentry, chars, next, hstep, hcontains, rfl⟩, hle, m,
        stop, hrest⟩

/-! ### The whole text -/

theorem arrive_eq (fuel : Nat) (place : Place) :
    machine.arrive fuel place position threads marks found =
      let result := machine.settle place (position + 1) fuel
        (arrivals machine position threads found) marks []
      ⟨(cut result.1.reverse).1, result.2,
        ((cut result.1.reverse).2.map fun thread => ⟨thread.origin, position⟩) <|> found⟩ := rfl

/-- A machine that comes to a place moves its threads on there, and takes note of a match. -/
theorem IsRunning.arrive (h : IsRunning machine text position threads marks found)
    (hposition : position ≤ text.length) {front : Front}
    (hfront : front = machine.arrive machine.moves (Spot.behind text position).place position
      threads marks found) :
    HasArrived machine text position front.threads front.marks front.found ∧
      ∀ entry ∈ front.threads, entry.2 ≠ .accept := by
  rw [hfront, arrive_eq]
  exact ⟨(h.hasArrived (h.settles _)).cut hposition, (cut_cases _).1⟩

theorem isRunning_start (machine : Machine) (text : List Char) : IsRunning machine text 0 []
    (Array.replicate machine.steps.size 0) none where
  size_eq := by simp
  marks_le := by
    intro number carried hcarried
    obtain ⟨-, rfl⟩ := Array.getElem?_eq_some_iff.1 hcarried
    simp
  few := by simp
  inOrder := List.Pairwise.nil
  origin_lt := by simp
  sound := by simp
  isMatch := by simp
  origin_le := by simp
  leftmost := by simp

/-- A machine that runs over what is left of a text finds the first match of the whole text. -/
theorem findsFirst_run {rest : List Char}
    (h : IsRunning machine text position threads marks found)
    (hposition : position ≤ text.length) (hrest : text.drop position = rest) :
    FindsFirst (IsMatch machine text) (machine.run machine.moves
      (text.take position).getLast? position threads marks found rest) := by
  induction rest generalizing position threads marks found with
  | nil =>
      rw [run]
      have hplace : (Spot.behind text position).place = ⟨(text.take position).getLast?, none⟩ := by
        rw [Spot.behind, hrest]
        rfl
      rw [← hplace]
      obtain ⟨harrived, haccept⟩ := h.arrive hposition rfl
      have hlength : position = text.length := by
        have := List.drop_eq_nil_iff.1 hrest
        omega
      refine ⟨fun first hfirst => (harrived.isMatch first hfirst).1, ?_⟩
      intro other hother
      have hstart : other.start ≤ position := by
        have := hother.start_le
        have := hother.stop_le
        omega
      rcases harrived.leftmost other hother hstart with hfound | ⟨entry, hentry, -, n, stop, hway⟩
      · exact hfound
      · -- a thread that still has to take a character finds none
        obtain ⟨chars, next, hstep⟩ := harrived.exists_take haccept hentry
        have hhere := (harrived.halts entry hentry).1
        rw [hstep] at hhere
        obtain ⟨m, after, -, htake, -⟩ := hway.of_take hhere
        rw [hlength] at htake
        exact absurd htake take?_behind_length
  | cons c rest ih =>
      have hlt : position < text.length := by
        have := congrArg List.length hrest
        simp only [List.length_drop, List.length_cons] at this
        omega
      have hplace : (Spot.behind text position).place =
          ⟨(text.take position).getLast?, some c⟩ := by
        rw [Spot.behind, hrest]
        rfl
      rw [List.drop_eq_getElem_cons hlt, List.cons.injEq] at hrest
      obtain ⟨rfl, hrest⟩ := hrest
      rw [run, ← hplace]
      obtain ⟨harrived, haccept⟩ := h.arrive hposition rfl
      split
      · next hdone =>
          rw [Bool.and_eq_true, List.isEmpty_iff, Option.isSome_iff_exists] at hdone
          obtain ⟨hempty, first, hfirst⟩ := hdone
          refine ⟨fun first hfirst => (harrived.isMatch first hfirst).1, ?_⟩
          intro other hother
          rcases Nat.lt_or_ge position other.start with hbehind | hstart
          · have := (harrived.isMatch first hfirst).2
            exact ⟨first, hfirst, by omega⟩
          · rcases harrived.leftmost other hother hstart with hfound | ⟨entry, hentry, -⟩
            · exact hfound
            · simp [hempty] at hentry
      · have hrunning := harrived.advance haccept (List.getElem?_eq_getElem hlt)
        have hlast : some text[position] = (text.take (position + 1)).getLast? := by
          rw [List.take_succ_eq_append_getElem hlt, List.getLast?_concat]
        rw [hlast]
        exact ih hrunning hlt hrest

/-- What a machine finds in a text is its first match. -/
theorem findsFirst_find? (machine : Machine) (text : List Char) :
    FindsFirst (IsMatch machine text) (machine.find? text) :=
  findsFirst_run (isRunning_start machine text) (Nat.zero_le _) rfl

end Machine

end EditorCore
