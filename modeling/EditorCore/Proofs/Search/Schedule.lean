import EditorCore.Search.Worker
import Mathlib.Data.List.Basic

/-!
# Schedules of a search worker

The owner of a worker starts searches and asks for their outcomes, while each search comes
to its end whenever it does. In every order of these events, a search that was started is
awaited until its outcome is given to the owner, which happens once, and no other search is
started meanwhile. What the owner gets is what the search that is awaited has found on the
disk that it ended on.
-/

namespace EditorCore.SearchWorker

/-! ### Events -/

/-- What can happen to a worker. -/
inductive Event where
  /-- The owner starts a search, for which the system has a thread or not. -/
  | start (request : SearchRequest) (hasThread : Bool)
  /-- The running search, if there is one, has ended on a disk and sends its outcome. -/
  | send (disk : Disk)
  /-- The owner asks for the outcome. -/
  | ask
  /-- The owner waits for the outcome; a search that has not ended yet will end on a disk. -/
  | wait (disk : Disk)

/-- What has happened to a worker, with the answers that its owner was given. -/
inductive Entry where
  /-- A search was started. -/
  | accepted (request : SearchRequest)
  /-- A search was not started. -/
  | refused (request : SearchRequest) (fault : Fault)
  /-- The running search, if there was one, sent its outcome. -/
  | sent (disk : Disk)
  /-- The owner was given an outcome. -/
  | collected (outcome : SearchOutcome)
  /-- The owner was given nothing. -/
  | missed

namespace Entry

def isAccepted : Entry → Bool
  | .accepted _ => true
  | _ => false

def isCollected : Entry → Bool
  | .collected _ => true
  | _ => false

/-- The disk on which a search ended. -/
def disk? : Entry → Option Disk
  | .sent disk => some disk
  | _ => none

end Entry

/-- The answer to the owner who asks or waits, and the worker behind it. -/
def answer (worker : SearchWorker) : Option (SearchOutcome × SearchWorker) → Entry × SearchWorker
  | some (outcome, next) => (.collected outcome, next)
  | none => (.missed, worker)

/-- What an event leads to, and the worker behind it. -/
def after (worker : SearchWorker) : Event → Entry × SearchWorker
  | .start request hasThread =>
    match worker.start request hasThread with
    | .ok next => (.accepted request, next)
    | .error fault => (.refused request fault, worker)
  | .send disk => (.sent disk, worker.finish disk)
  | .ask => worker.answer worker.collect?
  | .wait disk => worker.answer (worker.wait? disk)

/-- A worker with all that has happened to it, the last entry in front. -/
inductive Reached : List Entry → SearchWorker → Prop where
  | idle : Reached [] idle
  | step {history : List Entry} {worker : SearchWorker} (event : Event)
    (h : Reached history worker) :
    Reached ((worker.after event).1 :: history) (worker.after event).2

/-! ### Searches that are awaited -/

/-- The last search that was started, and what has happened since; no outcome was given. -/
structure Awaits (history : List Entry) (request : SearchRequest) (since : List Entry) :
    Prop where
  split : ∃ before, history = since ++ .accepted request :: before
  started : ∀ entry ∈ since, entry.isAccepted = false
  owed : ∀ entry ∈ since, entry.isCollected = false

/-- The disk on which a search ended, the first time that it is said to have. -/
def endsOn? (since : List Entry) : Option Disk := (since.filterMap (·.disk?)).getLast?

variable {history since before between : List Entry} {worker : SearchWorker}
  {request other : SearchRequest} {entry : Entry} {disk : Disk} {outcome : SearchOutcome}

theorem awaits_accepted (history : List Entry) (request : SearchRequest) :
    Awaits (.accepted request :: history) request [] :=
  ⟨⟨history, rfl⟩, by simp, by simp⟩

theorem Awaits.cons (h : Awaits history request since) (haccepted : entry.isAccepted = false)
    (hcollected : entry.isCollected = false) :
    Awaits (entry :: history) request (entry :: since) := by
  obtain ⟨before, rfl⟩ := h.split
  refine ⟨⟨before, rfl⟩, ?_, ?_⟩
  · rw [List.forall_mem_cons]
    exact ⟨haccepted, h.started⟩
  · rw [List.forall_mem_cons]
    exact ⟨hcollected, h.owed⟩

/-- A search that is awaited was started just now, or it was awaited before. -/
theorem Awaits.of_cons (h : Awaits (entry :: history) request since) :
    entry = .accepted request ∧ since = [] ∨
      entry.isAccepted = false ∧ entry.isCollected = false ∧
        ∃ earlier, since = entry :: earlier ∧ Awaits history request earlier := by
  obtain ⟨before, hsplit⟩ := h.split
  cases since with
  | nil => exact .inl ⟨(List.cons.inj hsplit).1, rfl⟩
  | cons last earlier =>
      obtain ⟨rfl, hearlier⟩ := List.cons.inj hsplit
      have hstarted := List.forall_mem_cons.1 h.started
      have howed := List.forall_mem_cons.1 h.owed
      exact .inr ⟨hstarted.1, howed.1, earlier, rfl, ⟨before, hearlier⟩, hstarted.2, howed.2⟩

theorem not_awaits_nil (request : SearchRequest) (since : List Entry) :
    ¬ Awaits [] request since := by
  intro h
  obtain ⟨before, hsplit⟩ := h.split
  simp at hsplit

/-- Only one search is awaited. -/
theorem Awaits.unique {later : List Entry} (h : Awaits history request since)
    (hother : Awaits history other later) : request = other ∧ since = later := by
  induction history generalizing since later with
  | nil => exact absurd h (not_awaits_nil request since)
  | cons entry history ih =>
      rcases h.of_cons with ⟨rfl, rfl⟩ | ⟨haccepted, -, first, rfl, hfirst⟩
      · rcases hother.of_cons with ⟨hsame, rfl⟩ | ⟨hnot, -⟩
        · exact ⟨Entry.accepted.inj hsame, rfl⟩
        · simp [Entry.isAccepted] at hnot
      · rcases hother.of_cons with ⟨rfl, -⟩ | ⟨-, -, second, rfl, hsecond⟩
        · simp [Entry.isAccepted] at haccepted
        · obtain ⟨hrequest, hsince⟩ := ih hfirst hsecond
          exact ⟨hrequest, by rw [hsince]⟩

/-- What holds of a search that is awaited is what holds of this one. -/
theorem Awaits.exists_iff (h : Awaits history request since)
    {P : SearchRequest → List Entry → Prop} :
    (∃ other later, Awaits history other later ∧ P other later) ↔ P request since := by
  constructor
  · rintro ⟨other, later, hother, hholds⟩
    obtain ⟨rfl, rfl⟩ := h.unique hother
    exact hholds
  · exact fun hholds => ⟨request, since, h, hholds⟩

/-- An outcome that was given is not awaited. -/
theorem not_awaits_collected (history : List Entry) (outcome : SearchOutcome)
    (request : SearchRequest) (since : List Entry) :
    ¬ Awaits (.collected outcome :: history) request since := by
  intro h
  rcases h.of_cons with ⟨hnot, -⟩ | ⟨-, hnot, -⟩
  · simp at hnot
  · simp [Entry.isCollected] at hnot

theorem endsOn?_cons (entry : Entry) (since : List Entry) :
    endsOn? (entry :: since) = (endsOn? since).or entry.disk? := by
  cases hdisk : entry.disk? with
  | none => simp [endsOn?, hdisk]
  | some disk =>
      rw [endsOn?, endsOn?, List.filterMap_cons_some hdisk, List.getLast?_cons]
      cases (since.filterMap (·.disk?)).getLast? <;> rfl

/-! ### Runs -/

theorem after_start_running (job : SearchJob) (request : SearchRequest) (hasThread : Bool) :
    (⟨some job⟩ : SearchWorker).after (.start request hasThread) =
      (.refused request .searchRunning, ⟨some job⟩) := rfl

/-- What a worker holds is the search that is awaited, with what it found where it ended. -/
inductive IsSound (history : List Entry) : SearchWorker → Prop where
  | idle (h : ∀ request since, ¬ Awaits history request since) : IsSound history idle
  | running {request : SearchRequest} {since : List Entry} (h : Awaits history request since) :
    IsSound history ⟨some ⟨request, (endsOn? since).map (Search.run · request)⟩⟩

/-- A worker that runs no search keeps doing nothing until one is started. -/
theorem IsSound.rested (h : ∀ request since, ¬ Awaits history request since)
    (haccepted : entry.isAccepted = false) : IsSound (entry :: history) SearchWorker.idle := by
  refine .idle fun request since hawaits => ?_
  rcases hawaits.of_cons with ⟨rfl, -⟩ | ⟨-, -, earlier, -, hearlier⟩
  · simp [Entry.isAccepted] at haccepted
  · exact h request earlier hearlier

/-- A search that goes on may have ended meanwhile. -/
theorem IsSound.kept (h : Awaits history request since) (haccepted : entry.isAccepted = false)
    (hcollected : entry.isCollected = false) (hworker : worker =
      ⟨some ⟨request, ((endsOn? since).or entry.disk?).map (Search.run · request)⟩⟩) :
    IsSound (entry :: history) worker := by
  rw [hworker, ← endsOn?_cons]
  exact .running (h.cons haccepted hcollected)

/-- One step: every event keeps to the search that is awaited. -/
theorem IsSound.after (h : IsSound history worker) (event : Event) :
    IsSound ((worker.after event).1 :: history) (worker.after event).2 := by
  cases h with
  | idle h =>
      cases event with
      | start request hasThread =>
          cases hasThread with
          | true => exact .running (awaits_accepted history request)
          | false => exact .rested h rfl
      | send disk => exact .rested h rfl
      | ask => exact .rested h rfl
      | wait disk => exact .rested h rfl
  | @running request since h =>
      cases event with
      | start other hasThread =>
          exact .kept h rfl rfl (by simp [after_start_running, Entry.disk?])
      | send disk =>
          refine .kept h rfl rfl ?_
          cases hends : endsOn? since <;> rfl
      | ask =>
          cases hends : endsOn? since with
          | none => exact .kept h rfl rfl (by rw [hends]; rfl)
          | some disk => exact .idle (not_awaits_collected history _)
      | wait disk => exact .idle (not_awaits_collected history _)

/-- A run: whatever has happened, a worker holds the search that is awaited. -/
theorem Reached.isSound (h : Reached history worker) : IsSound history worker := by
  induction h with
  | idle => exact .idle not_awaits_nil
  | step event _ ih => exact ih.after event

/-- A worker holds the search that is awaited from it. -/
theorem IsSound.eq_running (h : IsSound history worker) (hawaits : Awaits history request since) :
    worker = ⟨some ⟨request, (endsOn? since).map (Search.run · request)⟩⟩ := by
  cases h with
  | idle h => exact absurd hawaits (h request since)
  | running h =>
      obtain ⟨rfl, rfl⟩ := h.unique hawaits
      rfl

/-! ### What the owner gets -/

/-- What the owner of a worker gets now, by what has happened. -/
structure Answers (history : List Entry) (worker : SearchWorker) : Prop where
  /-- A search is running as long as it is awaited. -/
  isRunning_iff : worker.isRunning = true ↔ ∃ request since, Awaits history request since
  /-- A search is refused because another one is awaited, or else because there is no thread. -/
  start_eq_error : ∀ request hasThread fault, worker.start request hasThread = .error fault ↔
    fault = .searchRunning ∧ (∃ earlier since, Awaits history earlier since) ∨
      fault = .disk ∧ hasThread = false ∧ ∀ earlier since, ¬ Awaits history earlier since
  /-- A search that is refused changes nothing. -/
  after_refused : ∀ request hasThread fault, worker.start request hasThread = .error fault →
    worker.after (.start request hasThread) = (.refused request fault, worker)
  /-- Who asks gets what the search that is awaited found where it ended. -/
  collect?_eq_some : ∀ outcome next, worker.collect? = some (outcome, next) ↔
    ∃ request since, Awaits history request since ∧ ∃ disk, endsOn? since = some disk ∧
      outcome = Search.run disk request ∧ next = SearchWorker.idle
  /-- Who asks gets nothing if nothing is awaited or the search has not ended. -/
  collect?_eq_none : worker.collect? = none ↔
    ∀ request since, Awaits history request since → endsOn? since = none
  /-- Who waits gets what the search that is awaited found where it ended or ends. -/
  wait?_eq_some : ∀ disk outcome next, worker.wait? disk = some (outcome, next) ↔
    ∃ request since, Awaits history request since ∧
      outcome = Search.run ((endsOn? since).getD disk) request ∧ next = SearchWorker.idle
  /-- Who waits gets nothing only if nothing is awaited. -/
  wait?_eq_none : ∀ disk, worker.wait? disk = none ↔
    ∀ request since, ¬ Awaits history request since

/-- What the owner of a worker was given, and when. -/
structure Alternates (history : List Entry) : Prop where
  /-- An outcome is what the search that was awaited found, where it ended if it had ended. -/
  collected : ∀ later outcome before, history = later ++ .collected outcome :: before →
    ∃ request since disk, Awaits before request since ∧ outcome = Search.run disk request ∧
      ∀ ended, endsOn? since = some ended → ended = disk
  /-- A search was started only while none was awaited. -/
  accepted : ∀ later request before, history = later ++ .accepted request :: before →
    ∀ earlier since, ¬ Awaits before earlier since
  /-- Between two outcomes a search was started. -/
  between_collected : ∀ later second between first before,
    history = later ++ .collected second :: (between ++ .collected first :: before) →
      ∃ request, .accepted request ∈ between
  /-- Between two starts of searches an outcome was given. -/
  between_accepted : ∀ later second between first before,
    history = later ++ .accepted second :: (between ++ .accepted first :: before) →
      ∃ outcome, .collected outcome ∈ between

/-- Nothing is got from a worker that nothing is awaited from. -/
theorem answers_idle (h : ∀ request since, ¬ Awaits history request since) :
    Answers history SearchWorker.idle where
  isRunning_iff := by simp [isRunning, SearchWorker.idle, h]
  start_eq_error request hasThread fault := by
    cases hasThread <;> simp [start, isRunning, SearchWorker.idle, h, eq_comm]
  after_refused request hasThread fault hrefused := by simp [after, hrefused]
  collect?_eq_some outcome next := by simp [collect?, SearchWorker.idle, h]
  collect?_eq_none := by simp [collect?, SearchWorker.idle, h]
  wait?_eq_some disk outcome next := by simp [wait?, finish, collect?, SearchWorker.idle, h]
  wait?_eq_none disk := by simp [wait?, finish, collect?, SearchWorker.idle, h]

/-- The search that is awaited is what a worker answers with. -/
theorem answers_running (h : Awaits history request since) :
    Answers history ⟨some ⟨request, (endsOn? since).map (Search.run · request)⟩⟩ where
  isRunning_iff := ⟨fun _ => ⟨request, since, h⟩, fun _ => rfl⟩
  start_eq_error other hasThread fault := by
    have hawaited : ∃ earlier since, Awaits history earlier since := ⟨request, since, h⟩
    have hnot : ¬ ∀ earlier since, ¬ Awaits history earlier since := fun hnone =>
      hnone request since h
    simp only [start, isRunning, Option.isSome_some, if_true, hawaited, hnot, and_true, and_false,
      or_false, Except.error.injEq, eq_comm]
  after_refused other hasThread fault hrefused := by simp [after, hrefused]
  collect?_eq_some outcome next := by
    rw [h.exists_iff]
    cases endsOn? since <;> simp [collect?, eq_comm]
  collect?_eq_none := by
    constructor
    · intro hnone other later hother
      obtain ⟨rfl, rfl⟩ := h.unique hother
      cases hends : endsOn? since with
      | none => rfl
      | some disk => simp [collect?, hends] at hnone
    · intro hnone
      simp [collect?, hnone request since h]
  wait?_eq_some disk outcome next := by
    rw [h.exists_iff]
    cases endsOn? since <;> simp [wait?, finish, collect?, eq_comm]
  wait?_eq_none disk := by
    constructor
    · intro hnone
      simp [wait?, finish, collect?] at hnone
    · exact fun hnot => absurd h (hnot request since)

theorem IsSound.answers (h : IsSound history worker) : Answers history worker := by
  cases h with
  | idle h => exact answers_idle h
  | running h => exact answers_running h

/-! ### What the owner got -/

/-- Every entry of a run is what an event has led to. -/
theorem Reached.of_cons (h : Reached (entry :: history) worker) :
    ∃ before event, Reached history before ∧ entry = (before.after event).1 := by
  generalize hentries : entry :: history = entries at h
  cases h with
  | idle => simp at hentries
  | step event hbefore =>
      obtain ⟨rfl, rfl⟩ := List.cons.inj hentries
      exact ⟨_, event, hbefore, rfl⟩

theorem Reached.of_append {later : List Entry} (h : Reached (later ++ history) worker) :
    ∃ before, Reached history before := by
  induction later generalizing worker with
  | nil => exact ⟨worker, h⟩
  | cons entry later ih =>
      obtain ⟨_, _, hbefore, -⟩ := h.of_cons
      exact ih hbefore

theorem exists_of_answer {result : Option (SearchOutcome × SearchWorker)}
    (h : .collected outcome = (worker.answer result).1) :
    ∃ next, result = some (outcome, next) := by
  cases result with
  | none => simp [answer] at h
  | some given =>
      obtain rfl := Entry.collected.inj h
      exact ⟨given.2, rfl⟩

theorem answer_ne_accepted (worker : SearchWorker) (request : SearchRequest)
    (result : Option (SearchOutcome × SearchWorker)) :
    (worker.answer result).1 ≠ .accepted request := by
  cases result <;> simp [answer]

/-- An outcome is what the search that is awaited found, where it ended if it had ended. -/
theorem Reached.of_collected (h : Reached (.collected outcome :: history) worker) :
    ∃ request since disk, Awaits history request since ∧ outcome = Search.run disk request ∧
      ∀ ended, endsOn? since = some ended → ended = disk := by
  obtain ⟨before, event, hbefore, hentry⟩ := h.of_cons
  have hanswers := hbefore.isSound.answers
  cases event with
  | start request hasThread =>
      rw [after] at hentry
      split at hentry <;> simp at hentry
  | send disk => simp [after] at hentry
  | ask =>
      obtain ⟨next, hgiven⟩ := exists_of_answer hentry
      obtain ⟨request, since, hawaits, disk, hends, houtcome, -⟩ :=
        (hanswers.collect?_eq_some outcome next).1 hgiven
      exact ⟨request, since, disk, hawaits, houtcome, fun ended hended =>
        Option.some.inj (hended.symm.trans hends)⟩
  | wait disk =>
      obtain ⟨next, hgiven⟩ := exists_of_answer hentry
      obtain ⟨request, since, hawaits, houtcome, -⟩ :=
        (hanswers.wait?_eq_some disk outcome next).1 hgiven
      exact ⟨request, since, (endsOn? since).getD disk, hawaits, houtcome, fun ended hended => by
        simp [hended]⟩

/-- A search is started only while none is awaited. -/
theorem Reached.of_accepted (h : Reached (.accepted request :: history) worker) :
    ∀ earlier since, ¬ Awaits history earlier since := by
  obtain ⟨before, event, hbefore, hentry⟩ := h.of_cons
  intro earlier since hawaits
  obtain rfl := hbefore.isSound.eq_running hawaits
  cases event with
  | start other hasThread =>
      rw [after_start_running] at hentry
      simp at hentry
  | send disk => simp [after] at hentry
  | ask => exact answer_ne_accepted _ _ _ hentry.symm
  | wait disk => exact answer_ne_accepted _ _ _ hentry.symm

/-- A search that is awaited was started after every outcome that was given. -/
theorem Awaits.accepted_mem
    (h : Awaits (between ++ .collected outcome :: before) request since) :
    .accepted request ∈ between := by
  induction between generalizing since with
  | nil => exact absurd h (not_awaits_collected before outcome request since)
  | cons entry between ih =>
      rcases h.of_cons with ⟨rfl, -⟩ | ⟨-, -, earlier, -, hearlier⟩
      · exact List.mem_cons_self
      · exact List.mem_cons_of_mem entry (ih hearlier)

/-- Once a search was started, one is awaited until an outcome is given. -/
theorem exists_awaits_or_collected (between before : List Entry) (request : SearchRequest) :
    (∃ other since, Awaits (between ++ .accepted request :: before) other since) ∨
      ∃ outcome, .collected outcome ∈ between := by
  -- the search that is awaited may be another one, if a later start came in between
  induction between with
  | nil => exact .inl ⟨request, [], awaits_accepted before request⟩
  | cons entry between ih =>
      rcases ih with ⟨other, since, hawaits⟩ | ⟨outcome, hmem⟩
      · cases entry with
        | accepted next => exact .inl ⟨next, [], awaits_accepted _ next⟩
        | collected outcome => exact .inr ⟨outcome, List.mem_cons_self⟩
        | refused | sent | missed => exact .inl ⟨other, _, hawaits.cons rfl rfl⟩
      · exact .inr ⟨outcome, List.mem_cons_of_mem entry hmem⟩

theorem Reached.alternates (h : Reached history worker) : Alternates history where
  collected later outcome before hsplit := by
    obtain ⟨_, hreached⟩ := Reached.of_append (hsplit ▸ h)
    exact hreached.of_collected
  accepted later request before hsplit := by
    obtain ⟨_, hreached⟩ := Reached.of_append (hsplit ▸ h)
    exact hreached.of_accepted
  between_collected later second between first before hsplit := by
    obtain ⟨_, hreached⟩ := Reached.of_append (hsplit ▸ h)
    obtain ⟨request, since, -, hawaits, -⟩ := hreached.of_collected
    exact ⟨request, hawaits.accepted_mem⟩
  between_accepted later second between first before hsplit := by
    obtain ⟨_, hreached⟩ := Reached.of_append (hsplit ▸ h)
    rcases exists_awaits_or_collected between before first with ⟨other, since, hawaits⟩ | hgiven
    · exact absurd hawaits (hreached.of_accepted other since)
    · exact hgiven

/--
In every order of starts, ends of searches, questions and waits, no outcome is lost and none
is given twice: the owner gets what the search that was started last has found, once, and
until then every other search is refused.
-/
theorem reached_collects_once (h : Reached history worker) :
    Answers history worker ∧ Alternates history :=
  ⟨h.isSound.answers, h.alternates⟩

/-- A second search is refused, and the outcome of the first one is given once. -/
theorem reached_collects_once_asked : ∃ first second disk worker,
    first = ⟨['b'], .folder ⟨['x']⟩, {}⟩ ∧ second = ⟨['b'], .files [], {}⟩ ∧
    disk = ⟨.empty, [], fun _ => true, fun _ => true⟩ ∧
    Reached [.sent disk, .refused second .searchRunning, .accepted first] worker ∧
    worker.start second = .error .searchRunning ∧
    worker.collect? = some (.error (.fileNotFound "x"), SearchWorker.idle) ∧
    (worker.after .ask).2.collect? = none := by
  obtain ⟨first, hfirst⟩ : ∃ first : SearchRequest, first = ⟨['b'], .folder ⟨['x']⟩, {}⟩ :=
    ⟨_, rfl⟩
  obtain ⟨second, hsecond⟩ : ∃ second : SearchRequest, second = ⟨['b'], .files [], {}⟩ :=
    ⟨_, rfl⟩
  obtain ⟨disk, hdisk⟩ : ∃ disk : Disk, disk = ⟨.empty, [], fun _ => true, fun _ => true⟩ :=
    ⟨_, rfl⟩
  have hreached : Reached [.sent disk, .refused second .searchRunning, .accepted first] _ :=
    ((Reached.idle.step (.start first true)).step (.start second true)).step (.send disk)
  have hawaits : Awaits [.sent disk, .refused second .searchRunning, .accepted first] first
      [.sent disk, .refused second .searchRunning] :=
    ((awaits_accepted [] first).cons rfl rfl).cons rfl rfl
  have hfound : Search.run disk first = .error (.fileNotFound "x") := by
    subst hdisk hfirst
    rfl
  have hanswers := (reached_collects_once hreached).1
  have hcollected := (hanswers.collect?_eq_some (.error (.fileNotFound "x")) SearchWorker.idle).2
    ⟨first, _, hawaits, disk, rfl, hfound.symm, rfl⟩
  exact ⟨first, second, disk, _, hfirst, hsecond, hdisk, hreached,
    (hanswers.start_eq_error second true .searchRunning).2 (.inl ⟨rfl, first, _, hawaits⟩),
    hcollected,
    (reached_collects_once (hreached.step .ask)).1.collect?_eq_none.2 fun request since h =>
      absurd h (not_awaits_collected _ _ request since)⟩

end EditorCore.SearchWorker
