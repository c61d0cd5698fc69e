import EditorCore.Search.Basic

/-!
# Searching in the background

A worker runs one search at a time while its owner goes on. The search sends its
outcome when it is done, which may be any time after it was started; the owner
asks for the outcome or waits for it, and gets it once.
-/

namespace EditorCore

/-- What a search comes to. -/
abbrev SearchOutcome := Except Fault (List SearchItem)

/-- A search that was started and not collected yet. -/
structure SearchJob where
  /-- What was asked of it. -/
  request : SearchRequest
  /-- What it sent, once it was done. -/
  sent : Option SearchOutcome

/-- Runs at most one search. -/
structure SearchWorker where
  /-- The search that was started and not collected. -/
  job : Option SearchJob

namespace SearchWorker

/-- A worker that has nothing to do. -/
def idle : SearchWorker := ⟨none⟩

/-- Whether a search was started and not collected. -/
def isRunning (worker : SearchWorker) : Bool := worker.job.isSome

/-- Start a search, unless one is running or the system has no thread for it. -/
def start (worker : SearchWorker) (request : SearchRequest) (hasThread : Bool := true) :
    Except Fault SearchWorker :=
  if worker.isRunning then .error .searchRunning
  else if hasThread then .ok ⟨some ⟨request, none⟩⟩
  else .error .disk

/-- The running search comes to its end and sends its outcome, if it has not done so. -/
def finish (worker : SearchWorker) (disk : Disk) : SearchWorker :=
  ⟨worker.job.map fun job =>
    { job with sent := some (job.sent.getD (Search.run disk job.request)) }⟩

/-- Collect what the running search has sent, if it has. -/
def collect? (worker : SearchWorker) : Option (SearchOutcome × SearchWorker) := do
  let job ← worker.job
  let outcome ← job.sent
  pure (outcome, idle)

/-- Wait until the running search has sent its outcome, and collect it. -/
def wait? (worker : SearchWorker) (disk : Disk) : Option (SearchOutcome × SearchWorker) :=
  (worker.finish disk).collect?

end SearchWorker

end EditorCore
