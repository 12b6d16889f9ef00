import RegionSync.Path

set_option autoImplicit false

/-! # The coalescing worker

Paths wait in a queue, each at most once, until the worker takes them. Every accepted path sends
a signal. The worker consumes a signal, lets the file settle, and only then takes a path: any
path that is pending at that moment. A path that is handled is no longer pending, so it can be
queued again meanwhile. The queue never refuses a path for lack of room: its capacity doubles
when as many signals are outstanding.
-/

namespace RegionSync

/-! ## The queue -/

/-- Paths that wait to be handled. -/
structure Queue where
  /-- The waiting paths, oldest first, no two of them the same path. -/
  pending : List Path := []
  /-- The signals that were sent and not consumed. -/
  signals : Nat := 0
  /-- How many signals may be outstanding before the queue grows. -/
  capacity : Nat
  /-- Whether the worker was asked to stop. -/
  stopped : Bool := false
deriving DecidableEq

namespace Queue

/-- The largest capacity. -/
def maxCapacity : Nat := UInt64.size - 1

/-- An empty queue; it has room for one path at least. -/
def ofCapacity (capacity : Nat) : Queue := { capacity := max capacity 1 }

/-- Whether a path waits. -/
def contains (queue : Queue) (path : Path) : Bool := queue.pending.any path.same

/-- The capacity that one more signal calls for. -/
def grown (queue : Queue) : Nat :=
  if queue.capacity ≤ queue.signals then min (2 * queue.capacity) maxCapacity else queue.capacity

/-- Adds a path unless it already waits, and says whether it was added. -/
def enqueue (queue : Queue) (path : Path) : Bool × Queue :=
  if queue.contains path then (false, queue)
  else
    (true, { queue with
      pending := queue.pending ++ [path]
      signals := queue.signals + 1
      capacity := queue.grown })

/-- Asks the worker to stop. -/
def stop (queue : Queue) : Queue := { queue with stopped := true }

end Queue

/-! ## The worker -/

/-- Where the worker stands. -/
inductive Phase where
  /-- Waiting for a signal or a stop request. -/
  | waiting
  /-- A signal is consumed and no path taken yet. -/
  | claimed
  | handling (path : Path)
  | exited
deriving DecidableEq

/-- How handling a path ended. -/
inductive HandlerResult where
  | ok
  | error
  | crash
deriving DecidableEq

/-- How a result is called. -/
def HandlerResult.label : HandlerResult → String
  | ok => "ok"
  | error => "error"
  | crash => "panic"

/-- A queue and its worker. -/
structure Worker where
  queue : Queue
  phase : Phase := .waiting
deriving DecidableEq

namespace Worker

/-- What can happen, one thing at a time. -/
inductive Event where
  /-- Somebody queues a path. -/
  | enqueue (path : Path)
  /-- Somebody asks the worker to stop. -/
  | stop
  /-- The worker gets past its wait. -/
  | wait
  /-- The worker takes a pending path, or finds none. -/
  | pop (choice : Option Path)
  /-- The worker is done with a path, one way or another. -/
  | finish (result : HandlerResult)
deriving DecidableEq

/-- The state after an event, if it can happen. -/
def step? (worker : Worker) : Event → Option Worker
  | .enqueue path => some { worker with queue := (worker.queue.enqueue path).2 }
  | .stop => some { worker with queue := worker.queue.stop }
  | .wait =>
    match worker.phase with
    | .waiting =>
      if worker.queue.stopped then some { worker with phase := .exited }
      else if worker.queue.signals = 0 then none
      else
        some ⟨{ worker.queue with signals := worker.queue.signals - 1 }, .claimed⟩
    | _ => none
  | .pop choice =>
    match worker.phase, choice with
    | .claimed, some path =>
      if path ∈ worker.queue.pending then
        some ⟨{ worker.queue with pending := worker.queue.pending.erase path }, .handling path⟩
      else none
    | .claimed, none =>
      if worker.queue.pending.isEmpty then some { worker with phase := .waiting } else none
    | _, _ => none
  | .finish _ =>
    match worker.phase with
    | .handling _ => some { worker with phase := .waiting }
    | _ => none

/-- A worker that waits at an empty queue. -/
def ofCapacity (capacity : Nat) : Worker := { queue := .ofCapacity capacity }

/-- The path being handled. -/
def handling? (worker : Worker) : Option Path :=
  match worker.phase with
  | .handling path => some path
  | _ => none

/-- Lets the worker go on by itself until it handles a path or has to wait; it takes the path that
has waited longest. -/
def advance (worker : Worker) : Worker :=
  match worker.step? .wait with
  | none => worker
  | some claimed =>
    match claimed.step? (.pop claimed.queue.pending.head?) with
    | none => claimed
    | some handling => handling

/-- Queues a path, lets the worker go on, and says whether the path was added. -/
def enqueue (worker : Worker) (path : Path) : Bool × Worker :=
  let (added, queue) := worker.queue.enqueue path
  (added, advance { worker with queue := queue })

/-- Asks the worker to stop and lets it go on. -/
def stop (worker : Worker) : Worker := advance { worker with queue := worker.queue.stop }

/-- Ends the handling of a path and lets the worker go on. -/
def finish (worker : Worker) (result : HandlerResult) : Worker :=
  match worker.step? (.finish result) with
  | some waiting => waiting.advance
  | none => worker

end Worker

end RegionSync
