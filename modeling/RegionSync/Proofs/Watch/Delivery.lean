import RegionSync.Proofs.Watch.Run

set_option autoImplicit false

/-! # Every request is answered

Whoever asks for a path wants it handled once more, from the start, after asking. The worker
drops a request only while the same path waits anyway, so nothing is lost; and a path waits at
most once, so nothing is done twice.

The account is kept by one equation, `Sound.balance`: along any run, the requests that were
accepted and the path that waited before are as many as the handlings that were started and the
path that waits after. From it follow that no request is lost (`Sound.covered`) and, since a worker
at rest has no path left, that each is answered in the end.
-/

namespace RegionSync

namespace Worker

variable {worker next last : Worker} {event : Event} {events during : List Event}
variable {path taken : Path}

/-! ## Requests and handlings of a path -/

/-- Whether an event is a request for a path, under any spelling. -/
def Event.asksFor (path : Path) : Event → Bool
  | .enqueue other => other.same path
  | _ => false

/-- Whether an event starts the handling of a path, under any spelling. -/
def Event.starts (path : Path) : Event → Bool
  | .pop (some taken) => taken.same path
  | _ => false

/-- Whether an event is a request for a path and the queue says that it was added. -/
def accepts (worker : Worker) (path : Path) : Event → Bool
  | .enqueue other => other.same path && (worker.queue.enqueue other).1
  | _ => false

/-- How many requests for a path are accepted in a run. -/
def accepted (path : Path) : Worker → List Event → Nat
  | _, [] => 0
  | worker, event :: events =>
    (worker.accepts path event).toNat +
      match worker.step? event with
      | some next => accepted path next events
      | none => 0

/-- How many handlings of a path start in a run. -/
def started (path : Path) (events : List Event) : Nat := events.countP (Event.starts path)

/-- A path was asked for, and `after` is what happened since. -/
def Asked (path : Path) (events after : List Event) : Prop :=
  ∃ before other, events = before ++ .enqueue other :: after ∧ other.same path = true

/-- A path was taken, and `during` is what happened since: nothing that the worker did itself. -/
def Taken (path : Path) (events during : List Event) : Prop :=
  ∃ before, events = before ++ .pop (some path) :: during ∧ ∀ event ∈ during, event.isOwn = false

theorem accepted_cons (hstep : Step worker event next) :
    accepted path worker (event :: events)
      = (worker.accepts path event).toNat + accepted path next events := by
  rw [accepted, step?_eq_some_iff.mpr hstep]

theorem started_cons :
    started path (event :: events) = (event.starts path).toNat + started path events := by
  rw [started, List.countP_cons, Nat.add_comm]
  cases event.starts path <;> rfl

/-! ## The account -/

/-- A request is accepted exactly if the path did not wait before and waits after; a path stops
waiting exactly when its handling starts. -/
theorem Step.balance (hstep : Step worker event next) (hsound : worker.Sound) (path : Path) :
    (worker.accepts path event).toNat + (worker.queue.contains path).toNat
      = (event.starts path).toNat + (next.queue.contains path).toNat := by
  cases hstep with
  | enqueue other =>
      -- the answer is yes exactly if the path did not wait, and afterwards it does
      simp only [accepts, Event.starts, Queue.enqueue_fst, Queue.contains_enqueue]
      cases hsame : other.same path with
      | false => simp
      | true =>
          rw [Queue.contains_congr hsame]
          cases worker.queue.contains path <;> rfl
  | take other hclaimed hwaits =>
      -- the path that is taken waited, and does not wait any more
      simp only [accepts, Event.starts, Queue.contains_without hsound.distinct hwaits]
      cases hsame : other.same path with
      | false => simp
      | true =>
          rw [← Queue.contains_congr hsame, Queue.contains_of_mem hwaits]
          rfl
  | stop => rfl
  | exit hwaiting hstopped => rfl
  | claim hwaiting hrunning hsignaled => rfl
  | miss hclaimed hempty => rfl
  | finish result other hhandling => rfl

theorem Sound.balance (hsound : worker.Sound) (hrun : worker.run events = some last) (path : Path) :
    accepted path worker events + (worker.queue.contains path).toNat
      = started path events + (last.queue.contains path).toNat := by
  induction events generalizing worker with
  | nil =>
      cases hrun
      rfl
  | cons event events ih =>
      obtain ⟨next, hstep, hrest⟩ := run_cons_eq_some_iff.mp hrun
      have hhere := hstep.balance hsound path
      have hthere := ih (hstep.sound hsound) hrest
      rw [accepted_cons hstep, started_cons]
      omega

/-- A path that waits keeps waiting until its handling starts. -/
theorem Sound.waits_or_started (hsound : worker.Sound) (hrun : worker.run events = some last)
    (hwaits : worker.queue.contains path = true) :
    last.queue.contains path = true ∨ 0 < started path events := by
  have haccount := hsound.balance hrun path
  rw [hwaits] at haccount
  cases hstill : last.queue.contains path with
  | true => exact .inl rfl
  | false =>
      rw [hstill] at haccount
      exact .inr (by simp only [Bool.toNat_true, Bool.toNat_false] at haccount; omega)

/-- No request is lost, be it accepted or not. -/
theorem Sound.covered (hsound : worker.Sound) (hrun : worker.run events = some last)
    {after : List Event} (hasked : Asked path events after) :
    last.queue.contains path = true ∨ 0 < started path after := by
  obtain ⟨before, other, rfl, hsame⟩ := hasked
  obtain ⟨middle, hbefore, hrest⟩ := run_append_eq_some_iff.mp hrun
  obtain ⟨next, hstep, hafter⟩ := run_cons_eq_some_iff.mp hrest
  have hsound := hsound.run hbefore
  refine (hstep.sound hsound).waits_or_started hafter ?_
  cases hstep
  rw [Queue.contains_enqueue, hsame, Bool.or_true]

/-! ## Requests during the handling -/

/-- A path is being handled because it was taken, and the worker has done nothing since. -/
theorem exists_taken (hrun : worker.run events = some last) (hidle : worker.handling? = none)
    (hhandling : last.phase = .handling taken) : ∃ during, Taken taken events during := by
  induction events using List.reverseRecOn generalizing last with
  | nil =>
      cases hrun
      simp [handling?, hhandling] at hidle
  | append_singleton events event ih =>
      obtain ⟨middle, hevents, hlast⟩ := run_append_eq_some_iff.mp hrun
      -- an event from outside leaves the phase as it is and belongs to the same handling
      have hextend (houtside : event.isOwn = false) (hphase : middle.phase = .handling taken) :
          ∃ during, Taken taken (events ++ [event]) during := by
        obtain ⟨during, before, rfl, hquiet⟩ := ih hevents hphase
        refine ⟨during ++ [event], before, by simp, ?_⟩
        intro other hmem
        rcases List.mem_append.mp hmem with hmem | hmem
        · exact hquiet other hmem
        · rw [List.mem_singleton.mp hmem]
          exact houtside
      cases run_singleton_eq_some_iff.mp hlast with
      | enqueue path => exact hextend rfl hhandling
      | stop => exact hextend rfl hhandling
      | take path hclaimed hwaits =>
          cases hhandling
          exact ⟨[], events, rfl, nofun⟩
      | exit hwaiting hstopped => cases hhandling
      | claim hwaiting hrunning hsignaled => cases hhandling
      | miss hclaimed hempty => cases hhandling
      | finish result path hbefore => cases hhandling

/-- Between two steps of the worker, a path waits if it did before or was asked for. -/
theorem contains_of_outside (hrun : worker.run during = some last)
    (houtside : ∀ event ∈ during, event.isOwn = false) (path : Path) :
    last.queue.contains path = (worker.queue.contains path || during.any (Event.asksFor path)) := by
  induction during generalizing worker with
  | nil =>
      cases hrun
      simp
  | cons event during ih =>
      obtain ⟨next, hstep, hrest⟩ := run_cons_eq_some_iff.mp hrun
      have hown := houtside event List.mem_cons_self
      rw [ih hrest fun event hmem => houtside event (List.mem_cons_of_mem _ hmem)]
      cases hstep with
      | enqueue other =>
          simp only [Queue.contains_enqueue, List.any_cons, Event.asksFor, Bool.or_assoc]
      | stop => simp [Event.asksFor]
      | exit hwaiting hstopped => cases hown
      | claim hwaiting hrunning hsignaled => cases hown
      | take other hclaimed hwaits => cases hown
      | miss hclaimed hempty => cases hown
      | finish result other hhandling => cases hown

/-- While a path is being handled, it waits if it was asked for again. -/
theorem Sound.contains_of_taken (hsound : worker.Sound) (hrun : worker.run events = some last)
    (htaking : Taken taken events during) (hsame : taken.same path = true) :
    last.queue.contains path = during.any (Event.asksFor path) := by
  obtain ⟨before, rfl, houtside⟩ := htaking
  obtain ⟨middle, hbefore, hrest⟩ := run_append_eq_some_iff.mp hrun
  obtain ⟨next, hstep, hduring⟩ := run_cons_eq_some_iff.mp hrest
  have hsound := hsound.run hbefore
  have hgone : next.queue.contains path = false := by
    cases hstep with
    | take other hclaimed hwaits =>
        simp [Queue.contains_without hsound.distinct hwaits, hsame]
  rw [contains_of_outside hduring houtside, hgone, Bool.false_or]

/-! ## Delivery -/

/-- **Delivery.** Along every run of a new worker, and for every path under all its spellings:

* the accepted requests are as many as the handlings that were started, and one more if the path
  still waits;
* a request is refused only while the path waits;
* after every request, accepted or not, the path waits or its handling has started since;
* while the path is being handled, a request is accepted unless there was another one since it was
  taken;
* once the worker is at rest, the handling of the path has started after every request for it;
* the worker left to itself comes to an end of its steps. -/
theorem delivery_along_run (capacity : Nat) (events : List Event) (worker : Worker)
    (hrun : (ofCapacity capacity).run events = some worker) (path : Path) :
    accepted path (ofCapacity capacity) events
        = started path events + (worker.queue.contains path).toNat
      ∧ ((worker.queue.enqueue path).1 = false → worker.queue.contains path = true)
      ∧ (∀ after, Asked path events after →
          worker.queue.contains path = true ∨ 0 < started path after)
      ∧ (∀ taken, worker.phase = .handling taken → taken.same path = true →
          ∃ during, Taken taken events during ∧
            ((worker.queue.enqueue path).1 = true
              ↔ ∀ event ∈ during, event.asksFor path = false))
      ∧ (worker.AtRest → ∀ after, Asked path events after → 0 < started path after)
      ∧ (∀ later last, worker.run later = some last → (∀ event ∈ later, event.isOwn = true) →
          later.length ≤ worker.remaining) := by
  have hfresh := sound_ofCapacity capacity
  have hsound := hfresh.run hrun
  have hcovered (after : List Event) (hasked : Asked path events after) :=
    hfresh.covered hrun hasked
  refine ⟨?_, ?_, hcovered, ?_, ?_,
    fun later last hlater hown => hsound.length_le_remaining hlater hown⟩
  · have haccount := hfresh.balance hrun path
    rwa [Queue.contains_of_pending_eq_nil rfl] at haccount
  · intro hrefused
    simpa [Queue.enqueue_fst] using hrefused
  · intro taken hhandling hsame
    obtain ⟨during, htaking⟩ := exists_taken hrun rfl hhandling
    refine ⟨during, htaking, ?_⟩
    rw [Queue.enqueue_fst, hfresh.contains_of_taken hrun htaking hsame]
    simp
  · intro hrest after hasked
    have hnone_waits := Queue.contains_of_pending_eq_nil (hsound.pending_eq_nil hrest) path
    rcases hcovered after hasked with hwaits | hhandled
    · rw [hnone_waits] at hwaits
      cases hwaits
    · exact hhandled

/-- Two requests for a path, under other spellings, while it is being handled. -/
def busyEvents : List Event :=
  [.enqueue ⟨"a/b"⟩, .enqueue ⟨"c"⟩, .wait, .pop (some ⟨"a/b"⟩), .enqueue ⟨"a//b"⟩, .enqueue ⟨"a/./b"⟩]

/-- The worker after `busyEvents`; the second request was refused. -/
def busyWorker : Worker :=
  ⟨{ pending := [⟨"c"⟩, ⟨"a//b"⟩], signals := 2, capacity := 2 }, .handling ⟨"a/b"⟩⟩

/-- How the worker may go on from there. -/
def quietEvents : List Event :=
  [.finish .crash, .wait, .pop (some ⟨"a//b"⟩), .finish .error, .wait, .pop (some ⟨"c"⟩), .finish .ok]

/-- The worker once everything is handled. -/
def quietWorker : Worker := ⟨{ capacity := 2 }, .waiting⟩

theorem delivery_along_busyEvents :
    (ofCapacity 1).run busyEvents = some busyWorker
      ∧ (∃ during, Taken ⟨"a/b"⟩ busyEvents during ∧
          ((busyWorker.queue.enqueue ⟨"a/b/"⟩).1 = true
            ↔ ∀ event ∈ during, event.asksFor ⟨"a/b/"⟩ = false))
      ∧ (ofCapacity 1).run (busyEvents ++ quietEvents) = some quietWorker
      ∧ accepted ⟨"a/b/"⟩ (ofCapacity 1) (busyEvents ++ quietEvents)
          = started ⟨"a/b/"⟩ (busyEvents ++ quietEvents)
              + (quietWorker.queue.contains ⟨"a/b/"⟩).toNat
      ∧ (∀ after, Asked ⟨"a/b/"⟩ (busyEvents ++ quietEvents) after →
          0 < started ⟨"a/b/"⟩ after) := by
  have hbusy : (ofCapacity 1).run busyEvents = some busyWorker := by decide
  have hquiet : (ofCapacity 1).run (busyEvents ++ quietEvents) = some quietWorker := by decide
  obtain ⟨-, -, -, hhandling, -, -⟩ := delivery_along_run 1 _ _ hbusy ⟨"a/b/"⟩
  obtain ⟨haccount, -, -, -, hanswered, -⟩ := delivery_along_run 1 _ _ hquiet ⟨"a/b/"⟩
  exact ⟨hbusy, hhandling ⟨"a/b"⟩ rfl (by decide), hquiet, haccount,
    hanswered (atRest_of_waiting rfl rfl rfl)⟩

/-- While a path is being handled, only the first request for it is accepted; and the path that was
asked for is not handled again if the worker is asked to stop first. -/
theorem request_refused_during_handling :
    ∃ handling last : Worker,
      (ofCapacity 8).run [.enqueue ⟨"a"⟩, .wait, .pop (some ⟨"a"⟩), .enqueue ⟨"a"⟩] = some handling
        ∧ handling.phase = .handling ⟨"a"⟩
        ∧ (handling.queue.enqueue ⟨"a"⟩).1 = false
        ∧ handling.run [.stop, .finish .ok, .wait] = some last
        ∧ last.phase = .exited
        ∧ started ⟨"a"⟩ [.stop, .finish .ok, .wait] = 0 := by
  refine ⟨⟨{ pending := [⟨"a"⟩], signals := 1, capacity := 8 }, .handling ⟨"a"⟩⟩,
    ⟨{ pending := [⟨"a"⟩], signals := 1, capacity := 8, stopped := true }, .exited⟩, ?_⟩
  decide

end Worker

end RegionSync
