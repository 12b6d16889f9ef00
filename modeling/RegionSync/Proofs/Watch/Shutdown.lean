import RegionSync.Proofs.Watch.Delivery

set_option autoImplicit false

/-! # Shutting the worker down

A stop request may come while the worker waits, settles, handles a path or has ended long ago, and
others go on to queue paths all the time. The flag is looked at before a signal is consumed, so the
only path that can still be taken is one whose signal was consumed before the request. From there
the worker has three steps at most to its end (`Phase.stepsLeft`), whatever else happens meanwhile.

An ended worker leaves the queue to the others: paths come and none goes (`exited_of_run`). What is
left in it are the paths whose last accepted request was not followed by a handling
(`contains_iff_lastAccepted`).
-/

namespace RegionSync

theorem Queue.pending_prefix_enqueue (queue : Queue) (path : Path) :
    queue.pending <+: (queue.enqueue path).2.pending := by
  unfold enqueue
  split
  case isTrue => exact List.prefix_rfl
  case isFalse => exact List.prefix_append _ _

/-- How many steps of its own a worker can still take once it was asked to stop. -/
def Phase.stepsLeft : Phase → Nat
  | .claimed => 3
  | .handling _ => 2
  | .waiting => 1
  | .exited => 0

namespace Worker

variable {worker next last : Worker} {event : Event} {events since : List Event} {path : Path}

/-- Whether an event takes a path from the queue, or finds none there. -/
def Event.isPop : Event → Bool
  | .pop _ => true
  | _ => false

/-- How many paths a worker can still take once it was asked to stop. -/
def takesLeft (worker : Worker) : Nat := if worker.phase = .claimed then 1 else 0

/-! ## After a stop request -/

/-- What one event does to a worker that was asked to stop: the flag stays, and the paths and the
steps that are left pay for the event. -/
theorem Step.of_stopped (hstep : Step worker event next) (hstopped : worker.queue.stopped = true) :
    next.queue.stopped = true
      ∧ event.isPop.toNat + next.takesLeft ≤ worker.takesLeft
      ∧ event.isOwn.toNat + next.phase.stepsLeft ≤ worker.phase.stepsLeft := by
  cases hstep with
  | enqueue path =>
      have hkept : (worker.queue.enqueue path).2.stopped = true := by
        rw [Queue.stopped_enqueue, hstopped]
      exact ⟨hkept, by simp [Event.isPop, takesLeft], by simp [Event.isOwn]⟩
  | stop => exact ⟨rfl, by simp [Event.isPop, takesLeft], by simp [Event.isOwn]⟩
  | exit hwaiting _ =>
      refine ⟨hstopped, ?_, ?_⟩
      · simp [Event.isPop, takesLeft]
      · simp [Event.isOwn, Phase.stepsLeft, hwaiting]
  | claim hwaiting hrunning hsignaled =>
      -- a signal is consumed only if the flag is not set
      rw [hstopped] at hrunning
      cases hrunning
  | take path hclaimed hwaits =>
      refine ⟨hstopped, ?_, ?_⟩
      · simp [Event.isPop, takesLeft, hclaimed]
      · simp [Event.isOwn, Phase.stepsLeft, hclaimed]
  | miss hclaimed hempty =>
      refine ⟨hstopped, ?_, ?_⟩
      · simp [Event.isPop, takesLeft, hclaimed]
      · simp [Event.isOwn, Phase.stepsLeft, hclaimed]
  | finish result path hhandling =>
      refine ⟨hstopped, ?_, ?_⟩
      · simp [Event.isPop, takesLeft]
      · simp [Event.isOwn, Phase.stepsLeft, hhandling]

theorem of_stopped_run (hrun : worker.run events = some last)
    (hstopped : worker.queue.stopped = true) :
    last.queue.stopped = true
      ∧ events.countP Event.isPop + last.takesLeft ≤ worker.takesLeft
      ∧ events.countP Event.isOwn + last.phase.stepsLeft ≤ worker.phase.stepsLeft := by
  induction events generalizing worker with
  | nil =>
      cases hrun
      exact ⟨hstopped, by simp, by simp⟩
  | cons event events ih =>
      obtain ⟨next, hstep, hrest⟩ := run_cons_eq_some_iff.mp hrun
      obtain ⟨hkept, htakes, hsteps⟩ := hstep.of_stopped hstopped
      obtain ⟨hfinal, htakes', hsteps'⟩ := ih hrest hkept
      have hcount (p : Event → Bool) :
          (event :: events).countP p = (p event).toNat + events.countP p := by
        rw [List.countP_cons, Nat.add_comm]
        cases p event <;> rfl
      rw [hcount, hcount]
      exact ⟨hfinal, by omega, by omega⟩

/-- A wait that ends after a stop request consumes no signal. -/
theorem Step.of_stopped_wait (hstep : Step worker .wait next)
    (hstopped : worker.queue.stopped = true) : next = { worker with phase := .exited } := by
  cases hstep with
  | exit hwaiting _ => rfl
  | claim hwaiting hrunning hsignaled =>
      rw [hstopped] at hrunning
      cases hrunning

/-- Nothing holds a worker back that was asked to stop, until it has ended. -/
theorem Sound.exists_step_of_stopped (hsound : worker.Sound)
    (hstopped : worker.queue.stopped = true) (hgoing : worker.phase ≠ .exited) :
    ∃ event next, event.isOwn = true ∧ worker.step? event = some next := by
  cases hphase : worker.phase with
  | waiting => exact ⟨.wait, _, rfl, step?_eq_some_iff.mpr (.exit hphase hstopped)⟩
  | claimed =>
      cases hpending : worker.queue.pending with
      | nil => exact absurd hpending (hsound.pending_ne_nil hphase)
      | cons path _ =>
          exact ⟨.pop (some path), _, rfl,
            step?_eq_some_iff.mpr (.take path hphase (by simp [hpending]))⟩
  | handling path => exact ⟨.finish .ok, _, rfl, step?_eq_some_iff.mpr (.finish .ok path hphase)⟩
  | exited => exact absurd hphase hgoing

/-! ## After the end -/

/-- An ended worker does nothing any more, and no path leaves its queue. -/
theorem Step.of_exited (hstep : Step worker event next) (hexited : worker.phase = .exited) :
    next.phase = .exited ∧ event.isOwn = false ∧ worker.queue.pending <+: next.queue.pending := by
  cases hstep with
  | enqueue path => exact ⟨hexited, rfl, worker.queue.pending_prefix_enqueue path⟩
  | stop => exact ⟨hexited, rfl, List.prefix_rfl⟩
  | exit hwaiting _ => rw [hexited] at hwaiting; cases hwaiting
  | claim hwaiting hrunning hsignaled => rw [hexited] at hwaiting; cases hwaiting
  | take path hclaimed hwaits => rw [hexited] at hclaimed; cases hclaimed
  | miss hclaimed hempty => rw [hexited] at hclaimed; cases hclaimed
  | finish result path hhandling => rw [hexited] at hhandling; cases hhandling

theorem exited_of_run (hrun : worker.run events = some last) (hexited : worker.phase = .exited) :
    last.phase = .exited ∧ (∀ event ∈ events, event.isOwn = false)
      ∧ worker.queue.pending <+: last.queue.pending := by
  induction events generalizing worker with
  | nil =>
      cases hrun
      exact ⟨hexited, nofun, List.prefix_rfl⟩
  | cons event events ih =>
      obtain ⟨next, hstep, hrest⟩ := run_cons_eq_some_iff.mp hrun
      obtain ⟨hended, houtside, hgrows⟩ := hstep.of_exited hexited
      obtain ⟨hfinal, hquiet, hgrows'⟩ := ih hrest hended
      exact ⟨hfinal, List.forall_mem_cons.mpr ⟨houtside, hquiet⟩, hgrows.trans hgrows'⟩

/-! ## Abandoned paths -/

/-- `since` is what has happened after the last request for a path that was accepted. -/
def LastAccepted (path : Path) (worker : Worker) (events since : List Event) : Prop :=
  ∃ before event middle next, events = before ++ event :: since
    ∧ worker.run before = some middle
    ∧ middle.accepts path event = true
    ∧ Step middle event next
    ∧ accepted path next since = 0

/-- If any request was accepted, one of them was the last. -/
theorem exists_lastAccepted (hrun : worker.run events = some last)
    (hsome_accepted : 0 < accepted path worker events) :
    ∃ since, LastAccepted path worker events since := by
  induction events generalizing worker with
  | nil => exact absurd hsome_accepted (by simp [accepted])
  | cons event events ih =>
      obtain ⟨next, hstep, hrest⟩ := run_cons_eq_some_iff.mp hrun
      rw [accepted_cons hstep] at hsome_accepted
      by_cases hlater : 0 < accepted path next events
      · obtain ⟨since, before, other, middle, after, rfl, hbefore, haccepts, hlastStep,
          hnone_since⟩ := ih hrest hlater
        exact ⟨since, event :: before, other, middle, after, rfl,
          run_cons_eq_some_iff.mpr ⟨next, hstep, hbefore⟩, haccepts, hlastStep, hnone_since⟩
      · -- no later request was accepted, so this one was
        have hnone_since : accepted path next events = 0 := by omega
        have haccepts : worker.accepts path event = true := by
          cases h : worker.accepts path event with
          | true => rfl
          | false => simp [h, hnone_since] at hsome_accepted
        exact ⟨events, [], event, worker, next, rfl, rfl, haccepts, hstep, hnone_since⟩

/-- After the last accepted request, the path waits until its handling starts. -/
theorem Sound.contains_iff_of_lastAccepted (hsound : worker.Sound)
    (hrun : worker.run events = some last) (hlastly : LastAccepted path worker events since) :
    last.queue.contains path = true ↔ started path since = 0 := by
  obtain ⟨before, event, middle, next, rfl, hbefore, haccepts, hstep, hnone_since⟩ := hlastly
  obtain ⟨middle', hbefore', hrest⟩ := run_append_eq_some_iff.mp hrun
  obtain rfl : middle = middle' := Option.some.inj (hbefore.symm.trans hbefore')
  obtain ⟨next', hstep', hsince⟩ := run_cons_eq_some_iff.mp hrest
  obtain rfl : next = next' := Option.some.inj
    ((step?_eq_some_iff.mpr hstep).symm.trans (step?_eq_some_iff.mpr hstep'))
  have hsound := hsound.run hbefore
  -- one path waits behind the accepted request, and nothing is added to the account since
  have hhere := hstep.balance hsound path
  have hthere := (hstep.sound hsound).balance hsince path
  have hno_start : event.starts path = false := by
    cases event with
    | pop choice => simp [Worker.accepts] at haccepts
    | _ => rfl
  rw [haccepts, hno_start] at hhere
  rw [hnone_since] at hthere
  have hwaits : next.queue.contains path = true := by
    cases h : next.queue.contains path with
    | true => rfl
    | false => rw [h] at hhere; simp at hhere
  rw [hwaits] at hthere
  cases h : last.queue.contains path with
  | true => rw [h] at hthere; simp at hthere ⊢; omega
  | false => rw [h] at hthere; simp at hthere ⊢; omega

/-- The paths that wait are those whose last accepted request was not followed by a handling. -/
theorem contains_iff_lastAccepted (capacity : Nat)
    (hrun : (ofCapacity capacity).run events = some last) (path : Path) :
    last.queue.contains path = true
      ↔ ∃ since, LastAccepted path (ofCapacity capacity) events since ∧ started path since = 0 := by
  have hfresh := sound_ofCapacity capacity
  constructor
  · intro hwaits
    have haccount := hfresh.balance hrun path
    rw [hwaits, Queue.contains_of_pending_eq_nil rfl] at haccount
    simp only [Bool.toNat_true, Bool.toNat_false] at haccount
    have hsome_accepted : 0 < accepted path (ofCapacity capacity) events := by omega
    obtain ⟨since, hlastly⟩ := exists_lastAccepted hrun hsome_accepted
    exact ⟨since, hlastly, (hfresh.contains_iff_of_lastAccepted hrun hlastly).mp hwaits⟩
  · rintro ⟨since, hlastly, hnone_started⟩
    exact (hfresh.contains_iff_of_lastAccepted hrun hlastly).mpr hnone_started

/-! ## Shutdown -/

/-- **Shutdown.** A new worker is asked to stop when it is in the state `worker`; `since` is what has
happened from then on, and `last` the state that this led to.

* The request is not taken back.
* At most one path was taken, and none unless the worker had consumed a signal and not yet taken a
  path when it was asked.
* A wait that ends now ends the worker and consumes no signal.
* The worker has taken three steps at most, and can go on unless it has ended.
* Once it has ended, it takes no step and no path leaves the queue, whatever happens `later`; a
  request is accepted as ever, that is unless the path waits; and a path waits if it did at the end
  or was asked for later.
* The paths that wait are those whose last accepted request was not followed by a handling. -/
theorem stop_ends_worker (capacity : Nat) (before since : List Event) (worker last : Worker)
    (hasked : (ofCapacity capacity).run before = some worker)
    (hrun : worker.run (.stop :: since) = some last) :
    last.queue.stopped = true
      ∧ since.countP Event.isPop ≤ (if worker.phase = .claimed then 1 else 0)
      ∧ (∀ next, last.step? .wait = some next → next = { last with phase := .exited })
      ∧ since.countP Event.isOwn ≤ 3
      ∧ (last.phase ≠ .exited → ∃ event next, event.isOwn = true ∧ last.step? event = some next)
      ∧ (last.phase = .exited → ∀ later final, last.run later = some final →
          final.phase = .exited
            ∧ (∀ event ∈ later, event.isOwn = false)
            ∧ last.queue.pending <+: final.queue.pending
            ∧ ∀ path, (final.queue.enqueue path).1 = !final.queue.contains path
                ∧ final.queue.contains path
                    = (last.queue.contains path || later.any (Event.asksFor path)))
      ∧ ∀ path, last.queue.contains path = true
          ↔ ∃ after, LastAccepted path (ofCapacity capacity) (before ++ .stop :: since) after
              ∧ started path after = 0 := by
  have hwhole : (ofCapacity capacity).run (before ++ .stop :: since) = some last :=
    run_append_eq_some_iff.mpr ⟨worker, hasked, hrun⟩
  have hsound := (sound_ofCapacity capacity).run hwhole
  -- asking leaves the worker where it stands, with the flag set
  obtain ⟨stopping, hstep, hrest⟩ := run_cons_eq_some_iff.mp hrun
  cases hstep
  obtain ⟨hstopped, htakes, hsteps⟩ := of_stopped_run hrest rfl
  have hone : since.countP Event.isPop + last.takesLeft ≤ worker.takesLeft := htakes
  have hfew : since.countP Event.isOwn + last.phase.stepsLeft ≤ worker.phase.stepsLeft := hsteps
  have hthree : worker.phase.stepsLeft ≤ 3 := by
    cases worker.phase <;> simp [Phase.stepsLeft]
  refine ⟨hstopped, ?_, ?_, ?_, hsound.exists_step_of_stopped hstopped, ?_,
    contains_iff_lastAccepted capacity hwhole⟩
  · exact le_trans (Nat.le_add_right _ _) hone
  · intro next hwaited
    exact (step_of_step? hwaited).of_stopped_wait hstopped
  · omega
  · intro hexited later final hlater
    obtain ⟨hended, houtside, hgrows⟩ := exited_of_run hlater hexited
    exact ⟨hended, houtside, hgrows, fun path =>
      ⟨Queue.enqueue_fst _ _, contains_of_outside hlater houtside path⟩⟩

/-- A worker is asked to stop just after it has consumed a signal. -/
def stoppingEvents : List Event := [.enqueue ⟨"a"⟩, .enqueue ⟨"b"⟩, .wait]

/-- What happens then: it takes a path, which is asked for again, and ends. -/
def endingEvents : List Event :=
  [.enqueue ⟨"c"⟩, .pop (some ⟨"b"⟩), .enqueue ⟨"b"⟩, .stop, .finish .error, .wait, .enqueue ⟨"./a"⟩]

/-- The worker when it is asked to stop. -/
def stoppingWorker : Worker :=
  ⟨{ pending := [⟨"a"⟩, ⟨"b"⟩], signals := 1, capacity := 2 }, .claimed⟩

/-- The worker after `endingEvents`. -/
def endedWorker : Worker :=
  ⟨{ pending := [⟨"a"⟩, ⟨"c"⟩, ⟨"b"⟩, ⟨"./a"⟩], signals := 4, capacity := 4, stopped := true }, .exited⟩

theorem stop_ends_stoppingWorker :
    (ofCapacity 1).run stoppingEvents = some stoppingWorker
      ∧ stoppingWorker.run (.stop :: endingEvents) = some endedWorker
      ∧ endingEvents.countP Event.isPop = 1
      ∧ endingEvents.countP Event.isOwn = 3
      ∧ (∃ after, LastAccepted ⟨"b"⟩ (ofCapacity 1) (stoppingEvents ++ .stop :: endingEvents) after
          ∧ started ⟨"b"⟩ after = 0)
      ∧ ∀ later final, endedWorker.run later = some final →
          endedWorker.queue.pending <+: final.queue.pending := by
  have hasked : (ofCapacity 1).run stoppingEvents = some stoppingWorker := by decide
  have hrun : stoppingWorker.run (.stop :: endingEvents) = some endedWorker := by decide
  obtain ⟨-, -, -, -, -, hended, habandoned⟩ := stop_ends_worker 1 _ _ _ _ hasked hrun
  exact ⟨hasked, hrun, by decide, by decide, (habandoned ⟨"b"⟩).mp (by decide),
    fun later final hlater => (hended rfl later final hlater).2.2.1⟩

end Worker

end RegionSync
