import RegionSync.Watch.Worker
import Mathlib.Tactic

set_option autoImplicit false

/-! # Runs of the worker

A *run* is a list of events, each of which can happen where it stands: requests and stop requests
of anybody else, in any order, between the steps of the worker. `Worker.Step` says once what an
event does, guard by guard, and everything about runs is proved from it.

`Worker.Sound` is the invariant of all runs: no two waiting paths are the same, every waiting path
has its signal unless the worker has consumed one and is about to take a path, and the worker ends
only when it was asked to. So a signal always finds its path and a path always has its signal
(`signals_account_for_pending`).
-/

namespace RegionSync

/-! ## Spellings of one path -/

namespace Path

variable {path other : Path}

@[simp] theorem same_self (path : Path) : path.same path = true := by
  simp [same]

theorem same_comm (path other : Path) : path.same other = other.same path := by
  simp only [same, Bool.beq_comm]

/-- Which spelling of a path is compared makes no difference. -/
theorem same_congr (hsame : path.same other = true) (third : Path) :
    path.same third = other.same third := by
  have hcomponents : path.components = other.components := by
    simpa [Path.same] using hsame
  simp only [Path.same, hcomponents]

end Path

/-! ## The queue, seen through the paths that wait -/

namespace Queue

variable {queue : Queue} {path other taken : Path}

/-- No two waiting paths are the same. -/
def Distinct (queue : Queue) : Prop :=
  queue.pending.Pairwise fun path other => path.same other = false

theorem contains_congr (hsame : path.same other = true) :
    queue.contains path = queue.contains other := by
  unfold contains
  exact congrArg queue.pending.any (funext (Path.same_congr hsame))

theorem contains_of_mem (hmem : path ∈ queue.pending) : queue.contains path = true :=
  List.any_eq_true.mpr ⟨path, hmem, Path.same_self path⟩

theorem contains_of_pending_eq_nil (hempty : queue.pending = []) (path : Path) :
    queue.contains path = false := by
  simp [contains, hempty]

theorem enqueue_fst (queue : Queue) (path : Path) :
    (queue.enqueue path).1 = !queue.contains path := by
  unfold enqueue
  split <;> simp_all

theorem contains_enqueue (queue : Queue) (other path : Path) :
    (queue.enqueue other).2.contains path = (queue.contains path || other.same path) := by
  unfold enqueue
  split
  case isTrue hwaits =>
      cases hsame : other.same path with
      | false => simp
      | true => simpa using (contains_congr hsame).symm.trans hwaits
  case isFalse =>
      simp [contains, List.any_append, Path.same_comm path other]

theorem stopped_enqueue (queue : Queue) (path : Path) :
    (queue.enqueue path).2.stopped = queue.stopped := by
  unfold enqueue
  split <;> rfl

@[simp] theorem contains_stop (queue : Queue) (path : Path) :
    queue.stop.contains path = queue.contains path := rfl

theorem Distinct.enqueue (hdistinct : queue.Distinct) (path : Path) :
    (queue.enqueue path).2.Distinct := by
  unfold Queue.enqueue
  split
  case isTrue => exact hdistinct
  case isFalse hnew =>
      have hapart : ∀ other ∈ queue.pending, other.same path = false := by
        intro other hmem
        have hdiffers := List.any_eq_false.mp (Bool.eq_false_iff.mpr hnew) other hmem
        rw [Path.same_comm]
        exact Bool.eq_false_iff.mpr hdiffers
      exact List.pairwise_append.mpr
        ⟨hdistinct, List.pairwise_singleton _ _, fun other hmem last hlast => by
          rw [List.mem_singleton.mp hlast]
          exact hapart other hmem⟩

theorem length_pending_enqueue (queue : Queue) (path : Path) :
    (queue.enqueue path).2.pending.length + queue.signals
      = queue.pending.length + (queue.enqueue path).2.signals := by
  unfold enqueue
  split
  case isTrue => rfl
  case isFalse => simp only [List.length_append, List.length_singleton]; omega

/-- The queue once a path was taken from it. -/
def without (queue : Queue) (taken : Path) : Queue :=
  { queue with pending := queue.pending.erase taken }

theorem Distinct.without (hdistinct : queue.Distinct) (taken : Path) :
    (queue.without taken).Distinct :=
  List.Pairwise.sublist List.erase_sublist hdistinct

/-- Taking a path takes all its spellings, since only one of them waited. -/
theorem contains_without (hdistinct : queue.Distinct) (hmem : taken ∈ queue.pending) (path : Path) :
    (queue.without taken).contains path = (queue.contains path && !taken.same path) := by
  obtain ⟨front, back, -, hsplit, herased⟩ := List.exists_erase_eq hmem
  -- no other spelling of `taken` waits in front of it or behind it
  have hapart : (front ++ back).any taken.same = false := by
    rw [Distinct, hsplit] at hdistinct
    obtain ⟨-, hback, hfront⟩ := List.pairwise_append.mp hdistinct
    have hafter := (List.pairwise_cons.mp hback).1
    refine List.any_eq_false.mpr fun other hother => ?_
    rcases List.mem_append.mp hother with hother | hother
    · rw [Path.same_comm, hfront other hother taken List.mem_cons_self]; simp
    · rw [hafter other hother]; simp
  have hwaiting : queue.contains path = ((front ++ back).any path.same || path.same taken) := by
    simp only [contains, hsplit, List.any_append, List.any_cons]
    cases path.same taken <;> simp
  have hleft : (queue.without taken).contains path = (front ++ back).any path.same := by
    simp only [contains, Queue.without, herased]
  rw [hleft, hwaiting, Path.same_comm path taken]
  cases hsame : taken.same path with
  | false => simp
  | true => rw [← funext (Path.same_congr hsame), hapart]; rfl

end Queue

/-! ## One event -/

namespace Worker

/-- Whether an event is a step of the worker itself; all others come from outside. -/
def Event.isOwn : Event → Bool
  | .wait => true
  | .pop _ => true
  | .finish _ => true
  | .enqueue _ => false
  | .stop => false

/-- What an event does to a worker, and when it can happen. -/
inductive Step (worker : Worker) : Event → Worker → Prop where
  | enqueue (path : Path) :
      Step worker (.enqueue path) { worker with queue := (worker.queue.enqueue path).2 }
  | stop : Step worker .stop { worker with queue := worker.queue.stop }
  /-- The wait ends because of a stop request, and consumes no signal. -/
  | exit (hwaiting : worker.phase = .waiting) (hstopped : worker.queue.stopped = true) :
      Step worker .wait { worker with phase := .exited }
  /-- The wait ends because of a signal, which is consumed. -/
  | claim (hwaiting : worker.phase = .waiting) (hrunning : worker.queue.stopped = false)
      (hsignaled : 0 < worker.queue.signals) :
      Step worker .wait ⟨{ worker.queue with signals := worker.queue.signals - 1 }, .claimed⟩
  /-- Some waiting path is taken and its handling starts. -/
  | take (path : Path) (hclaimed : worker.phase = .claimed) (hwaits : path ∈ worker.queue.pending) :
      Step worker (.pop (some path)) ⟨worker.queue.without path, .handling path⟩
  /-- There is no path to take. -/
  | miss (hclaimed : worker.phase = .claimed) (hempty : worker.queue.pending = []) :
      Step worker (.pop none) { worker with phase := .waiting }
  | finish (result : HandlerResult) (path : Path) (hhandling : worker.phase = .handling path) :
      Step worker (.finish result) { worker with phase := .waiting }

variable {worker next last : Worker} {event : Event} {events before after : List Event}

theorem step_of_step? (h : worker.step? event = some next) : Step worker event next := by
  unfold step? at h
  split at h
  case h_1 path =>
      cases h
      exact .enqueue path
  case h_2 =>
      cases h
      exact .stop
  case h_3 =>
      split at h
      case h_1 hwaiting =>
          split at h
          case isTrue hstopped =>
              cases h
              exact .exit hwaiting hstopped
          case isFalse hrunning =>
              split at h
              case isTrue => cases h
              case isFalse hsignaled =>
                  cases h
                  exact .claim hwaiting (Bool.eq_false_iff.mpr hrunning)
                    (Nat.pos_of_ne_zero hsignaled)
      case h_2 => cases h
  case h_4 choice =>
      split at h
      case h_1 path hclaimed =>
          split at h
          case isTrue hwaits =>
              cases h
              exact .take path hclaimed hwaits
          case isFalse => cases h
      case h_2 hclaimed =>
          split at h
          case isTrue hempty =>
              cases h
              exact .miss hclaimed (List.isEmpty_iff.mp hempty)
          case isFalse => cases h
      case h_3 => cases h
  case h_5 result =>
      split at h
      case h_1 path hhandling =>
          cases h
          exact .finish result path hhandling
      case h_2 => cases h

/-- `Step` is the graph of `step?`. -/
theorem step?_eq_some_iff : worker.step? event = some next ↔ Step worker event next := by
  refine ⟨step_of_step?, fun hstep => ?_⟩
  cases hstep with
  | enqueue path => rfl
  | stop => rfl
  | exit hwaiting hstopped => simp [step?, hwaiting, hstopped]
  | claim hwaiting hrunning hsignaled => simp [step?, hwaiting, hrunning, Nat.ne_of_gt hsignaled]
  | take path hclaimed hwaits => simp [step?, hclaimed, hwaits, Queue.without]
  | miss hclaimed hempty => simp [step?, hclaimed, hempty]
  | finish result path hhandling => simp [step?, hhandling]

/-! ## Runs -/

/-- The state after some events, if they can happen one after the other. -/
def run (worker : Worker) : List Event → Option Worker
  | [] => some worker
  | event :: events => (worker.step? event).bind fun next => next.run events

theorem run_cons_eq_some_iff :
    worker.run (event :: events) = some last
      ↔ ∃ next, Step worker event next ∧ next.run events = some last := by
  simp only [run, Option.bind_eq_some_iff, step?_eq_some_iff]

theorem run_append_eq_some_iff :
    worker.run (before ++ after) = some last
      ↔ ∃ middle, worker.run before = some middle ∧ middle.run after = some last := by
  induction before generalizing worker with
  | nil => simp [run]
  | cons event before ih =>
      simp only [List.cons_append, run_cons_eq_some_iff, ih]
      constructor
      · rintro ⟨next, hstep, middle, hbefore, hafter⟩
        exact ⟨middle, ⟨next, hstep, hbefore⟩, hafter⟩
      · rintro ⟨middle, ⟨next, hstep, hbefore⟩, hafter⟩
        exact ⟨next, hstep, middle, hbefore, hafter⟩

theorem run_singleton_eq_some_iff : worker.run [event] = some last ↔ Step worker event last := by
  simp [run, step?_eq_some_iff]

/-! ## The invariant -/

/-- What holds of a worker at any time. -/
structure Sound (worker : Worker) : Prop where
  distinct : worker.queue.Distinct
  /-- A signal is outstanding for each waiting path, but for the path that the worker is about to
  take. -/
  signaled : worker.queue.pending.length
    = worker.queue.signals + if worker.phase = .claimed then 1 else 0
  /-- The worker ends only when it was asked to. -/
  exited : worker.phase = .exited → worker.queue.stopped = true

/-- The signal that was consumed stands for a waiting path. -/
theorem Sound.pending_ne_nil (hsound : worker.Sound) (hclaimed : worker.phase = .claimed) :
    worker.queue.pending ≠ [] := by
  intro hempty
  have hsignaled := hsound.signaled
  simp only [hclaimed, if_true, hempty, List.length_nil] at hsignaled
  omega

theorem sound_ofCapacity (capacity : Nat) : (ofCapacity capacity).Sound where
  distinct := List.Pairwise.nil
  signaled := rfl
  exited := nofun

theorem Step.sound (hstep : Step worker event next) (hsound : worker.Sound) : next.Sound := by
  have hnever_misses := hsound.pending_ne_nil
  obtain ⟨hdistinct, hsignaled, hexited⟩ := hsound
  cases hstep with
  | enqueue path =>
      have hgrows := worker.queue.length_pending_enqueue path
      refine ⟨hdistinct.enqueue path, ?_, ?_⟩
      · show (worker.queue.enqueue path).2.pending.length
          = (worker.queue.enqueue path).2.signals + if worker.phase = .claimed then 1 else 0
        omega
      · intro hended
        rw [Queue.stopped_enqueue]
        exact hexited hended
  | stop => exact ⟨hdistinct, hsignaled, fun _ => rfl⟩
  | exit hwaiting hstopped =>
      exact ⟨hdistinct, by simpa [hwaiting] using hsignaled, fun _ => hstopped⟩
  | claim hwaiting hrunning hpositive =>
      refine ⟨hdistinct, ?_, nofun⟩
      simp only [hwaiting, reduceCtorEq, if_false] at hsignaled
      simp only [if_true]
      omega
  | take path hclaimed hwaits =>
      refine ⟨hdistinct.without path, ?_, nofun⟩
      simp only [hclaimed, if_true] at hsignaled
      have hshorter := List.length_erase_of_mem hwaits
      simp only [Queue.without, reduceCtorEq, if_false]
      omega
  | miss hclaimed hempty => exact absurd hempty (hnever_misses hclaimed)
  | finish result path hhandling =>
      exact ⟨hdistinct, by simpa [hhandling] using hsignaled, nofun⟩

theorem Sound.run (hsound : worker.Sound) (hrun : worker.run events = some last) : last.Sound := by
  induction events generalizing worker with
  | nil =>
      cases hrun
      exact hsound
  | cons event events ih =>
      obtain ⟨next, hstep, hrest⟩ := run_cons_eq_some_iff.mp hrun
      exact ih (hstep.sound hsound) hrest

/-! ## Progress of the worker -/

/-- The worker is not asked to stop and has nothing to do. -/
def AtRest (worker : Worker) : Prop :=
  worker.queue.stopped = false ∧ ∀ event : Event, event.isOwn = true → worker.step? event = none

/-- A worker that waits for a signal is at rest. -/
theorem atRest_of_waiting (hwaiting : worker.phase = .waiting) (hquiet : worker.queue.signals = 0)
    (hrunning : worker.queue.stopped = false) : worker.AtRest := by
  refine ⟨hrunning, fun event hown => ?_⟩
  cases event with
  | enqueue path => cases hown
  | stop => cases hown
  | wait => simp [step?, hwaiting, hrunning, hquiet]
  | pop choice => simp [step?, hwaiting]
  | finish result => simp [step?, hwaiting]

/-- A worker at rest has left no path behind. -/
theorem Sound.pending_eq_nil (hsound : worker.Sound) (hrest : worker.AtRest) :
    worker.queue.pending = [] := by
  obtain ⟨hrunning, hstuck⟩ := hrest
  have hnever : ∀ {event : Event} {next : Worker},
      event.isOwn = true → ¬ Step worker event next := by
    intro event next hown hstep
    have := step?_eq_some_iff.mpr hstep
    rw [hstuck event hown] at this
    cases this
  have hsignaled := hsound.signaled
  -- in each phase, a waiting path would let the worker go on
  cases hphase : worker.phase with
  | waiting =>
      have hquiet : ¬ 0 < worker.queue.signals := fun hsignals =>
        hnever rfl (.claim hphase hrunning hsignals)
      simp only [hphase, reduceCtorEq, if_false] at hsignaled
      exact List.length_eq_zero_iff.mp (by omega)
  | claimed =>
      cases hpending : worker.queue.pending with
      | nil => rfl
      | cons path _ => exact absurd (.take path hphase (by simp [hpending])) (hnever rfl)
  | handling path => exact absurd (.finish .ok path hphase) (hnever rfl)
  | exited =>
      rw [hsound.exited hphase] at hrunning
      cases hrunning

/-- A bound on the steps that the worker can take by itself. -/
def remaining (worker : Worker) : Nat :=
  3 * worker.queue.pending.length +
    match worker.phase with
    | .waiting => 1
    | .claimed => 0
    | .handling _ => 2
    | .exited => 0

theorem Step.remaining_lt (hstep : Step worker event next) (hsound : worker.Sound)
    (hown : event.isOwn = true) : next.remaining < worker.remaining := by
  cases hstep with
  | enqueue path => cases hown
  | stop => cases hown
  | exit hwaiting hstopped => simp [remaining, hwaiting]
  | claim hwaiting hrunning hpositive => simp [remaining, hwaiting]
  | take path hclaimed hwaits =>
      have hshorter := List.length_erase_of_mem hwaits
      have hsome := List.length_pos_of_mem hwaits
      simp only [remaining, Queue.without, hclaimed]
      omega
  | miss hclaimed hempty => exact absurd hempty (hsound.pending_ne_nil hclaimed)
  | finish result path hhandling => simp [remaining, hhandling]

/-- The worker left to itself stops or comes to rest. -/
theorem Sound.length_le_remaining (hsound : worker.Sound) (hrun : worker.run events = some last)
    (hown : ∀ event ∈ events, event.isOwn = true) : events.length ≤ worker.remaining := by
  induction events generalizing worker with
  | nil => exact Nat.zero_le _
  | cons event events ih =>
      obtain ⟨next, hstep, hrest⟩ := run_cons_eq_some_iff.mp hrun
      have hfewer := hstep.remaining_lt hsound (hown event List.mem_cons_self)
      have hbound := ih (hstep.sound hsound) hrest fun event hmem =>
        hown event (List.mem_cons_of_mem _ hmem)
      rw [List.length_cons]
      omega

/-! ## Signals and waiting paths -/

/-- The wait holds the worker back exactly as long as there is nothing to do. -/
theorem Sound.step?_wait_eq_none_iff (hsound : worker.Sound) (hwaiting : worker.phase = .waiting) :
    worker.step? .wait = none
      ↔ worker.queue.pending = [] ∧ worker.queue.stopped = false := by
  have hsignaled := hsound.signaled
  simp only [hwaiting, reduceCtorEq, if_false, Nat.add_zero] at hsignaled
  rw [← List.length_eq_zero_iff, hsignaled]
  cases hstopped : worker.queue.stopped with
  | true => simp [step?, hwaiting, hstopped]
  | false => simp [step?, hwaiting, hstopped]

/-- A wait that ends with a signal finds one to consume. -/
theorem signals_of_claim (hstep : Step worker .wait next) (hclaimed : next.phase = .claimed) :
    worker.queue.signals = next.queue.signals + 1 := by
  cases hstep with
  | exit hwaiting hstopped => cases hclaimed
  | claim hwaiting hrunning hsignaled => exact (Nat.sub_add_cancel hsignaled).symm

/-- **Every signal finds its path, and every path has its signal.** Along every run of a new worker:

* there are as many waiting paths as signals, and one more while the worker has consumed a signal
  and taken no path;
* no two waiting paths are the same;
* the worker that has consumed a signal finds a path, and never none;
* a signal is consumed only if there is one;
* the worker is held back at its wait exactly if no path waits and it was not asked to stop;
* so no path waits when the worker, not asked to stop, has no step left to take. -/
theorem signals_account_for_pending (capacity : Nat) (events : List Event) (worker : Worker)
    (hrun : (ofCapacity capacity).run events = some worker) :
    worker.queue.pending.length
        = worker.queue.signals + (if worker.phase = .claimed then 1 else 0)
      ∧ worker.queue.Distinct
      ∧ (worker.phase = .claimed → worker.queue.pending ≠ [])
      ∧ worker.step? (.pop none) = none
      ∧ (∀ next, worker.step? .wait = some next → next.phase = .claimed →
          worker.queue.signals = next.queue.signals + 1)
      ∧ (worker.phase = .waiting → (worker.step? .wait = none
          ↔ worker.queue.pending = [] ∧ worker.queue.stopped = false))
      ∧ (worker.AtRest → worker.queue.pending = []) := by
  have hsound := (sound_ofCapacity capacity).run hrun
  refine ⟨hsound.signaled, hsound.distinct, hsound.pending_ne_nil, ?_, ?_,
    hsound.step?_wait_eq_none_iff, hsound.pending_eq_nil⟩
  · rw [Option.eq_none_iff_forall_ne_some]
    intro next hpopped
    cases step_of_step? hpopped with
    | miss hclaimed hempty => exact hsound.pending_ne_nil hclaimed hempty
  · intro next hwaited hclaimed
    exact signals_of_claim (step_of_step? hwaited) hclaimed

/-- A path is asked for, taken, and asked for again together with another one; then the worker
consumes a second signal. -/
def settlingEvents : List Event :=
  [.enqueue ⟨"a"⟩, .wait, .pop (some ⟨"a"⟩), .enqueue ⟨"b"⟩, .enqueue ⟨"a"⟩, .finish .crash, .wait]

/-- The worker after `settlingEvents`: two paths wait, and one signal is outstanding. -/
def settlingWorker : Worker :=
  ⟨{ pending := [⟨"b"⟩, ⟨"a"⟩], signals := 1, capacity := 2 }, .claimed⟩

theorem signals_account_for_settlingEvents :
    (ofCapacity 1).run settlingEvents = some settlingWorker
      ∧ settlingWorker.queue.pending.length = settlingWorker.queue.signals + 1
      ∧ settlingWorker.queue.Distinct
      ∧ settlingWorker.step? (.pop none) = none := by
  have hrun : (ofCapacity 1).run settlingEvents = some settlingWorker := by decide
  obtain ⟨hsignaled, hdistinct, -, hnever, -, -, -⟩ := signals_account_for_pending 1 _ _ hrun
  exact ⟨hrun, hsignaled, hdistinct, hnever⟩

end Worker

end RegionSync
