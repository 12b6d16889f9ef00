import RegionSync.Proofs.Watch.Run
import Mathlib.Order.Bounds.Basic

set_option autoImplicit false

/-! # Growth of the queue

The queue starts with room for some signals and doubles its capacity when one more is sent than it
has room for. So its capacity is always one of the first capacity, twice as much, four times as much
and so on, up to the largest number there is (`Queue.nthCapacity`), and it never shrinks, though the
worker consumes signals all the time. Of these capacities it is the least one with room for the
largest number of signals that were outstanding at a time (`Worker.capacity_follows_signals`).

The invariant is `Queue.Fits`. It is kept by every event, since only one thing can raise the number
of signals, a request for a path that does not wait, and that raises it by one.
-/

namespace RegionSync

/-! ## Capacities -/

namespace Queue

variable {initial peak other : Nat} {queue : Queue}

/-- The capacity after doubling the first one `k` times, as long as it is not the largest one. -/
def nthCapacity (initial k : Nat) : Nat := min (2 ^ k * initial) maxCapacity

theorem nthCapacity_pos (hpositive : 0 < initial) (k : Nat) : 0 < nthCapacity initial k :=
  Nat.lt_min.mpr ⟨Nat.mul_pos (Nat.two_pow_pos k) hpositive, by decide⟩

theorem nthCapacity_zero (hsmall : initial ≤ maxCapacity) : nthCapacity initial 0 = initial := by
  rw [nthCapacity, Nat.pow_zero, Nat.one_mul, Nat.min_eq_left hsmall]

/-- Doubling a capacity that is the largest one leaves it as it is. -/
theorem nthCapacity_succ (initial k : Nat) :
    nthCapacity initial (k + 1) = min (2 * nthCapacity initial k) maxCapacity := by
  have hdouble : 2 ^ (k + 1) * initial = 2 * (2 ^ k * initial) := by ring
  simp only [nthCapacity, hdouble]
  omega

theorem nthCapacity_mono (initial : Nat) {j k : Nat} (hle : j ≤ k) :
    nthCapacity initial j ≤ nthCapacity initial k := by
  have hmore : 2 ^ j * initial ≤ 2 ^ k * initial :=
    Nat.mul_le_mul_right _ (Nat.pow_le_pow_right (by decide) hle)
  simp only [nthCapacity]
  omega

/-- The queue has the least capacity with room for `peak` signals, and no more of them now. -/
structure Fits (initial peak : Nat) (queue : Queue) : Prop where
  signals_le : queue.signals ≤ peak
  least : IsLeast {c | (∃ k, c = nthCapacity initial k) ∧ peak ≤ c} queue.capacity

theorem Fits.signals_le_capacity (hfits : queue.Fits initial peak) :
    queue.signals ≤ queue.capacity :=
  hfits.signals_le.trans hfits.least.1.2

/-- A queue with room for more signals has no smaller capacity. -/
theorem Fits.capacity_le {after : Queue} (hfits : queue.Fits initial peak)
    (hmore : after.Fits initial other) (hle : peak ≤ other) : queue.capacity ≤ after.capacity :=
  hfits.least.2 ⟨hmore.least.1.1, hle.trans hmore.least.1.2⟩

theorem fits_ofCapacity {size : Nat} (hsmall : size ≤ maxCapacity) :
    (ofCapacity size).Fits (max size 1) 0 := by
  have hfirst : nthCapacity (max size 1) 0 = max size 1 :=
    nthCapacity_zero (Nat.max_le.mpr ⟨hsmall, by decide⟩)
  refine ⟨Nat.le_refl _, ⟨⟨0, hfirst.symm⟩, Nat.zero_le _⟩, ?_⟩
  rintro _ ⟨⟨k, rfl⟩, -⟩
  calc (ofCapacity size).capacity
      = nthCapacity (max size 1) 0 := hfirst.symm
    _ ≤ nthCapacity (max size 1) k := nthCapacity_mono _ (Nat.zero_le k)

/-- As long as there are no more signals than before, the capacity fits. -/
theorem Fits.of_signals_le {after : Queue} (hfits : queue.Fits initial peak)
    (hsame : after.capacity = queue.capacity) (hle : after.signals ≤ queue.signals) :
    after.Fits initial (max peak after.signals) := by
  have hkept : max peak after.signals = peak := Nat.max_eq_left (hle.trans hfits.signals_le)
  rw [hkept]
  exact ⟨hle.trans hfits.signals_le, hsame ▸ hfits.least⟩

/-- One more signal calls for the next capacity exactly if the queue has no room for it. -/
theorem Fits.grown (hfits : queue.Fits initial peak) (hpositive : 0 < initial)
    (hroom : queue.signals < maxCapacity) :
    IsLeast {c | (∃ k, c = nthCapacity initial k) ∧ max peak (queue.signals + 1) ≤ c}
      queue.grown := by
  obtain ⟨hsignals_le, ⟨⟨k, hnow⟩, henough⟩, hleast⟩ := hfits
  unfold Queue.grown
  split_ifs with hfull
  · -- there are as many signals as the queue has room for, and there never were more
    have htight : max peak (queue.signals + 1) = queue.capacity + 1 := by omega
    rw [htight]
    have hnext : min (2 * queue.capacity) maxCapacity = nthCapacity initial (k + 1) := by
      rw [nthCapacity_succ, ← hnow]
    refine ⟨⟨⟨k + 1, hnext⟩, ?_⟩, ?_⟩
    · have hsome_room : 0 < queue.capacity := hnow ▸ nthCapacity_pos hpositive k
      omega
    · rintro _ ⟨⟨j, rfl⟩, habove⟩
      have hlater : k + 1 ≤ j := by
        by_contra hearlier
        have := nthCapacity_mono initial (show j ≤ k by omega)
        omega
      rw [hnext]
      exact nthCapacity_mono initial hlater
  · -- there is room for the signal, and what was the least capacity for the others still is
    have hsame : max peak (queue.signals + 1) ≤ queue.capacity := by omega
    refine ⟨⟨⟨k, hnow⟩, hsame⟩, ?_⟩
    rintro c ⟨hkth, habove⟩
    exact hleast ⟨hkth, by omega⟩

/-- A request keeps the capacity the least one with enough room. -/
theorem Fits.enqueue (hfits : queue.Fits initial peak) (hpositive : 0 < initial)
    (hroom : queue.signals < maxCapacity) (path : Path) :
    (queue.enqueue path).2.Fits initial (max peak (queue.enqueue path).2.signals) := by
  unfold Queue.enqueue
  split
  case isTrue => exact hfits.of_signals_le rfl (Nat.le_refl _)
  case isFalse => exact ⟨Nat.le_max_right _ _, hfits.grown hpositive hroom⟩

/-- A request for a path that waits changes nothing. -/
theorem enqueue_of_contains {path : Path} (hwaits : queue.contains path = true) :
    queue.enqueue path = (false, queue) := by
  rw [enqueue, if_pos hwaits]

/-- A request for any other path adds the path. -/
theorem enqueue_of_not_contains {path : Path} (hnew : queue.contains path = false) :
    (queue.enqueue path).1 = true ∧ (queue.enqueue path).2.pending = queue.pending ++ [path]
      ∧ (queue.enqueue path).2.contains path = true := by
  refine ⟨?_, ?_, ?_⟩
  · rw [enqueue_fst, hnew]
    rfl
  · rw [enqueue, if_neg (by simp [hnew])]
  · rw [contains_enqueue, Path.same_self, Bool.or_true]

end Queue

/-! ## Along a run -/

namespace Worker

variable {worker next last : Worker} {event : Event} {events : List Event} {initial peak : Nat}

/-- The largest count of something in the states of a run. -/
def most (count : Worker → Nat) : Worker → List Event → Nat
  | worker, [] => count worker
  | worker, event :: events =>
    max (count worker)
      (match worker.step? event with
      | some next => most count next events
      | none => 0)

/-- The largest number of signals that were outstanding at a time. -/
def mostSignals (worker : Worker) (events : List Event) : Nat :=
  worker.most (fun state => state.queue.signals) events

/-- The largest number of paths that waited at a time. -/
def mostPending (worker : Worker) (events : List Event) : Nat :=
  worker.most (fun state => state.queue.pending.length) events

theorem most_cons (count : Worker → Nat) (hstep : Step worker event next) :
    worker.most count (event :: events) = max (count worker) (next.most count events) := by
  rw [most, step?_eq_some_iff.mpr hstep]

theorem le_most (count : Worker → Nat) (worker : Worker) (events : List Event) :
    count worker ≤ worker.most count events := by
  cases events with
  | nil => exact Nat.le_refl _
  | cons event events => exact Nat.le_max_left _ _

theorem most_append (count : Worker → Nat) {before after : List Event} {middle : Worker}
    (hrun : worker.run before = some middle) :
    worker.most count (before ++ after)
      = max (worker.most count before) (middle.most count after) := by
  induction before generalizing worker with
  | nil =>
      cases hrun
      exact (Nat.max_eq_right (le_most count _ after)).symm
  | cons event before ih =>
      obtain ⟨next, hstep, hrest⟩ := run_cons_eq_some_iff.mp hrun
      rw [List.cons_append, most_cons count hstep, most_cons count hstep, ih hrest, Nat.max_assoc]

/-- There are never more signals than waiting paths. -/
theorem Sound.signals_le_pending (hsound : worker.Sound) :
    worker.queue.signals ≤ worker.queue.pending.length := by
  rw [hsound.signaled]
  exact Nat.le_add_right _ _

/-- One event keeps the capacity the least one with enough room. -/
theorem Step.fits (hstep : Step worker event next) (hsound : worker.Sound) (hpositive : 0 < initial)
    (hfits : worker.queue.Fits initial peak)
    (hfew : worker.queue.pending.length < Queue.maxCapacity) :
    next.queue.Fits initial (max peak next.queue.signals) := by
  have hroom : worker.queue.signals < Queue.maxCapacity := hsound.signals_le_pending.trans_lt hfew
  cases hstep with
  | enqueue path => exact hfits.enqueue hpositive hroom path
  | stop => exact hfits.of_signals_le rfl (Nat.le_refl _)
  | exit hwaiting hstopped => exact hfits.of_signals_le rfl (Nat.le_refl _)
  | claim hwaiting hrunning hsignaled => exact hfits.of_signals_le rfl (Nat.sub_le _ _)
  | take path hclaimed hwaits => exact hfits.of_signals_le rfl (Nat.le_refl _)
  | miss hclaimed hempty => exact hfits.of_signals_le rfl (Nat.le_refl _)
  | finish result path hhandling => exact hfits.of_signals_le rfl (Nat.le_refl _)

theorem fits_of_run (hrun : worker.run events = some last) (hsound : worker.Sound)
    (hpositive : 0 < initial) (hfits : worker.queue.Fits initial peak)
    (hfew : worker.mostPending events < Queue.maxCapacity) :
    last.queue.Fits initial (max peak (worker.mostSignals events)) := by
  induction events generalizing worker peak with
  | nil =>
      cases hrun
      exact hfits.of_signals_le rfl (Nat.le_refl _)
  | cons event events ih =>
      obtain ⟨next, hstep, hrest⟩ := run_cons_eq_some_iff.mp hrun
      rw [mostPending, most_cons _ hstep, Nat.max_lt] at hfew
      have hthere := ih hrest (hstep.sound hsound) (hstep.fits hsound hpositive hfits hfew.1) hfew.2
      -- what is outstanding now and next is part of the largest number from here on
      have hpeaks : max peak (worker.mostSignals (event :: events))
          = max (max peak next.queue.signals) (next.mostSignals events) := by
        have hnow := hfits.signals_le
        have hlater := le_most (fun state => state.queue.signals) next events
        rw [mostSignals, mostSignals, most_cons _ hstep]
        omega
      rw [hpeaks]
      exact hthere

/-- **The capacity follows the signals.** Along every run of a new worker in which fewer paths wait
at a time than the largest capacity:

* there are never more signals than the capacity;
* the capacity is the least of the first one, its double, the double of that and so on that has room
  for the largest number of signals so far; a first capacity of 0 counts as 1;
* the capacity never shrinks;
* a request for a path that waits changes nothing, and a request for any other path adds it. -/
theorem capacity_follows_signals (size : UInt64) (events : List Event) (worker : Worker)
    (hrun : (ofCapacity size.toNat).run events = some worker)
    (hfew : (ofCapacity size.toNat).mostPending events < Queue.maxCapacity) :
    worker.queue.signals ≤ worker.queue.capacity
      ∧ IsLeast {c | (∃ k, c = Queue.nthCapacity (max size.toNat 1) k)
            ∧ (ofCapacity size.toNat).mostSignals events ≤ c} worker.queue.capacity
      ∧ (∀ before after middle, events = before ++ after →
          (ofCapacity size.toNat).run before = some middle →
          middle.queue.capacity ≤ worker.queue.capacity)
      ∧ (∀ path, worker.queue.contains path = true →
          worker.queue.enqueue path = (false, worker.queue))
      ∧ ∀ path, worker.queue.contains path = false →
          (worker.queue.enqueue path).1 = true
            ∧ (worker.queue.enqueue path).2.pending = worker.queue.pending ++ [path]
            ∧ (worker.queue.enqueue path).2.contains path = true := by
  have hsmall : size.toNat ≤ Queue.maxCapacity := Nat.le_sub_one_of_lt size.toNat_lt
  have hpositive : 0 < max size.toNat 1 := lt_max_of_lt_right Nat.one_pos
  have hsound := sound_ofCapacity size.toNat
  have hfresh : (ofCapacity size.toNat).queue.Fits (max size.toNat 1) 0 :=
    Queue.fits_ofCapacity hsmall
  have hfits := fits_of_run hrun hsound hpositive hfresh hfew
  have hleast := hfits.least
  rw [Nat.zero_max] at hleast
  refine ⟨hfits.signals_le_capacity, hleast, ?_, fun _ => Queue.enqueue_of_contains,
    fun _ => Queue.enqueue_of_not_contains⟩
  rintro before after middle rfl hhalfway
  -- from the state in between on, the largest number of signals can only be exceeded
  obtain ⟨middle', hhalfway', hrest⟩ := run_append_eq_some_iff.mp hrun
  obtain rfl : middle = middle' := Option.some.inj (hhalfway.symm.trans hhalfway')
  rw [mostPending, most_append _ hhalfway, Nat.max_lt] at hfew
  have hthere := fits_of_run hhalfway hsound hpositive hfresh hfew.1
  exact hthere.capacity_le (fits_of_run hrest (hsound.run hhalfway) hpositive hthere hfew.2)
    (Nat.le_max_left _ _)

/-- Three paths come at once, and one more when two of them are taken. -/
def burstEvents : List Event :=
  [.enqueue ⟨"a"⟩, .enqueue ⟨"b"⟩, .enqueue ⟨"c"⟩, .wait, .pop (some ⟨"b"⟩), .finish .ok, .wait,
    .pop (some ⟨"a"⟩), .enqueue ⟨"d"⟩]

/-- The worker after `burstEvents`: its queue keeps room for four signals. -/
def burstWorker : Worker :=
  ⟨{ pending := [⟨"c"⟩, ⟨"d"⟩], signals := 2, capacity := 4 }, .handling ⟨"a"⟩⟩

theorem capacity_follows_burstEvents :
    (ofCapacity (0 : UInt64).toNat).run burstEvents = some burstWorker
      ∧ (ofCapacity (0 : UInt64).toNat).mostPending burstEvents < Queue.maxCapacity
      ∧ (ofCapacity (0 : UInt64).toNat).mostSignals burstEvents = 3
      ∧ IsLeast {c | (∃ k, c = Queue.nthCapacity 1 k) ∧ 3 ≤ c} burstWorker.queue.capacity := by
  have hrun : (ofCapacity (0 : UInt64).toNat).run burstEvents = some burstWorker := by decide
  have hfew : (ofCapacity (0 : UInt64).toNat).mostPending burstEvents < Queue.maxCapacity := by
    decide
  exact ⟨hrun, hfew, by decide, (capacity_follows_signals 0 _ _ hrun hfew).2.1⟩

end Worker

end RegionSync
