import RegionSync.Validator
import Mathlib.Tactic

set_option autoImplicit false

/-! # What visits add to the counters

Every visit adds one to the total, one to the counter of its verdict and its advisories to theirs
(`Visit.share`). The counters wrap around, the shares do not: after any number of visits a counter
has grown by the sum of their shares, taken modulo 2^64 (`Stats.get_foldl_record`). What is said
about counters is therefore said about sums of natural numbers first. Except for the advisories,
such a sum is the number of the results that the counter counts (`tally_eq_countP`).
-/

namespace RegionSync

/-- The counters, by name. -/
inductive Counter where
  | total
  | updated
  | unchanged
  | stale
  | skipped
  | failed
  | advisories
deriving DecidableEq

/-- The value of a counter. -/
def Stats.get (stats : Stats) : Counter → UInt64
  | .total => stats.total
  | .updated => stats.updated
  | .unchanged => stats.unchanged
  | .stale => stats.stale
  | .skipped => stats.skipped
  | .failed => stats.failed
  | .advisories => stats.advisories

/-- The counter that a verdict is counted under, besides the total. -/
def Verdict.counter : Verdict → Counter
  | otherExtension => .skipped
  | unreadable _ => .failed
  | notAnnotated => .skipped
  | faulty _ => .failed
  | upToDate _ => .unchanged
  | stale _ => .stale
  | updated _ => .updated
  | unwritable _ _ => .failed

/-- What a verdict adds to a counter. -/
def Verdict.share (verdict : Verdict) : Counter → Nat
  | .total => 1
  | .advisories => verdict.advisories.length
  | counter => if verdict.counter = counter then 1 else 0

/-- What visits add to a counter. -/
def tally (visits : List Visit) (counter : Counter) : Nat :=
  (visits.map fun visit => visit.verdict.share counter).sum

/-- A visit adds its share to each counter. -/
theorem Stats.get_record (stats : Stats) (visit : Visit) (counter : Counter) :
    (visit.record stats).get counter =
      stats.get counter + UInt64.ofNat (visit.verdict.share counter) := by
  obtain ⟨path, verdict⟩ := visit
  cases verdict <;> cases counter <;>
    simp [Visit.record, Visit.result, Verdict.result, recordResult, record, recordFailure,
      addAdvisories, get, Verdict.share, Verdict.counter, Verdict.advisories]

@[simp] theorem tally_nil (counter : Counter) : tally [] counter = 0 := rfl

@[simp] theorem tally_cons (visit : Visit) (visits : List Visit) (counter : Counter) :
    tally (visit :: visits) counter = visit.verdict.share counter + tally visits counter := rfl

/-- **Visits add up.** -/
theorem Stats.get_foldl_record (visits : List Visit) (stats : Stats) (counter : Counter) :
    (visits.foldl Visit.record stats).get counter =
      stats.get counter + UInt64.ofNat (tally visits counter) := by
  induction visits generalizing stats with
  | nil => simp
  | cons visit visits ih =>
      rw [List.foldl_cons, ih, get_record, tally_cons, UInt64.ofNat_add, UInt64.add_assoc]

/-! ## Counters and results -/

/-- Whether a file was skipped, for whichever reason. -/
def isSkip : Except Failure Outcome → Bool
  | .ok (.skipped _) => true
  | _ => false

/-- Whether a validation failed. -/
def isFailure : Except Failure Outcome → Bool
  | .error _ => true
  | .ok _ => false

/-- Whether a counter counts a result. The advisories are not counted by results. -/
def Counter.counts : Counter → Except Failure Outcome → Bool
  | total, _ => true
  | updated, result => result == .ok .updated
  | unchanged, result => result == .ok .unchanged
  | stale, result => result == .ok .stale
  | skipped, result => isSkip result
  | failed, result => isFailure result
  | advisories, _ => false

/-- A visit adds one to the counters that count its result. -/
theorem Visit.share_eq_counts (visit : Visit) {counter : Counter} (h : counter ≠ .advisories) :
    visit.verdict.share counter = if counter.counts visit.result then 1 else 0 := by
  obtain ⟨path, verdict⟩ := visit
  cases counter with
  | advisories => exact absurd rfl h
  | _ => cases verdict <;> rfl

/-- **Counters count results.** -/
theorem tally_eq_countP (visits : List Visit) {counter : Counter} (h : counter ≠ .advisories) :
    tally visits counter = (visits.map Visit.result).countP counter.counts := by
  induction visits with
  | nil => rfl
  | cons visit visits ih =>
      rw [tally_cons, List.map_cons, List.countP_cons, ih, visit.share_eq_counts h]
      omega

/-! ## Counters and lists -/

theorem tally_total (visits : List Visit) : tally visits .total = visits.length := by
  rw [tally_eq_countP visits (by decide), ← List.length_map Visit.result]
  exact congrFun List.countP_true _

theorem Visit.isFailure_result (visit : Visit) :
    isFailure visit.result = visit.failure?.isSome := by
  unfold failure?
  cases visit.result <;> rfl

/-- The failures are counted as failed. -/
theorem tally_failed (visits : List Visit) :
    tally visits .failed = (visits.filterMap Visit.failure?).length := by
  rw [tally_eq_countP visits (by decide), List.countP_map, List.length_filterMap_eq_countP]
  exact List.countP_congr fun visit _ => by
    show isFailure visit.result = true ↔ _
    rw [visit.isFailure_result]

theorem Visit.isStale_iff (visit : Visit) : visit.isStale = true ↔ visit.result = .ok .stale := by
  obtain ⟨path, verdict⟩ := visit
  cases verdict <;> simp [isStale, result, Verdict.result]

/-- The stale files are counted as stale. -/
theorem tally_stale (visits : List Visit) :
    tally visits .stale = (visits.filter Visit.isStale).length := by
  rw [tally_eq_countP visits (by decide), List.countP_map, ← List.countP_eq_length_filter]
  refine List.countP_congr fun visit _ => ?_
  rw [visit.isStale_iff]
  exact beq_iff_eq

/-- Whether the file was updated. -/
def Visit.isUpdated (visit : Visit) : Bool :=
  match visit.verdict with
  | .updated _ => true
  | _ => false

theorem Visit.isUpdated_iff (visit : Visit) :
    visit.isUpdated = true ↔ visit.result = .ok .updated := by
  obtain ⟨path, verdict⟩ := visit
  cases verdict <;> simp [isUpdated, result, Verdict.result]

/-- Two ways of counting the same visits differ by the number of those on which they differ by one. -/
theorem tally_map_eq_add {visits : List Visit} {first second : Visit → Visit}
    {counter other : Counter} {differs : Visit → Bool}
    (h : ∀ visit ∈ visits, (first visit).verdict.share counter =
      (second visit).verdict.share other + if differs visit then 1 else 0) :
    tally (visits.map first) counter =
      tally (visits.map second) other + (visits.filter differs).length := by
  induction visits with
  | nil => rfl
  | cons visit visits ih =>
      have hhere := h visit List.mem_cons_self
      have hrest := ih fun later hmem => h later (List.mem_cons_of_mem _ hmem)
      rw [List.map_cons, List.map_cons, tally_cons, tally_cons, hhere, hrest, List.filter_cons]
      by_cases hdiffer : differs visit = true
      · rw [if_pos hdiffer, if_pos hdiffer, List.length_cons]
        omega
      · rw [if_neg hdiffer, if_neg hdiffer]
        omega

/-- Two ways of counting the same visits that agree on each of them agree. -/
theorem tally_map_congr {visits : List Visit} {first second : Visit → Visit}
    {counter other : Counter}
    (h : ∀ visit ∈ visits,
      (first visit).verdict.share counter = (second visit).verdict.share other) :
    tally (visits.map first) counter = tally (visits.map second) other := by
  unfold tally
  rw [List.map_map, List.map_map]
  exact congrArg List.sum (List.map_congr_left h)

end RegionSync
