import RegionSync.Batch
import RegionSync.Proofs.Counters
import RegionSync.Proofs.WriteBack

set_option autoImplicit false

/-! # The counters of a session

Validators that count together share nothing but the files and the counters. In a *session* they
validate single files and run batches, in any order and each with its own protocol and mode, while
others change the files as they like. The counters are those of the validations: each action records
its own (`Session.stats_next`), so a session records them all (`Session.stats_run`).

A validation is recorded in two additions, its advisories and its result. Additions commute
(`Stats.add_add_comm`), so it makes no difference in which order they arrive.
-/

namespace RegionSync

/-! ## Validations -/

/-- The validation of one file: who validates, in which tree, and where. -/
structure Validation where
  validator : Validator
  tree : FileTree
  path : Path

namespace Validation

/-- What the validation found and did. -/
def visit (validation : Validation) : Visit :=
  (validation.validator.visit validation.tree validation.path).1

/-- What the validation came to. -/
def result (validation : Validation) : Except Failure Outcome := validation.visit.result

/-- What the file was regenerated to, if it is annotated and was accepted. -/
def accepted? (validation : Validation) : Option Regenerated :=
  if validation.validator.protocol.matchesExtension validation.path then
    match validation.tree.readText validation.path with
    | .error _ => none
    | .ok text =>
      match regenerate validation.validator.protocol text with
      | .ok (.annotated result) => some result
      | _ => none
  else none

/-- The number of advisories on a file that was accepted. -/
def advisoryCount (validation : Validation) : Nat :=
  (validation.accepted?.map (·.advisories.length)).getD 0

/-- The advisories of a validation are those of the file, whatever becomes of it afterwards. -/
theorem share_advisories (validation : Validation) :
    validation.visit.verdict.share .advisories = validation.advisoryCount := by
  obtain ⟨validator, tree, path⟩ := validation
  show (validator.examine tree path).1.advisories.length = _
  unfold advisoryCount accepted?
  have hexamined := validator.examined_examine tree path
  generalize validator.examine tree path = outcome at hexamined
  obtain ⟨verdict, after⟩ := outcome
  cases hexamined with
  | otherExtension hother => simp [Verdict.advisories, hother]
  | unreadable error hwanted hfails => simp [Verdict.advisories, hwanted, hfails]
  | faulty text fault hwanted hreads hrefuses =>
      simp [Verdict.advisories, hwanted, hreads, hrefuses]
  | notAnnotated text hwanted hreads hignored =>
      simp [Verdict.advisories, hwanted, hreads, hignored]
  | upToDate text result hwanted hreads haccepts _ =>
      simp [Verdict.advisories, hwanted, hreads, haccepts]
  | stale text result hwanted hreads houtdated _ =>
      simp [Verdict.advisories, hwanted, hreads, houtdated.accepts]
  | updated text result location access hupdates =>
      -- the bytes that were read are the text that was accepted
      have hreads := FileTree.readText_eq_ok_iff.mpr ⟨location, access, hupdates.reads⟩
      simp [Verdict.advisories, hupdates.wanted, hreads, hupdates.outdated.accepts]
  | unwritable text result location access hwanted hholds houtdated _ _ =>
      have hreads := FileTree.readText_eq_ok_iff.mpr ⟨location, access, hholds⟩
      simp [Verdict.advisories, hwanted, hreads, houtdated.accepts]

/-- A dry run never updates a file. -/
theorem share_updated_of_dry (validation : Validation) (hdry : validation.validator.dryRun = true) :
    validation.visit.verdict.share .updated = 0 := by
  obtain ⟨validator, tree, path⟩ := validation
  show (validator.examine tree path).1.share .updated = 0
  have hexamined := validator.examined_examine tree path
  generalize validator.examine tree path = outcome at hexamined
  obtain ⟨verdict, after⟩ := outcome
  cases hexamined with
  | updated text result location access hupdates =>
      rw [hupdates.wet] at hdry
      cases hdry
  | _ => rfl

/-- Only a dry run leaves a file stale. -/
theorem share_stale_of_wet (validation : Validation) (hwet : validation.validator.dryRun = false) :
    validation.visit.verdict.share .stale = 0 := by
  obtain ⟨validator, tree, path⟩ := validation
  show (validator.examine tree path).1.share .stale = 0
  have hexamined := validator.examined_examine tree path
  generalize validator.examine tree path = outcome at hexamined
  obtain ⟨verdict, after⟩ := outcome
  cases hexamined with
  | stale text result hwanted hreads houtdated hdry =>
      rw [hdry] at hwet
      cases hwet
  | _ => rfl

end Validation

/-! ## Sessions -/

/-- The files and the counters that validators share. -/
structure Session where
  tree : FileTree
  stats : Stats := {}

/-- What can happen in a session. -/
inductive Action where
  /-- Others change the files, in whichever way. -/
  | change (after : FileTree)
  /-- A validator validates a file. -/
  | validate (validator : Validator) (path : Path)
  /-- A validator runs a batch, which does nothing if the root cannot be listed. If others change
  the files meanwhile, the batch is its single validations with these changes in between. -/
  | batch (validator : Validator) (root : Path)

/-- Who acts, if it is a validator. -/
def Action.validator? : Action → Option Validator
  | change _ => none
  | validate validator _ | batch validator _ => some validator

/-- The validations of a validator over files, each in the tree that the ones before it left. -/
def Validator.validations (validator : Validator) : List Path → FileTree → List Validation
  | [], _ => []
  | path :: paths, tree =>
    ⟨validator, tree, path⟩ :: validations validator paths (validator.visit tree path).2

theorem Validator.visitAll_eq_map_validations (validator : Validator) (paths : List Path)
    (tree : FileTree) :
    (validator.visitAll paths tree).1 =
      (validator.validations paths tree).map Validation.visit := by
  induction paths generalizing tree with
  | nil => rfl
  | cons path paths ih =>
      rw [validations, List.map_cons, ← ih]
      rfl

theorem Validator.validator_of_mem_validations {validator : Validator} {paths : List Path}
    {tree : FileTree} {validation : Validation}
    (hmem : validation ∈ validator.validations paths tree) : validation.validator = validator := by
  induction paths generalizing tree with
  | nil => cases hmem
  | cons path paths ih =>
      rcases List.mem_cons.mp hmem with rfl | hlater
      · rfl
      · exact ih hlater

namespace Session

/-- The session after an action. -/
def next (session : Session) : Action → Session
  | .change after => { session with tree := after }
  | .validate validator path =>
    let (visit, after) := validator.visit session.tree path
    ⟨after, visit.record session.stats⟩
  | .batch validator root =>
    match validator.batch session.stats session.tree root with
    | .ok (report, after) => ⟨after, report.stats⟩
    | .error _ => session

/-- The validations of an action. -/
def validationsOf (session : Session) : Action → List Validation
  | .change _ => []
  | .validate validator path => [⟨validator, session.tree, path⟩]
  | .batch validator root =>
    match session.tree.checkScan root with
    | .ok () => validator.validations (session.tree.list root) session.tree
    | .error _ => []

/-- The session after actions. -/
def run (session : Session) : List Action → Session
  | [] => session
  | action :: actions => run (session.next action) actions

/-- The validations of actions. -/
def validations (session : Session) : List Action → List Validation
  | [] => []
  | action :: actions => session.validationsOf action ++ validations (session.next action) actions

/-- An action records its own validations. -/
theorem stats_next (session : Session) (action : Action) :
    (session.next action).stats =
      ((session.validationsOf action).map Validation.visit).foldl Visit.record session.stats := by
  cases action with
  | change after => rfl
  | validate validator path => rfl
  | batch validator root =>
      simp only [next, validationsOf, Validator.batch]
      cases session.tree.checkScan root with
      | error error => rfl
      | ok _ =>
          show (validator.visitAll (session.tree.list root) session.tree).1.foldl _ _ = _
          rw [Validator.visitAll_eq_map_validations]

/-- A session records all its validations, one after the other. -/
theorem stats_run (session : Session) (actions : List Action) :
    (session.run actions).stats =
      ((session.validations actions).map Validation.visit).foldl Visit.record session.stats := by
  induction actions generalizing session with
  | nil => rfl
  | cons action actions ih =>
      rw [run, ih, stats_next, validations, List.map_append, List.foldl_append]

theorem validator_of_mem_validationsOf {session : Session} {action : Action} {validator : Validator}
    (hacts : action.validator? = some validator) {validation : Validation}
    (hmem : validation ∈ session.validationsOf action) : validation.validator = validator := by
  cases action with
  | change after => cases hacts
  | validate other path =>
      cases hacts
      rw [List.mem_singleton.mp hmem]
  | batch other root =>
      cases hacts
      simp only [validationsOf] at hmem
      split at hmem
      · exact Validator.validator_of_mem_validations hmem
      · cases hmem

/-- A counter to which none of its validations adds is not moved by an action. -/
theorem get_next_of_share_eq_zero {session : Session} {action : Action} (counter : Counter)
    (hnone_adds : ∀ validation ∈ session.validationsOf action,
      validation.visit.verdict.share counter = 0) :
    (session.next action).stats.get counter = session.stats.get counter := by
  have hnothing : tally ((session.validationsOf action).map Validation.visit) counter = 0 := by
    rw [tally, List.map_map, List.sum_eq_zero_iff]
    intro share hmem
    obtain ⟨validation, hfrom_action, rfl⟩ := List.mem_map.mp hmem
    exact hnone_adds validation hfrom_action
  rw [stats_next, Stats.get_foldl_record, hnothing]
  exact UInt64.add_zero _

end Session

/-! ## Counting results -/

theorem Verdict.share_total (verdict : Verdict) :
    verdict.share .total =
      verdict.share .updated + verdict.share .unchanged + verdict.share .stale
        + verdict.share .skipped + verdict.share .failed := by
  cases verdict <;> rfl

theorem tally_total_eq (visits : List Visit) :
    tally visits .total =
      tally visits .updated + tally visits .unchanged + tally visits .stale
        + tally visits .skipped + tally visits .failed := by
  induction visits with
  | nil => rfl
  | cons visit visits ih =>
      have hhere := visit.verdict.share_total
      simp only [tally_cons]
      omega

theorem tally_advisories (validations : List Validation) :
    tally (validations.map Validation.visit) .advisories =
      (validations.map Validation.advisoryCount).sum := by
  rw [tally, List.map_map]
  congr 1
  exact List.map_congr_left fun validation _ => validation.share_advisories

/-- What the counters say about validations. All counting is modulo 2^64. -/
structure Stats.Balances (stats : Stats) (validations : List Validation) : Prop where
  updated : stats.updated.toNat = (validations.map Validation.result).count (.ok .updated) % 2 ^ 64
  unchanged :
    stats.unchanged.toNat = (validations.map Validation.result).count (.ok .unchanged) % 2 ^ 64
  stale : stats.stale.toNat = (validations.map Validation.result).count (.ok .stale) % 2 ^ 64
  skipped : stats.skipped.toNat = (validations.map Validation.result).countP isSkip % 2 ^ 64
  failed : stats.failed.toNat = (validations.map Validation.result).countP isFailure % 2 ^ 64
  /-- The sum wraps around like the counters. -/
  total : stats.total =
    stats.updated + stats.unchanged + stats.stale + stats.skipped + stats.failed
  advisories : stats.advisories.toNat = (validations.map Validation.advisoryCount).sum % 2 ^ 64

/-- Counters that are those of the visits balance. -/
theorem Stats.balances_foldl_record (validations : List Validation) :
    ((validations.map Validation.visit).foldl Visit.record {}).Balances validations := by
  set stats := (validations.map Validation.visit).foldl Visit.record {} with hstats
  have hget : ∀ counter,
      stats.get counter = UInt64.ofNat (tally (validations.map Validation.visit) counter) := by
    intro counter
    have hfresh : ({} : Stats).get counter = 0 := by
      cases counter <;> rfl
    rw [hstats, get_foldl_record, hfresh, UInt64.zero_add]
  have hresults : (validations.map Validation.visit).map Visit.result =
      validations.map Validation.result := by
    rw [List.map_map]
    rfl
  have hvalue : ∀ counter, counter ≠ .advisories → (stats.get counter).toNat =
      (validations.map Validation.result).countP counter.counts % 2 ^ 64 := by
    intro counter hnotAdvisories
    rw [hget, UInt64.toNat_ofNat', tally_eq_countP _ hnotAdvisories, hresults]
  exact
    { updated := hvalue .updated (by decide)
      unchanged := hvalue .unchanged (by decide)
      stale := hvalue .stale (by decide)
      skipped := hvalue .skipped (by decide)
      failed := hvalue .failed (by decide)
      total := by
        -- the tallies add up as numbers, so the counters do modulo 2^64
        have hsum := hget .total
        rw [tally_total_eq] at hsum
        simp only [UInt64.ofNat_add, ← hget] at hsum
        exact hsum
      advisories := by
        have hsum := congrArg UInt64.toNat (hget .advisories)
        rw [UInt64.toNat_ofNat', tally_advisories] at hsum
        exact hsum }

/-! ## The order of recording -/

/-- What is added to the counters at once. -/
inductive Addition where
  | advisories (count : Nat)
  | result (result : Except Failure Outcome)

/-- Makes an addition. -/
def Stats.add (stats : Stats) : Addition → Stats
  | .advisories count => stats.addAdvisories count
  | .result result => stats.recordResult result

/-- The additions by which a visit is recorded. -/
def Visit.additions (visit : Visit) : List Addition :=
  [.advisories visit.verdict.advisories.length, .result visit.result]

theorem foldl_flatMap_additions (visits : List Visit) (stats : Stats) :
    (visits.flatMap Visit.additions).foldl Stats.add stats = visits.foldl Visit.record stats := by
  rw [List.foldl_flatMap]
  rfl

theorem Stats.addAdvisories_recordResult (stats : Stats) (count : Nat)
    (result : Except Failure Outcome) :
    (stats.addAdvisories count).recordResult result =
      (stats.recordResult result).addAdvisories count := by
  cases result with
  | error failure => rfl
  | ok outcome => cases outcome <;> rfl

theorem Stats.recordResult_comm (stats : Stats) (first second : Except Failure Outcome) :
    (stats.recordResult first).recordResult second =
      (stats.recordResult second).recordResult first := by
  cases first with
  | error failure =>
      cases second with
      | error failure' => rfl
      | ok outcome => cases outcome <;> rfl
  | ok outcome =>
      cases second with
      | error failure => cases outcome <;> rfl
      | ok outcome' => cases outcome <;> cases outcome' <;> rfl

/-- Additions commute. -/
theorem Stats.add_add_comm (stats : Stats) (first second : Addition) :
    (stats.add first).add second = (stats.add second).add first := by
  cases first with
  | advisories count =>
      cases second with
      | advisories count' =>
          show Stats.mk _ _ _ _ _ _ (stats.advisories + count.toUInt64 + count'.toUInt64) = _
          rw [UInt64.add_assoc, UInt64.add_comm count.toUInt64, ← UInt64.add_assoc]
          rfl
      | result result => exact stats.addAdvisories_recordResult count result
  | result result =>
      cases second with
      | advisories count => exact (stats.addAdvisories_recordResult count result).symm
      | result result' => exact stats.recordResult_comm result result'

/-- The counters do not depend on the order in which visits are recorded, not even if the additions
of several visits mix. -/
theorem foldl_add_of_perm {visits : List Visit} {additions : List Addition}
    (hperm : additions.Perm (visits.flatMap Visit.additions)) (stats : Stats) :
    additions.foldl Stats.add stats = visits.foldl Visit.record stats := by
  have hcomm : RightCommutative Stats.add := ⟨Stats.add_add_comm⟩
  rw [hperm.foldl_eq stats, foldl_flatMap_additions]

/-- **The statistics balance.** For every session that starts with fresh counters, whichever
validators take part and however the files change in between:

* each counter of a result is the number of validations with that result, the total is the sum of
  these counters, and the advisories are those on all files that were accepted, modulo 2^64;
* no validator in a dry run moves the counter of updated files, and no other validator that of stale
  files;
* whenever the same additions are made in another order, the counters are the same. -/
theorem statistics_balance_over_session (tree : FileTree) (actions : List Action) :
    (Session.run ⟨tree, {}⟩ actions).stats.Balances (Session.validations ⟨tree, {}⟩ actions)
      ∧ (∀ (session : Session) (action : Action) (validator : Validator),
        action.validator? = some validator →
          (validator.dryRun = true →
            (session.next action).stats.updated = session.stats.updated)
          ∧ (validator.dryRun = false → (session.next action).stats.stale = session.stats.stale))
      ∧ ∀ additions : List Addition,
        additions.Perm ((Session.validations ⟨tree, {}⟩ actions).flatMap fun validation =>
          validation.visit.additions) →
        additions.foldl Stats.add {} = (Session.run ⟨tree, {}⟩ actions).stats := by
  rw [Session.stats_run]
  refine ⟨Stats.balances_foldl_record _, ?_, ?_⟩
  · intro session action validator hacts
    constructor
    · intro hdry
      refine Session.get_next_of_share_eq_zero .updated fun validation hmem => ?_
      rw [← Session.validator_of_mem_validationsOf hacts hmem] at hdry
      exact validation.share_updated_of_dry hdry
    · intro hwet
      refine Session.get_next_of_share_eq_zero .stale fun validation hmem => ?_
      rw [← Session.validator_of_mem_validationsOf hacts hmem] at hwet
      exact validation.share_stale_of_wet hwet
  · intro additions hperm
    refine foldl_add_of_perm ?_ _
    rw [List.flatMap_map]
    exact hperm

/-- A file is found stale in a dry run, updated, found up to date, and taken away. -/
def countedActions : List Action :=
  [.validate ⟨sampleProtocol, true⟩ ⟨"a.cs"⟩, .validate ⟨sampleProtocol, false⟩ ⟨"a.cs"⟩,
    .validate ⟨sampleProtocol, true⟩ ⟨"a.cs"⟩, .change (.empty []),
    .validate ⟨sampleProtocol, false⟩ ⟨"a.cs"⟩, .validate {} ⟨"a.txt"⟩]

theorem statistics_balance_over_countedActions :
    (Session.run ⟨sampleTree, {}⟩ countedActions).stats = ⟨5, 1, 1, 1, 1, 1, 3⟩
      ∧ (Session.run ⟨sampleTree, {}⟩ countedActions).stats.Balances
        (Session.validations ⟨sampleTree, {}⟩ countedActions)
      ∧ (((Session.validations ⟨sampleTree, {}⟩ countedActions).flatMap fun validation =>
        validation.visit.additions).reverse.foldl Stats.add {}) = ⟨5, 1, 1, 1, 1, 1, 3⟩ := by
  have hstats : (Session.run ⟨sampleTree, {}⟩ countedActions).stats = ⟨5, 1, 1, 1, 1, 1, 3⟩ := by
    decide +kernel
  obtain ⟨hbalances, -, horder⟩ := statistics_balance_over_session sampleTree countedActions
  exact ⟨hstats, hbalances, (horder _ (List.reverse_perm _)).trans hstats⟩

end RegionSync
