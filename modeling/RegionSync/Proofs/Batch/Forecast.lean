import RegionSync.Cli.Run
import RegionSync.Proofs.Batch.Isolation

set_option autoImplicit false

/-! # A dry run foretells a run

A dry run finds what a run finds, and where the run would write it says that the file is stale
(`Verdict.foretold`). Since a batch treats each file as if it were alone, the report of a dry batch
is the report of the batch over the same tree with every verdict replaced by what foretells it
(`visits_forecast`). A dry run does not try to write: a file that cannot be written is one more
stale file to it, where the run has a failure. Apart from that the two reports agree
(`dry_run_foretells_run`).
-/

namespace RegionSync

/-! ## One file -/

/-- What a dry run finds where a run has the given verdict. -/
def Verdict.foretold : Verdict → Verdict
  | updated result => .stale result
  | unwritable result _ => .stale result
  | verdict => verdict

namespace Visit

/-- What a dry run makes of a visit. -/
def foretold (visit : Visit) : Visit := ⟨visit.path, visit.verdict.foretold⟩

/-- Whether the file should have been updated but could not be written. -/
def isUnwritable (visit : Visit) : Bool :=
  match visit.verdict with
  | .unwritable _ _ => true
  | _ => false

end Visit

/-- Whether a file could not be written. -/
def Failure.isUnwritable : Failure → Bool
  | .unwritable _ _ => true
  | _ => false

namespace BatchReport

/-- The files that were updated, in order. -/
def updated (report : BatchReport) : List Path :=
  (report.visits.filter Visit.isUpdated).map Visit.path

/-- The files that could not be written, in order. -/
def unwritten (report : BatchReport) : List Path :=
  (report.failures.filter Failure.isUnwritable).map Failure.path

/-- The files that were updated or could not be written, in order. -/
def attempted (report : BatchReport) : List Path :=
  (report.visits.filter fun visit => visit.isUpdated || visit.isUnwritable).map Visit.path

end BatchReport

namespace Validator

variable {tree after : FileTree} {path root : Path} {protocol : Protocol}

theorem Examined.foretold {verdict : Verdict}
    (hexamined : Examined ⟨protocol, false⟩ tree path verdict after) :
    Examined ⟨protocol, true⟩ tree path verdict.foretold tree := by
  cases hexamined with
  | otherExtension hother => exact .otherExtension hother
  | unreadable error hwanted hfails => exact .unreadable error hwanted hfails
  | faulty text fault hwanted hreads hrefuses => exact .faulty text fault hwanted hreads hrefuses
  | notAnnotated text hwanted hreads hpasses => exact .notAnnotated text hwanted hreads hpasses
  | upToDate text result hwanted hreads haccepts hsame =>
      exact .upToDate text result hwanted hreads haccepts hsame
  | stale text result hwanted hreads houtdated hdry => cases hdry
  | updated text result location access hupdates =>
      have hreads := FileTree.readText_eq_ok_iff.mpr ⟨location, access, hupdates.reads⟩
      exact .stale text result hupdates.wanted hreads hupdates.outdated rfl
  | unwritable text result location access hwanted hreads houtdated hwet hclosed =>
      have hreads := FileTree.readText_eq_ok_iff.mpr ⟨location, access, hreads⟩
      exact .stale text result hwanted hreads houtdated rfl

/-- **A dry run foretells the verdict and leaves the tree as it is.** -/
theorem visit_dry (protocol : Protocol) (tree : FileTree) (path : Path) :
    Validator.visit ⟨protocol, true⟩ tree path =
      ((Validator.visit ⟨protocol, false⟩ tree path).1.foretold, tree) :=
  visit_eq_iff.mpr ⟨rfl, (examined_examine ⟨protocol, false⟩ tree path).foretold⟩

/-- A run that is not dry finds no file stale. -/
theorem isStale_visit (protocol : Protocol) (tree : FileTree) (path : Path) :
    (Validator.visit ⟨protocol, false⟩ tree path).1.isStale = false := by
  rw [Bool.eq_false_iff]
  intro hstale
  have houtcome : (Validator.visit ⟨protocol, false⟩ tree path).1.result = .ok .stale :=
    (Visit.isStale_iff _).mp hstale
  cases ((result_eq_stale_iff rfl).mp houtcome).1

/-- Where files that can be read can be written, no file is found unwritable. -/
theorem Examined.isUnwritable_eq_false {validator : Validator} {verdict : Verdict}
    (hexamined : validator.Examined tree path verdict after)
    (hwritable : tree.WritableIfReadable path) :
    (⟨path, verdict⟩ : Visit).isUnwritable = false := by
  cases hexamined with
  | unwritable text result location access hwanted hreads houtdated hwet hclosed =>
      have hopened := hwritable location _ access hreads.leads hreads.holds hreads.readable
      rw [hclosed] at hopened
      cases hopened
  | _ => rfl

end Validator

namespace Visit

variable {visit : Visit}

theorem isStale_foretold (hwet : visit.isStale = false) :
    visit.foretold.isStale = (visit.isUpdated || visit.isUnwritable) := by
  obtain ⟨path, verdict⟩ := visit
  cases verdict with
  | stale result => cases hwet
  | _ => rfl

theorem failure?_foretold (visit : Visit) :
    visit.foretold.failure? = visit.failure?.filter fun failure => !failure.isUnwritable := by
  obtain ⟨path, verdict⟩ := visit
  cases verdict <;> rfl

/-- The shares that a dry run has in common with the run. -/
theorem share_foretold (visit : Visit) {counter : Counter}
    (h : counter ∈ [Counter.total, .unchanged, .skipped, .advisories]) :
    visit.foretold.verdict.share counter = visit.verdict.share counter := by
  obtain ⟨path, verdict⟩ := visit
  cases verdict <;> cases counter <;> first | rfl | simp at h

theorem share_stale_foretold (hwet : visit.isStale = false) :
    visit.foretold.verdict.share .stale =
      visit.verdict.share .updated + if visit.isUnwritable then 1 else 0 := by
  obtain ⟨path, verdict⟩ := visit
  cases verdict with
  | stale result => cases hwet
  | _ => rfl

theorem share_failed_eq_foretold (visit : Visit) :
    visit.verdict.share .failed =
      visit.foretold.verdict.share .failed + if visit.isUnwritable then 1 else 0 := by
  obtain ⟨path, verdict⟩ := visit
  cases verdict <;> rfl

theorem share_updated_foretold (hwet : visit.isStale = false) :
    visit.foretold.verdict.share .updated = visit.verdict.share .stale := by
  obtain ⟨path, verdict⟩ := visit
  cases verdict with
  | stale result => cases hwet
  | _ => rfl

/-- A dry run is content with a file exactly if the run is and does not update it. -/
theorem content_foretold_iff (visit : Visit) :
    (visit.foretold.failure? = none ∧ visit.foretold.isStale = false) ↔
      (visit.failure? = none ∧ visit.isStale = false) ∧ visit.isUpdated = false := by
  obtain ⟨path, verdict⟩ := visit
  cases verdict <;>
    simp [foretold, Verdict.foretold, failure?, result, Verdict.result, isStale, isUpdated]

/-- A file that could not be written is a failure that says so. -/
theorem isUnwritable_eq_any (visit : Visit) :
    visit.isUnwritable = visit.failure?.any Failure.isUnwritable := by
  obtain ⟨path, verdict⟩ := visit
  cases verdict <;> rfl

end Visit

/-! ## Reports -/

namespace BatchReport

variable {report forecast : BatchReport}

theorem isClean_iff :
    report.isClean = true ↔
      ∀ visit ∈ report.visits, visit.failure? = none ∧ visit.isStale = false := by
  rw [isClean, Bool.and_eq_true, List.isEmpty_iff, List.isEmpty_iff, failures, stale,
    List.filterMap_eq_nil_iff, List.map_eq_nil_iff, List.filter_eq_nil_iff]
  simp only [Bool.not_eq_true]
  exact forall₂_and.symm

/-- A dry run has nothing to report exactly if the run has nothing to report and updates nothing. -/
theorem isClean_forecast_iff (hvisits : forecast.visits = report.visits.map Visit.foretold) :
    forecast.isClean = true ↔
      report.isClean = true ∧ ∀ visit ∈ report.visits, visit.isUpdated = false := by
  rw [isClean_iff, isClean_iff, hvisits, ← forall₂_and]
  simp only [List.forall_mem_map, Visit.content_foretold_iff]

theorem mem_updated_iff {path : Path} :
    path ∈ report.updated ↔ ∃ visit ∈ report.visits, visit.isUpdated = true ∧ visit.path = path := by
  simp only [updated, List.mem_map, List.mem_filter, and_assoc]

/-- The files that could not be written, as a matter of the visits. -/
theorem unwritten_eq (report : BatchReport) :
    report.unwritten = (report.visits.filter Visit.isUnwritable).map Visit.path := by
  unfold unwritten failures
  induction report.visits with
  | nil => rfl
  | cons visit visits ih =>
      rw [List.filterMap_cons, List.filter_cons, visit.isUnwritable_eq_any]
      cases hfails : visit.failure? with
      | none => simpa using ih
      | some failure =>
          have hnamed := Visit.path_of_failure? hfails
          rw [Option.any_some]
          by_cases hunwritable : failure.isUnwritable = true
          · simp only [List.filter_cons_of_pos hunwritable, List.map_cons, if_pos hunwritable, ih,
              hnamed]
          · simp only [List.filter_cons_of_neg hunwritable, if_neg hunwritable, ih]

/-- What the report of a dry run says about the report of the run. -/
structure Foretells (forecast report : BatchReport) : Prop where
  /-- What is stale is what the run updates or fails to write. -/
  stale : forecast.stale = report.attempted
  /-- The failures are those of the run, apart from files that it fails to write. -/
  failures : forecast.failures = report.failures.filter fun failure => !failure.isUnwritable
  total : forecast.stats.total = report.stats.total
  unchanged : forecast.stats.unchanged = report.stats.unchanged
  skipped : forecast.stats.skipped = report.stats.skipped
  advisories : forecast.stats.advisories = report.stats.advisories
  /-- The counters of stale and of updated files change places, -/
  updated_eq : forecast.stats.updated = report.stats.stale
  stale_eq : forecast.stats.stale =
    report.stats.updated + UInt64.ofNat report.unwritten.length
  /-- and a file that the run fails to write is stale where the run counts a failure. -/
  failed_eq : report.stats.failed =
    forecast.stats.failed + UInt64.ofNat report.unwritten.length

section Foretold

variable (hvisits : forecast.visits = report.visits.map Visit.foretold)
include hvisits

theorem stale_of_foretold (hwet : ∀ visit ∈ report.visits, visit.isStale = false) :
    forecast.stale = report.attempted := by
  rw [stale, attempted, hvisits, List.filter_map, List.map_map]
  congr 1
  exact List.filter_congr fun visit hmem => Visit.isStale_foretold (hwet visit hmem)

theorem failures_of_foretold :
    forecast.failures = report.failures.filter fun failure => !failure.isUnwritable := by
  rw [failures, failures, hvisits, List.filterMap_map, List.filter_filterMap]
  congr 1
  funext visit
  exact visit.failure?_foretold

/-- The files that the run fails to write are stale to the dry run, -/
theorem tally_stale_of_foretold (hwet : ∀ visit ∈ report.visits, visit.isStale = false) :
    tally forecast.visits .stale = tally report.visits .updated + report.unwritten.length := by
  have hadded : tally (report.visits.map Visit.foretold) .stale =
      tally (report.visits.map id) .updated + (report.visits.filter Visit.isUnwritable).length :=
    tally_map_eq_add fun visit hmem => Visit.share_stale_foretold (hwet visit hmem)
  rw [hvisits, hadded, List.map_id, unwritten_eq, List.length_map]

/-- and failures to the run. -/
theorem tally_failed_of_foretold :
    tally report.visits .failed = tally forecast.visits .failed + report.unwritten.length := by
  have hadded : tally (report.visits.map id) .failed =
      tally (report.visits.map Visit.foretold) .failed +
        (report.visits.filter Visit.isUnwritable).length :=
    tally_map_eq_add fun visit _ => visit.share_failed_eq_foretold
  rw [List.map_id] at hadded
  rw [hvisits, hadded, unwritten_eq, List.length_map]

/-- A report in which every verdict is replaced by what foretells it foretells the report. -/
theorem Foretells.of_visits (hwet : ∀ visit ∈ report.visits, visit.isStale = false)
    (hcounted : forecast.Counted) (hcounted' : report.Counted) : forecast.Foretells report := by
  have hcommon : ∀ counter ∈ [Counter.total, .unchanged, .skipped, .advisories],
      forecast.stats.get counter = report.stats.get counter := by
    intro counter hmem
    have hsame : tally (report.visits.map Visit.foretold) counter =
        tally (report.visits.map id) counter :=
      tally_map_congr fun visit _ => visit.share_foretold hmem
    rw [List.map_id, ← hvisits] at hsame
    exact hcounted.get_eq hcounted' hsame
  have hexchanged : tally (report.visits.map Visit.foretold) .updated =
      tally (report.visits.map id) .stale :=
    tally_map_congr fun visit hmem => Visit.share_updated_foretold (hwet visit hmem)
  rw [List.map_id, ← hvisits] at hexchanged
  exact
    { stale := stale_of_foretold hvisits hwet
      failures := failures_of_foretold hvisits
      total := hcommon .total (by simp)
      unchanged := hcommon .unchanged (by simp)
      skipped := hcommon .skipped (by simp)
      advisories := hcommon .advisories (by simp)
      updated_eq := hcounted.get_eq hcounted' hexchanged
      stale_eq := hcounted.get_eq_add hcounted' (tally_stale_of_foretold hvisits hwet)
      failed_eq := hcounted'.get_eq_add hcounted (tally_failed_of_foretold hvisits) }

end Foretold

/-- Where every file that is to be updated can be written, the forecast is the report with stale files
for updated ones. -/
theorem Foretells.of_unwritten_eq_nil (hforetells : forecast.Foretells report)
    (hwritten : report.unwritten = []) :
    forecast.stale = report.updated ∧ forecast.failures = report.failures
      ∧ forecast.stats.stale = report.stats.updated
      ∧ forecast.stats.failed = report.stats.failed := by
  have hopen_of_mem : ∀ visit ∈ report.visits, visit.isUnwritable = false := by
    rw [unwritten_eq, List.map_eq_nil_iff, List.filter_eq_nil_iff] at hwritten
    simpa using hwritten
  refine ⟨?_, ?_, ?_, ?_⟩
  · rw [hforetells.stale, attempted, updated]
    congr 1
    refine List.filter_congr fun visit hmem => ?_
    rw [hopen_of_mem visit hmem, Bool.or_false]
  · rw [hforetells.failures, List.filter_eq_self]
    intro failure hmem
    obtain ⟨visit, hmem, hfails⟩ := List.mem_filterMap.mp hmem
    have hopened := hopen_of_mem visit hmem
    rw [visit.isUnwritable_eq_any, hfails, Option.any_some] at hopened
    rw [hopened, Bool.not_false]
  · rw [hforetells.stale_eq, hwritten]
    exact UInt64.add_zero _
  · rw [hforetells.failed_eq, hwritten]
    exact (UInt64.add_zero _).symm

end BatchReport

/-! ## Batches -/

namespace Validator

variable {tree after : FileTree} {root path : Path} {protocol : Protocol} {stats : Stats}
variable {report : BatchReport} {validator : Validator}

/-- A dry batch leaves the tree as it is, and each of its visits foretells the visit that a run would
begin with. -/
theorem runBatch_dry (protocol : Protocol) (stats : Stats) (tree : FileTree) (root : Path) :
    ∃ forecast, runBatch ⟨protocol, true⟩ stats tree root = (forecast, tree)
      ∧ forecast.visits =
        (tree.list root).map fun path => (visit ⟨protocol, false⟩ tree path).1.foretold := by
  have hkept : ∀ path ∈ tree.list root,
      (visit ⟨protocol, true⟩ tree path).1.result ≠ .ok .updated := by
    intro path _ hupdated
    obtain ⟨location, access, text, result, hupdates⟩ := exists_updates_of_visit rfl hupdated
    cases hupdates.wet
  have hall := visitAll_of_not_updated hkept
  simp only [visit_dry] at hall
  have hfirst : (visitAll ⟨protocol, true⟩ (tree.list root) tree).1 =
      (tree.list root).map fun path => (visit ⟨protocol, false⟩ tree path).1.foretold := by
    rw [hall]
  have hlast : (visitAll ⟨protocol, true⟩ (tree.list root) tree).2 = tree := by
    rw [hall]
  exact ⟨_, Prod.ext rfl hlast, hfirst⟩

/-- **The report of a dry batch is the report of the batch with every verdict foretold.** -/
theorem visits_forecast (hapart : tree.ListsApart root)
    (h : runBatch ⟨protocol, false⟩ stats tree root = (report, after)) :
    ∃ forecast, runBatch ⟨protocol, true⟩ stats tree root = (forecast, tree)
      ∧ forecast.visits = report.visits.map Visit.foretold := by
  obtain ⟨forecast, hdry, hvisits⟩ := runBatch_dry protocol stats tree root
  refine ⟨forecast, hdry, ?_⟩
  rw [hvisits, (visits_runBatch hapart h).1, List.map_map]
  rfl

theorem isStale_of_mem_visits (hapart : tree.ListsApart root)
    (h : runBatch ⟨protocol, false⟩ stats tree root = (report, after)) :
    ∀ visit ∈ report.visits, visit.isStale = false := by
  rw [(visits_runBatch hapart h).1]
  intro visit hmem
  obtain ⟨path, -, rfl⟩ := List.mem_map.mp hmem
  exact isStale_visit protocol tree path

theorem exists_foretells (hapart : tree.ListsApart root)
    (h : runBatch ⟨protocol, false⟩ {} tree root = (report, after)) :
    ∃ forecast, runBatch ⟨protocol, true⟩ {} tree root = (forecast, tree)
      ∧ forecast.Foretells report := by
  obtain ⟨forecast, hdry, hvisits⟩ := visits_forecast hapart h
  exact ⟨forecast, hdry,
    .of_visits hvisits (isStale_of_mem_visits hapart h) (counted_runBatch hdry)
      (counted_runBatch h)⟩

/-! ## What is updated -/

/-- A visit changes the bytes of the file exactly if it says that it updated the file. -/
theorem content?_visit_ne_iff {location : Location} (hleads : tree.resolve path = .ok location) :
    (validator.visit tree path).2.content? location ≠ tree.content? location ↔
      (validator.visit tree path).1.isUpdated = true := by
  rcases validator.visit_cases tree path with
    ⟨hother, hsame⟩ | ⟨place, access, text, result, hupdates⟩
  · rw [Visit.isUpdated_iff, hsame]
    exact ⟨fun hdiffers => absurd rfl hdiffers, fun hupdated => absurd hupdated hother⟩
  · obtain rfl : place = location := Except.ok.inj (hupdates.reads.leads.symm.trans hleads)
    rw [hupdates.visit_eq]
    exact ⟨fun _ => rfl, fun _ => hupdates.content?_ne⟩

/-- The updated files are those that hold other bytes afterwards. -/
theorem mem_updated_iff_content? (hapart : tree.ListsApart root)
    (h : validator.runBatch stats tree root = (report, after)) (hmem : path ∈ tree.list root)
    {location : Location} (hleads : tree.resolve path = .ok location) :
    path ∈ report.updated ↔ after.content? location ≠ tree.content? location := by
  obtain ⟨hvisits, hvalidated⟩ := visits_runBatch hapart h
  have hnow : after.content? location = (validator.visit tree path).2.content? location := by
    simp only [FileTree.content?, hvalidated.file path hmem location hleads]
  rw [hnow, content?_visit_ne_iff hleads, BatchReport.mem_updated_iff, hvisits]
  constructor
  · rintro ⟨visit, hmem', hupdated, hpath⟩
    obtain ⟨path', -, rfl⟩ := List.mem_map.mp hmem'
    rw [path_visit] at hpath
    rwa [← hpath]
  · intro hupdated
    exact ⟨_, List.mem_map_of_mem hmem, hupdated, rfl⟩

/-- A batch that updates no file writes nothing. -/
theorem after_eq_iff (hapart : tree.ListsApart root)
    (h : validator.runBatch stats tree root = (report, after)) :
    after = tree ↔ ∀ visit ∈ report.visits, visit.isUpdated = false := by
  have hvisits := (visits_runBatch hapart h).1
  constructor
  · intro hsame visit hmem
    rw [hvisits] at hmem
    obtain ⟨path, hlisted, rfl⟩ := List.mem_map.mp hmem
    rw [Bool.eq_false_iff]
    intro hupdated
    obtain ⟨location, access, text, result, hupdates⟩ :=
      exists_updates_of_visit rfl ((Visit.isUpdated_iff _).mp hupdated)
    have hmem' : path ∈ report.updated :=
      BatchReport.mem_updated_iff.mpr ⟨_, hvisits ▸ hmem, hupdated, rfl⟩
    exact (mem_updated_iff_content? hapart h hlisted hupdates.reads.leads).mp hmem' (by rw [hsame])
  · intro hnone_updated
    have hkept : ∀ path ∈ tree.list root, (validator.visit tree path).1.result ≠ .ok .updated := by
      intro path hmem hupdated
      have hmem' : (validator.visit tree path).1 ∈ report.visits :=
        hvisits ▸ List.mem_map_of_mem hmem
      rw [← Visit.isUpdated_iff, hnone_updated _ hmem'] at hupdated
      cases hupdated
    have hlast : (validator.visitAll (tree.list root) tree).2 = tree := by
      rw [visitAll_of_not_updated hkept]
    cases h
    exact hlast

end Validator

/-! ## The check command -/

namespace Cli

variable {config : Config} {dryRun : Bool} {tree after : FileTree} {report : BatchReport}

theorem reportError?_eq_none_iff : reportError? report = none ↔ report.isClean = true := by
  unfold reportError? BatchReport.isClean
  cases report.failures.isEmpty <;> cases report.stale.isEmpty <;> simp

/-- A check of a root that cannot be listed fails. -/
theorem runCheck_of_checkScan_error {error : ScanError}
    (hrefused : tree.checkScan config.rootPath = .error error) (dryRun json : Bool) :
    (runCheck config dryRun json tree).error ≠ none := by
  simp [runCheck, Validator.batch, hrefused]

theorem runCheck_of_runBatch (hstarts : tree.checkScan config.rootPath = .ok ())
    (hrun : Validator.runBatch ⟨config.protocol, dryRun⟩ {} tree config.rootPath = (report, after))
    (json : Bool) :
    ((runCheck config dryRun json tree).error = none ↔ report.isClean = true)
      ∧ (runCheck config dryRun json tree).tree = after := by
  simp only [runCheck, Validator.batch, hstarts, hrun, reportError?_eq_none_iff, and_self]

/-- A check succeeds in a dry run exactly if it would succeed without and write nothing. -/
theorem runCheck_dry_iff (hapart : tree.ListsApart config.rootPath) (json : Bool) :
    (runCheck config true json tree).error = none ↔
      (runCheck config false json tree).error = none
        ∧ (runCheck config false json tree).tree = tree := by
  cases hstarts : tree.checkScan config.rootPath with
  | error error =>
      have hdry := runCheck_of_checkScan_error hstarts true json
      have hwet := runCheck_of_checkScan_error hstarts false json
      exact ⟨fun hsucceeds => absurd hsucceeds hdry, fun hsucceeds => absurd hsucceeds.1 hwet⟩
  | ok _ =>
      obtain ⟨report, after, hrun⟩ : ∃ report after,
          Validator.runBatch ⟨config.protocol, false⟩ {} tree config.rootPath = (report, after) :=
        ⟨_, _, rfl⟩
      obtain ⟨forecast, hdry, hvisits⟩ := Validator.visits_forecast hapart hrun
      rw [(runCheck_of_runBatch hstarts hdry json).1, (runCheck_of_runBatch hstarts hrun json).1,
        (runCheck_of_runBatch hstarts hrun json).2, Validator.after_eq_iff hapart hrun]
      exact BatchReport.isClean_forecast_iff hvisits

end Cli

theorem Validator.unwritten_eq_nil {validator : Validator} {stats : Stats} {tree after : FileTree}
    {root : Path} {report : BatchReport} (hapart : tree.ListsApart root)
    (h : validator.runBatch stats tree root = (report, after))
    (hwritable : ∀ path ∈ tree.list root, tree.WritableIfReadable path) :
    report.unwritten = [] := by
  rw [BatchReport.unwritten_eq, (visits_runBatch hapart h).1, List.map_eq_nil_iff,
    List.filter_eq_nil_iff]
  intro visit hmem
  obtain ⟨path, hlisted, rfl⟩ := List.mem_map.mp hmem
  have hexamined := validator.examined_examine tree path
  exact Bool.eq_false_iff.mp (hexamined.isUnwritable_eq_false (hwritable path hlisted))

/-- **A dry run foretells a run.** For every tree in which no two listed names denote the same file,
every protocol and fresh counters:

* a batch that cannot start cannot start in a dry run either, for the same reason;
* otherwise a dry batch leaves the tree as it is, and its report foretells the report of the batch:
  it has for stale, in the same order, the files that the batch updates or fails to write, and it
  has the same failures and the same counters, apart from the files that the batch fails to write;
* the updated files are those that hold other bytes afterwards;
* where files that can be read can be written, no file fails to be written, and then the two reports
  differ in nothing but the exchange of stale and updated files;
* the check command succeeds in a dry run exactly if it would succeed without and write nothing. -/
theorem dry_run_foretells_run (config : Config) {tree : FileTree}
    (hapart : tree.ListsApart config.rootPath) :
    (∀ error, Validator.batch ⟨config.protocol, true⟩ {} tree config.rootPath = .error error
        ↔ Validator.batch ⟨config.protocol, false⟩ {} tree config.rootPath = .error error)
      ∧ (∀ report after,
          Validator.batch ⟨config.protocol, false⟩ {} tree config.rootPath = .ok (report, after) →
          ∃ forecast,
            Validator.batch ⟨config.protocol, true⟩ {} tree config.rootPath = .ok (forecast, tree)
              ∧ forecast.Foretells report
              ∧ (∀ path ∈ tree.list config.rootPath, ∀ location, tree.resolve path = .ok location →
                  (path ∈ report.updated ↔ after.content? location ≠ tree.content? location))
              ∧ ((∀ path ∈ tree.list config.rootPath, tree.WritableIfReadable path) →
                  report.unwritten = [])
              ∧ (report.unwritten = [] →
                  forecast.stale = report.updated ∧ forecast.failures = report.failures
                    ∧ forecast.stats.stale = report.stats.updated
                    ∧ forecast.stats.failed = report.stats.failed))
      ∧ (∀ json, (Cli.runCheck config true json tree).error = none
          ↔ (Cli.runCheck config false json tree).error = none
            ∧ (Cli.runCheck config false json tree).tree = tree) := by
  refine ⟨?_, ?_, ?_⟩
  · intro error
    rw [Validator.batch_eq_error_iff, Validator.batch_eq_error_iff]
  · intro report after h
    obtain ⟨hstarts, hrun⟩ := Validator.batch_eq_ok_iff.mp h
    obtain ⟨forecast, hdry, hforetells⟩ := Validator.exists_foretells hapart hrun
    refine ⟨forecast, Validator.batch_eq_ok_iff.mpr ⟨hstarts, hdry⟩, hforetells, ?_,
      Validator.unwritten_eq_nil hapart hrun, hforetells.of_unwritten_eq_nil⟩
    intro path hmem location hleads
    exact Validator.mem_updated_iff_content? hapart hrun hmem hleads
  · intro json
    exact Cli.runCheck_dry_iff hapart json

theorem visits_mixedTree {report : BatchReport} {after : FileTree}
    (hrun : Validator.runBatch ⟨sampleProtocol, false⟩ {} mixedTree ⟨"."⟩ = (report, after)) :
    report.visits = [⟨"./a.cs"⟩, ⟨"./b.cs"⟩, ⟨"./c.txt"⟩, ⟨"./d.cs"⟩].map fun path =>
      (Validator.visit ⟨sampleProtocol, false⟩ mixedTree path).1 := by
  rw [(Validator.visits_runBatch listsApart_mixedTree hrun).1, list_mixedTree]

/-- In the directory with a file that cannot be written, that file is stale to the dry run and a
failure to the run. -/
theorem dry_run_foretells_run_over_mixedTree :
    mixedTree.ListsApart ⟨"."⟩ ∧ ∃ report after forecast,
      Validator.batch ⟨sampleProtocol, false⟩ {} mixedTree ⟨"."⟩ = .ok (report, after)
        ∧ Validator.batch ⟨sampleProtocol, true⟩ {} mixedTree ⟨"."⟩ = .ok (forecast, mixedTree)
        ∧ report.updated = [⟨"./a.cs"⟩] ∧ report.unwritten = [⟨"./d.cs"⟩]
        ∧ forecast.stale = [⟨"./a.cs"⟩, ⟨"./d.cs"⟩]
        ∧ forecast.failures.map Failure.path = [⟨"./b.cs"⟩]
        ∧ report.stats.failed = forecast.stats.failed + 1 := by
  obtain ⟨report, after, h⟩ : ∃ report after,
      Validator.batch ⟨sampleProtocol, false⟩ {} mixedTree ⟨"."⟩ = .ok (report, after) :=
    ⟨_, _, Validator.batch_eq_ok_iff.mpr ⟨by decide +kernel, rfl⟩⟩
  have hvisits := visits_mixedTree (Validator.batch_eq_ok_iff.mp h).2
  obtain ⟨-, hruns, -⟩ := dry_run_foretells_run { protocol := sampleProtocol, rootPath := ⟨"."⟩ }
    listsApart_mixedTree
  obtain ⟨forecast, hdry, hforetells, -⟩ := hruns report after h
  have hunwritten : report.unwritten = [⟨"./d.cs"⟩] := by
    rw [BatchReport.unwritten, BatchReport.failures, hvisits]
    decide +kernel
  refine ⟨listsApart_mixedTree, report, after, forecast, h, hdry, ?_, hunwritten, ?_, ?_, ?_⟩
  · rw [BatchReport.updated, hvisits]
    decide +kernel
  · rw [hforetells.stale, BatchReport.attempted, hvisits]
    decide +kernel
  · rw [hforetells.failures, BatchReport.failures, hvisits]
    decide +kernel
  · rw [hforetells.failed_eq, hunwritten]
    rfl

/-- A directory with one file, which is not up to date and cannot be written. -/
def lockedTree : FileTree where
  entries := [([.text "a.cs"], .file (Text.encode sampleText) { write := false })]
  workingDir := []

theorem list_lockedTree : lockedTree.list ⟨"."⟩ = [⟨"./a.cs"⟩] :=
  FileTree.list_eq_of_pairwise (by decide +kernel) (by decide +kernel)

theorem listsApart_lockedTree : lockedTree.ListsApart ⟨"."⟩ :=
  (FileTree.properlyNamed_of_entries (by decide +kernel)).listsApart ⟨"."⟩

theorem visits_lockedTree {report : BatchReport} {after : FileTree}
    (hrun : Validator.runBatch ⟨sampleProtocol, false⟩ {} lockedTree ⟨"."⟩ = (report, after)) :
    report.visits = [(Validator.visit ⟨sampleProtocol, false⟩ lockedTree ⟨"./a.cs"⟩).1] := by
  rw [(Validator.visits_runBatch listsApart_lockedTree hrun).1, list_lockedTree]
  rfl

/-- What a dry run has for stale is not always what the run updates: a dry run does not find out that
a file cannot be written. -/
theorem dry_run_stale_ne_updated_over_lockedTree :
    lockedTree.ListsApart ⟨"."⟩ ∧ ∃ report after forecast,
      Validator.batch ⟨sampleProtocol, false⟩ {} lockedTree ⟨"."⟩ = .ok (report, after)
        ∧ Validator.batch ⟨sampleProtocol, true⟩ {} lockedTree ⟨"."⟩ = .ok (forecast, lockedTree)
        ∧ forecast.stale = [⟨"./a.cs"⟩] ∧ report.updated = []
        ∧ forecast.failures = [] ∧ report.failures = [.unwritable ⟨"./a.cs"⟩ .denied]
        ∧ forecast.stats.failed = 0 ∧ report.stats.failed = 1
        ∧ forecast.stats.stale = 1 ∧ report.stats.updated = 0 := by
  obtain ⟨report, after, hrun⟩ : ∃ report after,
      Validator.runBatch ⟨sampleProtocol, false⟩ {} lockedTree ⟨"."⟩ = (report, after) := ⟨_, _, rfl⟩
  obtain ⟨forecast, hdry, hforetold⟩ := Validator.visits_forecast listsApart_lockedTree hrun
  have hstarts : lockedTree.checkScan ⟨"."⟩ = .ok () := by decide +kernel
  have hvisits := visits_lockedTree hrun
  rw [hvisits] at hforetold
  have hcounted := Validator.counted_runBatch hrun
  have hcounted' := Validator.counted_runBatch hdry
  rw [BatchReport.Counted, hvisits] at hcounted
  rw [BatchReport.Counted, hforetold] at hcounted'
  refine ⟨listsApart_lockedTree, report, after, forecast,
    Validator.batch_eq_ok_iff.mpr ⟨hstarts, hrun⟩, Validator.batch_eq_ok_iff.mpr ⟨hstarts, hdry⟩,
    ?_, ?_, ?_, ?_, ?_, ?_, ?_, ?_⟩
  · rw [BatchReport.stale, hforetold]
    decide +kernel
  · rw [BatchReport.updated, hvisits]
    decide +kernel
  · rw [BatchReport.failures, hforetold]
    decide +kernel
  · rw [BatchReport.failures, hvisits]
    decide +kernel
  · exact (hcounted' .failed).trans (by decide +kernel)
  · exact (hcounted .failed).trans (by decide +kernel)
  · exact (hcounted' .stale).trans (by decide +kernel)
  · exact (hcounted .updated).trans (by decide +kernel)

end RegionSync
