import RegionSync.Proofs.Batch.Forecast

set_option autoImplicit false

/-! # One batch is enough

A file that a batch updated is up to date afterwards, with the same fields and advisories as before,
and every other file is found as it was found (`Verdict.settled`). Since the files do not get in each
other's way, a second batch over what the first one left finds every file settled
(`visits_again`) and writes nothing. The files that could not be written remain stale: the second
batch fails on them again, and a dry run reports them (`second_batch_finds_files_settled`).
-/

namespace RegionSync

/-! ## One file -/

/-- What is found afterwards where a validation had the given verdict. -/
def Verdict.settled : Verdict → Verdict
  | updated result => .upToDate { result with changed := false }
  | verdict => verdict

/-- What a second validation makes of a visit. -/
def Visit.settled (visit : Visit) : Visit := ⟨visit.path, visit.verdict.settled⟩

namespace Validator

variable {validator : Validator} {tree after : FileTree} {path root : Path}

/-- Validating a file again finds it settled and leaves the tree as it is. -/
theorem Examined.again {verdict : Verdict}
    (hexamined : validator.Examined tree path verdict after) :
    validator.Examined after path verdict.settled after := by
  cases hexamined with
  | otherExtension hother => exact .otherExtension hother
  | unreadable error hwanted hfails => exact .unreadable error hwanted hfails
  | faulty text fault hwanted hreads hrefuses => exact .faulty text fault hwanted hreads hrefuses
  | notAnnotated text hwanted hreads hpasses => exact .notAnnotated text hwanted hreads hpasses
  | upToDate text result hwanted hreads haccepts hsame =>
      exact .upToDate text result hwanted hreads haccepts hsame
  | stale text result hwanted hreads houtdated hdry =>
      exact .stale text result hwanted hreads houtdated hdry
  | updated text result location access hupdates =>
      obtain ⟨hwanted, hreads, houtdated, -, -⟩ := hupdates
      set next := tree.set location (.file (Text.encode result.text) access)
      have houtline : tree.SameOutline next := FileTree.sameOutline_set hreads.holds _
      have hnamed := FileTree.ne_nil_of_waymark?_eq_none hreads.waymark?_eq_none
      -- the path still leads there, and there the new text is read
      have hreadsNext : next.Reads path location access result.text :=
        ⟨(houtline.resolve_eq path).trans hreads.leads, FileTree.get?_set_self _ _ _ hnamed,
          hreads.readable⟩
      exact .upToDate result.text _ hwanted
        (FileTree.readText_eq_ok_iff.mpr ⟨location, access, hreadsNext⟩)
        (regenerate_again houtdated.accepts) rfl
  | unwritable text result location access hwanted hreads houtdated hwet hclosed =>
      exact .unwritable text result location access hwanted hreads houtdated hwet hclosed

/-- In a tree that agrees on the file with what a visit left, the file is found settled. -/
theorem visit_again (hagrees : (validator.visit tree path).2.AgreesOn path after) :
    (validator.visit after path).1 = (validator.visit tree path).1.settled := by
  have hagain : validator.visit (validator.visit tree path).2 path =
      ((validator.visit tree path).1.settled, (validator.visit tree path).2) :=
    visit_eq_iff.mpr ⟨rfl, (validator.examined_examine tree path).again⟩
  rw [(visit_of_agreesOn hagrees).1, hagain]

/-- After a batch each file is as its own visit left it. -/
theorem Validated.agreesOn {paths : List Path} (hvalidated : validator.Validated tree paths after)
    (hmem : path ∈ paths) : (validator.visit tree path).2.AgreesOn path after where
  outline := (validator.sameOutline_visit tree path).symm.trans hvalidated.outline
  file := by
    intro location hleads
    rw [(validator.sameOutline_visit tree path).resolve_eq] at hleads
    exact hvalidated.file path hmem location hleads

end Validator

/-! ## A second batch -/

theorem FileTree.SameOutline.listsApart {tree after : FileTree} {root : Path}
    (hsame : tree.SameOutline after) (hapart : tree.ListsApart root) : after.ListsApart root := by
  unfold ListsApart
  rw [hsame.list_eq (hapart.imp And.left)]
  simp only [hsame.resolve_eq]
  exact hapart

namespace Validator

variable {validator : Validator} {tree after : FileTree} {root : Path} {stats : Stats}
variable {first : BatchReport}

/-- **A second batch finds every file settled and writes nothing.** -/
theorem visits_again (hapart : tree.ListsApart root)
    (h : validator.runBatch stats tree root = (first, after)) :
    ∃ second, validator.runBatch stats after root = (second, after)
      ∧ second.visits = first.visits.map Visit.settled := by
  obtain ⟨hvisits, hvalidated⟩ := visits_runBatch hapart h
  have hapart' : after.ListsApart root := hvalidated.outline.listsApart hapart
  have hlist_eq : after.list root = tree.list root :=
    hvalidated.outline.list_eq (hapart.imp And.left)
  obtain ⟨second, last, hagain⟩ : ∃ second last,
      validator.runBatch stats after root = (second, last) := ⟨_, _, rfl⟩
  have hvisits' : second.visits = first.visits.map Visit.settled := by
    rw [(visits_runBatch hapart' hagain).1, hvisits, hlist_eq, List.map_map]
    exact List.map_congr_left fun path hmem => visit_again (hvalidated.agreesOn hmem)
  -- no settled verdict says that a file was updated
  have hkept : last = after := by
    rw [after_eq_iff hapart' hagain, hvisits']
    intro visit hmem
    obtain ⟨⟨path, verdict⟩, -, rfl⟩ := List.mem_map.mp hmem
    cases verdict <;> rfl
  exact ⟨second, hkept ▸ hagain, hvisits'⟩

end Validator

namespace Visit

theorem failure?_settled (visit : Visit) : visit.settled.failure? = visit.failure? := by
  obtain ⟨path, verdict⟩ := visit
  cases verdict <;> rfl

theorem attempted_settled (visit : Visit) :
    (visit.settled.isUpdated || visit.settled.isUnwritable) = visit.isUnwritable := by
  obtain ⟨path, verdict⟩ := visit
  cases verdict <;> rfl

/-- The shares that a second visit has in common with the first. -/
theorem share_settled (visit : Visit) {counter : Counter}
    (h : counter ∈ [Counter.total, .stale, .skipped, .failed, .advisories]) :
    visit.settled.verdict.share counter = visit.verdict.share counter := by
  obtain ⟨path, verdict⟩ := visit
  cases verdict <;> cases counter <;> first | rfl | simp at h

theorem share_updated_settled (visit : Visit) : visit.settled.verdict.share .updated = 0 := by
  obtain ⟨path, verdict⟩ := visit
  cases verdict <;> rfl

theorem share_unchanged_settled (visit : Visit) :
    visit.settled.verdict.share .unchanged =
      visit.verdict.share .updated + visit.verdict.share .unchanged := by
  obtain ⟨path, verdict⟩ := visit
  cases verdict <;> rfl

end Visit

/-! ## The reports of the two -/

namespace BatchReport

variable {first second : BatchReport}

/-- What the report of a second batch says, given the report of the first. -/
structure Repeats (second first : BatchReport) : Prop where
  failures : second.failures = first.failures
  updated : second.stats.updated = 0
  stale : second.stats.stale = 0
  /-- What was updated is up to date now. -/
  unchanged : second.stats.unchanged = first.stats.updated + first.stats.unchanged
  total : second.stats.total = first.stats.total
  skipped : second.stats.skipped = first.stats.skipped
  failed : second.stats.failed = first.stats.failed
  advisories : second.stats.advisories = first.stats.advisories

section Settled

variable (hvisits : second.visits = first.visits.map Visit.settled)
include hvisits

theorem failures_of_settled : second.failures = first.failures := by
  rw [failures, failures, hvisits, List.filterMap_map]
  congr 1
  funext visit
  exact visit.failure?_settled

theorem tally_updated_of_settled : tally second.visits .updated = 0 := by
  rw [hvisits, tally, List.map_map, List.sum_eq_zero_iff]
  intro share hmem
  obtain ⟨visit, -, rfl⟩ := List.mem_map.mp hmem
  exact visit.share_updated_settled

theorem tally_unchanged_of_settled :
    tally second.visits .unchanged =
      tally first.visits .updated + tally first.visits .unchanged := by
  rw [hvisits, tally, tally, tally, List.map_map, ← List.sum_map_add]
  congr 1
  exact List.map_congr_left fun visit _ => visit.share_unchanged_settled

/-- A report in which every verdict is settled repeats the report. -/
theorem Repeats.of_visits (hwet : ∀ visit ∈ first.visits, visit.isStale = false)
    (hcounted : first.Counted) (hcounted' : second.Counted) : second.Repeats first := by
  have hcommon : ∀ counter ∈ [Counter.total, .stale, .skipped, .failed, .advisories],
      second.stats.get counter = first.stats.get counter := by
    intro counter hmem
    have hsame : tally (first.visits.map Visit.settled) counter =
        tally (first.visits.map id) counter :=
      tally_map_congr fun visit _ => visit.share_settled hmem
    rw [List.map_id, ← hvisits] at hsame
    exact hcounted'.get_eq hcounted hsame
  have hnone_stale : tally first.visits .stale = 0 := by
    rw [tally_stale, List.length_eq_zero_iff, List.filter_eq_nil_iff]
    intro visit hmem
    rw [hwet visit hmem]
    exact Bool.false_ne_true
  have hunchanged := hcounted'.get_eq_add hcounted (tally_unchanged_of_settled hvisits)
  rw [← hcounted .unchanged] at hunchanged
  exact
    { failures := failures_of_settled hvisits
      updated := by
        refine (hcounted' .updated).trans ?_
        rw [tally_updated_of_settled hvisits]
        rfl
      stale := by
        refine (hcommon .stale (by simp)).trans ((hcounted .stale).trans ?_)
        rw [hnone_stale]
        rfl
      unchanged := hunchanged
      total := hcommon .total (by simp)
      skipped := hcommon .skipped (by simp)
      failed := hcommon .failed (by simp)
      advisories := hcommon .advisories (by simp) }

/-- A second batch tries to write what the first one could not write, and nothing else. -/
theorem attempted_of_settled : second.attempted = first.unwritten := by
  rw [attempted, unwritten_eq, hvisits, List.filter_map, List.map_map]
  congr 1
  exact List.filter_congr fun visit _ => visit.attempted_settled

end Settled

end BatchReport

/-- **One batch is enough.** For every tree in which no two listed names denote the same file and
every protocol, after a batch:

* a second one with fresh counters writes nothing; it updates no file and finds none stale, it counts
  as unchanged what the first one updated or found unchanged, and otherwise its failures and its
  counters are those of the first;
* a dry run has for stale exactly the files that the first batch failed to write, so none if files
  that can be read can be written. -/
theorem second_batch_finds_files_settled (protocol : Protocol) {tree after : FileTree} {root : Path}
    {first : BatchReport} (hapart : tree.ListsApart root)
    (h : Validator.batch ⟨protocol, false⟩ {} tree root = .ok (first, after)) :
    (∃ second, Validator.batch ⟨protocol, false⟩ {} after root = .ok (second, after)
        ∧ second.Repeats first)
      ∧ (∃ forecast, Validator.batch ⟨protocol, true⟩ {} after root = .ok (forecast, after)
        ∧ forecast.stale = first.unwritten)
      ∧ ((∀ path ∈ tree.list root, tree.WritableIfReadable path) → first.unwritten = []) := by
  obtain ⟨hstarts, hrun⟩ := Validator.batch_eq_ok_iff.mp h
  obtain ⟨second, hagain, hvisits⟩ := Validator.visits_again hapart hrun
  have houtline : tree.SameOutline after := (Validator.visits_runBatch hapart hrun).2.outline
  have hapart' : after.ListsApart root := houtline.listsApart hapart
  have hstarts' : after.checkScan root = .ok () := (houtline.checkScan_eq root).trans hstarts
  obtain ⟨forecast, hdry, hforetells⟩ := Validator.exists_foretells hapart' hagain
  refine ⟨⟨second, Validator.batch_eq_ok_iff.mpr ⟨hstarts', hagain⟩, ?_⟩,
    ⟨forecast, Validator.batch_eq_ok_iff.mpr ⟨hstarts', hdry⟩, ?_⟩,
    Validator.unwritten_eq_nil hapart hrun⟩
  · exact .of_visits hvisits (Validator.isStale_of_mem_visits hapart hrun)
      (Validator.counted_runBatch hrun) (Validator.counted_runBatch hagain)
  · exact hforetells.stale.trans (BatchReport.attempted_of_settled hvisits)

/-- After a batch over the mixed directory the first file is up to date, the faulty file and the one
that cannot be written fail again, and the latter is still stale. -/
theorem second_batch_over_mixedTree_finds_files_settled :
    mixedTree.ListsApart ⟨"."⟩ ∧ ∃ first after second forecast,
      Validator.batch ⟨sampleProtocol, false⟩ {} mixedTree ⟨"."⟩ = .ok (first, after)
        ∧ Validator.batch ⟨sampleProtocol, false⟩ {} after ⟨"."⟩ = .ok (second, after)
        ∧ Validator.batch ⟨sampleProtocol, true⟩ {} after ⟨"."⟩ = .ok (forecast, after)
        ∧ first.stats.updated = 1 ∧ second.stats.updated = 0 ∧ second.stats.unchanged = 1
        ∧ second.failures.map Failure.path = [⟨"./b.cs"⟩, ⟨"./d.cs"⟩]
        ∧ forecast.stale = [⟨"./d.cs"⟩] := by
  obtain ⟨first, after, h⟩ : ∃ first after,
      Validator.batch ⟨sampleProtocol, false⟩ {} mixedTree ⟨"."⟩ = .ok (first, after) :=
    ⟨_, _, Validator.batch_eq_ok_iff.mpr ⟨by decide +kernel, rfl⟩⟩
  have hrun := (Validator.batch_eq_ok_iff.mp h).2
  have hvisits := visits_mixedTree hrun
  have hcounted := Validator.counted_runBatch hrun
  rw [BatchReport.Counted, hvisits] at hcounted
  have hupdated : first.stats.updated = 1 := (hcounted .updated).trans (by decide +kernel)
  have hunchanged : first.stats.unchanged = 0 := (hcounted .unchanged).trans (by decide +kernel)
  obtain ⟨⟨second, hagain, hrepeats⟩, ⟨forecast, hdry, hstale⟩, -⟩ :=
    second_batch_finds_files_settled sampleProtocol listsApart_mixedTree h
  refine ⟨listsApart_mixedTree, first, after, second, forecast, h, hagain, hdry, hupdated,
    hrepeats.updated, ?_, ?_, ?_⟩
  · rw [hrepeats.unchanged, hupdated, hunchanged]
    rfl
  · rw [hrepeats.failures, BatchReport.failures, hvisits]
    decide +kernel
  · rw [hstale, BatchReport.unwritten, BatchReport.failures, hvisits]
    decide +kernel

/-- A batch does not always leave a directory in which a dry run finds nothing stale: a file that
cannot be written stays stale. -/
theorem dry_run_after_batch_over_lockedTree_not_empty :
    lockedTree.ListsApart ⟨"."⟩ ∧ ∃ first forecast,
      Validator.batch ⟨sampleProtocol, false⟩ {} lockedTree ⟨"."⟩ = .ok (first, lockedTree)
        ∧ Validator.batch ⟨sampleProtocol, true⟩ {} lockedTree ⟨"."⟩ = .ok (forecast, lockedTree)
        ∧ first.failures = [.unwritable ⟨"./a.cs"⟩ .denied]
        ∧ forecast.stale = [⟨"./a.cs"⟩] := by
  have hstarts : lockedTree.checkScan ⟨"."⟩ = .ok () := by decide +kernel
  obtain ⟨first, after, hrun⟩ : ∃ first after,
      Validator.runBatch ⟨sampleProtocol, false⟩ {} lockedTree ⟨"."⟩ = (first, after) := ⟨_, _, rfl⟩
  have hvisits := visits_lockedTree hrun
  obtain rfl : after = lockedTree := by
    rw [Validator.after_eq_iff listsApart_lockedTree hrun, hvisits]
    decide +kernel
  obtain ⟨forecast, hdry, hforetold⟩ := Validator.visits_forecast listsApart_lockedTree hrun
  refine ⟨listsApart_lockedTree, first, forecast, Validator.batch_eq_ok_iff.mpr ⟨hstarts, hrun⟩,
    Validator.batch_eq_ok_iff.mpr ⟨hstarts, hdry⟩, ?_, ?_⟩
  · rw [BatchReport.failures, hvisits]
    decide +kernel
  · rw [BatchReport.stale, hforetold, hvisits]
    decide +kernel

end RegionSync
