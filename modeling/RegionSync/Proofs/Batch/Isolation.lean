import RegionSync.Batch
import RegionSync.Proofs.Counters
import RegionSync.Proofs.FileTree.Names
import RegionSync.Proofs.WriteBack

set_option autoImplicit false

/-! # A batch treats each file as if it were alone

A validation depends on the file that its path leads to and on the outline of the tree, and it
changes nothing but that file. When no two of the listed names denote the same file, the files do
not get in each other's way: the visits of a batch are the visits that each file would get in the
tree as it was at the start (`visitAll_of_leadsApart`), whatever becomes of the others. The report,
the files and the counters follow from that (`batch_treats_each_file_alone`).
-/

namespace RegionSync

namespace Validator

variable {validator : Validator} {tree after : FileTree} {path other : Path} {location : Location}

/-! ## One visit -/

/-- A visit changes no file but the one that its path leads to. -/
theorem get?_visit_of_ne (hapart : tree.resolve path ≠ .ok location) :
    (validator.visit tree path).2.get? location = tree.get? location := by
  rcases validator.visit_cases tree path with ⟨-, hsame⟩ | ⟨place, access, text, result, hupdates⟩
  · rw [hsame]
  · rw [hupdates.visit_eq]
    apply FileTree.get?_set_of_ne
    rintro rfl
    exact hapart hupdates.reads.leads

theorem sameOutline_visit (validator : Validator) (tree : FileTree) (path : Path) :
    tree.SameOutline (validator.visit tree path).2 := by
  rcases validator.visit_cases tree path with ⟨-, hsame⟩ | ⟨place, access, text, result, hupdates⟩
  · rw [hsame]
    exact .refl tree
  · rw [hupdates.visit_eq]
    exact FileTree.sameOutline_set hupdates.reads.holds _

/-- A visit leaves the files of other paths alone. -/
theorem agreesOn_visit (validator : Validator)
    (hapart : ∀ location, tree.resolve path = .ok location → tree.resolve other ≠ .ok location) :
    tree.AgreesOn other (validator.visit tree path).2 where
  outline := validator.sameOutline_visit tree path
  file := by
    intro location hleads
    apply get?_visit_of_ne
    intro hleads'
    exact hapart location hleads' hleads

/-- In a tree that agrees on the file, the same is found, and the same becomes of the file. -/
theorem Examined.of_agreesOn {verdict : Verdict} {last : FileTree}
    (hexamined : validator.Examined tree path verdict last) (hagrees : tree.AgreesOn path after) :
    ∃ last', validator.Examined after path verdict last' ∧
      ∀ location, tree.resolve path = .ok location → last'.get? location = last.get? location := by
  have htext_eq := hagrees.readText_eq
  -- whatever was read in one tree is read in the other
  have hreads_of {location : Location} {access : Access} {text : String}
      (hreads : tree.Reads path location access text) : after.Reads path location access text :=
    ⟨(hagrees.outline.resolve_eq path).trans hreads.leads,
      (hagrees.file location hreads.leads).trans hreads.holds, hreads.readable⟩
  cases hexamined with
  | otherExtension hother => exact ⟨after, .otherExtension hother, hagrees.file⟩
  | unreadable error hwanted hfails =>
      exact ⟨after, .unreadable error hwanted (htext_eq.trans hfails), hagrees.file⟩
  | faulty text fault hwanted hreads hrefuses =>
      exact ⟨after, .faulty text fault hwanted (htext_eq.trans hreads) hrefuses, hagrees.file⟩
  | notAnnotated text hwanted hreads hpasses =>
      exact ⟨after, .notAnnotated text hwanted (htext_eq.trans hreads) hpasses, hagrees.file⟩
  | upToDate text result hwanted hreads haccepts hsame =>
      exact ⟨after, .upToDate text result hwanted (htext_eq.trans hreads) haccepts hsame,
        hagrees.file⟩
  | stale text result hwanted hreads houtdated hdry =>
      exact ⟨after, .stale text result hwanted (htext_eq.trans hreads) houtdated hdry, hagrees.file⟩
  | updated text result place access hupdates =>
      obtain ⟨hwanted, hreads, houtdated, hwet, hwritable⟩ := hupdates
      have hupdates : validator.Updates after path place access text result :=
        ⟨hwanted, hreads_of hreads, houtdated, hwet, hwritable⟩
      refine ⟨_, .updated text result place access hupdates, ?_⟩
      -- both trees hold the new text there, whatever else they hold
      intro location hleads
      obtain rfl : place = location := Except.ok.inj (hreads.leads.symm.trans hleads)
      have hnamed := FileTree.ne_nil_of_waymark?_eq_none hreads.waymark?_eq_none
      rw [FileTree.get?_set_self _ _ _ hnamed, FileTree.get?_set_self _ _ _ hnamed]
  | unwritable text result place access hwanted hreads houtdated hwet hclosed =>
      exact ⟨after, .unwritable text result place access hwanted (hreads_of hreads) houtdated
        hwet hclosed, hagrees.file⟩

theorem visit_of_agreesOn (hagrees : tree.AgreesOn path after) :
    (validator.visit after path).1 = (validator.visit tree path).1 ∧
      ∀ location, tree.resolve path = .ok location →
        (validator.visit after path).2.get? location =
          (validator.visit tree path).2.get? location := by
  obtain ⟨last, hexamined, hfile⟩ := (validator.examined_examine tree path).of_agreesOn hagrees
  have hafter : validator.visit after path = ((validator.visit tree path).1, last) :=
    visit_eq_iff.mpr ⟨rfl, hexamined⟩
  rw [hafter]
  exact ⟨rfl, hfile⟩

/-! ## Many visits -/

/-- Visits that update nothing leave the tree as it is. -/
theorem visitAll_of_not_updated {paths : List Path}
    (hkept : ∀ path ∈ paths, (validator.visit tree path).1.result ≠ .ok .updated) :
    validator.visitAll paths tree = (paths.map fun path => (validator.visit tree path).1, tree) := by
  induction paths with
  | nil => rfl
  | cons path paths ih =>
      have hfirst : validator.visit tree path = ((validator.visit tree path).1, tree) :=
        Prod.ext rfl (tree_eq_of_visit rfl (hkept path List.mem_cons_self))
      have hrest := ih fun other hmem => hkept other (List.mem_cons_of_mem _ hmem)
      rw [visitAll, hfirst]
      simp only [hrest, List.map_cons]

/-- What becomes of a tree when each of some files is validated as if it were alone. -/
structure Validated (validator : Validator) (tree : FileTree) (paths : List Path)
    (after : FileTree) : Prop where
  outline : tree.SameOutline after
  /-- Each file is as validating it alone would leave it. -/
  file : ∀ path ∈ paths, ∀ location, tree.resolve path = .ok location →
    after.get? location = (validator.visit tree path).2.get? location
  elsewhere : ∀ location, (∀ path ∈ paths, tree.resolve path ≠ .ok location) →
    after.get? location = tree.get? location

end Validator

/-- No two of the paths lead to one location. -/
def FileTree.LeadsApart (tree : FileTree) (paths : List Path) : Prop :=
  paths.Pairwise fun path other =>
    ∀ location, tree.resolve path = .ok location → tree.resolve other ≠ .ok location

theorem FileTree.ListsApart.leadsApart {tree : FileTree} {root : Path}
    (hapart : tree.ListsApart root) : tree.LeadsApart (tree.list root) :=
  hapart.imp And.right

theorem FileTree.SameOutline.leadsApart {tree after : FileTree} (hsame : tree.SameOutline after)
    {paths : List Path} (hapart : tree.LeadsApart paths) : after.LeadsApart paths := by
  refine hapart.imp ?_
  intro path other hdiffer location
  rw [hsame.resolve_eq, hsame.resolve_eq]
  exact hdiffer location

namespace Validator

variable {validator : Validator} {tree after : FileTree}

/-- **Files that are validated one after the other are validated as if each were alone.** The
induction is over the paths; what the first visit changes is of no concern to the others, and none
of them changes the first file again. -/
theorem visitAll_of_leadsApart (validator : Validator) {paths : List Path}
    (hapart : tree.LeadsApart paths) :
    (validator.visitAll paths tree).1 = (paths.map fun path => (validator.visit tree path).1) ∧
      validator.Validated tree paths (validator.visitAll paths tree).2 := by
  induction paths generalizing tree with
  | nil => exact ⟨rfl, .refl tree, by simp, fun _ _ => rfl⟩
  | cons path paths ih =>
      obtain ⟨hfirst, hrest⟩ := List.pairwise_cons.mp hapart
      set next := (validator.visit tree path).2 with hnext
      have houtline : tree.SameOutline next := validator.sameOutline_visit tree path
      have hagrees : ∀ other ∈ paths, tree.AgreesOn other next :=
        fun other hmem => validator.agreesOn_visit (hfirst other hmem)
      obtain ⟨hvisits, hvalidated⟩ := ih (houtline.leadsApart hrest)
      have hall : validator.visitAll (path :: paths) tree =
          ((validator.visit tree path).1 :: (validator.visitAll paths next).1,
            (validator.visitAll paths next).2) := rfl
      have hothers : (validator.visitAll paths next).1 =
          paths.map fun other => (validator.visit tree other).1 :=
        hvisits.trans
          (List.map_congr_left fun other hmem => (visit_of_agreesOn (hagrees other hmem)).1)
      rw [hall, List.map_cons, hothers]
      refine ⟨rfl, houtline.trans hvalidated.outline, ?_, ?_⟩
      · intro other hmem location hleads
        rcases List.mem_cons.mp hmem with rfl | hmem
        · -- no later visit touches the first file
          rw [hvalidated.elsewhere, hnext]
          intro later hlater
          rw [houtline.resolve_eq]
          exact hfirst later hlater location hleads
        · have hleads' := (houtline.resolve_eq other).trans hleads
          rw [hvalidated.file other hmem location hleads']
          exact (visit_of_agreesOn (hagrees other hmem)).2 location hleads
      · intro location hapart'
        have hhere := hapart' path List.mem_cons_self
        rw [hvalidated.elsewhere, hnext, get?_visit_of_ne hhere]
        intro other hmem
        rw [houtline.resolve_eq]
        exact hapart' other (List.mem_cons_of_mem _ hmem)

end Validator

/-! ## Batches -/

namespace BatchReport

variable {report other : BatchReport} {counter counter' : Counter}

/-- The counters are those of the visits. -/
def Counted (report : BatchReport) : Prop :=
  ∀ counter, report.stats.get counter = UInt64.ofNat (tally report.visits counter)

theorem Counted.get_eq (hcounted : report.Counted) (hcounted' : other.Counted)
    (h : tally report.visits counter = tally other.visits counter') :
    report.stats.get counter = other.stats.get counter' := by
  rw [hcounted counter, hcounted' counter', h]

theorem Counted.get_eq_add (hcounted : report.Counted) (hcounted' : other.Counted) {more : Nat}
    (h : tally report.visits counter = tally other.visits counter' + more) :
    report.stats.get counter = other.stats.get counter' + UInt64.ofNat more := by
  rw [hcounted counter, hcounted' counter', h, UInt64.ofNat_add]

end BatchReport

namespace Validator

variable {validator : Validator} {tree after : FileTree}
variable {root : Path} {stats : Stats} {report : BatchReport}

theorem batch_eq_ok_iff {outcome : BatchReport × FileTree} :
    validator.batch stats tree root = .ok outcome ↔
      tree.checkScan root = .ok () ∧ validator.runBatch stats tree root = outcome := by
  unfold batch
  cases tree.checkScan root with
  | error error => simp
  | ok _ => simp

theorem batch_eq_error_iff {error : ScanError} :
    validator.batch stats tree root = .error error ↔ tree.checkScan root = .error error := by
  unfold batch
  cases tree.checkScan root with
  | error error => simp
  | ok _ => simp

theorem visits_runBatch (hapart : tree.ListsApart root)
    (h : validator.runBatch stats tree root = (report, after)) :
    report.visits = ((tree.list root).map fun path => (validator.visit tree path).1) ∧
      validator.Validated tree (tree.list root) after := by
  cases h
  exact validator.visitAll_of_leadsApart hapart.leadsApart

theorem stats_runBatch (h : validator.runBatch stats tree root = (report, after))
    (counter : Counter) :
    report.stats.get counter = stats.get counter + UInt64.ofNat (tally report.visits counter) := by
  cases h
  exact Stats.get_foldl_record _ _ _

/-- Fresh counters count the visits of the batch. -/
theorem counted_runBatch (h : validator.runBatch {} tree root = (report, after)) :
    report.Counted := by
  intro counter
  have hfresh : ({} : Stats).get counter = 0 := by
    cases counter <;> rfl
  rw [stats_runBatch h, hfresh, UInt64.zero_add]

/-- The counters of failed and stale files grow by the length of the two lists. -/
theorem failed_runBatch (h : validator.runBatch stats tree root = (report, after)) :
    report.stats.failed = stats.failed + UInt64.ofNat report.failures.length := by
  have hgrown := stats_runBatch h .failed
  rw [tally_failed] at hgrown
  exact hgrown

theorem stale_runBatch (h : validator.runBatch stats tree root = (report, after)) :
    report.stats.stale = stats.stale + UInt64.ofNat report.stale.length := by
  have hgrown := stats_runBatch h .stale
  rw [tally_stale] at hgrown
  rw [BatchReport.stale, List.length_map]
  exact hgrown

theorem path_visit (validator : Validator) (tree : FileTree) (path : Path) :
    (validator.visit tree path).1.path = path := rfl

end Validator

namespace Visit

variable {visit : Visit} {failure : Failure}

/-- A failure carries the path of its file. -/
theorem path_of_failure? (h : visit.failure? = some failure) : failure.path = visit.path := by
  obtain ⟨path, verdict⟩ := visit
  cases verdict <;> cases h <;> rfl

/-- What failed was not found stale. -/
theorem isStale_of_failure? (h : visit.failure? = some failure) : visit.isStale = false := by
  obtain ⟨path, verdict⟩ := visit
  cases verdict <;> cases h <;> rfl

end Visit

namespace BatchReport

variable {report : BatchReport} {paths : List Path} {visit : Path → Visit}

theorem failures_of_visits (hvisits : report.visits = paths.map visit) :
    report.failures = paths.filterMap fun path => (visit path).failure? := by
  rw [failures, hvisits, List.filterMap_map]
  rfl

theorem stale_of_visits (hvisits : report.visits = paths.map visit)
    (hown : ∀ path, (visit path).path = path) :
    report.stale = paths.filter fun path => (visit path).isStale := by
  rw [stale, hvisits, List.filter_map, List.map_map]
  have hsame : Visit.path ∘ visit = id := funext hown
  rw [hsame, List.map_id]
  rfl

/-- The failures are those of the paths that fail, and each names its path. -/
theorem map_path_failures (hvisits : report.visits = paths.map visit)
    (hown : ∀ path, (visit path).path = path) :
    report.failures.map Failure.path = paths.filter fun path => (visit path).failure?.isSome := by
  rw [failures_of_visits hvisits]
  clear hvisits
  induction paths with
  | nil => rfl
  | cons path paths ih =>
      rw [List.filterMap_cons, List.filter_cons]
      cases hfails : (visit path).failure? with
      | none => simpa using ih
      | some failure =>
          have hnamed : failure.path = path := (Visit.path_of_failure? hfails).trans (hown path)
          simp only [List.map_cons, hnamed, ih, Option.isSome_some, if_true]

/-- No path is reported twice, since no file that fails is found stale. -/
theorem pairwise_reported (hvisits : report.visits = paths.map visit)
    (hown : ∀ path, (visit path).path = path)
    (hapart : paths.Pairwise fun path other => path.same other = false) :
    (report.failures.map Failure.path ++ report.stale).Pairwise
      fun path other => path.same other = false := by
  rw [map_path_failures hvisits hown, stale_of_visits hvisits hown, List.pairwise_append]
  refine ⟨hapart.sublist List.filter_sublist, hapart.sublist List.filter_sublist, ?_⟩
  intro path hmem other hmem'
  obtain ⟨hmem, hfails⟩ := List.mem_filter.mp hmem
  obtain ⟨hmem', hstale⟩ := List.mem_filter.mp hmem'
  refine Path.same_eq_false_of_mem hapart hmem hmem' ?_
  rintro rfl
  obtain ⟨failure, hfails⟩ := Option.isSome_iff_exists.mp hfails
  rw [Visit.isStale_of_failure? hfails] at hstale
  cases hstale

/-- With fresh counters the counters tell whether the report is clean, unless so many files were
visited that a counter came round to zero. -/
theorem isClean_eq_of_stats {report : BatchReport}
    (hfailed : report.stats.failed = UInt64.ofNat report.failures.length)
    (hstale : report.stats.stale = UInt64.ofNat report.stale.length)
    (hfew : report.failures.length < 2 ^ 64) (hfew' : report.stale.length < 2 ^ 64) :
    report.isClean = report.stats.isClean := by
  have hzero_iff : ∀ n : Nat, n < 2 ^ 64 → (UInt64.ofNat n = 0 ↔ n = 0) := by
    intro n hsmall
    rw [← UInt64.toNat_inj, UInt64.toNat_ofNat_of_lt' hsmall]
    rfl
  have hfailures_iff : report.failures.isEmpty = (report.stats.failed == 0) := by
    rw [hfailed, Bool.eq_iff_iff, List.isEmpty_iff, beq_iff_eq, hzero_iff _ hfew,
      List.length_eq_zero_iff]
  have hstale_iff : report.stale.isEmpty = (report.stats.stale == 0) := by
    rw [hstale, Bool.eq_iff_iff, List.isEmpty_iff, beq_iff_eq, hzero_iff _ hfew',
      List.length_eq_zero_iff]
  rw [isClean, Stats.isClean, hfailures_iff, hstale_iff]

end BatchReport

/-- **A batch treats each file as if it were alone.** If no two listed names denote the same file,
then for every validator and whatever the counters hold:

* the batch comes to a report if its root is a directory;
* each listed file is left as validating it alone would leave it, and nothing else is touched;
* the failures and the stale files are, in path order, those of the listed files that fail or are
  stale when they are validated alone; each failure is the one that the file alone gives, and names
  its path;
* no path is reported twice;
* the total grows by the number of listed files, and the counters of failed and stale files by the
  length of the two lists;
* with fresh counters, and fewer than 2^64 files, the counters tell whether the report is clean. -/
theorem batch_treats_each_file_alone (validator : Validator) (stats : Stats) {tree after : FileTree}
    {root : Path} {report : BatchReport} (hapart : tree.ListsApart root)
    (h : validator.runBatch stats tree root = (report, after)) :
    (tree.isDirectory root = true → validator.batch stats tree root = .ok (report, after))
      ∧ (∀ path ∈ tree.list root, ∀ location, tree.resolve path = .ok location →
          after.get? location = (validator.visit tree path).2.get? location)
      ∧ (∀ location, (∀ path ∈ tree.list root, tree.resolve path ≠ .ok location) →
          after.get? location = tree.get? location)
      ∧ after.workingDir = tree.workingDir
      ∧ (tree.list root).Pairwise (fun path other => path.le other = true)
      ∧ report.failures =
          (tree.list root).filterMap (fun path => (validator.visit tree path).1.failure?)
      ∧ report.failures.map Failure.path =
          (tree.list root).filter (fun path => (validator.visit tree path).1.failure?.isSome)
      ∧ report.stale = (tree.list root).filter (fun path => (validator.visit tree path).1.isStale)
      ∧ (report.failures.map Failure.path ++ report.stale).Pairwise
          (fun path other => path.same other = false)
      ∧ report.stats.total = stats.total + UInt64.ofNat (tree.list root).length
      ∧ report.stats.failed = stats.failed + UInt64.ofNat report.failures.length
      ∧ report.stats.stale = stats.stale + UInt64.ofNat report.stale.length
      ∧ (stats = {} → (tree.list root).length < 2 ^ 64 →
          report.isClean = report.stats.isClean) := by
  obtain ⟨hvisits, hvalidated⟩ := Validator.visits_runBatch hapart h
  have hown := validator.path_visit tree
  have hfailures := BatchReport.failures_of_visits hvisits
  have hstale := BatchReport.stale_of_visits hvisits hown
  have hfailed_eq := Validator.failed_runBatch h
  have hstale_eq := Validator.stale_runBatch h
  refine ⟨?_, hvalidated.file, hvalidated.elsewhere, hvalidated.outline.workingDir,
    pairwise_le_collect root _, hfailures, BatchReport.map_path_failures hvisits hown, hstale,
    BatchReport.pairwise_reported hvisits hown (hapart.imp And.left), ?_, hfailed_eq, hstale_eq, ?_⟩
  · intro hdirectory
    exact Validator.batch_eq_ok_iff.mpr ⟨FileTree.checkScan_eq_ok_iff.mpr hdirectory, h⟩
  · have hgrown := Validator.stats_runBatch h .total
    rw [tally_total, hvisits, List.length_map] at hgrown
    exact hgrown
  · rintro rfl hfew
    have hfew_failures : report.failures.length ≤ (tree.list root).length := by
      rw [hfailures]
      exact List.length_filterMap_le _ _
    have hfew_stale : report.stale.length ≤ (tree.list root).length := by
      rw [hstale]
      exact List.length_filter_le _ _
    refine BatchReport.isClean_eq_of_stats ?_ ?_ (by omega) (by omega)
    · rw [hfailed_eq, UInt64.zero_add]
    · rw [hstale_eq, UInt64.zero_add]

/-- A directory with a file that is not up to date, a faulty one, one with another extension and one
that is not up to date and cannot be written. -/
def mixedTree : FileTree where
  entries :=
    [([.text "a.cs"], .file (Text.encode sampleText) {}),
      ([.text "b.cs"], .file (Text.encode "#\nP\n?") {}),
      ([.text "c.txt"], .file (Text.encode sampleText) {}),
      ([.text "d.cs"], .file (Text.encode sampleText) { write := false })]
  workingDir := []

theorem list_mixedTree :
    mixedTree.list ⟨"."⟩ = [⟨"./a.cs"⟩, ⟨"./b.cs"⟩, ⟨"./c.txt"⟩, ⟨"./d.cs"⟩] :=
  FileTree.list_eq_of_pairwise (by decide +kernel) (by decide +kernel)

theorem listsApart_mixedTree : mixedTree.ListsApart ⟨"."⟩ :=
  (FileTree.properlyNamed_of_entries (by decide +kernel)).listsApart ⟨"."⟩

/-- The faulty file and the one that cannot be written are reported and stay as they are; the file
between them is skipped, and the first one is brought up to date all the same. -/
theorem batch_treats_each_file_of_mixedTree_alone :
    mixedTree.ListsApart ⟨"."⟩ ∧ ∃ report after,
      Validator.batch ⟨sampleProtocol, false⟩ {} mixedTree ⟨"."⟩ = .ok (report, after)
        ∧ after.get? [.text "a.cs"] = some (.file (Text.encode sampleResult.text) {})
        ∧ after.get? [.text "d.cs"] = mixedTree.get? [.text "d.cs"]
        ∧ report.failures.map Failure.path = [⟨"./b.cs"⟩, ⟨"./d.cs"⟩]
        ∧ report.stale = []
        ∧ report.stats.total = 4
        ∧ report.stats.failed = UInt64.ofNat report.failures.length
        ∧ report.isClean = report.stats.isClean := by
  obtain ⟨report, after, h⟩ : ∃ report after,
      Validator.runBatch ⟨sampleProtocol, false⟩ {} mixedTree ⟨"."⟩ = (report, after) :=
    ⟨_, _, rfl⟩
  obtain ⟨hreturns, hfile, -, -, -, -, hfailures, hstale, -, htotal, hfailed, -, hclean⟩ :=
    batch_treats_each_file_alone ⟨sampleProtocol, false⟩ {} listsApart_mixedTree h
  rw [list_mixedTree] at hfile hfailures hstale htotal hclean
  refine ⟨listsApart_mixedTree, report, after, hreturns (by decide +kernel), ?_, ?_, ?_, ?_, htotal,
    hfailed.trans (UInt64.zero_add _), hclean rfl (by decide)⟩
  · rw [hfile ⟨"./a.cs"⟩ (by decide +kernel) [.text "a.cs"] (by decide +kernel)]
    decide +kernel
  · rw [hfile ⟨"./d.cs"⟩ (by decide +kernel) [.text "d.cs"] (by decide +kernel)]
    decide +kernel
  · rw [hfailures]
    decide +kernel
  · rw [hstale]
    decide +kernel

end RegionSync
