import RegionSync.Listing
import RegionSync.Validator

set_option autoImplicit false

/-! # Batch passes

A batch validates every file of a directory in path order. A file that fails is reported and the
batch goes on.
-/

namespace RegionSync

/-- What a batch did. -/
structure BatchReport where
  root : Path
  /-- Where relative paths start. -/
  workingDir : Location
  /-- What the directory yielded. -/
  found : List Found
  /-- The files validated, in order. -/
  visits : List Visit
  /-- The counters afterwards. -/
  stats : Stats

namespace BatchReport

/-- The failures, in order. -/
def failures (report : BatchReport) : List Failure := report.visits.filterMap Visit.failure?

/-- The stale files, in order. -/
def stale (report : BatchReport) : List Path :=
  (report.visits.filter Visit.isStale).map Visit.path

/-- Whether no file failed and none is stale. -/
def isClean (report : BatchReport) : Bool := report.failures.isEmpty && report.stale.isEmpty

/-- What is told about a failure. -/
def failureLine (failure : Failure) : LogLine :=
  ⟨.error, .batch, "Validation failed",
    [("path", some failure.path.text), ("line", failure.line?.map toString),
      ("error", some failure.message)]⟩

/-- What is told about the batch while it goes on. -/
def log (report : BatchReport) : List LogLine :=
  [⟨.info, .batch, "Starting batch pass", [("root", some report.root.text)]⟩,
    ⟨.trace, .walk, "automatically discovered CWD: /" ++ report.workingDir.display, []⟩] ++
    report.found.filterMap (Found.notice? report.root) ++
    [⟨.info, .batch, "Collected files", [("count", some (toString report.visits.length))]⟩] ++
    report.visits.flatMap (fun visit => visit.log ++ visit.failure?.toList.map failureLine) ++
    [⟨.info, .batch, "Batch pass complete",
      [("total", some (toString report.stats.total)),
        ("rewritten", some (toString report.stats.updated)),
        ("failed", some (toString report.stats.failed))]⟩]

end BatchReport

/-- Runs a batch over a root that can be listed, counting on from `stats`. -/
def Validator.runBatch (validator : Validator) (stats : Stats) (tree : FileTree) (root : Path) :
    BatchReport × FileTree :=
  let found := tree.enumerate root
  let (visits, after) := validator.visitAll (collect root found) tree
  (⟨root, tree.workingDir, found, visits, visits.foldl Visit.record stats⟩, after)

/-- Runs a batch over a root. -/
def Validator.batch (validator : Validator) (stats : Stats) (tree : FileTree) (root : Path) :
    Except ScanError (BatchReport × FileTree) :=
  match tree.checkScan root with
  | .error error => .error error
  | .ok () => .ok (validator.runBatch stats tree root)

end RegionSync
