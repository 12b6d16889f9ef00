import RegionSync.Outcome

set_option autoImplicit false

/-! # Statistics

Counters of 64 bits that wrap around. Each validation counts once in the total and once under
its result; advisories are counted apart.
-/

namespace RegionSync

/-- How many validations had which result. -/
structure Stats where
  total : UInt64 := 0
  updated : UInt64 := 0
  unchanged : UInt64 := 0
  stale : UInt64 := 0
  skipped : UInt64 := 0
  failed : UInt64 := 0
  advisories : UInt64 := 0
deriving DecidableEq

namespace Stats

/-- Counts a validation with an outcome. -/
def record (stats : Stats) (outcome : Outcome) : Stats :=
  let stats := { stats with total := stats.total + 1 }
  match outcome with
  | .skipped _ => { stats with skipped := stats.skipped + 1 }
  | .unchanged => { stats with unchanged := stats.unchanged + 1 }
  | .updated => { stats with updated := stats.updated + 1 }
  | .stale => { stats with stale := stats.stale + 1 }

/-- Counts a validation that failed. -/
def recordFailure (stats : Stats) : Stats :=
  { stats with total := stats.total + 1, failed := stats.failed + 1 }

/-- Counts advisories. -/
def addAdvisories (stats : Stats) (count : Nat) : Stats :=
  { stats with advisories := stats.advisories + count.toUInt64 }

/-- Counts a validation by its result. -/
def recordResult (stats : Stats) : Except Failure Outcome → Stats
  | .ok outcome => stats.record outcome
  | .error _ => stats.recordFailure

/-- The number of validations of annotated files without faults. -/
def annotated (stats : Stats) : UInt64 := stats.updated + stats.unchanged + stats.stale

/-- Whether no validation failed and none found a stale file. -/
def isClean (stats : Stats) : Bool := stats.failed == 0 && stats.stale == 0

/-- The counters in one line. -/
def summary (stats : Stats) : String :=
  toString stats.total ++ " files: " ++ toString stats.updated ++ " rewritten, " ++
    toString stats.unchanged ++ " unchanged, " ++ toString stats.stale ++ " stale, " ++
    toString stats.skipped ++ " skipped, " ++ toString stats.failed ++ " failed, " ++
    toString stats.advisories ++ " advisories"

end Stats

end RegionSync
