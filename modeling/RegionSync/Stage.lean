import RegionSync.Region

set_option autoImplicit false

/-! # Stages of a pass

A pass over a file goes through its stages in one order: the first line, then for each region
the search for its marker and the region line itself, then the rest of the file.
-/

namespace RegionSync

/-- Where a pass over a file stands. -/
inductive Stage where
  /-- Before the first line. -/
  | firstLine
  /-- Searching for the marker of a region. -/
  | waiting (region : Region)
  /-- At the line of a region. -/
  | inside (region : Region)
  /-- After the last region. -/
  | tail
deriving DecidableEq

namespace Stage

/-- The stages in order. -/
def all : List Stage :=
  [.firstLine, .waiting .accessors, .inside .accessors, .waiting .parameters, .inside .parameters,
    .waiting .diff, .inside .diff, .tail]

/-- The stage that follows; nothing follows the tail but itself. -/
def next : Stage → Stage
  | firstLine => .waiting .accessors
  | waiting region => .inside region
  | inside .accessors => .waiting .parameters
  | inside .parameters => .waiting .diff
  | inside .diff => .tail
  | tail => .tail

/-- How far a stage is from the first. -/
def rank : Stage → Nat
  | firstLine => 0
  | waiting .accessors => 1
  | inside .accessors => 2
  | waiting .parameters => 3
  | inside .parameters => 4
  | waiting .diff => 5
  | inside .diff => 6
  | tail => 7

/-- How a stage is called in messages. -/
def label : Stage → String
  | firstLine => "first line"
  | waiting .accessors => "waiting for state region"
  | inside .accessors => "state region"
  | waiting .parameters => "waiting for parameter region"
  | inside .parameters => "parameter region"
  | waiting .diff => "waiting for diff region"
  | inside .diff => "diff region"
  | tail => "tail"

/-- Stages in the order in which a pass meets them. -/
def sort (stages : List Stage) : List Stage := stages.mergeSort fun a b => a.rank ≤ b.rank

theorem rank_next (stage : Stage) (h : stage ≠ .tail) : stage.next.rank = stage.rank + 1 := by
  cases stage with
  | firstLine => rfl
  | waiting region => cases region <;> rfl
  | inside region => cases region <;> rfl
  | tail => exact absurd rfl h

example : all.map rank = List.range 8 := by decide

end Stage

end RegionSync
