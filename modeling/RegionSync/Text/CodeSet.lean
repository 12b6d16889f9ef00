set_option autoImplicit false

/-! # Sets of code points

A property of characters is given by the code points at which it begins and ceases to hold, in
increasing order. This is the shortest form in which the tables of Unicode can be written down,
and a character is looked up by counting.
-/

namespace RegionSync.Text

/-- A set of code points: it begins at the first of `changes`, ends before the second, and so on. -/
structure CodeSet where
  changes : List Nat

/-- Whether a character is in the set: an odd number of changes stands at or before it. -/
def CodeSet.contains (set : CodeSet) (c : Char) : Bool :=
  (set.changes.takeWhile (· ≤ c.toNat)).length % 2 == 1

example : "az|".toList.map (CodeSet.mk [0x61, 0x7B]).contains = [true, true, false] := by decide

end RegionSync.Text
