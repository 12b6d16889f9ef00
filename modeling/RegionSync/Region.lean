import RegionSync.Field

set_option autoImplicit false

/-! # Generated regions

An annotated file has three generated regions, each a single line: the accessors of the states,
the formal parameters of the props, and the block that takes new prop values over. A region
without declarations holds a placeholder, so it never becomes a blank line.
-/

namespace RegionSync

/-- The three generated regions, in file order. -/
inductive Region where
  | accessors
  | parameters
  | diff
deriving DecidableEq

namespace Region

/-- Stands in a region for which nothing is declared. -/
def placeholder : List Char := "// Don't delete this line. ".toList

/-- The accessor of a state. -/
def accessor (state : StateField) : List Char :=
  "public ".toList ++ state.ty.toList ++ " ".toList ++ state.accessorName.toList ++
    " \x7b get => ".toList ++ state.name.toList ++ ".Get(police); set \x7b ".toList ++
    state.name.toList ++ ".Set(value); \x7d \x7d ".toList

/-- The guarded assignment that takes over the new value of a prop. -/
def takeover (prop : PropField) : List Char :=
  "if (".toList ++ prop.name.toList ++ " != ".toList ++ prop.paramName.toList ++ ") \x7b ".toList ++
    prop.name.toList ++ " = ".toList ++ prop.paramName.toList ++ "; need_react = true; \x7d ".toList

/-- An indented region line: `content`, or the placeholder if nothing is declared. -/
def line (indent : Nat) (declared : Bool) (content : List Char) : List Char :=
  List.replicate indent ' ' ++ if declared then content else placeholder

/-- The region with one accessor per state. -/
def renderAccessors (states : List StateField) : List Char :=
  line 4 (!states.isEmpty) (states.flatMap accessor)

/-- The region with the formal parameters of the props. -/
def renderParameters (props : List PropField) : List Char :=
  line 8 (!props.isEmpty)
    ((props.map fun prop => prop.formalParam.toList).intersperse ", ".toList).flatten

/-- The region that takes over the new prop values and notes whether any differs. -/
def renderDiff (props : List PropField) : List Char :=
  line 8 (!props.isEmpty) (props.flatMap takeover)

/-- The text of a region, without a line ending, for the declarations read so far. -/
def render (region : Region) (states : List StateField) (props : List PropField) : List Char :=
  match region with
  | .accessors => renderAccessors states
  | .parameters => renderParameters props
  | .diff => renderDiff props

end Region

end RegionSync
