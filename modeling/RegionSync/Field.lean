import RegionSync.Text.Affix

set_option autoImplicit false

/-! # Declared fields

An annotated class declares *props*, whose values come in as parameters, and *states*, which are
reached through accessors. A prop should have an immutable type; the type is judged by its
spelling alone (`TypeKind.classify`), and a prop whose type is not recognised is kept but gets
an *advisory*.
-/

namespace RegionSync

/-! ## Kinds of types -/

/-- What the spelling of a type says about it. -/
inductive TypeKind where
  | primitive
  | setter
  | callback
  | action
  | enumeration
  | unknown
deriving DecidableEq

namespace TypeKind

/-- The built-in types that are known to be immutable. -/
def primitives : List String := ["int", "long", "float", "double", "bool", "string"]

/-- The kind of a type, by the first rule that its spelling meets. -/
def classify (ty : String) : TypeKind :=
  let text := ty.toList
  if ty ∈ primitives then .primitive
  else if Text.startsWith "State<".toList text && Text.endsWith ">.SetterType".toList text then .setter
  else if Text.startsWith "CallbackType.".toList text then .callback
  else if Text.startsWith "Action".toList text then .action
  else if Text.startsWith "Enum".toList text || Text.endsWith "Enum".toList text then .enumeration
  else .unknown

/-- Whether the kind is a known immutable one. -/
def isRecognized (kind : TypeKind) : Bool := kind != .unknown

end TypeKind

/-! ## Props and states -/

/-- A prop: a field that is set from a parameter. -/
structure PropField where
  ty : String
  name : String
deriving DecidableEq

/-- A state: a field of type `State<ty>` that is reached through an accessor of type `ty`. -/
structure StateField where
  ty : String
  name : String
deriving DecidableEq

namespace PropField

/-- The kind of the prop's type. -/
def kind (prop : PropField) : TypeKind := TypeKind.classify prop.ty

/-- The name of the parameter that carries the prop's new value. -/
def paramName (prop : PropField) : String := prop.name ++ "_"

/-- The formal parameter of the prop. -/
def formalParam (prop : PropField) : String := prop.ty ++ " " ++ prop.paramName

end PropField

/-- The name of the property that gets and sets the state. -/
def StateField.accessorName (state : StateField) : String := "P_" ++ state.name

/-! ## Advisories -/

/-- A hint that the prop declared on a line has a type that is not known to be immutable. -/
structure Advisory where
  line : Nat
  prop : PropField
deriving DecidableEq

namespace Advisory

/-- The advisory for a prop declared on `line`, if its type asks for one. -/
def check (line : Nat) (prop : PropField) : Option Advisory :=
  if prop.kind.isRecognized then none else some ⟨line, prop⟩

/-- The wording of an advisory. -/
def message (advisory : Advisory) : String :=
  "line " ++ toString advisory.line ++ ": not a known immutable type: " ++ advisory.prop.ty ++
    " (name your enum types with an \"Enum\" prefix or suffix)"

end Advisory

end RegionSync
