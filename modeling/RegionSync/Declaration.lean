import RegionSync.Stage
import RegionSync.Text.Blank

set_option autoImplicit false

/-! # Declarations and faults

The line after an attribute declares a field: the word `private`, one blank, a type and a name,
and anything after the first semicolon. A state's type is written `State<T>`. A line that does
not follow this form is a *fault*, and so is a file that ends before its last region.
-/

namespace RegionSync

/-! ## Faults -/

/-- Why an annotated file cannot be regenerated. -/
inductive Fault where
  /-- The declaration on `line` does not start with the visibility. -/
  | missingVisibility (line : Nat) (content : String)
  /-- The declaration on `line` has `found` words where a type and a name are wanted. -/
  | tokenCount (line found : Nat) (content : String)
  /-- The state declared on `line` has the type `ty`, which is not of the form `State<T>`. -/
  | malformedStateType (line : Nat) (ty : String)
  /-- The file ended in `stage`. -/
  | truncated (stage : Stage)
deriving DecidableEq

namespace Fault

/-- The line that a fault is about. -/
def line? : Fault → Option Nat
  | missingVisibility line _ => some line
  | tokenCount line _ _ => some line
  | malformedStateType line _ => some line
  | truncated _ => none

/-- The wording of a fault. -/
def message : Fault → String
  | missingVisibility line content =>
    "line " ++ toString line ++ ": declaration must start with `private `: `" ++ content ++ "`"
  | tokenCount line found content =>
    "line " ++ toString line ++ ": expected `<type> <name>` but found " ++ toString found ++
      " token(s): `" ++ content ++ "`"
  | malformedStateType line ty =>
    "line " ++ toString line ++ ": state type must be written as `State<T>`, found `" ++ ty ++ "`"
  | truncated stage =>
    "annotated file ended in stage '" ++ stage.label ++
      "' before all generated regions were found"

end Fault

/-! ## Reading a declaration -/

namespace Declaration

/-- How every declaration starts. -/
def visibility : List Char := "private ".toList

/-- The type and the name that `content`, the text of line `number`, declares. -/
def split (number : Nat) (content : List Char) : Except Fault (List Char × List Char) :=
  match Text.dropStart? visibility content with
  | none => .error (.missingVisibility number (String.ofList content))
  | some rest =>
    match Text.words (rest.takeWhile (· != ';')) with
    | [ty, name] => .ok (ty, name)
    | words => .error (.tokenCount number words.length (String.ofList content))

/-- The inner type of `State<T>`, if the type is of that form and `T` is not empty. -/
def innerType? (ty : List Char) : Option (List Char) :=
  match (Text.dropStart? "State<".toList ty).bind (Text.dropEnd? ">".toList) with
  | some (c :: inner) => some (c :: inner)
  | _ => none

/-- Reads the declaration of a prop. -/
def readProp (number : Nat) (content : List Char) : Except Fault PropField :=
  match split number content with
  | .ok (ty, name) => .ok ⟨String.ofList ty, String.ofList name⟩
  | .error fault => .error fault

/-- Reads the declaration of a state. -/
def readState (number : Nat) (content : List Char) : Except Fault StateField :=
  match split number content with
  | .ok (ty, name) =>
    match innerType? ty with
    | some inner => .ok ⟨String.ofList inner, String.ofList name⟩
    | none => .error (.malformedStateType number (String.ofList ty))
  | .error fault => .error fault

end Declaration

end RegionSync
