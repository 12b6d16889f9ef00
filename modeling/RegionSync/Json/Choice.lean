import RegionSync.Json.Scalar

set_option autoImplicit false

/-! # Alternatives in JSON

An alternative is written as its name, or as an object with its name and its content if it has
one. An alternative without content may also be read from an object that gives nothing for it.
-/

namespace RegionSync.Json

variable {α : Type}

/-- A named alternative. -/
structure Variant (α : Type) where
  name : String
  /-- The value of an alternative without content. -/
  constant : Option α
  /-- Reads the content, or the value that stands for nothing if there is none. -/
  read : Reader α

namespace Variant

/-- An alternative without content. -/
def plain (name : String) (value : α) : Variant α where
  name := name
  constant := some value
  read text := (readNull text).map fun ((), rest) => (value, rest)

/-- An alternative with content. -/
def carrying {β : Type} (name : String) (reader : Reader β) (make : β → α) : Variant α where
  name := name
  constant := none
  read text := (reader text).map fun (content, rest) => (make content, rest)

/-- The alternative of a name. -/
def find (variants : List (Variant α)) (name : String) : Except Fault (Variant α) :=
  match variants.find? (·.name == name) with
  | some variant => .ok variant
  | none => .error .mismatched

/-- Reads an alternative that is given by its name alone, after the opening quote. -/
def readName (variants : List (Variant α)) : Reader α := fun text =>
  match readStringBody text with
  | .error fault => .error fault
  | .ok (name, rest) =>
    match find variants name with
    | .error fault => .error fault
    | .ok variant =>
      match variant.constant with
      | some value => .ok (value, rest)
      | none => .error .mismatched

/-- Passes over the end of an object that holds one alternative. -/
def passEnd (text : List Char) : Except Fault (List Char) :=
  match skipBlank text with
  | [] => .error .truncated
  | c :: rest => if c = '}' then .ok rest else .error .malformed

/-- Reads the name in an object that holds one alternative, after the opening bracket. -/
def readKey : Reader String := fun text =>
  match skipBlank text with
  | [] => .error .truncated
  | c :: rest => if c = '"' then readStringBody rest else .error .malformed

/-- Reads an alternative that is given by an object, after the opening bracket. -/
def readObject (variants : List (Variant α)) : Reader α := fun text =>
  match readKey text with
  | .error fault => .error fault
  | .ok (name, rest) =>
    match find variants name with
    | .error fault => .error fault
    | .ok variant =>
      match passColon rest with
      | .error fault => .error fault
      | .ok rest =>
        match variant.read rest with
        | .error fault => .error fault
        | .ok (value, rest) => (passEnd rest).map fun rest => (value, rest)

/-- Reads one of the alternatives. -/
def readAny (variants : List (Variant α)) : Reader α := fun text =>
  match skipBlank text with
  | [] => .error .truncated
  | '"' :: rest => readName variants rest
  | '{' :: rest => readObject variants rest
  | _ => .error .malformed

end Variant

/-- The codec of a type whose values all go by a name. -/
def Codec.named (values : List α) (name : α → String) : Codec α where
  write value := quote (name value)
  read := Variant.readAny (values.map fun value => .plain (name value) value)

end RegionSync.Json
