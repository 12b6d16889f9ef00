import RegionSync.Json.Scalar
import RegionSync.Json.Skip

set_option autoImplicit false

/-! # Records in JSON

A record is written as an object with its members in a fixed order. It is read from an object
with the members in any order, unknown ones passed over and none given twice, or from a list of
the member values in order. A *lenient* record may leave members out: they keep the values of
its starting record.
-/

namespace RegionSync.Json

variable {ρ : Type}

/-- A named part of a record. -/
structure Member (ρ : Type) where
  name : String
  /-- The JSON form of the part. -/
  write : ρ → List Char
  /-- Reads a value into the record. -/
  read : ρ → Reader ρ

/-- The member whose value is got and set through a codec. -/
def Member.of {α : Type} (name : String) (codec : Codec α) (get : ρ → α) (set : α → ρ → ρ) :
    Member ρ where
  name := name
  write record := codec.write (get record)
  read record text := (codec.read text).map fun (value, rest) => (set value record, rest)

/-- The form of a record. -/
structure Schema (ρ : Type) where
  /-- The record before any member is read. -/
  start : ρ
  /-- Whether members may be left out. -/
  lenient : Bool
  members : List (Member ρ)

namespace Schema

/-! ## Writing -/

/-- One member of an object. -/
def writeMember (record : ρ) (member : Member ρ) : List Char :=
  quote member.name ++ [':'] ++ member.write record

/-- A record as an object without blanks. -/
def write (schema : Schema ρ) (record : ρ) : List Char :=
  ['{'] ++ ((schema.members.map (writeMember record)).intersperse [',']).flatten ++ ['}']

/-- A record whose members are simple values as an object with one member a line. -/
def writeLines (schema : Schema ρ) (record : ρ) : List Char :=
  let line (member : Member ρ) : List Char :=
    "\n  ".toList ++ quote member.name ++ ": ".toList ++ member.write record
  ['{'] ++ ((schema.members.map line).intersperse [',']).flatten ++ ['\n', '}']

/-! ## Reading an object -/

/-- What stands where the next part of a bracket may begin. -/
inductive Next where
  /-- A part, beginning at `rest`. -/
  | part (rest : List Char)
  /-- The end of the bracket, which `rest` follows. -/
  | close (rest : List Char)

/-- Finds the next member of an object, its name after the opening quote. A comma must stand before
every member but the first. -/
def nextName (isFirst : Bool) (text : List Char) : Except Fault Next :=
  let name (text : List Char) : Except Fault Next :=
    match skipBlank text with
    | [] => .error .truncated
    | c :: rest => if c = '"' then .ok (.part rest) else .error .malformed
  match skipBlank text with
  | [] => .error .truncated
  | c :: rest =>
    if c = '}' then .ok (.close rest)
    else if isFirst then name (c :: rest)
    else if c = ',' then name rest
    else .error .malformed

/-- Whether every member that must be given is among the names `seen`. -/
def isComplete (schema : Schema ρ) (seen : List String) : Bool :=
  schema.lenient || schema.members.all fun member => seen.contains member.name

/-- Reads a member whose name is known, after the name. -/
def readMember (schema : Schema ρ) (seen : List String) (record : ρ) (name : String)
    (text : List Char) : Except Fault (ρ × List String × List Char) :=
  match schema.members.find? (·.name == name) with
  | none =>
    match passColon text with
    | .error fault => .error fault
    | .ok rest => (skipValue rest).map fun rest => (record, seen, rest)
  | some member =>
    if seen.contains name then .error .mismatched
    else
      match passColon text with
      | .error fault => .error fault
      | .ok rest => (member.read record rest).map fun (record, rest) => (record, name :: seen, rest)

/-- Reads the members of an object up to its end. A member takes a character at least, so a budget
of one member for each character of the text is never used up. -/
def readMembers (schema : Schema ρ) : Nat → Bool → List String → ρ → Reader ρ
  | 0, _, _, _, _ => .error .truncated
  | budget + 1, isFirst, seen, record, text =>
    match nextName isFirst text with
    | .error fault => .error fault
    | .ok (.close rest) =>
      if schema.isComplete seen then .ok (record, rest) else .error .mismatched
    | .ok (.part rest) =>
      match readStringBody rest with
      | .error fault => .error fault
      | .ok (name, rest) =>
        match schema.readMember seen record name rest with
        | .error fault => .error fault
        | .ok (record, seen, rest) => readMembers schema budget false seen record rest

/-! ## Reading a list -/

/-- Finds the next value of a list. A comma must stand before every value but the first. -/
def nextItem (isFirst : Bool) (text : List Char) : Except Fault Next :=
  match skipBlank text with
  | [] => .error .truncated
  | c :: rest =>
    if c = ']' then .ok (.close rest)
    else if isFirst then .ok (.part (c :: rest))
    else if c = ',' then
      match skipBlank rest with
      | [] => .error .truncated
      | d :: after => if d = ']' then .error .malformed else .ok (.part (d :: after))
    else .error .malformed

/-- Passes over the end of a list that has all its values. -/
def passListEnd (text : List Char) : Except Fault (List Char) :=
  match skipBlank text with
  | [] => .error .truncated
  | c :: rest => if c = ']' then .ok rest else .error .malformed

/-- Reads the values of the given members from a list, up to its end. -/
def readItems (lenient : Bool) : List (Member ρ) → Bool → ρ → Reader ρ
  | [], _, record, text => (passListEnd text).map fun rest => (record, rest)
  | member :: members, isFirst, record, text =>
    match nextItem isFirst text with
    | .error fault => .error fault
    | .ok (.close rest) => if lenient then .ok (record, rest) else .error .mismatched
    | .ok (.part rest) =>
      match member.read record rest with
      | .error fault => .error fault
      | .ok (record, rest) => readItems lenient members false record rest

/-- Reads a record. -/
def read (schema : Schema ρ) : Reader ρ := fun text =>
  match skipBlank text with
  | '{' :: rest => schema.readMembers (rest.length + 1) true [] schema.start rest
  | '[' :: rest => readItems schema.lenient schema.members true schema.start rest
  | other => .error (unwanted other)

/-- The codec of a record. -/
def codec (schema : Schema ρ) : Codec ρ := ⟨schema.write, schema.read⟩

end Schema

end RegionSync.Json
