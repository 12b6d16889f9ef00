import RegionSync.Json.Numeral
import RegionSync.Json.Quoted

set_option autoImplicit false

/-! # Strings, integers and truth values

The codecs of the simple values. Where a value of another kind stands, it is read far enough to
tell whether it is JSON at all.
-/

namespace RegionSync.Json

/-- What is wrong with a value of an unwanted kind at the front of `text`, which holds no leading
blank. Brackets are not looked into. -/
def unwanted (text : List Char) : Fault :=
  let outcome {α : Type} (result : Except Fault α) : Fault :=
    match result with
    | .ok _ => .mismatched
    | .error fault => fault
  match text with
  | [] => .truncated
  | c :: rest =>
    if c = 'n' then outcome (passWord "ull".toList rest)
    else if c = 't' then outcome (passWord "rue".toList rest)
    else if c = 'f' then outcome (passWord "alse".toList rest)
    else if c = '"' then outcome (readStringBody rest)
    else if c = '[' ∨ c = '{' then .mismatched
    else if beginsNumber c then outcome (readNumeral text)
    else .malformed

/-- Reads a string. -/
def readString : Reader String := fun text =>
  match skipBlank text with
  | '"' :: rest => readStringBody rest
  | other => .error (unwanted other)

/-- Reads an unsigned integer. -/
def readUnsigned : Reader UInt64 := fun text =>
  match skipBlank text with
  | [] => .error .truncated
  | c :: rest =>
    if beginsNumber c then
      match readNumeral (c :: rest) with
      | .error fault => .error fault
      | .ok (numeral, rest) =>
        match numeral.unsigned? with
        | some n => .ok (n, rest)
        | none => .error .mismatched
    else .error (unwanted (c :: rest))

/-- Reads a truth value. -/
def readBool : Reader Bool := fun text =>
  match skipBlank text with
  | [] => .error .truncated
  | c :: rest =>
    if c = 't' then (passWord "rue".toList rest).map fun rest => (true, rest)
    else if c = 'f' then (passWord "alse".toList rest).map fun rest => (false, rest)
    else .error (unwanted (c :: rest))

/-- Reads the value that stands for nothing. -/
def readNull : Reader Unit := fun text =>
  match skipBlank text with
  | [] => .error .truncated
  | c :: rest =>
    if c = 'n' then (passWord "ull".toList rest).map fun rest => ((), rest)
    else .error (unwanted (c :: rest))

namespace Codec

/-- Strings. -/
def string : Codec String := ⟨quote, readString⟩

/-- Unsigned integers of 64 bits. -/
def unsigned : Codec UInt64 := ⟨fun n => (toString n.toNat).toList, readUnsigned⟩

/-- Truth values. -/
def bool : Codec Bool := ⟨fun b => (if b then "true" else "false").toList, readBool⟩

end Codec

end RegionSync.Json
