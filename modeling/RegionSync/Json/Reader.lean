set_option autoImplicit false

/-! # Reading JSON: readers and faults

A document is read from left to right straight into the value that is wanted, so the first
problem met decides which fault is reported. A reader takes a value from the front of a text and
leaves the rest. There are three faults: the text is not JSON, it ends inside a value, or it is
JSON for some other kind of value.
-/

namespace RegionSync.Json

/-- Why a text is not the JSON form of a wanted value. -/
inductive Fault where
  /-- The text is not JSON. -/
  | malformed
  /-- The text ends inside a value. -/
  | truncated
  /-- The value is not of the wanted kind. -/
  | mismatched
deriving DecidableEq

/-- Takes a value from the front of a text and leaves the rest. -/
abbrev Reader (α : Type) := List Char → Except Fault (α × List Char)

/-- The characters that may stand between the parts of a document. -/
def isBlank (c : Char) : Bool := c == ' ' || c == '\n' || c == '\t' || c == '\r'

/-- The text after its leading blanks. -/
def skipBlank (text : List Char) : List Char := text.dropWhile isBlank

/-- Passes over a fixed word. -/
def passWord : List Char → List Char → Except Fault (List Char)
  | [], text => .ok text
  | _ :: _, [] => .error .truncated
  | w :: word, c :: text => if c = w then passWord word text else .error .malformed

/-- Passes over the colon between the name of a member and its value. -/
def passColon (text : List Char) : Except Fault (List Char) :=
  match skipBlank text with
  | [] => .error .truncated
  | c :: rest => if c = ':' then .ok rest else .error .malformed

/-- Reads a document that holds one value and nothing else. -/
def parse {α : Type} (reader : Reader α) (text : String) : Except Fault α :=
  match reader text.toList with
  | .ok (value, rest) => if (skipBlank rest).isEmpty then .ok value else .error .malformed
  | .error fault => .error fault

/-- A way to write values and to read them back. -/
structure Codec (α : Type) where
  /-- The shortest JSON form of a value. -/
  write : α → List Char
  /-- Takes a value from the front of a text. -/
  read : Reader α

namespace Codec

variable {α : Type}

/-- The JSON form of a value as a document. -/
def encode (codec : Codec α) (value : α) : String := String.ofList (codec.write value)

/-- The value of a document. -/
def decode (codec : Codec α) (text : String) : Except Fault α := parse codec.read text

end Codec

end RegionSync.Json
