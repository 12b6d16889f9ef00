import RegionSync.Json.Numeral
import RegionSync.Json.Quoted

set_option autoImplicit false

/-! # Passing over a JSON value

A value that nobody asked for only has to be JSON. It is passed over character by character, with
the brackets that are open on a stack, so values may be nested to any depth. Numbers are not
checked for their range here, and a code unit may be half of a surrogate pair.
-/

namespace RegionSync.Json

/-- An open bracket. -/
inductive Bracket where
  | list
  | object
deriving DecidableEq

/-- What stands at this place of a value that is passed over. -/
inductive Place where
  /-- A value must follow. -/
  | value
  /-- A value or the end of the list just opened must follow. -/
  | firstItem
  /-- A member name or the end of the object just opened must follow. -/
  | firstName
  /-- A member name must follow. -/
  | name
  /-- A colon must follow. -/
  | colon
  /-- A comma or a closing bracket must follow. -/
  | afterValue
  /-- The rest of a word must follow. -/
  | word (rest : List Char)
  /-- Inside a string, which is a member name or a value. -/
  | inString (isName : Bool)
  /-- After a backslash in a string. -/
  | escape (isName : Bool)
  /-- Inside a code unit with `left + 1` digits to come. -/
  | digits (isName : Bool) (left : Nat)
  /-- After the sign of a number. -/
  | sign
  /-- After a leading zero. -/
  | zero
  /-- Among the digits before the point. -/
  | whole
  /-- After the point. -/
  | point
  /-- Among the digits after the point. -/
  | fraction
  /-- After the mark of an exponent. -/
  | exponentMark
  /-- After the sign of an exponent. -/
  | exponentSign
  /-- Among the digits of an exponent. -/
  | exponent

/-- What one character does to a value that is passed over. -/
inductive SkipStep where
  /-- The value goes on. -/
  | more (place : Place) (stack : List Bracket)
  /-- The value ended with this character. -/
  | ended
  /-- The value ended before this character. -/
  | endedBefore
  | fault (fault : Fault)

/-- The place after a complete value. -/
def completed : List Bracket → SkipStep
  | [] => .ended
  | stack => .more .afterValue stack

/-- Takes a character after a complete value inside a bracket. -/
def afterValueStep (stack : List Bracket) (c : Char) : SkipStep :=
  match stack with
  | [] => .endedBefore
  | .list :: outer =>
    if isBlank c then .more .afterValue stack
    else if c = ',' then .more .value stack
    else if c = ']' then completed outer
    else .fault .malformed
  | .object :: outer =>
    if isBlank c then .more .afterValue stack
    else if c = ',' then .more .name stack
    else if c = '}' then completed outer
    else .fault .malformed

/-- Takes the first character of a value. -/
def valueStep (stack : List Bracket) (c : Char) : SkipStep :=
  if isBlank c then .more .value stack
  else if c = 'n' then .more (.word ['u', 'l', 'l']) stack
  else if c = 't' then .more (.word ['r', 'u', 'e']) stack
  else if c = 'f' then .more (.word ['a', 'l', 's', 'e']) stack
  else if c = '-' then .more .sign stack
  else if c = '0' then .more .zero stack
  else if c.isDigit then .more .whole stack
  else if c = '"' then .more (.inString false) stack
  else if c = '[' then .more .firstItem (.list :: stack)
  else if c = '{' then .more .firstName (.object :: stack)
  else .fault .malformed

/-- Takes a character where a member name must begin. -/
def nameStep (place : Place) (stack : List Bracket) (c : Char) : SkipStep :=
  if isBlank c then .more place stack
  else if c = '"' then .more (.inString true) stack
  else .fault .malformed

/-- Takes a digit that must be there. -/
def digitStep (place : Place) (stack : List Bracket) (c : Char) : SkipStep :=
  if c.isDigit then .more place stack else .fault .malformed

/-- Takes a character after the digits of a number that may go on with an exponent or end. -/
def exponentStep (stack : List Bracket) (c : Char) : SkipStep :=
  if isExponentMark c then .more .exponentMark stack else afterValueStep stack c

/-- Takes a character after the digits before the point. -/
def pointStep (stack : List Bracket) (c : Char) : SkipStep :=
  if c = '.' then .more .point stack else exponentStep stack c

/-- Takes the character `c`, with `rest` after it. -/
def skipStep (place : Place) (stack : List Bracket) (c : Char) (rest : List Char) : SkipStep :=
  match place with
  | .value => valueStep stack c
  | .firstItem =>
    if isBlank c then .more .firstItem stack
    else if c = ']' then completed stack.tail
    else valueStep stack c
  | .firstName => if c = '}' then completed stack.tail else nameStep .firstName stack c
  | .name => nameStep .name stack c
  | .colon =>
    if isBlank c then .more .colon stack
    else if c = ':' then .more .value stack
    else .fault .malformed
  | .afterValue => afterValueStep stack c
  | .word [] => .fault .malformed
  | .word (w :: word) =>
    if c = w then if word.isEmpty then completed stack else .more (.word word) stack
    else .fault .malformed
  | .inString isName =>
    if c = '"' then if isName then .more .colon stack else completed stack
    else if c = '\\' then .more (.escape isName) stack
    else if c.toNat < 0x20 then .fault .malformed
    else .more (.inString isName) stack
  | .escape isName =>
    if c = 'u' then .more (.digits isName 3) stack
    else if (escapeLetter? c).isSome then .more (.inString isName) stack
    else .fault .malformed
  | .digits isName left =>
    match hexValue? c, left with
    | none, left => .fault (hexFault left (c :: rest))
    | some _, left + 1 => .more (.digits isName left) stack
    | some _, 0 => .more (.inString isName) stack
  | .sign => if c = '0' then .more .zero stack else digitStep .whole stack c
  | .zero => if c.isDigit then .fault .malformed else pointStep stack c
  | .whole => if c.isDigit then .more .whole stack else pointStep stack c
  | .point => digitStep .fraction stack c
  | .fraction => if c.isDigit then .more .fraction stack else exponentStep stack c
  | .exponentMark =>
    if c = '+' ∨ c = '-' then .more .exponentSign stack else digitStep .exponent stack c
  | .exponentSign => digitStep .exponent stack c
  | .exponent => if c.isDigit then .more .exponent stack else afterValueStep stack c

/-- The result when the text ends: a number may end with it, half a number is malformed, and
everything else is truncated. -/
def skipEnd (place : Place) (stack : List Bracket) : Except Fault (List Char) :=
  match place with
  | .zero | .whole | .fraction | .exponent => if stack.isEmpty then .ok [] else .error .truncated
  | .sign | .point | .exponentMark | .exponentSign => .error .malformed
  | _ => .error .truncated

/-- Passes over what is left of a value from a place inside it. -/
def skipFrom (place : Place) (stack : List Bracket) : List Char → Except Fault (List Char)
  | [] => skipEnd place stack
  | c :: rest =>
    match skipStep place stack c rest with
    | .more next stack => skipFrom next stack rest
    | .ended => .ok rest
    | .endedBefore => .ok (c :: rest)
    | .fault fault => .error fault

/-- Passes over one value. -/
def skipValue (text : List Char) : Except Fault (List Char) := skipFrom .value [] text

example : skipValue " [1e400,\x7b\"\\ud800\":-0\x7d,[]] ,".toList = .ok " ,".toList := by
  rfl

end RegionSync.Json
