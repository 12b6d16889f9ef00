import RegionSync.Json.Reader

set_option autoImplicit false

/-! # Numbers in JSON

A number is read as a *numeral*, its digits in three groups. Only a plain run of digits below
2^64 is an unsigned integer; every other numeral stands for a binary floating-point number, and
one too large for the double-precision range is not accepted at all.
-/

namespace RegionSync.Json

/-- A number as it is written. -/
structure Numeral where
  negative : Bool
  /-- The digits before the point. -/
  whole : List Char
  /-- The digits after the point, if there is one. -/
  fraction : Option (List Char)
  /-- Whether the exponent is negative and its digits, if there is one. -/
  exponent : Option (Bool × List Char)

/-! ## Reading -/

/-- The digits at the front of a text, of which there must be one, and the rest. -/
def takeDigits (text : List Char) : Except Fault (List Char × List Char) :=
  match text with
  | [] => .error .truncated
  | c :: _ =>
    if c.isDigit then .ok (text.takeWhile Char.isDigit, text.dropWhile Char.isDigit)
    else .error .malformed

/-- The digits before the point: a zero stands alone. -/
def takeWhole (text : List Char) : Except Fault (List Char × List Char) :=
  match takeDigits text with
  | .error fault => .error fault
  | .ok ('0' :: _ :: _, _) => .error .malformed
  | .ok (digits, rest) => .ok (digits, rest)

/-- The point and the digits after it, if the text goes on that way. -/
def takeFraction (text : List Char) : Except Fault (Option (List Char) × List Char) :=
  match text with
  | '.' :: rest =>
    match takeDigits rest with
    | .ok (digits, rest) => .ok (some digits, rest)
    | .error fault => .error fault
  | _ => .ok (none, text)

/-- The sign of an exponent, and the rest. -/
def takeSign (text : List Char) : Bool × List Char :=
  match text with
  | '-' :: rest => (true, rest)
  | '+' :: rest => (false, rest)
  | _ => (false, text)

/-- Whether a character announces an exponent. -/
def isExponentMark (c : Char) : Bool := c == 'e' || c == 'E'

/-- The exponent, if the text goes on with one. -/
def takeExponent (text : List Char) : Except Fault (Option (Bool × List Char) × List Char) :=
  match text with
  | [] => .ok (none, [])
  | c :: rest =>
    if isExponentMark c then
      match takeDigits (takeSign rest).2 with
      | .ok (digits, after) => .ok (some ((takeSign rest).1, digits), after)
      | .error fault => .error fault
    else .ok (none, text)

/-- Reads a numeral after its sign. -/
def takeUnsigned (negative : Bool) (text : List Char) : Except Fault (Numeral × List Char) :=
  match takeWhole text with
  | .error fault => .error fault
  | .ok (whole, rest) =>
    match takeFraction rest with
    | .error fault => .error fault
    | .ok (fraction, rest) =>
      match takeExponent rest with
      | .error fault => .error fault
      | .ok (exponent, rest) => .ok (⟨negative, whole, fraction, exponent⟩, rest)

/-- Reads a numeral. -/
def takeNumeral (text : List Char) : Except Fault (Numeral × List Char) :=
  match text with
  | '-' :: rest => takeUnsigned true rest
  | _ => takeUnsigned false text

/-! ## The value -/

/-- The value of a decimal digit. -/
def digitValue (c : Char) : Nat := c.toNat - 48

/-- The number that digits stand for, after `n` in front of them. -/
def digitsValue (n : Nat) (digits : List Char) : Nat :=
  digits.foldl (fun n c => n * 10 + digitValue c) n

/-- Takes digits into a significand as long as it stays below 2^64, and gives the digits that are
left. -/
def absorb : Nat → List Char → Nat × List Char
  | n, [] => (n, [])
  | n, c :: digits =>
    if n * 10 + digitValue c < UInt64.size then absorb (n * 10 + digitValue c) digits
    else (n, c :: digits)

/-- The natural number nearest to `n` with at most 53 significant binary digits; a tie goes to the
even neighbour. -/
def roundDouble (n : Nat) : Nat :=
  let shift := n.log2 + 1 - 53
  let unit := Nat.pow 2 shift
  let twice := 2 * (n % unit)
  let up := twice > unit || (twice == unit && n / unit % 2 == 1)
  (n / unit + if up then 1 else 0) * unit

/-- Whether `significand * 10 ^ exponent` is too large for a double, computed as a rounded product
of a rounded significand and a rounded power of ten. -/
def exceedsDouble (significand : Nat) (exponent : Int) : Bool :=
  if significand = 0 ∨ exponent < 0 then false
  else if exponent > 308 then true
  else
    Nat.pow 2 1024 - Nat.pow 2 970
      ≤ roundDouble significand * roundDouble (Nat.pow 10 exponent.toNat)

namespace Numeral

/-- Whether the numeral is a plain run of digits, without sign, point and exponent. -/
def isPlain (numeral : Numeral) : Bool :=
  !numeral.negative && numeral.fraction.isNone && numeral.exponent.isNone

/-- The unsigned integer below 2^64 that the numeral stands for, if it does. -/
def unsigned? (numeral : Numeral) : Option UInt64 :=
  let n := digitsValue 0 numeral.whole
  if numeral.isPlain && n < UInt64.size then some n.toUInt64 else none

/-- The largest exponent that is taken at its value. -/
def maxExponent : Nat := 0x7FFFFFFF

/-- Whether the numeral is too large for a double. -/
def isTooLarge (numeral : Numeral) : Bool :=
  let fraction := numeral.fraction.getD []
  let (significand, dropped) := absorb 0 numeral.whole
  let (significand, ignored) := absorb significand fraction
  let scale : Int := dropped.length - (fraction.length - ignored.length : Nat)
  match numeral.exponent with
  | none => exceedsDouble significand scale
  | some (true, digits) =>
    let n := digitsValue 0 digits
    if n > maxExponent then false else exceedsDouble significand (scale - n)
  | some (false, digits) =>
    let n := digitsValue 0 digits
    if n > maxExponent then significand != 0 else exceedsDouble significand (scale + n)

end Numeral

/-- Reads a number that is in range. -/
def readNumeral (text : List Char) : Except Fault (Numeral × List Char) :=
  match takeNumeral text with
  | .ok (numeral, rest) => if numeral.isTooLarge then .error .malformed else .ok (numeral, rest)
  | .error fault => .error fault

/-- Whether a character can begin a number. -/
def beginsNumber (c : Char) : Bool := c == '-' || c.isDigit

end RegionSync.Json
