import RegionSync.Json.Reader

set_option autoImplicit false

/-! # Strings in JSON

A string is written between quotes. The quote, the backslash and the characters below U+0020 are
escaped, the latter by a letter where there is one and by four digits otherwise; every other
character stands for itself. The reader takes every escape of the format, surrogate pairs
included, and refuses half a pair.
-/

namespace RegionSync.Json

/-! ## Writing -/

/-- The hexadecimal digit of a number below sixteen. -/
def hexDigit (n : Nat) : Char :=
  if n < 10 then Char.ofNat (48 + n) else Char.ofNat (87 + n)

/-- The written form of a character inside a string. -/
def escapeChar (c : Char) : List Char :=
  if c = '"' then ['\\', '"']
  else if c = '\\' then ['\\', '\\']
  else if c = '\x08' then ['\\', 'b']
  else if c = '\x0c' then ['\\', 'f']
  else if c = '\n' then ['\\', 'n']
  else if c = '\r' then ['\\', 'r']
  else if c = '\t' then ['\\', 't']
  else if c.toNat < 0x20 then ['\\', 'u', '0', '0', hexDigit (c.toNat / 16), hexDigit (c.toNat % 16)]
  else [c]

/-- The written form of a string. -/
def quote (text : String) : List Char := '"' :: text.toList.flatMap escapeChar ++ ['"']

/-! ## Reading -/

/-- The value of a hexadecimal digit. -/
def hexValue? (c : Char) : Option Nat :=
  let n := c.toNat
  if 48 ≤ n ∧ n ≤ 57 then some (n - 48)
  else if 97 ≤ n ∧ n ≤ 102 then some (n - 87)
  else if 65 ≤ n ∧ n ≤ 70 then some (n - 55)
  else none

/-- The character that a letter after a backslash stands for. -/
def escapeLetter? (c : Char) : Option Char :=
  if c = '"' ∨ c = '\\' ∨ c = '/' then some c
  else if c = 'b' then some '\x08'
  else if c = 'f' then some '\x0c'
  else if c = 'n' then some '\n'
  else if c = 'r' then some '\r'
  else if c = 't' then some '\t'
  else none

/-- The fault of an escape whose next `left + 1` digits should stand at the front of `text` and do
not. Four bytes are taken at once, so a text that is too short for them is truncated whatever
it holds. -/
def hexFault (left : Nat) (text : List Char) : Fault :=
  if text.foldr (fun c size => c.utf8Size + size) 0 < left + 1 then .truncated else .malformed

/-- Whether a code unit is the first half of a surrogate pair. -/
def isHighSurrogate (n : Nat) : Bool := 0xD800 ≤ n && n < 0xDC00

/-- Whether a code unit is the second half of a surrogate pair. -/
def isLowSurrogate (n : Nat) : Bool := 0xDC00 ≤ n && n < 0xE000

/-- The character of a surrogate pair. -/
def pairChar (high low : Nat) : Char :=
  Char.ofNat (0x10000 + (high - 0xD800) * 0x400 + (low - 0xDC00))

/-- Where a reader stands inside a string. -/
inductive Escape where
  /-- Outside every escape. -/
  | plain
  /-- After a backslash. -/
  | backslash
  /-- Inside a code unit with `left + 1` digits to come, after the first half `high` of a pair if
  there is one. -/
  | digits (left value : Nat) (high : Option Nat)
  /-- After the first half of a pair. -/
  | highDone (high : Nat)
  /-- After the first half of a pair and a backslash. -/
  | highBackslash (high : Nat)

/-- What one character does inside a string. -/
inductive StringStep where
  /-- The string goes on. -/
  | more (state : Escape)
  /-- A character of the string is complete. -/
  | char (c : Char)
  /-- The string is closed. -/
  | closed
  | fault (fault : Fault)

/-- What is known once a code unit is complete. -/
def unitStep (unit : Nat) : Option Nat → StringStep
  | some high => if isLowSurrogate unit then .char (pairChar high unit) else .fault .malformed
  | none =>
    if isLowSurrogate unit then .fault .malformed
    else if isHighSurrogate unit then .more (.highDone unit)
    else .char (Char.ofNat unit)

/-- Takes the character `c` of a string, with `rest` after it. -/
def stringStep (state : Escape) (c : Char) (rest : List Char) : StringStep :=
  match state with
  | .plain =>
    if c = '"' then .closed
    else if c = '\\' then .more .backslash
    else if c.toNat < 0x20 then .fault .malformed
    else .char c
  | .backslash =>
    if c = 'u' then .more (.digits 3 0 none)
    else match escapeLetter? c with
      | some meant => .char meant
      | none => .fault .malformed
  | .digits left value high =>
    match hexValue? c with
    | none => .fault (hexFault left (c :: rest))
    | some digit =>
      match left with
      | left + 1 => .more (.digits left (value * 16 + digit) high)
      | 0 => unitStep (value * 16 + digit) high
  | .highDone high => if c = '\\' then .more (.highBackslash high) else .fault .malformed
  | .highBackslash high => if c = 'u' then .more (.digits 3 0 (some high)) else .fault .malformed

/-- Reads a string after its opening quote; `done` holds the characters read, newest first. -/
def readStringFrom (state : Escape) (done : List Char) : Reader String
  | [] => .error .truncated
  | c :: rest =>
    match stringStep state c rest with
    | .more next => readStringFrom next done rest
    | .char meant => readStringFrom .plain (meant :: done) rest
    | .closed => .ok (String.ofList done.reverse, rest)
    | .fault fault => .error fault

/-- Reads what follows the opening quote of a string. -/
def readStringBody : Reader String := readStringFrom .plain []

example : readStringBody "a\\u0041\\ud83d\\ude00\\n\"x".toList = .ok ("aA😀\n", ['x']) := by
  rfl

end RegionSync.Json
