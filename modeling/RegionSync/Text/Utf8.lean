set_option autoImplicit false

/-! # Bytes as text

File contents and file names are bytes, and a text is what bytes that are UTF-8 stand for.
Bytes that are not UTF-8 are shown with each maximal invalid sequence replaced by U+FFFD: a
sequence ends at the first byte that cannot continue it, and that byte is read afresh.
-/

namespace RegionSync.Text

/-- The text that `bytes` encode, if they are UTF-8. -/
def decode? (bytes : ByteArray) : Option String := String.fromUTF8? bytes

/-- The UTF-8 encoding of a text. -/
def encode (text : String) : ByteArray := text.toUTF8

/-! ## Display of bytes that need not be UTF-8 -/

/-- Shown in place of an invalid sequence. -/
def replacement : Char := Char.ofNat 0xFFFD

/-- A sequence that has begun and needs `left + 1` more bytes, the next of them between `low` and
`high`; `value` holds the bits read so far. -/
structure Partial where
  left : Nat
  value : Nat
  low : Nat
  high : Nat

/-- Reads the first byte of a sequence: a finished character, or a sequence that has begun. -/
def openSequence (byte : Nat) : List Char × Option Partial :=
  if byte < 0x80 then ([Char.ofNat byte], none)
  else if byte < 0xC2 then ([replacement], none)
  else if byte < 0xE0 then ([], some ⟨0, byte - 0xC0, 0x80, 0xBF⟩)
  else if byte = 0xE0 then ([], some ⟨1, 0, 0xA0, 0xBF⟩)
  else if byte = 0xED then ([], some ⟨1, 0xD, 0x80, 0x9F⟩)
  else if byte < 0xF0 then ([], some ⟨1, byte - 0xE0, 0x80, 0xBF⟩)
  else if byte = 0xF0 then ([], some ⟨2, 0, 0x90, 0xBF⟩)
  else if byte < 0xF4 then ([], some ⟨2, byte - 0xF0, 0x80, 0xBF⟩)
  else if byte = 0xF4 then ([], some ⟨2, 4, 0x80, 0x8F⟩)
  else ([replacement], none)

/-- Reads one byte of a sequence that has begun. A byte that cannot continue it ends the invalid
sequence and opens the next one. -/
def Partial.continue (seq : Partial) (byte : Nat) : List Char × Option Partial :=
  if seq.low ≤ byte ∧ byte ≤ seq.high then
    let value := seq.value * 64 + (byte - 0x80)
    match seq.left with
    | 0 => ([Char.ofNat value], none)
    | left + 1 => ([], some ⟨left, value, 0x80, 0xBF⟩)
  else
    let (shown, next) := openSequence byte
    (replacement :: shown, next)

/-- The characters shown for `bytes` after the sequence `seq` has begun. -/
def displayFrom : Option Partial → List UInt8 → List Char
  | none, [] => []
  | some _, [] => [replacement]
  | none, byte :: bytes =>
    let (shown, next) := openSequence byte.toNat
    shown ++ displayFrom next bytes
  | some seq, byte :: bytes =>
    let (shown, next) := seq.continue byte.toNat
    shown ++ displayFrom next bytes

/-- The text shown for bytes that need not be UTF-8. -/
def display (bytes : ByteArray) : String := String.ofList (displayFrom none bytes.toList)

example : displayFrom none [0x61, 0xE2, 0x82, 0x62] = ['a', replacement, 'b'] := by decide

end RegionSync.Text
