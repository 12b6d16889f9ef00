set_option autoImplicit false

/-! # Blank characters, trimming and words

A character is *blank* when it has the Unicode property `White_Space`. Trimming removes the
blank characters at both ends of a text, and the *words* of a text are its maximal runs of
characters that are not blank. Texts are lists of characters here, so that every scanner of
the project recurses on the text itself.
-/

namespace RegionSync.Text

/-! ## The character class -/

/-- The code points with the property `White_Space`, as inclusive ranges in increasing order. -/
def blankRanges : List (Nat × Nat) :=
  [(0x0009, 0x000D), (0x0020, 0x0020), (0x0085, 0x0085), (0x00A0, 0x00A0), (0x1680, 0x1680),
    (0x2000, 0x200A), (0x2028, 0x2029), (0x202F, 0x202F), (0x205F, 0x205F), (0x3000, 0x3000)]

/-- Whether a character is white space. -/
def isBlank (c : Char) : Bool :=
  blankRanges.any fun range => range.1 ≤ c.toNat && c.toNat ≤ range.2

example : (blankRanges.map fun range => range.2 + 1 - range.1).sum = 25 := by decide

example : isBlank ' ' = true ∧ isBlank '\n' = true ∧ isBlank '\r' = true ∧ isBlank 'a' = false := by
  decide

/-! ## Trimming -/

/-- The text without its leading blank characters. -/
def trimStart (text : List Char) : List Char := text.dropWhile isBlank

/-- The text without its trailing blank characters. -/
def trimEnd (text : List Char) : List Char := (text.reverse.dropWhile isBlank).reverse

/-- The text without the blank characters at its two ends. -/
def trim (text : List Char) : List Char := trimEnd (trimStart text)

/-! ## Words -/

/-- The words of `word.reverse ++ text`, where `word` holds no blank character: the word being
read, its newest character first. -/
def wordsFrom : List Char → List Char → List (List Char)
  | word, [] => if word.isEmpty then [] else [word.reverse]
  | word, c :: text =>
    if isBlank c then
      if word.isEmpty then wordsFrom [] text else word.reverse :: wordsFrom [] text
    else wordsFrom (c :: word) text

/-- The maximal runs of characters that are not blank, in order. -/
def words (text : List Char) : List (List Char) := wordsFrom [] text

example : words " ab  c ".toList = ["ab".toList, "c".toList] := by decide

end RegionSync.Text
