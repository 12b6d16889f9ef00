import RegionSync.Text.Affix

set_option autoImplicit false

/-! # Lines and their endings

A text is cut after every line feed, so a line carries its own *ending*: a carriage return and
line feed, a line feed, or nothing for a last line that is not ended. No character is dropped:
the lines of a text concatenate to the text.
-/

namespace RegionSync.Text

/-- The lines of `line.reverse ++ text`, where `line` is the line being read, its newest
character first. -/
def linesFrom : List Char → List Char → List (List Char)
  | line, [] => if line.isEmpty then [] else [line.reverse]
  | line, c :: text =>
    if c = '\n' then (c :: line).reverse :: linesFrom [] text else linesFrom (c :: line) text

/-- The lines of a text, each with its ending. The empty text has no line. -/
def lines (text : List Char) : List (List Char) := linesFrom [] text

theorem linesFrom_flatten (line text : List Char) :
    (linesFrom line text).flatten = line.reverse ++ text := by
  induction text generalizing line with
  | nil => cases line <;> simp [linesFrom]
  | cons c text ih =>
    by_cases h : c = '\n' <;> simp [linesFrom, h, ih]

theorem lines_flatten (text : List Char) : (lines text).flatten = text := by
  simp [lines, linesFrom_flatten]

/-- The ending of a line: a carriage return and line feed, a line feed, or nothing. -/
def ending (line : List Char) : List Char :=
  if endsWith ['\r', '\n'] line then ['\r', '\n']
  else if endsWith ['\n'] line then ['\n']
  else []

/-- A line without its ending. -/
def body (line : List Char) : List Char := line.take (line.length - (ending line).length)

example : lines "a\r\n\nb".toList = ["a\r\n".toList, "\n".toList, "b".toList] := by decide

end RegionSync.Text
