set_option autoImplicit false

/-! # Fixed beginnings and endings of a text

Tests for a fixed beginning or ending, and their removal. A removal gives nothing back when the
text does not begin or end that way.
-/

namespace RegionSync.Text

/-- Whether `text` begins with `start`. -/
def startsWith (start text : List Char) : Bool := start.isPrefixOf text

/-- Whether `text` ends with `ending`. -/
def endsWith (ending text : List Char) : Bool := ending.isSuffixOf text

/-- What follows `start` at the beginning of `text`. -/
def dropStart? (start text : List Char) : Option (List Char) :=
  if startsWith start text then some (text.drop start.length) else none

/-- What precedes `ending` at the end of `text`. -/
def dropEnd? (ending text : List Char) : Option (List Char) :=
  if endsWith ending text then some (text.take (text.length - ending.length)) else none

theorem dropStart?_append (start rest : List Char) :
    dropStart? start (start ++ rest) = some rest := by
  simp [dropStart?, startsWith]

theorem dropStart?_eq_some {start text rest : List Char}
    (h : dropStart? start text = some rest) : text = start ++ rest := by
  by_cases hp : start.isPrefixOf text = true
  · obtain ⟨tail, rfl⟩ := List.isPrefixOf_iff_prefix.1 hp
    rw [dropStart?_append] at h
    rw [Option.some.inj h]
  · simp [dropStart?, startsWith, hp] at h

theorem dropEnd?_eq_some {ending text front : List Char}
    (h : dropEnd? ending text = some front) : text = front ++ ending := by
  by_cases hs : ending.isSuffixOf text = true
  · obtain ⟨before, rfl⟩ := List.isSuffixOf_iff_suffix.1 hs
    simp [dropEnd?, endsWith, hs] at h
    rw [h]
  · simp [dropEnd?, endsWith, hs] at h

/-- The text with every ASCII capital letter made small. -/
def foldCase (text : List Char) : List Char := text.map Char.toLower

end RegionSync.Text
