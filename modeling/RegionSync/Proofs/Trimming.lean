import RegionSync.Text.Blank
import Mathlib.Data.List.DropRight
import Mathlib.Tactic

set_option autoImplicit false

/-! # Trimmed texts

Trimming cuts a text at both ends and nowhere else (`isInfix_trim`), down to a text whose first and
last characters are not blank. Such a text stays as it is (`trim_eq_self`), so trimming twice is
trimming once, and a text that does change gets shorter (`length_trim_lt`).
-/

namespace RegionSync.Text

variable {text : List Char} {c : Char}

theorem trimEnd_eq_rdropWhile (text : List Char) : trimEnd text = text.rdropWhile isBlank := rfl

theorem isInfix_trim (text : List Char) : trim text <:+: text := by
  have hend : trim text <+: trimStart text := List.rdropWhile_prefix _ _
  have hstart : trimStart text <:+ text := List.dropWhile_suffix _
  exact hend.isInfix.trans hstart.isInfix

/-- A text that starts and ends with a character that is not blank stays as it is. -/
theorem trim_eq_self (hfirst : ∀ c ∈ text.head?, isBlank c = false)
    (hlast : ∀ c ∈ text.getLast?, isBlank c = false) : trim text = text := by
  have hstart : trimStart text = text := by
    cases text with
    | nil => rfl
    | cons c rest => exact List.dropWhile_cons_of_neg (by simp [hfirst c rfl])
  rw [trim, hstart, trimEnd_eq_rdropWhile, List.rdropWhile_eq_self_iff]
  intro hne
  simp [hlast _ (List.getLast?_eq_getLast_of_ne_nil hne)]

theorem isBlank_of_mem_head?_trim (h : c ∈ (trim text).head?) : isBlank c = false := by
  have hfront : trim text <+: trimStart text := List.rdropWhile_prefix _ _
  cases htrim : trim text with
  | nil => simp [htrim] at h
  | cons d rest =>
      obtain rfl : d = c := by simpa [htrim] using h
      rw [htrim] at hfront
      -- the first character that is kept is the first one that is not blank
      obtain ⟨more, hmore⟩ := hfront
      have hfirst := List.head?_dropWhile_not isBlank text
      rw [show text.dropWhile isBlank = trimStart text from rfl, ← hmore] at hfirst
      exact hfirst

theorem isBlank_of_mem_getLast?_trim (h : c ∈ (trim text).getLast?) : isBlank c = false := by
  have hne : (trimStart text).rdropWhile isBlank ≠ [] := by
    intro hnil
    rw [trim, trimEnd_eq_rdropWhile, hnil] at h
    cases h
  have hlast := List.rdropWhile_last_not isBlank (trimStart text) hne
  rw [trim, trimEnd_eq_rdropWhile, List.getLast?_eq_getLast_of_ne_nil hne, Option.mem_some_iff] at h
  rw [h] at hlast
  simpa using hlast

theorem trim_trim (text : List Char) : trim (trim text) = trim text :=
  trim_eq_self (fun _ h => isBlank_of_mem_head?_trim h) fun _ h => isBlank_of_mem_getLast?_trim h

theorem length_trim_lt (h : trim text ≠ text) : (trim text).length < text.length := by
  have hle := (isInfix_trim text).length_le
  have hne : (trim text).length ≠ text.length := fun hsame => h ((isInfix_trim text).eq_of_length hsame)
  omega

/-- A blank character behind a text makes no difference. -/
theorem trim_append_blank (text : List Char) (h : isBlank c = true) :
    trim (text ++ [c]) = trim text := by
  unfold trim
  rw [trimStart, List.dropWhile_append]
  split_ifs with hempty
  · rw [trimStart, List.isEmpty_iff.mp hempty, List.dropWhile_cons_of_pos h, List.dropWhile_nil]
  · rw [trimEnd_eq_rdropWhile, List.rdropWhile_concat_pos _ _ _ h]
    rfl

/-- Characters that are not blank are never lost. -/
theorem mem_trim (hmem : c ∈ text) (h : isBlank c = false) : c ∈ trim text := by
  have hkeep (front : List Char) (hfront : c ∈ front) : c ∈ front.dropWhile isBlank := by
    rw [← List.takeWhile_append_dropWhile (p := isBlank) (l := front), List.mem_append] at hfront
    rcases hfront with hblank | hkept
    · rw [List.mem_takeWhile_imp hblank] at h
      cases h
    · exact hkept
  have hstart : c ∈ trimStart text := hkeep text hmem
  exact List.mem_reverse.mpr (hkeep _ (List.mem_reverse.mpr hstart))

end RegionSync.Text
