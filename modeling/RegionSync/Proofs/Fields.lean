import RegionSync.Declaration
import RegionSync.Proofs.Lines

set_option autoImplicit false

/-! # Declared fields and the regions rendered from them

What a declaration is read into has no blank character in it: its parts are words of the line
(`isWord_of_mem_words`). The regions add fixed texts without line breaks to these words, so a
region rendered from declared fields is a single line (`noBreak_render`). Whether a declaration
can be read, and as what, does not depend on the number of its line; the number only appears in
faults.
-/

namespace RegionSync

/-! ## Words -/

namespace Text

/-- What a word looks like: it is not empty and holds no blank character. -/
def IsWord (word : List Char) : Prop := word ≠ [] ∧ ∀ c ∈ word, isBlank c = false

theorem isWord_reverse {word : List Char} (hne : word ≠ []) (h : ∀ c ∈ word, isBlank c = false) :
    IsWord word.reverse :=
  ⟨by simpa using hne, fun c hc => h c (List.mem_reverse.mp hc)⟩

theorem isWord_of_mem_wordsFrom (word text : List Char) (h : ∀ c ∈ word, isBlank c = false) :
    ∀ found ∈ wordsFrom word text, IsWord found := by
  induction text generalizing word with
  | nil =>
      intro found hfound
      by_cases hw : word = []
      · simp [wordsFrom, hw] at hfound
      · simp only [wordsFrom, List.isEmpty_iff, if_neg hw, List.mem_singleton] at hfound
        rw [hfound]
        exact isWord_reverse hw h
  | cons c text ih =>
      intro found hfound
      cases hc : isBlank c with
      | true =>
          by_cases hw : word = []
          · simp only [wordsFrom, hc, hw, List.isEmpty_nil, if_true] at hfound
            exact ih [] (by simp) found hfound
          · simp only [wordsFrom, hc, List.isEmpty_iff, if_neg hw, if_true, List.mem_cons] at hfound
            rcases hfound with rfl | hfound
            · exact isWord_reverse hw h
            · exact ih [] (by simp) found hfound
      | false =>
          simp only [wordsFrom, hc, Bool.false_eq_true, if_false] at hfound
          refine ih (c :: word) ?_ found hfound
          intro d hd
          rcases List.mem_cons.mp hd with rfl | hd
          · exact hc
          · exact h d hd

theorem isWord_of_mem_words {text word : List Char} (h : word ∈ words text) : IsWord word :=
  isWord_of_mem_wordsFrom [] text (by simp) word h

theorem IsWord.noBreak {word : List Char} (h : IsWord word) : NoBreak word := by
  intro c hc
  have hblank := h.2 c hc
  constructor
  · rintro rfl
    exact absurd hblank (by decide)
  · rintro rfl
    exact absurd hblank (by decide)

end Text

/-! ## Declarations -/

/-- A prop whose type and name are words. -/
def PropField.WellFormed (prop : PropField) : Prop :=
  Text.IsWord prop.ty.toList ∧ Text.IsWord prop.name.toList

/-- A state whose type and name are words. -/
def StateField.WellFormed (state : StateField) : Prop :=
  Text.IsWord state.ty.toList ∧ Text.IsWord state.name.toList

namespace Declaration

/-- What a split gives, and when: the words between the visibility and the first semicolon. -/
theorem split_eq_ok_iff {number : Nat} {content ty name : List Char} :
    split number content = .ok (ty, name) ↔
      ∃ rest, content = visibility ++ rest ∧
        Text.words (rest.takeWhile (· != ';')) = [ty, name] := by
  unfold split
  constructor
  · intro h
    split at h
    · cases h
    · rename_i rest hrest
      refine ⟨rest, Text.dropStart?_eq_some hrest, ?_⟩
      split at h
      · rename_i hwords
        cases h
        exact hwords
      · cases h
  · rintro ⟨rest, rfl, hwords⟩
    rw [Text.dropStart?_append]
    simp only [hwords]

theorem isWord_of_split {number : Nat} {content ty name : List Char}
    (h : split number content = .ok (ty, name)) : Text.IsWord ty ∧ Text.IsWord name := by
  obtain ⟨rest, -, hwords⟩ := split_eq_ok_iff.mp h
  constructor
  · exact Text.isWord_of_mem_words (by rw [hwords]; simp)
  · exact Text.isWord_of_mem_words (by rw [hwords]; simp)

theorem innerType?_eq_some {ty inner : List Char} (h : innerType? ty = some inner) :
    inner ≠ [] ∧ ty = "State<".toList ++ inner ++ ">".toList := by
  unfold innerType? at h
  split at h
  · rename_i c rest hrest
    cases h
    obtain ⟨wrapped, hstart, hend⟩ := Option.bind_eq_some_iff.mp hrest
    refine ⟨by simp, ?_⟩
    rw [Text.dropStart?_eq_some hstart, Text.dropEnd?_eq_some hend, List.append_assoc]
  · cases h

theorem readProp_eq_ok_iff {number : Nat} {content : List Char} {prop : PropField} :
    readProp number content = .ok prop ↔
      ∃ ty name, split number content = .ok (ty, name) ∧
        prop = ⟨String.ofList ty, String.ofList name⟩ := by
  unfold readProp
  constructor
  · intro h
    split at h
    · rename_i ty name hsplit
      cases h
      exact ⟨ty, name, hsplit, rfl⟩
    · cases h
  · rintro ⟨ty, name, hsplit, rfl⟩
    rw [hsplit]

theorem readState_eq_ok_iff {number : Nat} {content : List Char} {state : StateField} :
    readState number content = .ok state ↔
      ∃ ty name inner, split number content = .ok (ty, name) ∧ innerType? ty = some inner ∧
        state = ⟨String.ofList inner, String.ofList name⟩ := by
  unfold readState
  constructor
  · intro h
    split at h
    · rename_i ty name hsplit
      split at h
      · rename_i inner hinner
        cases h
        exact ⟨ty, name, inner, hsplit, hinner, rfl⟩
      · cases h
    · cases h
  · rintro ⟨ty, name, inner, hsplit, hinner, rfl⟩
    simp only [hsplit, hinner]

/-- The number of a line has no part in what the line declares. -/
theorem split_number {number : Nat} {content : List Char} {parts : List Char × List Char}
    (h : split number content = .ok parts) (other : Nat) : split other content = .ok parts :=
  split_eq_ok_iff.mpr (split_eq_ok_iff.mp h)

theorem readProp_number {number : Nat} {content : List Char} {prop : PropField}
    (h : readProp number content = .ok prop) (other : Nat) :
    readProp other content = .ok prop := by
  obtain ⟨ty, name, hsplit, hprop⟩ := readProp_eq_ok_iff.mp h
  exact readProp_eq_ok_iff.mpr ⟨ty, name, split_number hsplit other, hprop⟩

theorem readState_number {number : Nat} {content : List Char} {state : StateField}
    (h : readState number content = .ok state) (other : Nat) :
    readState other content = .ok state := by
  obtain ⟨ty, name, inner, hsplit, hinner, hstate⟩ := readState_eq_ok_iff.mp h
  exact readState_eq_ok_iff.mpr ⟨ty, name, inner, split_number hsplit other, hinner, hstate⟩

theorem wellFormed_of_readProp {number : Nat} {content : List Char} {prop : PropField}
    (h : readProp number content = .ok prop) : prop.WellFormed := by
  obtain ⟨ty, name, hsplit, rfl⟩ := readProp_eq_ok_iff.mp h
  simpa [PropField.WellFormed] using isWord_of_split hsplit

theorem wellFormed_of_readState {number : Nat} {content : List Char} {state : StateField}
    (h : readState number content = .ok state) : state.WellFormed := by
  obtain ⟨ty, name, inner, hsplit, hinner, rfl⟩ := readState_eq_ok_iff.mp h
  obtain ⟨hty, hname⟩ := isWord_of_split hsplit
  obtain ⟨hne, rfl⟩ := innerType?_eq_some hinner
  have hword : Text.IsWord inner := ⟨hne, fun c hc => hty.2 c (by simp [hc])⟩
  simpa [StateField.WellFormed] using And.intro hword hname

end Declaration

/-! ## Regions -/

namespace Region

open Text (NoBreak)

theorem noBreak_accessor {state : StateField} (h : state.WellFormed) : NoBreak (accessor state) := by
  obtain ⟨hty, hname⟩ := And.intro h.1.noBreak h.2.noBreak
  have haccessor : NoBreak state.accessorName.toList := by
    rw [StateField.accessorName, String.toList_append, Text.noBreak_append]
    exact ⟨by decide, hname⟩
  unfold accessor
  simp only [Text.noBreak_append, and_assoc]
  exact ⟨by decide, hty, by decide, haccessor, by decide, hname, by decide, hname, by decide⟩

theorem noBreak_paramName {prop : PropField} (h : prop.WellFormed) :
    NoBreak prop.paramName.toList := by
  rw [PropField.paramName, String.toList_append, Text.noBreak_append]
  exact ⟨h.2.noBreak, by decide⟩

theorem noBreak_formalParam {prop : PropField} (h : prop.WellFormed) :
    NoBreak prop.formalParam.toList := by
  simp only [PropField.formalParam, String.toList_append, Text.noBreak_append, and_assoc]
  exact ⟨h.1.noBreak, by decide, noBreak_paramName h⟩

theorem noBreak_takeover {prop : PropField} (h : prop.WellFormed) : NoBreak (takeover prop) := by
  obtain ⟨hname, hparam⟩ := And.intro h.2.noBreak (noBreak_paramName h)
  unfold takeover
  simp only [Text.noBreak_append, and_assoc]
  exact ⟨by decide, hname, by decide, hparam, by decide, hname, by decide, hparam, by decide⟩

theorem noBreak_line {content : List Char} (indent : Nat) (declared : Bool) (h : NoBreak content) :
    NoBreak (line indent declared content) := by
  rw [line, Text.noBreak_append]
  constructor
  · intro c hc
    rw [List.eq_of_mem_replicate hc]
    decide
  · cases declared with
    | true => exact h
    | false => exact (by decide : NoBreak placeholder)

/-- A line is rendered even for no fields at all: the region never vanishes. -/
theorem line_ne_nil {indent : Nat} (h : indent ≠ 0) (declared : Bool) (content : List Char) :
    line indent declared content ≠ [] := by
  simp [line, h]

/-- **A region is a single line** when it is rendered from fields that were declared. -/
theorem noBreak_render (region : Region) {states : List StateField} {props : List PropField}
    (hstates : ∀ state ∈ states, state.WellFormed) (hprops : ∀ prop ∈ props, prop.WellFormed) :
    NoBreak (region.render states props) := by
  cases region with
  | accessors =>
      refine noBreak_line _ _ (NoBreak.flatten fun part hpart => ?_)
      obtain ⟨state, hstate, rfl⟩ := List.mem_map.mp hpart
      exact noBreak_accessor (hstates state hstate)
  | parameters =>
      refine noBreak_line _ _ (NoBreak.intersperse (by decide) fun part hpart => ?_)
      obtain ⟨prop, hprop, rfl⟩ := List.mem_map.mp hpart
      exact noBreak_formalParam (hprops prop hprop)
  | diff =>
      refine noBreak_line _ _ (NoBreak.flatten fun part hpart => ?_)
      obtain ⟨prop, hprop, rfl⟩ := List.mem_map.mp hpart
      exact noBreak_takeover (hprops prop hprop)

theorem render_ne_nil (region : Region) (states : List StateField) (props : List PropField) :
    region.render states props ≠ [] := by
  cases region with
  | accessors => exact line_ne_nil (by decide) _ _
  | parameters => exact line_ne_nil (by decide) _ _
  | diff => exact line_ne_nil (by decide) _ _

end Region

end RegionSync
