import RegionSync.Proofs.Declared

set_option autoImplicit false

/-! # The grammar of declarations

What the readers of declarations accept, without reference to how they read. Behind the visibility
there must be a type and a name with white space between them, and then nothing or a semicolon,
after which anything may stand (`Declares`). The type of a state is wrapped, and only the outermost
wrapper is taken off. A line declares one type and one name (`Declares.unique`), since these are the
words in front of the first semicolon. The readers accept exactly these lines, and the fault of any
other line says what it lacks (`declarations_read_exactly`).
-/

namespace RegionSync.Declaration

open Text (IsGap IsWord HasRuns)
open Declared (IsPart wrapped)

variable {content text rest ty name inner : List Char} {runs : List (List Char)} {number : Nat}
  {fault : Fault}

/-! ## The part in front of the semicolon -/

/-- The text between the visibility and the first semicolon of a line, or its end. -/
def HasBody (content text : List Char) : Prop :=
  ';' ∉ text ∧ ∃ rest, content = visibility ++ text ++ rest ∧ ∀ c ∈ rest.head?, c = ';'

theorem takeWhile_append_semicolon (h : ';' ∉ text) (hrest : ∀ c ∈ rest.head?, c = ';') :
    (text ++ rest).takeWhile (· != ';') = text := by
  have hkept : ∀ c ∈ text, (c != ';') = true := by
    intro c hc
    rw [bne_iff_ne]
    rintro rfl
    exact h hc
  rw [List.takeWhile_append_of_pos hkept]
  cases rest with
  | nil => simp
  | cons c rest =>
      obtain rfl : c = ';' := hrest c rfl
      simp

theorem exists_hasBody (h : visibility <+: content) : ∃ text, HasBody content text := by
  obtain ⟨line, rfl⟩ := h
  refine ⟨line.takeWhile (· != ';'), fun hmem => ?_, line.dropWhile (· != ';'), ?_, fun c hc => ?_⟩
  · have hkept := List.mem_takeWhile_imp hmem
    simp at hkept
  · rw [List.append_assoc, List.takeWhile_append_dropWhile]
  · have hstop := List.head?_dropWhile_not (· != ';') line
    rw [hc] at hstop
    simpa using hstop

theorem HasBody.dropStart? (h : HasBody content text) :
    ∃ rest, Text.dropStart? visibility content = some rest ∧
      rest.takeWhile (· != ';') = text := by
  obtain ⟨hnone, rest, rfl, hrest⟩ := h
  exact ⟨text ++ rest, by rw [List.append_assoc, Text.dropStart?_append],
    takeWhile_append_semicolon hnone hrest⟩

/-- A line splits into the runs of its body if there are two of them. -/
theorem split_of_pair (h : HasBody content text) (hruns : HasRuns text [ty, name]) (number : Nat) :
    split number content = .ok (ty, name) := by
  obtain ⟨rest, hdrop, hbody⟩ := h.dropStart?
  simp only [split, hdrop, hbody, hruns.words_eq]

theorem split_of_length_ne_two (h : HasBody content text) (hruns : HasRuns text runs)
    (hcount : runs.length ≠ 2) (number : Nat) :
    split number content =
      .error (.tokenCount number runs.length (String.ofList content)) := by
  obtain ⟨rest, hdrop, hbody⟩ := h.dropStart?
  simp only [split, hdrop, hbody, hruns.words_eq]
  split
  · exact absurd rfl hcount
  · rfl

theorem split_of_missing_visibility (h : ¬ visibility <+: content) (number : Nat) :
    split number content = .error (.missingVisibility number (String.ofList content)) := by
  have hstart : Text.startsWith visibility content = false := by
    rw [Text.startsWith, Bool.eq_false_iff, ne_eq, List.isPrefixOf_iff_prefix]
    exact h
  simp [split, Text.dropStart?, hstart]

/-! ## Declared types and names -/

/-- The line declares this type and this name. -/
def Declares (content ty name : List Char) : Prop :=
  ∃ gap₀ gap₁ gap₂ rest,
    content = visibility ++ gap₀ ++ ty ++ gap₁ ++ name ++ gap₂ ++ rest ∧
    IsGap gap₀ ∧ IsGap gap₁ ∧ IsGap gap₂ ∧ gap₁ ≠ [] ∧ IsPart ty ∧ IsPart name ∧
    ∀ c ∈ rest.head?, c = ';'

/-- A text with two runs has white space between them. -/
theorem hasRuns_pair_iff :
    HasRuns text [ty, name] ↔
      ∃ gap₀ gap₁ gap₂, text = gap₀ ++ ty ++ gap₁ ++ name ++ gap₂ ∧
        IsGap gap₀ ∧ IsGap gap₁ ∧ IsGap gap₂ ∧ gap₁ ≠ [] ∧ IsWord ty ∧ IsWord name := by
  constructor
  · rintro ⟨gap₀, _, rfl, hgap₀, hty, hhead, gap₁, gap₂, rfl, hgap₁, hname, -, hgap₂⟩
    refine ⟨gap₀, gap₁, gap₂, by simp, hgap₀, hgap₁, hgap₂, ?_, hty, hname⟩
    rintro rfl
    -- without a gap the name would start with a blank
    obtain ⟨c, more, rfl⟩ := List.exists_cons_of_ne_nil hname.1
    have hblank : Text.isBlank c = true := hhead c rfl
    rw [hname.2 c (by simp)] at hblank
    cases hblank
  · rintro ⟨gap₀, gap₁, gap₂, rfl, hgap₀, hgap₁, hgap₂, hne, hty, hname⟩
    refine ⟨gap₀, gap₁ ++ (name ++ gap₂), by simp, hgap₀, hty, fun c hc => ?_, gap₁, gap₂, rfl,
      hgap₁, hname, fun c hc => hgap₂ c (List.mem_of_mem_head? hc), hgap₂⟩
    rw [List.head?_append_of_ne_nil _ hne] at hc
    exact hgap₁ c (List.mem_of_mem_head? hc)

theorem not_mem_of_isGap (h : IsGap text) : ';' ∉ text := by
  intro hmem
  exact absurd (h _ hmem) (by decide)

theorem isPart_iff : IsPart text ↔ IsWord text ∧ ';' ∉ text := by
  constructor
  · intro h
    exact ⟨h.isWord, fun hmem => (h.2 _ hmem).2 rfl⟩
  · rintro ⟨hword, hnone⟩
    refine ⟨hword.1, fun c hc => ⟨hword.2 c hc, ?_⟩⟩
    rintro rfl
    exact hnone hc

/-- A line declares the two runs of its body. -/
theorem declares_iff :
    Declares content ty name ↔ ∃ text, HasBody content text ∧ HasRuns text [ty, name] := by
  constructor
  · rintro ⟨gap₀, gap₁, gap₂, rest, rfl, hgap₀, hgap₁, hgap₂, hne, hty, hname, hrest⟩
    rw [isPart_iff] at hty hname
    refine ⟨gap₀ ++ ty ++ gap₁ ++ name ++ gap₂, ⟨?_, rest, by simp, hrest⟩,
      hasRuns_pair_iff.mpr ⟨gap₀, gap₁, gap₂, rfl, hgap₀, hgap₁, hgap₂, hne, hty.1, hname.1⟩⟩
    simp [not_mem_of_isGap hgap₀, not_mem_of_isGap hgap₁, not_mem_of_isGap hgap₂, hty.2, hname.2]
  · rintro ⟨text, ⟨hnone, rest, rfl, hrest⟩, hruns⟩
    obtain ⟨gap₀, gap₁, gap₂, rfl, hgap₀, hgap₁, hgap₂, hne, hty, hname⟩ :=
      hasRuns_pair_iff.mp hruns
    simp only [List.mem_append, not_or] at hnone
    exact ⟨gap₀, gap₁, gap₂, rest, by simp, hgap₀, hgap₁, hgap₂, hne,
      isPart_iff.mpr ⟨hty, hnone.1.1.1.2⟩, isPart_iff.mpr ⟨hname, hnone.1.2⟩, hrest⟩

theorem split_eq_ok_iff_declares :
    split number content = .ok (ty, name) ↔ Declares content ty name := by
  rw [declares_iff]
  constructor
  · intro h
    obtain ⟨rest, rfl, hwords⟩ := split_eq_ok_iff.mp h
    obtain ⟨text, htext⟩ := exists_hasBody (List.prefix_append visibility rest)
    obtain ⟨other, hdrop, hbody⟩ := htext.dropStart?
    rw [Text.dropStart?_append] at hdrop
    cases hdrop
    rw [hbody] at hwords
    exact ⟨text, htext, Text.words_eq_iff.mp hwords⟩
  · rintro ⟨text, htext, hruns⟩
    exact split_of_pair htext hruns number

/-- **A line declares at most one type and one name.** -/
theorem Declares.unique {ty' name' : List Char} (h : Declares content ty name)
    (h' : Declares content ty' name') : ty = ty' ∧ name = name' := by
  have hsplit : split 0 content = .ok (ty, name) := split_eq_ok_iff_declares.mpr h
  rw [split_eq_ok_iff_declares.mpr h'] at hsplit
  cases hsplit
  exact ⟨rfl, rfl⟩

/-! ## The two readers -/

theorem innerType?_eq_some_iff : innerType? ty = some inner ↔ inner ≠ [] ∧ ty = wrapped inner := by
  constructor
  · exact innerType?_eq_some
  · rintro ⟨hne, rfl⟩
    exact Declared.innerType?_wrapped hne

theorem readProp_eq_ok_iff_declares {prop : PropField} :
    readProp number content = .ok prop ↔ Declares content prop.ty.toList prop.name.toList := by
  rw [readProp_eq_ok_iff]
  constructor
  · rintro ⟨ty, name, hsplit, rfl⟩
    simpa using split_eq_ok_iff_declares.mp hsplit
  · intro h
    exact ⟨_, _, split_eq_ok_iff_declares.mpr h, by simp⟩

theorem readState_eq_ok_iff_declares {state : StateField} :
    readState number content = .ok state ↔
      state.ty ≠ "" ∧ Declares content (wrapped state.ty.toList) state.name.toList := by
  have hempty : state.ty ≠ "" ↔ state.ty.toList ≠ [] := String.toList_eq_nil_iff.not.symm
  rw [readState_eq_ok_iff, hempty]
  constructor
  · rintro ⟨ty, name, inner, hsplit, hinner, rfl⟩
    obtain ⟨hne, rfl⟩ := innerType?_eq_some_iff.mp hinner
    simpa using And.intro hne (split_eq_ok_iff_declares.mp hsplit)
  · rintro ⟨hne, h⟩
    exact ⟨_, _, _, split_eq_ok_iff_declares.mpr h, innerType?_eq_some_iff.mpr ⟨hne, rfl⟩, by simp⟩

/-- A line that does not split has the same fault for both readers. -/
theorem read_of_split_error (h : split number content = .error fault) :
    readProp number content = .error fault ∧ readState number content = .error fault := by
  simp only [readProp, readState, h, and_self]

theorem readState_of_not_wrapped (h : split number content = .ok (ty, name))
    (hty : ∀ inner, inner ≠ [] → ty ≠ wrapped inner) :
    readState number content = .error (.malformedStateType number (String.ofList ty)) := by
  have hinner : innerType? ty = none := by
    cases hsome : innerType? ty with
    | none => rfl
    | some inner =>
        obtain ⟨hne, hwrapped⟩ := innerType?_eq_some_iff.mp hsome
        exact absurd hwrapped (hty inner hne)
  simp only [readState, h, hinner]

/-- **The readers of declarations accept exactly their grammar.** A prop is read exactly if the line
declares its type and name, a state exactly if the line declares its wrapped type and its name, and a
line declares at most one type and one name. A line that does not start with the visibility lacks
it. Of any other line, the runs in front of the first semicolon are counted, and there must be two;
the first of them must be a wrapped type if a state is to be read. -/
theorem declarations_read_exactly (number : Nat) (content : List Char) :
    (∀ prop : PropField, readProp number content = .ok prop ↔
      Declares content prop.ty.toList prop.name.toList) ∧
    (∀ state : StateField, readState number content = .ok state ↔
      state.ty ≠ "" ∧ Declares content (wrapped state.ty.toList) state.name.toList) ∧
    (∀ ty name ty' name', Declares content ty name → Declares content ty' name' →
      ty = ty' ∧ name = name') ∧
    (¬ visibility <+: content →
      readProp number content = .error (.missingVisibility number (String.ofList content)) ∧
      readState number content = .error (.missingVisibility number (String.ofList content))) ∧
    (visibility <+: content → ∃ text runs, HasBody content text ∧ HasRuns text runs ∧
      (runs.length ≠ 2 →
        readProp number content =
          .error (.tokenCount number runs.length (String.ofList content)) ∧
        readState number content =
          .error (.tokenCount number runs.length (String.ofList content))) ∧
      (∀ ty name, runs = [ty, name] →
        readProp number content = .ok ⟨String.ofList ty, String.ofList name⟩ ∧
        ((∀ inner, inner ≠ [] → ty ≠ wrapped inner) →
          readState number content = .error (.malformedStateType number (String.ofList ty))))) := by
  refine ⟨fun _ => readProp_eq_ok_iff_declares, fun _ => readState_eq_ok_iff_declares,
    fun _ _ _ _ => Declares.unique,
    fun h => read_of_split_error (split_of_missing_visibility h number), fun h => ?_⟩
  obtain ⟨text, htext⟩ := exists_hasBody h
  have hruns := Text.hasRuns_words text
  refine ⟨text, Text.words text, htext, hruns, fun hcount => ?_, fun ty name hwords => ?_⟩
  · exact read_of_split_error (split_of_length_ne_two htext hruns hcount number)
  · rw [hwords] at hruns
    have hsplit := split_of_pair htext hruns number
    exact ⟨readProp_eq_ok_iff.mpr ⟨ty, name, hsplit, rfl⟩, readState_of_not_wrapped hsplit⟩

end RegionSync.Declaration
