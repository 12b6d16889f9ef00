import RegionSync.Text.Line
import Mathlib.Tactic

set_option autoImplicit false

/-! # Cutting a text into lines and putting it together again

`lines` cuts a text after every line feed, and concatenation undoes the cut (`lines_flatten`).
The converse needs a condition: a list of lines survives being written out and cut again exactly
when it looks like the result of a cut. `AreLines` says what that means, `areLines_lines` that
every cut has this form, and `lines_flatten_of_areLines` that every list of this form is the cut
of its own text.

A line is replaced by putting a new body in front of the old ending. As long as the new body holds
no line break (`NoBreak`), the ending is recognised again (`ending_append_ending`), so that the
replaced line is a line with the same ending.
-/

namespace RegionSync.Text

/-! ## Bodies and endings -/

theorem endsWith_iff (ending text : List Char) : endsWith ending text = true ↔ ending <:+ text :=
  List.isSuffixOf_iff_suffix

/-- There are three endings. -/
theorem ending_cases (line : List Char) :
    ending line = ['\r', '\n'] ∨ ending line = ['\n'] ∨ ending line = [] := by
  unfold ending
  split_ifs
  · exact Or.inl rfl
  · exact Or.inr (Or.inl rfl)
  · exact Or.inr (Or.inr rfl)

theorem ending_suffix (line : List Char) : ending line <:+ line := by
  unfold ending
  split_ifs with hcrlf hlf
  · exact (endsWith_iff _ _).mp hcrlf
  · exact (endsWith_iff _ _).mp hlf
  · exact List.nil_suffix

/-- A line is its body followed by its ending. -/
theorem body_append_ending (line : List Char) : body line ++ ending line = line := by
  obtain ⟨front, hfront⟩ := ending_suffix line
  have hlen : line.length - (ending line).length = front.length := by
    have := congrArg List.length hfront
    rw [List.length_append] at this
    omega
  have hbody : body line = front := by
    rw [body, hlen]
    conv_lhs => rw [← hfront]
    exact List.take_left
  rw [hbody, hfront]

theorem body_eq_of_append_ending {line front : List Char} (h : front ++ ending line = line) :
    body line = front :=
  List.append_cancel_right ((body_append_ending line).trans h.symm)

/-- A text without line breaks. -/
def NoBreak (text : List Char) : Prop := ∀ c ∈ text, c ≠ '\n' ∧ c ≠ '\r'

instance (text : List Char) : Decidable (NoBreak text) :=
  List.decidableBAll (fun c => c ≠ '\n' ∧ c ≠ '\r') text

theorem noBreak_append {front back : List Char} :
    NoBreak (front ++ back) ↔ NoBreak front ∧ NoBreak back :=
  List.forall_mem_append

theorem NoBreak.flatten {parts : List (List Char)} (h : ∀ part ∈ parts, NoBreak part) :
    NoBreak parts.flatten := by
  intro c hc
  obtain ⟨part, hpart, hc⟩ := List.mem_flatten.mp hc
  exact h part hpart c hc

theorem NoBreak.intersperse {separator : List Char} (hsep : NoBreak separator)
    {parts : List (List Char)} (h : ∀ part ∈ parts, NoBreak part) :
    NoBreak (parts.intersperse separator).flatten := by
  induction parts with
  | nil => exact NoBreak.flatten (by simp)
  | cons part rest ih =>
      have hrest := ih fun other hother => h other (List.mem_cons_of_mem _ hother)
      cases rest with
      | nil => simpa using h part (by simp)
      | cons next rest =>
          rw [List.intersperse_cons_cons, List.flatten_cons, List.flatten_cons, noBreak_append,
            noBreak_append]
          exact ⟨h part (by simp), hsep, hrest⟩

theorem NoBreak.not_mem {text : List Char} (h : NoBreak text) : '\n' ∉ text :=
  fun hc => (h _ hc).1 rfl

theorem ending_append_crlf (front : List Char) : ending (front ++ ['\r', '\n']) = ['\r', '\n'] := by
  have h : endsWith ['\r', '\n'] (front ++ ['\r', '\n']) = true :=
    (endsWith_iff _ _).mpr (List.suffix_append _ _)
  rw [ending, if_pos h]

theorem ending_append_lf {front : List Char} (h : '\r' ∉ front) :
    ending (front ++ ['\n']) = ['\n'] := by
  have hcrlf : ¬ endsWith ['\r', '\n'] (front ++ ['\n']) = true := by
    rw [endsWith_iff]
    rintro ⟨before, hbefore⟩
    -- the longer ending would take a carriage return from the end of `front`
    have hboth : (before ++ ['\r']) ++ ['\n'] = front ++ ['\n'] := by
      rw [List.append_assoc]
      exact hbefore
    have hfront : before ++ ['\r'] = front := List.append_cancel_right hboth
    exact h (by simp [← hfront])
  have hlf : endsWith ['\n'] (front ++ ['\n']) = true :=
    (endsWith_iff _ _).mpr (List.suffix_append _ _)
  rw [ending, if_neg hcrlf, if_pos hlf]

theorem ending_of_not_mem {line : List Char} (h : '\n' ∉ line) : ending line = [] := by
  rcases ending_cases line with he | he | he
  · exact absurd ((ending_suffix line).mem (by simp [he])) h
  · exact absurd ((ending_suffix line).mem (by simp [he])) h
  · exact he

/-- An ending is recognised again behind a body without line breaks. A body that ends in a
carriage return would not do: it would join a bare line feed to another ending. -/
theorem ending_append_ending {front : List Char} (h : NoBreak front) (line : List Char) :
    ending (front ++ ending line) = ending line := by
  rcases ending_cases line with he | he | he
  · rw [he, ending_append_crlf]
  · rw [he, ending_append_lf fun hc => (h _ hc).2 rfl]
  · rw [he, List.append_nil, ending_of_not_mem h.not_mem]

theorem body_append_ending_of_noBreak {front : List Char} (h : NoBreak front) (line : List Char) :
    body (front ++ ending line) = front := by
  apply body_eq_of_append_ending
  rw [ending_append_ending h]

/-! ## Lists of lines -/

/-- What a line looks like: it is not empty, and a line feed stands at its end or nowhere. -/
def IsLine (line : List Char) : Prop := line ≠ [] ∧ '\n' ∉ body line

/-- What the lines of a text look like: each is a line, and only the last may lack an ending. -/
def AreLines : List (List Char) → Prop
  | [] => True
  | line :: rest => IsLine line ∧ (rest ≠ [] → ending line ≠ []) ∧ AreLines rest

theorem isLine_of_not_mem {line : List Char} (hne : line ≠ []) (h : '\n' ∉ line) : IsLine line := by
  refine ⟨hne, fun hc => h ?_⟩
  rw [← body_append_ending line]
  exact List.mem_append_left _ hc

theorem ending_append_newline (front : List Char) : ending (front ++ ['\n']) ≠ [] := by
  have hlf : endsWith ['\n'] (front ++ ['\n']) = true :=
    (endsWith_iff _ _).mpr (List.suffix_append _ _)
  unfold ending
  split_ifs <;> simp

theorem isLine_append_newline {front : List Char} (h : '\n' ∉ front) : IsLine (front ++ ['\n']) := by
  refine ⟨by simp, fun hc => h ?_⟩
  -- the ending takes at least the line feed, so the body is part of `front`
  have hlen : 1 ≤ (ending (front ++ ['\n'])).length :=
    List.length_pos_iff.mpr (ending_append_newline front)
  have hbody : body (front ++ ['\n']) <+: front := by
    rw [body, List.length_append, List.length_singleton,
      List.take_append_of_le_length (by omega)]
    exact List.take_prefix _ _
  exact hbody.mem hc

/-- A line has its line feed at the end, or has none and no ending either. -/
theorem IsLine.cases {line : List Char} (h : IsLine line) :
    (∃ front, '\n' ∉ front ∧ line = front ++ ['\n']) ∨ ('\n' ∉ line ∧ ending line = []) := by
  have hline := body_append_ending line
  rcases ending_cases line with he | he | he
  · refine Or.inl ⟨body line ++ ['\r'], ?_, ?_⟩
    · simp [h.2]
    · rw [he] at hline
      rw [List.append_assoc]
      exact hline.symm
  · refine Or.inl ⟨body line, h.2, ?_⟩
    rw [he] at hline
    exact hline.symm
  · refine Or.inr ⟨?_, he⟩
    rw [he, List.append_nil] at hline
    rw [← hline]
    exact h.2

/-- Every cut of a text is a list of lines. The induction is over the text that is left, with the
line being read, which holds no line feed yet. -/
theorem areLines_linesFrom (line text : List Char) (h : '\n' ∉ line) :
    AreLines (linesFrom line text) := by
  induction text generalizing line with
  | nil =>
      cases line with
      | nil => exact trivial
      | cons c line =>
          have hrev : '\n' ∉ (c :: line).reverse := fun hc => h (List.mem_reverse.mp hc)
          exact ⟨isLine_of_not_mem (by simp) hrev, fun hne => absurd rfl hne, trivial⟩
  | cons c text ih =>
      by_cases hc : c = '\n'
      · -- the line being read ends here, and the next one starts empty
        have hrev : '\n' ∉ line.reverse := fun hm => h (List.mem_reverse.mp hm)
        rw [linesFrom, if_pos hc, hc, List.reverse_cons]
        exact ⟨isLine_append_newline hrev, fun _ => ending_append_newline _, ih [] (by simp)⟩
      · rw [linesFrom, if_neg hc]
        exact ih (c :: line) (by simp [h, Ne.symm hc])

theorem areLines_lines (text : List Char) : AreLines (lines text) :=
  areLines_linesFrom [] text (by simp)

theorem linesFrom_append {chunk : List Char} (h : '\n' ∉ chunk) (line text : List Char) :
    linesFrom line (chunk ++ text) = linesFrom (chunk.reverse ++ line) text := by
  induction chunk generalizing line with
  | nil => rfl
  | cons c chunk ih =>
      have hc : c ≠ '\n' := fun hc => h (by simp [hc])
      have hchunk : '\n' ∉ chunk := fun hm => h (by simp [hm])
      rw [List.cons_append, linesFrom, if_neg hc, ih hchunk]
      simp

theorem lines_append_newline {front : List Char} (h : '\n' ∉ front) (text : List Char) :
    lines (front ++ ['\n'] ++ text) = (front ++ ['\n']) :: lines text := by
  rw [lines, List.append_assoc, linesFrom_append h, List.singleton_append, linesFrom, if_pos rfl]
  simp [lines]

theorem lines_of_not_mem {line : List Char} (hne : line ≠ []) (h : '\n' ∉ line) :
    lines line = [line] := by
  have hcut := linesFrom_append h [] []
  rw [List.append_nil, List.append_nil, linesFrom] at hcut
  rw [lines, hcut, if_neg (by simpa using hne), List.reverse_reverse]

/-- **A list of lines is the cut of its own text.** -/
theorem lines_flatten_of_areLines {all : List (List Char)} (h : AreLines all) :
    lines all.flatten = all := by
  induction all with
  | nil => rfl
  | cons line rest ih =>
      obtain ⟨hline, hend, hrest⟩ := h
      rcases hline.cases with ⟨front, hfront, rfl⟩ | ⟨hnone, he⟩
      · rw [List.flatten_cons, lines_append_newline hfront, ih hrest]
      · -- only the last line may lack an ending
        have hnil : rest = [] := by
          by_contra hne
          exact hend hne he
        rw [hnil, List.flatten_cons, List.flatten_nil, List.append_nil,
          lines_of_not_mem hline.1 hnone]

/-- A line may be replaced by another one with the same ending. -/
theorem AreLines.replace {front back : List (List Char)} {old new : List Char}
    (h : AreLines (front ++ old :: back)) (hnew : IsLine new) (hend : ending new = ending old) :
    AreLines (front ++ new :: back) := by
  induction front with
  | nil =>
      obtain ⟨-, hlast, hback⟩ := h
      exact ⟨hnew, fun hne => hend ▸ hlast hne, hback⟩
  | cons line front ih =>
      obtain ⟨hline, hlast, hfront⟩ := h
      exact ⟨hline, fun _ => hlast (by simp), ih hfront⟩

end RegionSync.Text
