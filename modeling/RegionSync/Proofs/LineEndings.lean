import RegionSync.Proofs.Renewal
import RegionSync.Proofs.Trimming

set_option autoImplicit false

/-! # Both conventions for line endings

A file in which lines end with a line feed can be written with a carriage return in front of every
line feed (`Text.crlf`). A pass looks at endings in three ways: it trims the lines that it scans, it
looks for the header at the front of the first line as it stands, and it takes the ending of a
region line for the line that replaces it. In none of them do the two files differ by more than the
endings: each line takes the pass to the same state (`Scan.step_crlf`) and makes it write the same
line but for the ending (`Scan.WellFormed.emit_crlf`). So the pass over the one file is the pass
over the other (`Pass.run_crlf`), and regenerating commutes with the change of endings
(`regenerate_commutes_with_crlf`).
-/

namespace RegionSync

/-! ## Texts with the other endings -/

namespace Text

variable {line : List Char}

/-- The text with a carriage return in front of every line feed. -/
def crlf (text : List Char) : List Char :=
  text.flatMap fun c => if c = '\n' then ['\r', '\n'] else [c]

theorem crlf_cons (c : Char) (text : List Char) :
    crlf (c :: text) = (if c = '\n' then ['\r', '\n'] else [c]) ++ crlf text :=
  List.flatMap_cons

theorem crlf_append (front back : List Char) : crlf (front ++ back) = crlf front ++ crlf back :=
  List.flatMap_append

theorem crlf_flatten (parts : List (List Char)) :
    crlf parts.flatten = (parts.map crlf).flatten := by
  induction parts with
  | nil => rfl
  | cons part parts ih => rw [List.flatten_cons, crlf_append, ih, List.map_cons, List.flatten_cons]

theorem crlf_of_not_mem {text : List Char} (h : '\n' ∉ text) : crlf text = text := by
  induction text with
  | nil => rfl
  | cons c text ih =>
      have hc : c ≠ '\n' := fun hc => h (by simp [hc])
      rw [crlf_cons, if_neg hc, ih fun hm => h (by simp [hm])]
      rfl

/-- Every line feed has a carriage return before it, so none stands at the front. -/
theorem crlf_ne_newline_cons (text rest : List Char) : crlf text ≠ '\n' :: rest := by
  cases text with
  | nil => simp [crlf]
  | cons c text =>
      rw [crlf_cons]
      by_cases hc : c = '\n'
      · simp [hc]
      · simp [hc]

/-- The change of endings can be undone. -/
theorem crlf_injective : Function.Injective crlf := by
  intro first second h
  induction first generalizing second with
  | nil =>
      cases second with
      | nil => rfl
      | cons d second => by_cases hd : d = '\n' <;> simp [crlf, hd] at h
  | cons c first ih =>
      cases second with
      | nil => by_cases hc : c = '\n' <;> simp [crlf, hc] at h
      | cons d second =>
          rw [crlf_cons, crlf_cons] at h
          by_cases hc : c = '\n' <;> by_cases hd : d = '\n'
          · rw [if_pos hc, if_pos hd] at h
            rw [hc, hd, ih (List.append_cancel_left h)]
          · -- a carriage return that was there before is not followed by a line feed
            simp only [hc, hd, if_true, if_false, List.cons_append, List.nil_append,
              List.cons.injEq] at h
            exact absurd h.2.symm (crlf_ne_newline_cons _ _)
          · simp only [hc, hd, if_true, if_false, List.cons_append, List.nil_append,
              List.cons.injEq] at h
            exact absurd h.2 (crlf_ne_newline_cons _ _)
          · simp only [hc, hd, if_false, List.cons_append, List.nil_append, List.cons.injEq] at h
            rw [h.1, ih h.2]

/-! ## Lines with the other endings -/

theorem linesFrom_crlf (h : '\n' ∉ line) (text : List Char) :
    linesFrom line (crlf text) = (linesFrom line text).map crlf := by
  induction text generalizing line with
  | nil =>
      have hrev : '\n' ∉ line.reverse := fun hc => h (List.mem_reverse.mp hc)
      simp only [crlf, List.flatMap_nil, linesFrom]
      split_ifs with hempty
      · rfl
      · rw [List.map_singleton]
        exact congrArg (fun part => [part]) (crlf_of_not_mem hrev).symm
  | cons c text ih =>
      rw [crlf_cons]
      -- a carriage return that is added joins the line as it is read, and the line feed ends it
      by_cases hc : c = '\n'
      · have hrev : '\n' ∉ line.reverse := fun hm => h (List.mem_reverse.mp hm)
        have hended : crlf (line.reverse ++ ['\n']) = line.reverse ++ ['\r', '\n'] := by
          rw [crlf_append, crlf_of_not_mem hrev]
          rfl
        simp [hc, linesFrom, ih List.not_mem_nil, hended]
      · have hcline : '\n' ∉ c :: line := by
          rw [List.mem_cons, not_or]
          exact ⟨Ne.symm hc, h⟩
        simp [hc, linesFrom, ih hcline]

theorem lines_crlf (text : List Char) : lines (crlf text) = (lines text).map crlf :=
  linesFrom_crlf List.not_mem_nil text

/-- A line with the other ending: a line that is ended gets a carriage return, another one stays. -/
theorem IsLine.crlf_cases (h : IsLine line) :
    (∃ front, '\n' ∉ front ∧ line = front ++ ['\n'] ∧ crlf line = front ++ ['\r', '\n']) ∨
      ('\n' ∉ line ∧ crlf line = line) := by
  rcases h.cases with ⟨front, hfront, rfl⟩ | ⟨hnone, -⟩
  · refine Or.inl ⟨front, hfront, rfl, ?_⟩
    rw [crlf_append, crlf_of_not_mem hfront]
    rfl
  · exact Or.inr ⟨hnone, crlf_of_not_mem hnone⟩

theorem IsLine.trim_crlf (h : IsLine line) : trim (crlf line) = trim line := by
  rcases h.crlf_cases with ⟨front, -, rfl, hcrlf⟩ | ⟨-, hcrlf⟩
  · calc trim (crlf (front ++ ['\n']))
        = trim (front ++ ['\r'] ++ ['\n']) := by rw [hcrlf, List.append_assoc]; rfl
      _ = trim (front ++ ['\r']) := trim_append_blank _ (by decide)
      _ = trim front := trim_append_blank _ (by decide)
      _ = trim (front ++ ['\n']) := (trim_append_blank _ (by decide)).symm
  · rw [hcrlf]

theorem IsLine.ending_crlf (h : IsLine line) (hreturn : '\r' ∉ line) :
    ending (crlf line) = crlf (ending line) := by
  rcases h.crlf_cases with ⟨front, -, rfl, hcrlf⟩ | ⟨hnone, hcrlf⟩
  · have hfront : '\r' ∉ front := fun hc => hreturn (by simp [hc])
    rw [hcrlf, ending_append_crlf, ending_append_lf hfront]
    rfl
  · rw [hcrlf, ending_of_not_mem hnone]
    rfl

/-- A beginning that does not hold a character ends before it. -/
theorem prefix_append_cons_iff {start front back : List Char} {c : Char} (h : c ∉ start) :
    start <+: front ++ c :: back ↔ start <+: front := by
  refine ⟨fun hstart => ?_, fun hstart => hstart.trans (List.prefix_append _ _)⟩
  rcases List.prefix_or_prefix_of_prefix hstart (List.prefix_append front (c :: back)) with
    hfront | ⟨more, rfl⟩
  · exact hfront
  · have hmore : more <+: c :: back := (List.prefix_append_right_inj front).mp hstart
    cases more with
    | nil => simp
    | cons d more =>
        obtain ⟨rfl, -⟩ := List.cons_prefix_cons.mp hmore
        exact absurd (by simp) h

end Text

/-! ## One line -/

/-- The header has no line break in it, so that the ending of the first line has no part in it. -/
theorem Protocol.isHeader_crlf {protocol : Protocol}
    (hmarker : Text.NoBreak protocol.headerMarker.toList) {line : List Char}
    (hline : Text.IsLine line) :
    protocol.isHeader (Text.crlf line) = protocol.isHeader line := by
  rcases hline.crlf_cases with ⟨front, -, rfl, hcrlf⟩ | ⟨-, hcrlf⟩
  · rw [hcrlf, Bool.eq_iff_iff, isHeader_iff, isHeader_iff]
    -- whatever byte order marks there are, they stand before the ending
    have hdrop (c : Char) (back : List Char) (hc : (c == byteOrderMark) = false) :
        (front ++ c :: back).dropWhile (· == byteOrderMark) =
          front.dropWhile (· == byteOrderMark) ++ c :: back := by
      rw [List.dropWhile_append]
      split_ifs with hempty
      · rw [List.dropWhile_cons_of_neg (by simp [hc]), List.isEmpty_iff.mp hempty]
        rfl
      · rfl
    rw [CarriesHeader, CarriesHeader, hdrop '\r' ['\n'] (by decide), hdrop '\n' [] (by decide),
      Text.prefix_append_cons_iff fun hc => (hmarker _ hc).2 rfl,
      Text.prefix_append_cons_iff fun hc => (hmarker _ hc).1 rfl]
  · rw [hcrlf]

namespace Scan

variable {protocol : Protocol} {scan after : Scan} {number : Nat} {line : List Char}

/-- What a pass knows consists of fields as declarations give them. -/
def WellFormed (scan : Scan) : Prop :=
  (∀ state ∈ scan.states, state.WellFormed) ∧ ∀ prop ∈ scan.props, prop.WellFormed

theorem WellFormed.read (h : scan.WellFormed) {content : List Char}
    (hread : scan.read protocol number content = .ok after) : after.WellFormed := by
  unfold Scan.read at hread
  split at hread
  · split at hread
    · rename_i state hstate
      cases hread
      refine ⟨?_, h.2⟩
      rw [List.forall_mem_append]
      exact ⟨h.1, by simpa using Declaration.wellFormed_of_readState hstate⟩
    · cases hread
  · split at hread
    · rename_i prop hprop
      cases hread
      refine ⟨h.1, ?_⟩
      rw [List.forall_mem_append]
      exact ⟨h.2, by simpa using Declaration.wellFormed_of_readProp hprop⟩
    · cases hread
  · split_ifs at hread <;>
    · cases hread
      exact h

theorem WellFormed.step (h : scan.WellFormed) (hstep : scan.step protocol number line = .ok after) :
    after.WellFormed := by
  unfold Scan.step at hstep
  split at hstep
  · split_ifs at hstep
    cases hstep
    exact h
  · split at hstep
    · rename_i hread
      cases hstep
      exact h.read hread
    · cases hstep
  · cases hstep
    exact h
  · cases hstep
    exact h

/-- The ending of a line has no part in what the pass comes to know. -/
theorem step_crlf (hmarker : Text.NoBreak protocol.headerMarker.toList)
    (hline : Text.IsLine line) (scan : Scan) (number : Nat) :
    scan.step protocol number (Text.crlf line) = scan.step protocol number line := by
  unfold Scan.step
  rw [Protocol.isHeader_crlf hmarker hline, hline.trim_crlf]

/-- The line that is written has the same body and the other ending. -/
theorem WellFormed.emit_crlf (h : scan.WellFormed) (hline : Text.IsLine line)
    (hreturn : '\r' ∉ line) : scan.emit (Text.crlf line) = Text.crlf (scan.emit line) := by
  unfold Scan.emit
  split
  · rename_i region hstage
    -- no field has a line break in it, so the text of a region is the same in both files
    have hrender := region.noBreak_render h.1 h.2
    rw [Text.crlf_append, Text.crlf_of_not_mem hrender.not_mem, hline.ending_crlf hreturn]
  · rfl

end Scan

/-! ## The pass -/

/-- The pass that has written the same lines with the other endings. -/
def Pass.crlf (pass : Pass) : Pass := { pass with written := pass.written.map Text.crlf }

/-- The result with the other endings in its text. -/
def Regeneration.crlf : Regeneration → Regeneration
  | notAnnotated => .notAnnotated
  | annotated result =>
    .annotated { result with text := String.ofList (Text.crlf result.text.toList) }

namespace Pass

variable {protocol : Protocol} {pass : Pass}

theorem step_crlf (hmarker : Text.NoBreak protocol.headerMarker.toList) (h : pass.scan.WellFormed)
    {line : List Char} (hline : Text.IsLine line) (hreturn : '\r' ∉ line) (number : Nat) :
    pass.crlf.step protocol number (Text.crlf line) =
      (pass.step protocol number line).map Pass.crlf := by
  have hscan : pass.crlf.scan = pass.scan := rfl
  unfold step
  rw [hscan, Scan.step_crlf hmarker hline, h.emit_crlf hline hreturn]
  cases pass.scan.step protocol number line with
  | error halt => rfl
  | ok after =>
      -- the two lines differ from what is written for them in both files or in neither
      have hdiffers : (Text.crlf (pass.scan.emit line) != Text.crlf line) =
          (pass.scan.emit line != line) := by
        rw [Bool.eq_iff_iff, bne_iff_ne, bne_iff_ne, Text.crlf_injective.ne_iff]
      simp only [hdiffers]
      rfl

theorem run_crlf (hmarker : Text.NoBreak protocol.headerMarker.toList) {lines : List (List Char)}
    (hlines : Text.AreLines lines) (hreturn : ∀ line ∈ lines, '\r' ∉ line) (number : Nat)
    (pass : Pass) (h : pass.scan.WellFormed) :
    run protocol number (lines.map Text.crlf) pass.crlf =
      (run protocol number lines pass).map Pass.crlf := by
  induction lines generalizing pass number with
  | nil => rfl
  | cons line rest ih =>
      obtain ⟨hline, -, hrest⟩ := hlines
      rw [List.map_cons, run, run, step_crlf hmarker h hline (hreturn line (by simp))]
      cases hstep : pass.step protocol number line with
      | error halt => rfl
      | ok after =>
          have hafter : after.scan.WellFormed := by
            unfold step at hstep
            split at hstep
            · rename_i scan hscan
              cases hstep
              exact h.step hscan
            · cases hstep
          exact ih hrest (List.forall_mem_of_forall_mem_cons hreturn) (number + 1) after hafter

theorem finish_crlf (pass : Pass) : pass.crlf.finish = pass.finish.map Regeneration.crlf := by
  have hscan : pass.crlf.scan = pass.scan := rfl
  have hchanged : pass.crlf.changed = pass.changed := rfl
  have htext : pass.crlf.written.reverse.flatten = Text.crlf pass.written.reverse.flatten := by
    rw [Text.crlf_flatten, Pass.crlf, List.map_reverse]
  unfold finish
  rw [hscan]
  split
  · rfl
  · simp only [Except.map, Regeneration.crlf, htext, hchanged, String.toList_ofList]
  · rfl

end Pass

/-- **Regenerating commutes with the convention for line endings.** A text without carriage returns
is given a carriage return in front of every line feed. If the header marker holds no line break,
the result is the same, but for the endings in the text that is written: not annotated if it was
not annotated, the same fault, or the same fields, advisories and flag. -/
theorem regenerate_commutes_with_crlf (protocol : Protocol) (text : String)
    (hmarker : '\r' ∉ protocol.headerMarker.toList ∧ '\n' ∉ protocol.headerMarker.toList)
    (htext : '\r' ∉ text.toList) :
    regenerate protocol (String.ofList (Text.crlf text.toList)) =
      (regenerate protocol text).map Regeneration.crlf := by
  have hbreak : Text.NoBreak protocol.headerMarker.toList := by
    intro c hc
    exact ⟨fun hlf => hmarker.2 (hlf ▸ hc), fun hcr => hmarker.1 (hcr ▸ hc)⟩
  have hreturn : ∀ line ∈ Text.lines text.toList, '\r' ∉ line := by
    intro line hline hc
    apply htext
    rw [← Text.lines_flatten text.toList]
    exact List.mem_flatten.mpr ⟨line, hline, hc⟩
  have hrun := Pass.run_crlf hbreak (Text.areLines_lines text.toList) hreturn 1 {} ⟨nofun, nofun⟩
  have hstart : ({} : Pass).crlf = {} := rfl
  rw [hstart] at hrun
  unfold regenerate
  rw [String.toList_ofList, Text.lines_crlf, hrun]
  cases Pass.run protocol 1 (Text.lines text.toList) {} with
  | ok pass => exact pass.finish_crlf
  | error halt =>
      cases halt with
      | notAnnotated => rfl
      | faulty fault => rfl

/-- A file in which all lines but the last end with a line feed. -/
def unendedText : String := "#\nP\nprivate N x\n@\n\n@\n?\n@\nz"

/-- What regenerating the file gives. -/
def unendedResult : Regenerated where
  text := "#\nP\nprivate N x\n@\n    // Don't delete this line. \n@\n        N x_\n@\n" ++
    "        if (x != x_) \x7b x = x_; need_react = true; \x7d "
  props := [⟨"N", "x"⟩]
  states := []
  advisories := [⟨3, ⟨"N", "x"⟩⟩]
  changed := true

theorem regenerate_unendedText_commutes_with_crlf :
    regenerate sampleProtocol unendedText = .ok (.annotated unendedResult) ∧
      regenerate sampleProtocol "#\r\nP\r\nprivate N x\r\n@\r\n\r\n@\r\n?\r\n@\r\nz" =
        .ok (.annotated { unendedResult with
          text := String.ofList (Text.crlf unendedResult.text.toList) }) := by
  have h : regenerate sampleProtocol unendedText = .ok (.annotated unendedResult) := by
    decide +kernel
  have hcrlf := regenerate_commutes_with_crlf sampleProtocol unendedText (by decide) (by decide)
  have htext : String.ofList (Text.crlf unendedText.toList) =
      "#\r\nP\r\nprivate N x\r\n@\r\n\r\n@\r\n?\r\n@\r\nz" := by
    decide +kernel
  rw [htext, h] at hcrlf
  exact ⟨h, hcrlf⟩

end RegionSync
