import RegionSync.Proofs.Opacity

set_option autoImplicit false

/-! # Files that are cut short

A file may be read while it is being written, so that only a part of it is there. The part ends
anywhere, also inside a line: its lines are lines of the whole file and, at the end, the beginning
of another one (`Text.lines_of_part`). That beginning may look like anything.

Still the part is accepted only if it reaches into the line of the third region. An accepted part
has a layout, and the lines above its third region stand in the whole file too, where they lead to
the third region as well (`Layout.index_eq_of_lines_eq_above`). And if the part does reach into that
line, it has the layout of the whole file but for that line and the lines below it.
-/

namespace RegionSync

/-! ## The lines of a part -/

namespace Text

theorem AreLines.of_append {front back : List (List Char)} (h : AreLines (front ++ back)) :
    AreLines front := by
  induction front with
  | nil => exact trivial
  | cons line front ih =>
      obtain ⟨hline, hlast, hrest⟩ := h
      exact ⟨hline, fun hne => hlast (by simp [hne]), ih hrest⟩

/-- The beginning of a line is a single line. -/
theorem IsLine.lines_of_part {line part : List Char} (h : IsLine line) (hpart : part <+: line)
    (hne : part ≠ []) : lines part = [part] := by
  rcases h.cases with ⟨front, hfront, rfl⟩ | ⟨hnone, -⟩
  · rcases List.prefix_concat_iff.mp hpart with rfl | hinside
    · have hcut := lines_append_newline hfront []
      rwa [List.append_nil] at hcut
    · exact lines_of_not_mem hne fun hc => hfront (hinside.mem hc)
  · exact lines_of_not_mem hne fun hc => hnone (hpart.mem hc)

/-- A part of a text has the first lines of the text and the beginning of the next one. -/
theorem lines_of_part {all : List (List Char)} (h : AreLines all) {text : List Char}
    (hbegins : text <+: all.flatten) (hne : text ≠ []) :
    ∃ (front : List (List Char)) (line : List Char) (back : List (List Char)) (part : List Char),
      all = front ++ line :: back ∧ part <+: line ∧ text = front.flatten ++ part ∧
      lines text = front ++ [part] := by
  induction all generalizing text with
  | nil => exact absurd (List.prefix_nil.mp hbegins) hne
  | cons line rest ih =>
      obtain ⟨hline, hlast, hrest⟩ := h
      rw [List.flatten_cons] at hbegins
      by_cases hinside : text <+: line
      · exact ⟨[], line, rest, text, rfl, hinside, rfl, hline.lines_of_part hinside hne⟩
      · -- the whole line is there and more, so the line is ended
        obtain ⟨more, rfl⟩ := (List.prefix_or_prefix_of_prefix hbegins
          (List.prefix_append line rest.flatten)).resolve_left hinside
        have hmore : more <+: rest.flatten := (List.prefix_append_right_inj line).mp hbegins
        have hmoreNe : more ≠ [] := by
          rintro rfl
          exact hinside (by simp)
        have hrestNe : rest ≠ [] := by
          rintro rfl
          exact hmoreNe (List.prefix_nil.mp hmore)
        rcases hline.cases with ⟨body, hbody, rfl⟩ | ⟨-, hend⟩
        · obtain ⟨front, next, back, part, rfl, hpart, rfl, hlines⟩ := ih hrest hmore hmoreNe
          refine ⟨(body ++ ['\n']) :: front, next, back, part, rfl, hpart, ?_, ?_⟩
          · simp only [List.flatten_cons, List.append_assoc]
          · rw [lines_append_newline hbody, hlines]
            rfl
        · exact absurd hend (hlast hrestNe)

end Text

/-! ## Other lines from the third region on -/

namespace Layout

variable {protocol : Protocol} {layout short : Layout}

/-- Where the line of a region starts, counted in characters. -/
def offset (layout : Layout) (region : Region) : Nat := (layout.above region).flatten.length

/-- The layout with another line for its third region and other lines below it. -/
def recut (layout : Layout) (line : List Char) (tail : List (List Char)) : Layout :=
  { layout.replace .diff line with tail := tail }

theorem lines_recut (layout : Layout) (line : List Char) (tail : List (List Char)) :
    (layout.recut line tail).lines = layout.above .diff ++ line :: tail :=
  (layout.recut line tail).lines_eq_above .diff

/-- What is asked of a layout is not asked of its third region or of its tail. -/
theorem WellFormed.recut (h : layout.WellFormed protocol) (line : List Char)
    (tail : List (List Char)) : (layout.recut line tail).WellFormed protocol :=
  ⟨h.header, h.accessors, h.parameters, h.diff⟩

theorem above_prefix_lines (layout : Layout) (region : Region) :
    layout.above region <+: layout.lines := by
  rw [layout.lines_eq_above region]
  exact List.prefix_append _ _

/-- Lines that lead to a third region lead there in every file that starts with them. -/
theorem index_eq_of_lines_eq_above (h : layout.WellFormed protocol)
    (hshort : short.WellFormed protocol) {line : List Char} {rest : List (List Char)}
    (hlines : layout.lines = short.above .diff ++ line :: rest) :
    short.index .diff = layout.index .diff := by
  have hsame : layout = short.recut line rest :=
    eq_of_lines_eq h (hshort.recut line rest) (hlines.trans (short.lines_recut line rest).symm)
  rw [hsame]
  rfl

/-! ## A part that ends above the third region -/

/-- A part that ends above the line of the third region is not accepted: the last line that it has
may look like anything, but the lines above a third region would have to be whole lines. -/
theorem regenerate_of_part_above (h : layout.WellFormed protocol)
    (hcut : Text.AreLines layout.lines) {part : String}
    (hpart : part.toList <+: (layout.above .diff).flatten) (result : Regenerated) :
    regenerate protocol part ≠ .ok (.annotated result) := by
  intro hok
  obtain ⟨short, hshort, hlines, -⟩ := regenerate_eq_annotated_iff.mp hok
  have hne : part.toList ≠ [] := by
    intro hnil
    rw [hnil] at hlines
    cases hlines
  have habove : Text.AreLines (layout.above .diff) := by
    rw [layout.lines_eq_above .diff] at hcut
    exact hcut.of_append
  obtain ⟨front, line, back, last, hsplit, -, -, hpartLines⟩ :=
    Text.lines_of_part habove hpart hne
  -- the lines above the third region of the part are whole lines of the file
  have hfront : short.above .diff <+: front := by
    have hlength : (short.above .diff).length ≤ front.length := by
      have hcount := congrArg List.length (hlines.trans hpartLines)
      rw [short.lines_eq_above .diff] at hcount
      simp only [List.length_append, List.length_cons, List.length_nil] at hcount
      omega
    refine List.prefix_of_prefix_length_le ?_ (List.prefix_append front [last]) hlength
    rw [← hpartLines, ← hlines]
    exact short.above_prefix_lines .diff
  obtain ⟨more, rfl⟩ := hfront
  -- so they are followed by some line in the file, and that line is its third region
  have hsame : short.index .diff = layout.index .diff := by
    have hfile : layout.lines =
        short.above .diff ++ (more ++ line :: (back ++ layout.diff.region :: layout.tail)) := by
      rw [layout.lines_eq_above .diff, hsplit]
      simp only [List.append_assoc, List.cons_append]
      rfl
    cases more with
    | nil => exact index_eq_of_lines_eq_above h hshort hfile
    | cons first more => exact index_eq_of_lines_eq_above h hshort hfile
  have hlonger := congrArg List.length hsplit
  simp only [index] at hsame
  simp only [List.length_append, List.length_cons] at hlonger
  omega

/-! ## A part that reaches into the third region -/

/-- A part that reaches into the line of the third region has all lines above it. -/
theorem lines_of_part_reaching (hcut : Text.AreLines layout.lines) {part : List Char}
    (hpart : part <+: layout.lines.flatten) (hreach : layout.offset .diff < part.length) :
    ∃ (line : List Char) (tail : List (List Char)),
      Text.lines part = (layout.recut line tail).lines := by
  have hne : part ≠ [] := by
    rintro rfl
    exact absurd hreach (Nat.not_lt_zero _)
  obtain ⟨front, line, back, last, hsplit, hlast, rfl, hpartLines⟩ :=
    Text.lines_of_part hcut hpart hne
  have habove : layout.above .diff <+: front := by
    have hfront : front <+: layout.lines := hsplit ▸ List.prefix_append _ _
    refine List.prefix_of_prefix_length_le (layout.above_prefix_lines .diff) hfront ?_
    by_contra hfew
    -- otherwise the part ends with a line above the third region
    have hwhole : front ++ [line] <+: layout.above .diff := by
      refine List.prefix_of_prefix_length_le ?_ (layout.above_prefix_lines .diff) ?_
      · rw [hsplit]
        exact ⟨back, by simp⟩
      · rw [List.length_append, List.length_singleton]
        omega
    have hcount := hwhole.flatten.length_le
    have hlastCount := hlast.length_le
    simp only [offset, List.length_append, List.flatten_append, List.flatten_singleton] at *
    omega
  obtain ⟨more, rfl⟩ := habove
  cases more with
  | nil => exact ⟨last, [], by rw [hpartLines, lines_recut, List.append_nil]⟩
  | cons first more =>
      refine ⟨first, more ++ [last], ?_⟩
      rw [hpartLines, lines_recut, List.append_assoc]
      rfl

end Layout

/-- **A file that is only partly there is never taken for a whole one.** A part of an accepted file
that ends above the line of the third region, or where this line starts, is at fault or not
annotated. A part that reaches into this line is accepted, with the fields and the advisories of
the whole file. -/
theorem parts_accepted_from_third_region {protocol : Protocol} {text : String}
    {result : Regenerated} (h : regenerate protocol text = .ok (.annotated result)) :
    ∃ layout : Layout, layout.WellFormed protocol ∧ layout.lines = Text.lines text.toList ∧
      (∀ other : Layout, other.WellFormed protocol → other.lines = Text.lines text.toList →
        other = layout) ∧
      ∀ part : String, part.toList <+: text.toList →
        (part.length ≤ layout.offset .diff →
          (∃ fault, regenerate protocol part = .error fault) ∨
            regenerate protocol part = .ok .notAnnotated) ∧
        (layout.offset .diff < part.length →
          ∃ short, regenerate protocol part = .ok (.annotated short) ∧ short.props = result.props ∧
            short.states = result.states ∧ short.advisories = result.advisories) := by
  obtain ⟨layout, hlayout, hlines, rfl⟩ := regenerate_eq_annotated_iff.mp h
  have hcut : Text.AreLines layout.lines := hlines ▸ Text.areLines_lines _
  have htext : text.toList = layout.lines.flatten := by rw [hlines, Text.lines_flatten]
  refine ⟨layout, hlayout, hlines, ?_, ?_⟩
  · intro other hother hsame
    exact Layout.eq_of_lines_eq hother hlayout (hsame.trans hlines.symm)
  intro part hpart
  rw [htext] at hpart
  rw [← String.length_toList]
  constructor
  · intro hends
    have habove : part.toList <+: (layout.above .diff).flatten :=
      List.prefix_of_prefix_length_le hpart (layout.above_prefix_lines .diff).flatten hends
    have hnever := Layout.regenerate_of_part_above hlayout hcut habove
    cases hresult : regenerate protocol part with
    | error fault => exact Or.inl ⟨fault, rfl⟩
    | ok regeneration =>
        cases regeneration with
        | notAnnotated => exact Or.inr rfl
        | annotated short => exact absurd hresult (hnever short)
  · intro hreach
    obtain ⟨line, tail, hpartLines⟩ := Layout.lines_of_part_reaching hcut hpart hreach
    -- declarations stand above the third region, and so do the lines that advisories name
    exact ⟨(layout.recut line tail).result, regenerate_eq_annotated_iff.mpr
      ⟨_, hlayout.recut line tail, hpartLines.symm, rfl⟩, rfl, rfl, rfl⟩

/-- Parts of a file that end just above the third region and in it. -/
theorem parts_accepted_from_third_region_of_tailedLayout :
    ∃ whole short : Regenerated,
      regenerate sampleProtocol "#\nP\nprivate N x\n@\na\n@\nb\r\n@\nc\nend" =
        .ok (.annotated whole) ∧
      ((∃ fault, regenerate sampleProtocol "#\nP\nprivate N x\n@\na\n@\nb\r\n@\n" = .error fault) ∨
        regenerate sampleProtocol "#\nP\nprivate N x\n@\na\n@\nb\r\n@\n" = .ok .notAnnotated) ∧
      regenerate sampleProtocol "#\nP\nprivate N x\n@\na\n@\nb\r\n@\nc" = .ok (.annotated short) ∧
      short.props = whole.props ∧ short.advisories = whole.advisories := by
  have hwhole : regenerate sampleProtocol "#\nP\nprivate N x\n@\na\n@\nb\r\n@\nc\nend" =
      .ok (.annotated tailedLayout.result) := by
    decide +kernel
  obtain ⟨layout, -, -, hunique, hparts⟩ := parts_accepted_from_third_region hwhole
  obtain rfl := hunique tailedLayout wellFormed_tailedLayout (by decide +kernel)
  have habove := (hparts "#\nP\nprivate N x\n@\na\n@\nb\r\n@\n" (by decide +kernel)).1
    (by decide +kernel)
  obtain ⟨short, hshort, hprops, -, hadvisories⟩ :=
    (hparts "#\nP\nprivate N x\n@\na\n@\nb\r\n@\nc" (by decide +kernel)).2 (by decide +kernel)
  exact ⟨_, short, hwhole, habove, hshort, hprops, hadvisories⟩

end RegionSync
