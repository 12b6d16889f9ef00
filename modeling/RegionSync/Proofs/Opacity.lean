import RegionSync.Proofs.Renewal

set_option autoImplicit false

/-! # Regions and tail have no part in the result

What stands in the lines of the regions, and whatever follows the last of them, may look like a
marker, an attribute, a declaration or a header: it is never read. Two files that agree elsewhere
have layouts that differ in the lines of the regions and in the tail (`Layout.refill`). Renewing
forgets the former and keeps the latter (`Layout.renew_refill`), so regenerating gives the same
fields, the same advisories and the same text down to the last region
(`regenerate_ignores_regions_and_tail`).
-/

namespace RegionSync

namespace Text

/-- `new` is `old` with another body: the body holds no line feed, the line is not empty, and the
ending is recognised as the old one. -/
structure Rebodied (old new : List Char) : Prop where
  body : ∃ body, '\n' ∉ body ∧ new = body ++ ending old
  ne_nil : new ≠ []
  ending_eq : ending new = ending old

theorem Rebodied.isLine {old new : List Char} (h : Rebodied old new) : IsLine new := by
  obtain ⟨front, hfront, hnew⟩ := h.body
  have hbody : Text.body new = front := by
    apply body_eq_of_append_ending
    rw [h.ending_eq]
    exact hnew.symm
  refine ⟨h.ne_nil, ?_⟩
  rw [hbody]
  exact hfront

/-- Only the last line may lack an ending. -/
theorem AreLines.eq_nil_of_ending_eq_nil {front back : List (List Char)} {line : List Char}
    (h : AreLines (front ++ line :: back)) (hend : ending line = []) : back = [] := by
  induction front with
  | nil =>
      obtain ⟨-, hlast, -⟩ := h
      by_contra hne
      exact hlast hne hend
  | cons first front ih =>
      obtain ⟨-, -, hrest⟩ := h
      exact ih hrest

/-- What follows a line that is ended may be replaced by any other lines. -/
theorem AreLines.replace_below {front back tail : List (List Char)} {line : List Char}
    (h : AreLines (front ++ line :: back)) (htail : AreLines tail)
    (hend : tail ≠ [] → ending line ≠ []) : AreLines (front ++ line :: tail) := by
  induction front with
  | nil =>
      obtain ⟨hline, -, -⟩ := h
      exact ⟨hline, hend, htail⟩
  | cons first front ih =>
      obtain ⟨hfirst, hlast, hrest⟩ := h
      exact ⟨hfirst, fun _ => hlast (by simp), ih hrest⟩

end Text

namespace Layout

variable {protocol : Protocol} {layout : Layout} {filling : Region → List Char}

/-! ## Other regions and another tail -/

/-- The lines of the file down to the line of the last region. -/
def head (layout : Layout) : List (List Char) := layout.above .diff ++ [layout.diff.region]

theorem lines_eq_head (layout : Layout) : layout.lines = layout.head ++ layout.tail := by
  rw [layout.lines_eq_above .diff, head, List.append_assoc]
  rfl

theorem length_head (layout : Layout) : layout.head.length = layout.index .diff + 1 := by
  simp [head, index]

/-- The layout with other lines for its regions and with other lines below them. -/
def refill (layout : Layout) (filling : Region → List Char) (tail : List (List Char)) : Layout :=
  { ((layout.replace .accessors (filling .accessors)).replace .parameters
      (filling .parameters)).replace .diff (filling .diff) with tail := tail }

/-- The text of the file with other lines in its regions and with `tail` below them. -/
def refilledText (layout : Layout) (filling : Region → List Char) (tail : List Char) : String :=
  String.ofList ((layout.refill filling []).lines.flatten ++ tail)

/-- The regions may be filled in this way: each of the new lines keeps the ending of the old one, and
the tail is another one only if the last region is ended. -/
structure Admits (layout : Layout) (filling : Region → List Char) (tail : List Char) : Prop where
  regions : ∀ region, Text.Rebodied (layout.block region).region (filling region)
  tail : Text.ending layout.diff.region = [] → tail = layout.tail.flatten

@[simp] theorem region_block_refill (layout : Layout) (filling : Region → List Char)
    (tail : List (List Char)) (region : Region) :
    ((layout.refill filling tail).block region).region = filling region := by
  cases region <;> rfl

theorem lines_refill (layout : Layout) (filling : Region → List Char) (tail : List (List Char)) :
    (layout.refill filling tail).lines = (layout.refill filling []).lines ++ tail := by
  rw [lines_eq_head, lines_eq_head, List.append_assoc]
  rfl

/-- What is asked of a layout is asked neither of its regions nor of its tail. -/
theorem WellFormed.refill (h : layout.WellFormed protocol) (filling : Region → List Char)
    (tail : List (List Char)) : (layout.refill filling tail).WellFormed protocol :=
  ⟨h.header, h.accessors, h.parameters, h.diff⟩

/-- The other lines survive being written out and cut again. -/
theorem areLines_refill (hlines : Text.AreLines layout.lines) {tail : List Char}
    (hadmits : layout.Admits filling tail) :
    Text.AreLines (layout.refill filling (Text.lines tail)).lines := by
  -- first the regions, one after the other, over the old tail
  have haccessors := areLines_replace .accessors hlines (hadmits.regions .accessors).isLine
    (hadmits.regions .accessors).ending_eq
  have hparameters := areLines_replace .parameters haccessors (hadmits.regions .parameters).isLine
    (hadmits.regions .parameters).ending_eq
  have hdiff := areLines_replace .diff hparameters (hadmits.regions .diff).isLine
    (hadmits.regions .diff).ending_eq
  -- then the tail: it is empty if the line above it is not ended
  rw [lines_replace] at hdiff
  have hbelow : Text.lines tail ≠ [] → Text.ending (filling .diff) ≠ [] := by
    intro hne hend
    have hopen : Text.ending layout.diff.region = [] :=
      (hadmits.regions .diff).ending_eq.symm.trans hend
    rw [layout.lines_eq_above .diff] at hlines
    have hnil : layout.tail = [] := hlines.eq_nil_of_ending_eq_nil hopen
    apply hne
    rw [hadmits.tail hopen, hnil]
    rfl
  have hall := hdiff.replace_below (Text.areLines_lines tail) hbelow
  rw [(layout.refill filling (Text.lines tail)).lines_eq_above .diff]
  exact hall

theorem lines_refilledText (hlines : Text.AreLines layout.lines) {tail : List Char}
    (hadmits : layout.Admits filling tail) :
    Text.lines (layout.refilledText filling tail).toList =
      (layout.refill filling (Text.lines tail)).lines := by
  have hflat : (layout.refilledText filling tail).toList =
      (layout.refill filling (Text.lines tail)).lines.flatten := by
    rw [refilledText, String.toList_ofList, layout.lines_refill filling (Text.lines tail),
      List.flatten_append, Text.lines_flatten]
  rw [hflat, Text.lines_flatten_of_areLines (areLines_refill hlines hadmits)]

/-! ## Renewing forgets the regions -/

/-- A renewed line is made of the fields above it and of the ending of the old line. -/
theorem renewedLine_refill {tail : List Char} (hadmits : layout.Admits filling tail)
    (below : List (List Char)) (region : Region) :
    (layout.refill filling below).renewedLine region = layout.renewedLine region := by
  have hbody : (layout.refill filling below).renewedBody region = layout.renewedBody region := by
    cases region <;> rfl
  calc (layout.refill filling below).renewedLine region
      = (layout.refill filling below).renewedBody region ++ Text.ending (filling region) := by
        rw [renewedLine, region_block_refill]
    _ = layout.renewedBody region ++ Text.ending (layout.block region).region := by
        rw [hbody, (hadmits.regions region).ending_eq]
    _ = layout.renewedLine region := rfl

theorem renew_refill {tail : List Char} (hadmits : layout.Admits filling tail)
    (below : List (List Char)) :
    (layout.refill filling below).renew = { layout.renew with tail := below } := by
  rw [renew, renewedLine_refill hadmits, renewedLine_refill hadmits, renewedLine_refill hadmits]
  rfl

/-- Advisories name lines by their numbers, and no line moves. -/
theorem advisories_refill (layout : Layout) (filling : Region → List Char)
    (below : List (List Char)) :
    (layout.refill filling below).advisories = layout.advisories := by
  simp [advisories, refill, replace, Block.replace, Block.lines]

theorem text_result (layout : Layout) :
    layout.result.text.toList = layout.renew.head.flatten ++ layout.tail.flatten := by
  rw [result, String.toList_ofList, lines_eq_head, List.flatten_append]
  rfl

theorem text_result_refill {tail : List Char} (hadmits : layout.Admits filling tail) :
    (layout.refill filling (Text.lines tail)).result.text.toList =
      layout.renew.head.flatten ++ tail := by
  rw [text_result, renew_refill hadmits]
  show layout.renew.head.flatten ++ (Text.lines tail).flatten = _
  rw [Text.lines_flatten]

/-- The text that regenerating gives has the renewed head for its first lines. -/
theorem take_lines_result {text : String} (h : layout.WellFormed protocol)
    (hlines : layout.lines = Text.lines text.toList) :
    (Text.lines layout.result.text.toList).take (layout.index .diff + 1) = layout.renew.head := by
  rw [lines_result h hlines, lines_eq_head, ← index_renew, ← length_head, List.take_left]

end Layout

/-- **What stands in the regions and below them has no part in the result.** In a file that is
accepted, and whose regions are therefore those of its one layout, the lines of the regions can be
given other bodies, and all that follows the last region can be replaced if that region is ended.
The file is accepted again, with the same fields and the same advisories. What is written agrees
down to the line of the last region, and what follows it is copied. -/
theorem regenerate_ignores_regions_and_tail {protocol : Protocol} {text : String}
    {result : Regenerated} (h : regenerate protocol text = .ok (.annotated result)) :
    ∃ layout : Layout, layout.WellFormed protocol ∧ layout.lines = Text.lines text.toList ∧
      (∀ other : Layout, other.WellFormed protocol → other.lines = Text.lines text.toList →
        other = layout) ∧
      ∀ (filling : Region → List Char) (tail : List Char), layout.Admits filling tail →
        ∃ (second : Regenerated) (front : List Char),
          regenerate protocol (layout.refilledText filling tail) = .ok (.annotated second) ∧
          second.props = result.props ∧ second.states = result.states ∧
          second.advisories = result.advisories ∧
          front = ((Text.lines result.text.toList).take (layout.index .diff + 1)).flatten ∧
          result.text.toList = front ++ layout.tail.flatten ∧
          second.text.toList = front ++ tail := by
  obtain ⟨layout, hlayout, hlines, rfl⟩ := regenerate_eq_annotated_iff.mp h
  have hunique : ∀ other : Layout, other.WellFormed protocol →
      other.lines = Text.lines text.toList → other = layout := by
    intro other hother hlines'
    exact Layout.eq_of_lines_eq hother hlayout (hlines'.trans hlines.symm)
  refine ⟨layout, hlayout, hlines, hunique, ?_⟩
  intro filling tail hadmits
  have hcut : Text.AreLines layout.lines := hlines ▸ Text.areLines_lines _
  -- the other file has the refilled layout
  have hsecond : regenerate protocol (layout.refilledText filling tail) =
      .ok (.annotated (layout.refill filling (Text.lines tail)).result) :=
    regenerate_eq_annotated_iff.mpr
      ⟨_, hlayout.refill filling _, (Layout.lines_refilledText hcut hadmits).symm, rfl⟩
  refine ⟨_, layout.renew.head.flatten, hsecond, rfl, rfl, ?_, ?_, ?_, ?_⟩
  · exact layout.advisories_refill filling (Text.lines tail)
  · rw [Layout.take_lines_result hlayout hlines]
  · exact layout.text_result
  · exact Layout.text_result_refill hadmits

/-- A file with something below its last region. -/
def tailedLayout : Layout where
  header := "#\n".toList
  accessors := ⟨[.prop "P\n".toList "private N x\n".toList ⟨"N", "x"⟩], "@\n".toList, "a\n".toList⟩
  parameters := ⟨[], "@\n".toList, "b\r\n".toList⟩
  diff := ⟨[], "@\n".toList, "c\n".toList⟩
  tail := ["end".toList]

theorem wellFormed_tailedLayout : tailedLayout.WellFormed sampleProtocol where
  header := (sampleProtocol.isHeader_iff _).mp (by decide +kernel)
  accessors := by
    refine ⟨?_, by decide⟩
    intro item hitem
    rw [List.mem_singleton.mp hitem]
    exact ⟨by decide, 0, by decide +kernel⟩
  parameters := ⟨nofun, by decide⟩
  diff := ⟨nofun, by decide⟩

/-- Lines for the regions that look like a marker, a header with an attribute, and an attribute. -/
def misleadingFilling : Region → List Char
  | .accessors => "@\n".toList
  | .parameters => "#S\r\n".toList
  | .diff => "P\n".toList

theorem admits_misleadingFilling :
    tailedLayout.Admits misleadingFilling "private\n@".toList where
  regions := by
    intro region
    cases region with
    | accessors => exact ⟨⟨"@".toList, by decide, by decide⟩, by decide, by decide⟩
    | parameters => exact ⟨⟨"#S".toList, by decide, by decide⟩, by decide, by decide⟩
    | diff => exact ⟨⟨"P".toList, by decide, by decide⟩, by decide, by decide⟩
  tail := by decide

theorem regenerate_ignores_misleadingFilling :
    ∃ first second : Regenerated,
      regenerate sampleProtocol "#\nP\nprivate N x\n@\na\n@\nb\r\n@\nc\nend" =
        .ok (.annotated first) ∧
      regenerate sampleProtocol "#\nP\nprivate N x\n@\n@\n@\n#S\r\n@\nP\nprivate\n@" =
        .ok (.annotated second) ∧
      second.props = first.props ∧ second.advisories = first.advisories ∧
      ∃ front, first.text.toList = front ++ "end".toList ∧
        second.text.toList = front ++ "private\n@".toList := by
  have hfirst : regenerate sampleProtocol "#\nP\nprivate N x\n@\na\n@\nb\r\n@\nc\nend" =
      .ok (.annotated tailedLayout.result) := by
    decide +kernel
  obtain ⟨layout, -, -, hunique, hrefill⟩ := regenerate_ignores_regions_and_tail hfirst
  have hcut : tailedLayout.lines =
      Text.lines "#\nP\nprivate N x\n@\na\n@\nb\r\n@\nc\nend".toList := by
    decide +kernel
  obtain rfl := hunique tailedLayout wellFormed_tailedLayout hcut
  obtain ⟨second, front, hsecond, hprops, -, hadvisories, -, hbefore, hafter⟩ :=
    hrefill misleadingFilling "private\n@".toList admits_misleadingFilling
  have htext : tailedLayout.refilledText misleadingFilling "private\n@".toList =
      "#\nP\nprivate N x\n@\n@\n@\n#S\r\n@\nP\nprivate\n@" := by
    decide +kernel
  rw [htext] at hsecond
  exact ⟨_, second, hfirst, hsecond, hprops, hadvisories, front, hbefore, hafter⟩

end RegionSync
