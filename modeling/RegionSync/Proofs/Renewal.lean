import RegionSync.Proofs.Acceptance

set_option autoImplicit false

/-! # Regenerating renews the regions and nothing else

Regenerating a file replaces the lines of its three regions, each by a line with the same ending,
and copies every other line (`regenerate_rewrites_only_regions`). The new lines are rendered from
declared fields, so they hold no line break: the text that is written has the same lines again,
and its layout is the old layout with renewed regions. What stands in the regions has no part in
what is declared, so renewing a second time changes nothing (`Layout.renew_renew`), and the second
pass gives back the text of the first (`regenerate_idempotent`).
-/

namespace RegionSync

namespace Layout

/-! ## Where the regions stand -/

/-- The lines above the line of a region. -/
def above (layout : Layout) : Region → List (List Char)
  | .accessors =>
    layout.header :: (layout.accessors.items.flatMap Item.lines ++ [layout.accessors.marker])
  | .parameters =>
    layout.header :: (layout.accessors.lines ++
      (layout.parameters.items.flatMap Item.lines ++ [layout.parameters.marker]))
  | .diff =>
    layout.header :: (layout.accessors.lines ++ (layout.parameters.lines ++
      (layout.diff.items.flatMap Item.lines ++ [layout.diff.marker])))

/-- The lines below the line of a region. -/
def below (layout : Layout) : Region → List (List Char)
  | .accessors => layout.parameters.lines ++ (layout.diff.lines ++ layout.tail)
  | .parameters => layout.diff.lines ++ layout.tail
  | .diff => layout.tail

/-- The index of the line of a region among the lines of the file. -/
def index (layout : Layout) (region : Region) : Nat := (layout.above region).length

theorem lines_eq_above (layout : Layout) (region : Region) :
    layout.lines =
      layout.above region ++ (layout.block region).region :: layout.below region := by
  cases region <;> simp [lines, above, below, block, Block.lines]

theorem lines_replace (layout : Layout) (region : Region) (line : List Char) :
    (layout.replace region line).lines =
      layout.above region ++ line :: layout.below region := by
  cases region <;> simp [lines, above, below, replace, Block.replace, Block.lines]

theorem lines_replace_eq_set (layout : Layout) (region : Region) (line : List Char) :
    (layout.replace region line).lines = layout.lines.set (layout.index region) line := by
  rw [lines_replace, layout.lines_eq_above region, index,
    List.set_append_right _ _ (Nat.le_refl _), Nat.sub_self, List.set_cons_zero]

/-- The line at the index of a region is the line of the region. -/
theorem getElem?_index (layout : Layout) (region : Region) :
    layout.lines[layout.index region]? = some (layout.block region).region := by
  rw [layout.lines_eq_above region, index, List.getElem?_append_right (Nat.le_refl _)]
  simp

theorem index_lt_index (layout : Layout) :
    layout.index .accessors < layout.index .parameters ∧
      layout.index .parameters < layout.index .diff := by
  simp only [index, above, Block.lines, List.length_cons, List.length_append, List.length_nil]
  omega

@[simp] theorem index_replace (layout : Layout) (replaced region : Region) (line : List Char) :
    (layout.replace replaced line).index region = layout.index region := by
  cases replaced <;> cases region <;>
    simp [index, above, replace, Block.replace, Block.lines]

/-- The lines of the renewed layout, as three replacements at three places. -/
theorem lines_renew (layout : Layout) :
    layout.renew.lines =
      ((layout.lines.set (layout.index .accessors) (layout.renewedLine .accessors)).set
        (layout.index .parameters) (layout.renewedLine .parameters)).set
        (layout.index .diff) (layout.renewedLine .diff) := by
  simp only [renew, lines_replace_eq_set, index_replace]

@[simp] theorem index_renew (layout : Layout) (region : Region) :
    layout.renew.index region = layout.index region := by
  simp only [renew, index_replace]

@[simp] theorem region_block_renew (layout : Layout) (region : Region) :
    (layout.renew.block region).region = layout.renewedLine region := by
  cases region <;> rfl

/-- Only the three lines of the regions are replaced. -/
theorem getElem?_lines_renew (layout : Layout) {n : Nat}
    (h : ∀ region, n ≠ layout.index region) : layout.renew.lines[n]? = layout.lines[n]? := by
  rw [lines_renew, List.getElem?_set_ne (h .diff).symm, List.getElem?_set_ne (h .parameters).symm,
    List.getElem?_set_ne (h .accessors).symm]

end Layout

/-! ## Declared fields are words -/

theorem Item.wellFormed_states {protocol : Protocol} {item : Item} (h : item.WellFormed protocol) :
    ∀ state ∈ item.states, state.WellFormed := by
  intro state hstate
  cases item with
  | plain line => cases hstate
  | state attr decl field =>
      obtain ⟨-, number, hread⟩ := h
      rw [List.mem_singleton.mp hstate]
      exact Declaration.wellFormed_of_readState hread
  | prop attr decl field => cases hstate

theorem Item.wellFormed_props {protocol : Protocol} {item : Item} (h : item.WellFormed protocol) :
    ∀ prop ∈ item.props, prop.WellFormed := by
  intro prop hprop
  cases item with
  | plain line => cases hprop
  | state attr decl field => cases hprop
  | prop attr decl field =>
      obtain ⟨-, number, hread⟩ := h
      rw [List.mem_singleton.mp hprop]
      exact Declaration.wellFormed_of_readProp hread

namespace Layout

variable {protocol : Protocol} {layout : Layout}

theorem wellFormed_statesAbove (h : layout.WellFormed protocol) (region : Region) :
    ∀ state ∈ layout.statesAbove region, state.WellFormed := by
  intro state hstate
  obtain ⟨other, hstate⟩ := exists_mem_of_mem_upTo hstate
  obtain ⟨item, hitem, hstate⟩ := List.mem_flatMap.mp hstate
  exact Item.wellFormed_states ((h.block other).1 item hitem) state hstate

theorem wellFormed_propsAbove (h : layout.WellFormed protocol) (region : Region) :
    ∀ prop ∈ layout.propsAbove region, prop.WellFormed := by
  intro prop hprop
  obtain ⟨other, hprop⟩ := exists_mem_of_mem_upTo hprop
  obtain ⟨item, hitem, hprop⟩ := List.mem_flatMap.mp hprop
  exact Item.wellFormed_props ((h.block other).1 item hitem) prop hprop

/-! ## Renewed lines are lines -/

theorem noBreak_renewedBody (h : layout.WellFormed protocol) (region : Region) :
    Text.NoBreak (layout.renewedBody region) :=
  region.noBreak_render (layout.wellFormed_statesAbove h region)
    (layout.wellFormed_propsAbove h region)

theorem ending_renewedLine (h : layout.WellFormed protocol) (region : Region) :
    Text.ending (layout.renewedLine region) = Text.ending (layout.block region).region :=
  Text.ending_append_ending (noBreak_renewedBody h region) _

theorem body_renewedLine (h : layout.WellFormed protocol) (region : Region) :
    Text.body (layout.renewedLine region) = layout.renewedBody region :=
  Text.body_append_ending_of_noBreak (noBreak_renewedBody h region) _

theorem isLine_renewedLine (h : layout.WellFormed protocol) (region : Region) :
    Text.IsLine (layout.renewedLine region) := by
  constructor
  · intro hnil
    exact region.render_ne_nil _ _ (List.append_eq_nil_iff.mp hnil).1
  · rw [body_renewedLine h]
    exact (noBreak_renewedBody h region).not_mem

theorem areLines_replace (region : Region) {line : List Char} (h : Text.AreLines layout.lines)
    (hline : Text.IsLine line) (hend : Text.ending line = Text.ending (layout.block region).region) :
    Text.AreLines (layout.replace region line).lines := by
  rw [layout.lines_eq_above region] at h
  rw [lines_replace]
  exact h.replace hline hend

/-- The renewed lines survive being written out and cut again. -/
theorem areLines_renew (h : layout.WellFormed protocol) (hlines : Text.AreLines layout.lines) :
    Text.AreLines layout.renew.lines := by
  -- replacing the line of one region leaves the lines of the others where they are
  have haccessors := areLines_replace .accessors hlines (isLine_renewedLine h .accessors)
    (ending_renewedLine h .accessors)
  have hparameters := areLines_replace .parameters haccessors (isLine_renewedLine h .parameters)
    (ending_renewedLine h .parameters)
  exact areLines_replace .diff hparameters (isLine_renewedLine h .diff) (ending_renewedLine h .diff)

/-! ## Renewing twice -/

theorem WellFormed.renew (h : layout.WellFormed protocol) : layout.renew.WellFormed protocol :=
  ⟨h.header, h.accessors, h.parameters, h.diff⟩

/-- The second time, each region is renewed to what it already is: the fields above it are the same,
and its new line has the ending of the old one. -/
theorem renewedLine_renew (h : layout.WellFormed protocol) (region : Region) :
    layout.renew.renewedLine region = layout.renewedLine region := by
  have hbody : layout.renew.renewedBody region = layout.renewedBody region := by
    cases region <;> rfl
  calc layout.renew.renewedLine region
      = layout.renew.renewedBody region ++ Text.ending (layout.renew.block region).region := rfl
    _ = layout.renewedBody region ++ Text.ending (layout.renewedLine region) := by
        rw [hbody, region_block_renew]
    _ = layout.renewedLine region := by
        rw [ending_renewedLine h]
        rfl

/-- Advisories name lines by their numbers, and no line moves. -/
theorem advisories_renew (layout : Layout) : layout.renew.advisories = layout.advisories := by
  simp [advisories, renew, replace, Block.replace, Block.lines]

theorem renew_renew (h : layout.WellFormed protocol) : layout.renew.renew = layout.renew := by
  rw [Layout.renew, renewedLine_renew h, renewedLine_renew h, renewedLine_renew h]
  rfl

end Layout

/-! ## What is written -/

/-- The lines of the text that regenerating gives are those of the renewed layout. -/
theorem Layout.lines_result {protocol : Protocol} {layout : Layout} {text : String}
    (h : layout.WellFormed protocol) (hlines : layout.lines = Text.lines text.toList) :
    Text.lines layout.result.text.toList = layout.renew.lines := by
  have hcut : Text.AreLines layout.lines := hlines ▸ Text.areLines_lines _
  rw [Layout.result, String.toList_ofList, Text.lines_flatten_of_areLines (areLines_renew h hcut)]

/-- Short markers, for an example. -/
def sampleProtocol : Protocol :=
  { headerMarker := "#", generatedMarker := "@", stateAttribute := "S", propAttribute := "P" }

/-- A file with all three endings among the lines of its regions. -/
def sampleText : String := "#\nP\nprivate N x\r\n@\n\r\n@\n?\n@\nz"

/-- What regenerating the file gives. -/
def sampleResult : Regenerated where
  text := "#\nP\nprivate N x\r\n@\n    // Don't delete this line. \r\n@\n        N x_\n@\n" ++
    "        if (x != x_) \x7b x = x_; need_react = true; \x7d "
  props := [⟨"N", "x"⟩]
  states := []
  advisories := [⟨3, ⟨"N", "x"⟩⟩]
  changed := true

theorem regenerate_sampleText :
    regenerate sampleProtocol sampleText = .ok (.annotated sampleResult) := by
  decide +kernel

/-- Regenerating what was regenerated gives the same once more, with nothing to change. -/
theorem regenerate_again {protocol : Protocol} {text : String} {first : Regenerated}
    (h : regenerate protocol text = .ok (.annotated first)) :
    regenerate protocol first.text = .ok (.annotated { first with changed := false }) := by
  obtain ⟨layout, hlayout, hlines, rfl⟩ := regenerate_eq_annotated_iff.mp h
  -- the text that was written has the renewed layout
  have hagain := regenerate_eq_annotated_iff.mpr
    ⟨layout.renew, hlayout.renew, (layout.lines_result hlayout hlines).symm, rfl⟩
  have hfields : layout.renew.props = layout.props ∧ layout.renew.states = layout.states :=
    ⟨rfl, rfl⟩
  have hsame : layout.renew.result = { layout.result with changed := false } := by
    simp [Layout.result, Layout.renew_renew hlayout, layout.advisories_renew, hfields]
  rw [hagain, hsame]

/-- **Regenerating is idempotent.** A second pass over what the first one wrote finds the same fields
and the same advisories, on the same lines, and has nothing to change. -/
theorem regenerate_idempotent {protocol : Protocol} {text : String} {first : Regenerated}
    (h : regenerate protocol text = .ok (.annotated first)) :
    ∃ second, regenerate protocol first.text = .ok (.annotated second) ∧
      second.text = first.text ∧ second.changed = false ∧ second.props = first.props ∧
      second.states = first.states ∧ second.advisories = first.advisories := by
  -- of the first result only the flag differs
  have hagain := regenerate_again h
  exact ⟨{ first with changed := false }, hagain, rfl, rfl, rfl, rfl, rfl⟩

theorem regenerate_idempotent_sampleText :
    regenerate sampleProtocol sampleText = .ok (.annotated sampleResult) ∧
      ∃ second, regenerate sampleProtocol sampleResult.text = .ok (.annotated second) ∧
        second.text = sampleResult.text ∧ second.changed = false ∧
        second.props = sampleResult.props ∧ second.states = sampleResult.states ∧
        second.advisories = sampleResult.advisories :=
  ⟨regenerate_sampleText, regenerate_idempotent regenerate_sampleText⟩

/-- The flag says whether the text differs, although it is put together from comparisons of single
lines: the lines of the two texts stand at the same places. -/
theorem Layout.changed_result_iff {protocol : Protocol} {layout : Layout} {text : String}
    (h : layout.WellFormed protocol) (hlines : layout.lines = Text.lines text.toList) :
    layout.result.changed = true ↔ layout.result.text ≠ text := by
  have hflag : layout.result.changed = true ↔ layout.renew.lines ≠ layout.lines :=
    decide_eq_true_iff
  rw [hflag, not_iff_not]
  constructor
  · intro hsame
    rw [Layout.result, hsame, hlines, Text.lines_flatten, String.ofList_toList]
  · intro hsame
    rw [← layout.lines_result h hlines, hsame, hlines]

/-- Line `n` of `after` is line `n` of `before` with the given body and the old ending. -/
def RenewedAt (before after : List (List Char)) (n : Nat) (body : List Char) : Prop :=
  ∃ old new, before[n]? = some old ∧ after[n]? = some new ∧
    Text.body new = body ∧ Text.ending new = Text.ending old

theorem Layout.renewedAt {protocol : Protocol} {layout : Layout} (h : layout.WellFormed protocol)
    (region : Region) :
    RenewedAt layout.lines layout.renew.lines (layout.index region) (layout.renewedBody region) := by
  have hnew : layout.renew.lines[layout.index region]? = some (layout.renewedLine region) := by
    have := layout.renew.getElem?_index region
    rwa [index_renew, region_block_renew] at this
  exact ⟨_, _, layout.getElem?_index region, hnew, body_renewedLine h region,
    ending_renewedLine h region⟩

/-- **Exactly the generated lines change.** The text that is written has as many lines as the text
that was read. They agree but for three lines, which stand where the layout of the file has its
regions; each of these keeps its ending and shows the fields declared above it. The flag says
whether the two texts differ. -/
theorem regenerate_rewrites_only_regions {protocol : Protocol} {text : String}
    {result : Regenerated} (h : regenerate protocol text = .ok (.annotated result)) :
    (Text.lines result.text.toList).length = (Text.lines text.toList).length ∧
    (∃ (layout : Layout) (i j k : Nat),
      layout.WellFormed protocol ∧ layout.lines = Text.lines text.toList ∧
      i = layout.index .accessors ∧ j = layout.index .parameters ∧ k = layout.index .diff ∧
      i < j ∧ j < k ∧
      (∀ n, n ≠ i → n ≠ j → n ≠ k →
        (Text.lines result.text.toList)[n]? = (Text.lines text.toList)[n]?) ∧
      RenewedAt (Text.lines text.toList) (Text.lines result.text.toList) i
        (Region.renderAccessors (layout.statesAbove .accessors)) ∧
      RenewedAt (Text.lines text.toList) (Text.lines result.text.toList) j
        (Region.renderParameters (layout.propsAbove .parameters)) ∧
      RenewedAt (Text.lines text.toList) (Text.lines result.text.toList) k
        (Region.renderDiff (layout.propsAbove .diff)) ∧
      layout.propsAbove .diff = result.props) ∧
    (result.changed = true ↔ result.text ≠ text) := by
  obtain ⟨layout, hlayout, hlines, rfl⟩ := regenerate_eq_annotated_iff.mp h
  obtain ⟨hij, hjk⟩ := layout.index_lt_index
  have hafter : Text.lines layout.result.text.toList = layout.renew.lines :=
    layout.lines_result hlayout hlines
  rw [hafter, ← hlines]
  refine ⟨?_, ⟨layout, _, _, _, hlayout, rfl, rfl, rfl, rfl, hij, hjk, ?_,
    layout.renewedAt hlayout .accessors, layout.renewedAt hlayout .parameters,
    layout.renewedAt hlayout .diff, rfl⟩, layout.changed_result_iff hlayout hlines⟩
  · rw [layout.lines_renew]
    simp only [List.length_set]
  · intro n hi hj hk
    apply layout.getElem?_lines_renew
    intro region
    cases region with
    | accessors => exact hi
    | parameters => exact hj
    | diff => exact hk

theorem regenerate_rewrites_only_regions_sampleText :
    regenerate sampleProtocol sampleText = .ok (.annotated sampleResult) ∧
      (Text.lines sampleResult.text.toList).length = (Text.lines sampleText.toList).length ∧
      (∃ i j k : Nat, i < j ∧ j < k ∧
        (∀ n, n ≠ i → n ≠ j → n ≠ k →
          (Text.lines sampleResult.text.toList)[n]? = (Text.lines sampleText.toList)[n]?) ∧
        RenewedAt (Text.lines sampleText.toList) (Text.lines sampleResult.text.toList) k
          (Region.renderDiff sampleResult.props)) ∧
      (sampleResult.changed = true ↔ sampleResult.text ≠ sampleText) := by
  obtain ⟨hlength, ⟨layout, i, j, k, -, -, -, -, -, hij, hjk, hothers, -, -, hdiff, hprops⟩,
    hchanged⟩ := regenerate_rewrites_only_regions regenerate_sampleText
  rw [hprops] at hdiff
  exact ⟨regenerate_sampleText, hlength, ⟨i, j, k, hij, hjk, hothers, hdiff⟩, hchanged⟩

end RegionSync
