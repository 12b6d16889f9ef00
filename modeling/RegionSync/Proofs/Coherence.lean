import RegionSync.Proofs.Renewal

set_option autoImplicit false

/-! # Which fields the regions show

A region is rendered when its line is reached, from the fields that were declared above it. A field
may also be declared below a region, between two markers: it is reported with the others, but the
regions above it do not know of it. The region that takes the props over comes last, so it always
knows all props. The other two show all fields exactly if none of their kind is declared below them
(`regions_show_all_fields_iff`): leaving a field out always shows in the text of the region
(`Region.renderAccessors_append_eq_iff`, `Region.renderParameters_append_eq_iff`).
-/

namespace RegionSync

/-! ## Lists with separators -/

namespace Text

variable {separator part : List Char} {front back parts : List (List Char)}

theorem flatten_intersperse_append (separator : List Char) (hfront : front ≠ []) (hback : back ≠ []) :
    ((front ++ back).intersperse separator).flatten =
      (front.intersperse separator).flatten ++ separator ++ (back.intersperse separator).flatten := by
  induction front with
  | nil => exact absurd rfl hfront
  | cons first rest ih =>
      cases rest with
      | nil =>
          obtain ⟨next, more, rfl⟩ := List.exists_cons_of_ne_nil hback
          simp [List.intersperse_cons_cons]
      | cons second rest =>
          have hrest := ih (by simp)
          simp only [List.cons_append, List.intersperse_cons_cons, List.flatten_cons,
            List.append_assoc] at hrest ⊢
          rw [hrest]

/-- Each part stands in the joined text. -/
theorem infix_intersperse (separator : List Char) (h : part ∈ parts) :
    part <:+: (parts.intersperse separator).flatten := by
  apply List.infix_of_mem_flatten
  induction parts with
  | nil => cases h
  | cons first rest ih =>
      cases rest with
      | nil => simpa using h
      | cons second rest =>
          rw [List.intersperse_cons_cons]
          rcases List.mem_cons.mp h with rfl | h
          · exact List.mem_cons_self
          · exact List.mem_cons_of_mem _ (List.mem_cons_of_mem _ (ih h))

end Text

/-! ## Regions with more or fewer fields -/

namespace Region

variable {state : StateField} {prop : PropField} {states : List StateField} {props : List PropField}

theorem line_inj {indent : Nat} {first second : Bool} {content other : List Char} :
    line indent first content = line indent second other ↔
      (if first then content else placeholder) = if second then other else placeholder := by
  rw [line, line, List.append_right_inj]

theorem infix_line (indent : Nat) {part content : List Char} (h : part <:+: content) :
    part <:+: line indent true content :=
  h.trans (List.suffix_append _ _).isInfix

/-- An accessor starts with a keyword. -/
theorem exists_accessor_eq_cons (state : StateField) : ∃ rest, accessor state = 'p' :: rest := by
  have hpublic : "public ".toList = 'p' :: "ublic ".toList := by decide
  unfold accessor
  simp only [List.append_assoc]
  rw [hpublic, List.cons_append]
  exact ⟨_, rfl⟩

/-- No region with an accessor looks like an empty one. -/
theorem flatMap_accessor_ne_placeholder (states : List StateField) :
    states.flatMap accessor ≠ placeholder := by
  have hplaceholder : placeholder.head? = some '/' := by decide
  intro hsame
  rw [← hsame] at hplaceholder
  cases states with
  | nil => cases hplaceholder
  | cons state states =>
      obtain ⟨rest, hrest⟩ := exists_accessor_eq_cons state
      rw [List.flatMap_cons, hrest, List.cons_append, List.head?_cons] at hplaceholder
      exact absurd hplaceholder (by decide)

theorem renderAccessors_append_eq_iff (front back : List StateField) :
    renderAccessors front = renderAccessors (front ++ back) ↔ back = [] := by
  constructor
  · intro hsame
    by_contra hback
    have hlonger : 0 < (back.flatMap accessor).length := by
      obtain ⟨state, others, rfl⟩ := List.exists_cons_of_ne_nil hback
      obtain ⟨rest, hrest⟩ := exists_accessor_eq_cons state
      rw [List.flatMap_cons, hrest, List.cons_append]
      exact Nat.succ_pos _
    rw [renderAccessors, renderAccessors, line_inj] at hsame
    cases front with
    | nil => exact flatMap_accessor_ne_placeholder back (by simpa [hback] using hsame.symm)
    | cons state front =>
        have hlength := congrArg List.length hsame
        simp only [List.cons_append, List.isEmpty_cons, Bool.not_false, if_true, List.flatMap_cons,
          List.flatMap_append, List.length_append] at hlength
        omega
  · rintro rfl
    rw [List.append_nil]

theorem infix_renderAccessors (h : state ∈ states) : accessor state <:+: renderAccessors states := by
  rw [renderAccessors, List.isEmpty_eq_false_iff.mpr (List.ne_nil_of_mem h)]
  exact infix_line _ (List.infix_of_mem_flatten (List.mem_map_of_mem h))

/-- The formal parameters, joined. -/
def joinedParams (props : List PropField) : List Char :=
  ((props.map fun prop => prop.formalParam.toList).intersperse ", ".toList).flatten

theorem joinedParams_append {front back : List PropField} (hfront : front ≠ []) (hback : back ≠ []) :
    joinedParams (front ++ back) = joinedParams front ++ ", ".toList ++ joinedParams back := by
  rw [joinedParams, List.map_append,
    Text.flatten_intersperse_append _ (by simpa using hfront) (by simpa using hback)]
  rfl

/-- A list of parameters ends with the last parameter's underscore. -/
theorem getLast?_joinedParams (h : props ≠ []) : (joinedParams props).getLast? = some '_' := by
  obtain ⟨front, prop, rfl⟩ := (List.eq_nil_or_concat' props).resolve_left h
  have hlast : (joinedParams [prop]).getLast? = some '_' := by
    simp [joinedParams, PropField.formalParam, PropField.paramName, List.getLast?_cons]
  by_cases hfront : front = []
  · rw [hfront]
    exact hlast
  · rw [joinedParams_append hfront (by simp), List.getLast?_append, hlast]
    rfl

theorem renderParameters_append_eq_iff (front back : List PropField) :
    renderParameters front = renderParameters (front ++ back) ↔ back = [] := by
  constructor
  · intro hsame
    by_contra hback
    change line 8 (!front.isEmpty) (joinedParams front) =
      line 8 (!(front ++ back).isEmpty) (joinedParams (front ++ back)) at hsame
    rw [line_inj] at hsame
    by_cases hfront : front = []
    · -- an empty region ends with a blank
      subst hfront
      have hlast := congrArg List.getLast? hsame
      simp only [List.nil_append, List.isEmpty_eq_false_iff.mpr hback, Bool.not_false, if_true,
        getLast?_joinedParams hback] at hlast
      revert hlast
      decide
    · have hall : front ++ back ≠ [] := by simp [hback]
      have hlength := congrArg List.length hsame
      simp only [List.isEmpty_eq_false_iff.mpr hfront, List.isEmpty_eq_false_iff.mpr hall,
        Bool.not_false, if_true, joinedParams_append hfront hback, List.length_append] at hlength
      have hcomma : 0 < (", ".toList).length := by decide
      omega
  · rintro rfl
    rw [List.append_nil]

theorem infix_renderParameters (h : prop ∈ props) :
    prop.formalParam.toList <:+: renderParameters props := by
  rw [renderParameters, List.isEmpty_eq_false_iff.mpr (List.ne_nil_of_mem h)]
  exact infix_line _ (Text.infix_intersperse _ (List.mem_map_of_mem h))

theorem infix_renderDiff (h : prop ∈ props) : takeover prop <:+: renderDiff props := by
  rw [renderDiff, List.isEmpty_eq_false_iff.mpr (List.ne_nil_of_mem h)]
  exact infix_line _ (List.infix_of_mem_flatten (List.mem_map_of_mem h))

end Region

/-! ## The regions of a file -/

namespace Layout

variable {protocol : Protocol} {layout : Layout} {text : String}

/-- What stands in a text at the place of a region, without the ending. -/
def shown (layout : Layout) (text : String) (region : Region) : List Char :=
  Text.body ((Text.lines text.toList).getD (layout.index region) [])

/-- Regenerating leaves each region with the fields declared above it. -/
theorem shown_result (h : layout.WellFormed protocol) (hlines : layout.lines = Text.lines text.toList)
    (region : Region) : layout.shown layout.result.text region = layout.renewedBody region := by
  obtain ⟨old, new, -, hnew, hbody, -⟩ := layout.renewedAt h region
  rw [shown, layout.lines_result h hlines, List.getD_eq_getElem?_getD, hnew, Option.getD_some, hbody]

theorem shown_accessors_eq_iff (h : layout.WellFormed protocol)
    (hlines : layout.lines = Text.lines text.toList) :
    layout.shown layout.result.text .accessors = Region.renderAccessors layout.states ↔
      layout.parameters.states = [] ∧ layout.diff.states = [] := by
  rw [shown_result h hlines, states, List.append_assoc, ← List.append_eq_nil_iff]
  exact Region.renderAccessors_append_eq_iff _ _

theorem shown_parameters_eq_iff (h : layout.WellFormed protocol)
    (hlines : layout.lines = Text.lines text.toList) :
    layout.shown layout.result.text .parameters = Region.renderParameters layout.props ↔
      layout.diff.props = [] := by
  rw [shown_result h hlines, props]
  exact Region.renderParameters_append_eq_iff _ _

end Layout

/-- **When the regions show all fields.** In the text that regenerating a file gives, at the places
where the layout of the file has its regions:

* the accessors are those of all states if and only if no state is declared below them;
* the parameters are those of all props if and only if no prop is declared below them;
* the last region always takes over all props.

So each declared state has its accessor, and each prop that is taken over has its parameter, provided
that nothing is declared below the region in question. -/
theorem regions_show_all_fields_iff {protocol : Protocol} {text : String} {result : Regenerated}
    (h : regenerate protocol text = .ok (.annotated result)) :
    ∃ layout : Layout, layout.WellFormed protocol ∧ layout.lines = Text.lines text.toList ∧
      (layout.shown result.text .accessors = Region.renderAccessors result.states ↔
        layout.parameters.states = [] ∧ layout.diff.states = []) ∧
      (layout.shown result.text .parameters = Region.renderParameters result.props ↔
        layout.diff.props = []) ∧
      layout.shown result.text .diff = Region.renderDiff result.props ∧
      (layout.parameters.states = [] ∧ layout.diff.states = [] →
        ∀ state ∈ result.states, Region.accessor state <:+: layout.shown result.text .accessors) ∧
      (layout.diff.props = [] →
        ∀ prop ∈ result.props, prop.formalParam.toList <:+: layout.shown result.text .parameters) ∧
      ∀ prop ∈ result.props, Region.takeover prop <:+: layout.shown result.text .diff := by
  obtain ⟨layout, hlayout, hlines, rfl⟩ := regenerate_eq_annotated_iff.mp h
  have haccessors := Layout.shown_accessors_eq_iff hlayout hlines
  have hparameters := Layout.shown_parameters_eq_iff hlayout hlines
  have hdiff : layout.shown layout.result.text .diff = Region.renderDiff layout.props :=
    Layout.shown_result hlayout hlines .diff
  refine ⟨layout, hlayout, hlines, haccessors, hparameters, hdiff, ?_, ?_, ?_⟩
  · intro hearly state hstate
    rw [haccessors.mpr hearly]
    exact Region.infix_renderAccessors hstate
  · intro hearly prop hprop
    rw [hparameters.mpr hearly]
    exact Region.infix_renderParameters hprop
  · intro prop hprop
    rw [hdiff]
    exact Region.infix_renderDiff hprop

/-- A file with a prop between the first two regions. -/
def spreadLayout : Layout where
  header := "#\n".toList
  accessors :=
    ⟨[.state "S\n".toList "private State<int> hp\n".toList ⟨"int", "hp"⟩], "@\n".toList, "\n".toList⟩
  parameters :=
    ⟨[.prop "P\n".toList "private int x\n".toList ⟨"int", "x"⟩], "@\n".toList, "\n".toList⟩
  diff := ⟨[], "@\n".toList, "\n".toList⟩
  tail := []

theorem wellFormed_spreadLayout : spreadLayout.WellFormed sampleProtocol where
  header := (sampleProtocol.isHeader_iff _).mp (by decide +kernel)
  accessors := by
    refine ⟨?_, by decide⟩
    intro item hitem
    rw [List.mem_singleton.mp hitem]
    exact ⟨by decide, 0, by decide +kernel⟩
  parameters := by
    refine ⟨?_, by decide⟩
    intro item hitem
    rw [List.mem_singleton.mp hitem]
    exact ⟨by decide, 0, by decide +kernel⟩
  diff := ⟨nofun, by decide⟩

theorem regions_of_spreadLayout_show_all_fields :
    regenerate sampleProtocol "#\nS\nprivate State<int> hp\n@\n\nP\nprivate int x\n@\n\n@\n\n" =
        .ok (.annotated spreadLayout.result) ∧
      spreadLayout.shown spreadLayout.result.text .accessors =
        Region.renderAccessors [⟨"int", "hp"⟩] ∧
      spreadLayout.shown spreadLayout.result.text .parameters =
        Region.renderParameters [⟨"int", "x"⟩] ∧
      spreadLayout.shown spreadLayout.result.text .diff = Region.renderDiff [⟨"int", "x"⟩] := by
  have hcut : spreadLayout.lines =
      Text.lines "#\nS\nprivate State<int> hp\n@\n\nP\nprivate int x\n@\n\n@\n\n".toList := by
    decide +kernel
  have hpass := regenerate_eq_annotated_iff.mpr ⟨spreadLayout, wellFormed_spreadLayout, hcut, rfl⟩
  obtain ⟨layout, hlayout, hlines, haccessors, hparameters, hdiff, -⟩ :=
    regions_show_all_fields_iff hpass
  obtain rfl := Layout.eq_of_lines_eq wellFormed_spreadLayout hlayout (hcut.trans hlines.symm)
  exact ⟨hpass, haccessors.mpr ⟨rfl, rfl⟩, hparameters.mpr rfl, hdiff⟩

/-- A file with a state below the accessors and a prop below the parameters. -/
def lateText : String := "#\n@\n\nS\nprivate State<int> hp;\n@\n\nP\nprivate int x;\n@\n\n"

/-- What regenerating the file gives. -/
def lateResult : Regenerated where
  text :=
    "#\n@\n    // Don't delete this line. \nS\nprivate State<int> hp;\n" ++
      "@\n        // Don't delete this line. \nP\nprivate int x;\n" ++
      "@\n        if (x != x_) \x7b x = x_; need_react = true; \x7d \n"
  props := [⟨"int", "x"⟩]
  states := [⟨"int", "hp"⟩]
  advisories := []
  changed := true

/-- The state is reported and has no accessor; the prop is reported, and taken over from a parameter
that is not there. -/
theorem late_fields_missing_from_regions :
    regenerate sampleProtocol lateText = .ok (.annotated lateResult) ∧
      (Text.lines lateResult.text.toList)[2]? = some (Region.renderAccessors [] ++ ['\n']) ∧
      Region.renderAccessors [] ≠ Region.renderAccessors lateResult.states ∧
      (Text.lines lateResult.text.toList)[6]? = some (Region.renderParameters [] ++ ['\n']) ∧
      Region.renderParameters [] ≠ Region.renderParameters lateResult.props ∧
      (Text.lines lateResult.text.toList)[10]? =
        some (Region.renderDiff lateResult.props ++ ['\n']) := by
  decide +kernel

end RegionSync
