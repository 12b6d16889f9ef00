import RegionSync.Config
import RegionSync.Proofs.Acceptance
import RegionSync.Proofs.Declared

set_option autoImplicit false

/-! # Protocols that files can follow

For some fields there is a plainest annotated file (`Protocol.skeleton`): the header marker, the
fields, each below its attribute, and three times the generated marker with a line below it. Whether
regenerating accepts these files and finds the fields is a matter of how the markers are spelled. A
line is trimmed before it is compared, so a marker with a blank at one end is never met; no line holds
a line feed but at its end; byte order marks are taken off before the header marker is looked for; and
an attribute that starts with the generated marker is taken for it. `Protocol.Usable` says that none
of this happens, and `skeletons_accepted_iff_usable` that nothing else can go wrong with a
configuration that passes its check.
-/

namespace RegionSync

/-! ## What a check of the configuration guarantees -/

namespace Config

variable {config : Config}

/-- What a configuration that passes its check is known to have: room in the queue, no blank markers,
two attributes. -/
theorem check_eq_ok_iff :
    config.check = .ok () ↔
      config.worker.queueCapacity ≠ 0 ∧
        (∀ marker ∈ config.markers, Text.trim marker.2.toList ≠ []) ∧
        config.protocol.stateAttribute ≠ config.protocol.propAttribute := by
  unfold check
  by_cases hcapacity : config.worker.queueCapacity = 0
  · simp [hcapacity]
  rw [if_neg hcapacity]
  cases hfind : config.markers.find? fun marker => (Text.trim marker.2.toList).isEmpty with
  | some marker =>
      have hblank : (Text.trim marker.2.toList).isEmpty = true := by simpa using List.find?_some hfind
      have hmem := List.mem_of_find?_eq_some hfind
      simp only [reduceCtorEq, false_iff]
      exact fun h => h.2.1 marker hmem (List.isEmpty_iff.mp hblank)
  | none =>
      have hmarkers : ∀ marker ∈ config.markers, Text.trim marker.2.toList ≠ [] := by
        simpa using hfind
      by_cases hsame : config.protocol.stateAttribute = config.protocol.propAttribute
      · simp [hsame]
      · simp only [if_neg hsame, true_iff]
        exact ⟨hcapacity, hmarkers, hsame⟩

theorem marker_ne_nil (h : config.check = .ok ()) {marker : String}
    (hmem : marker ∈ config.markers.map Prod.snd) : marker.toList ≠ [] := by
  obtain ⟨named, hnamed, rfl⟩ := List.mem_map.mp hmem
  intro hnil
  refine (check_eq_ok_iff.mp h).2.1 named hnamed ?_
  rw [hnil]
  rfl

end Config

/-! ## Files made for a protocol -/

namespace Protocol

/-- The lines of a file below its first line, without their endings: the fields, then three times the
generated marker and any line. -/
def entries (protocol : Protocol) (fields : List Declared) (filling : Region → List Char) :
    List (List Char) :=
  fields.flatMap (Declared.chunks protocol) ++
    [Region.accessors, .parameters, .diff].flatMap fun region =>
      [protocol.generatedMarker.toList, filling region]

/-- The plainest file for some fields. -/
def skeleton (protocol : Protocol) (fields : List Declared) (filling : Region → List Char) : String :=
  String.ofList (Text.ended (protocol.headerMarker.toList :: protocol.entries fields filling))

/-- Whether a trimmed line can be equal to a marker: there is nothing to trim from it, and it holds no
line feed. -/
def IsTrimmedLine (marker : String) : Prop :=
  Text.trim marker.toList = marker.toList ∧ '\n' ∉ marker.toList

instance (marker : String) : Decidable (IsTrimmedLine marker) :=
  inferInstanceAs (Decidable (_ ∧ _))

/-- Whether lines can carry the markers of a protocol without being taken for something else. -/
@[mk_iff]
structure Usable (protocol : Protocol) : Prop where
  /-- A byte order mark would be taken off the line. -/
  mark : protocol.headerMarker.toList.head? ≠ some byteOrderMark
  /-- The first line ends at the first line feed. -/
  header : '\n' ∉ protocol.headerMarker.toList.dropLast
  generated : IsTrimmedLine protocol.generatedMarker
  state : IsTrimmedLine protocol.stateAttribute
  prop : IsTrimmedLine protocol.propAttribute
  /-- The generated marker is looked for first. -/
  stateApart : ¬ protocol.generatedMarker.toList <+: protocol.stateAttribute.toList
  propApart : ¬ protocol.generatedMarker.toList <+: protocol.propAttribute.toList

instance (protocol : Protocol) : Decidable protocol.Usable :=
  decidable_of_iff _ (usable_iff protocol).symm

variable {protocol : Protocol} {fields : List Declared} {filling : Region → List Char}

theorem cases_of_mem_entries {entry : List Char} (h : entry ∈ protocol.entries fields filling) :
    (∃ declared ∈ fields, entry = declared.attr protocol ∨ entry = declared.declaration) ∨
      entry = protocol.generatedMarker.toList ∨ ∃ region, entry = filling region := by
  rcases List.mem_append.mp h with hfield | hframe
  · obtain ⟨declared, hmem, hchunk⟩ := List.mem_flatMap.mp hfield
    exact Or.inl ⟨declared, hmem, List.mem_pair.mp hchunk⟩
  · obtain ⟨region, -, hpair⟩ := List.mem_flatMap.mp hframe
    rcases List.mem_pair.mp hpair with hmarker | hregion
    · exact Or.inr (Or.inl hmarker)
    · exact Or.inr (Or.inr ⟨region, hregion⟩)

/-- The lines hold no line feed, provided that the markers do not. -/
theorem not_mem_entries (hgenerated : '\n' ∉ protocol.generatedMarker.toList)
    (hattr : ∀ declared ∈ fields, '\n' ∉ declared.attr protocol)
    (hfields : ∀ declared ∈ fields, declared.WellFormed)
    (hfilling : ∀ region, '\n' ∉ filling region) :
    ∀ entry ∈ protocol.entries fields filling, '\n' ∉ entry := by
  intro entry hentry
  rcases cases_of_mem_entries hentry with ⟨declared, hmem, rfl | rfl⟩ | rfl | ⟨region, rfl⟩
  · exact hattr declared hmem
  · exact Declared.not_mem_declaration (hfields declared hmem)
  · exact hgenerated
  · exact hfilling region

/-- A header marker may hold a line feed at its end: then a blank line follows the first line. -/
theorem exists_first_line {marker : List Char} (h : '\n' ∉ marker.dropLast) :
    ∃ first gap, '\n' ∉ first ∧ marker <+: first ++ ['\n'] ∧
      marker ++ ['\n'] = Text.ended (first :: List.replicate gap []) := by
  rcases List.eq_nil_or_concat' marker with rfl | ⟨front, c, rfl⟩
  · exact ⟨[], 0, by simp, List.nil_prefix, by simp⟩
  · rw [List.dropLast_concat] at h
    by_cases hc : c = '\n'
    · subst hc
      exact ⟨front, 1, h, List.prefix_rfl, by simp⟩
    · refine ⟨front ++ [c], 0, ?_, List.prefix_append _ _, by simp⟩
      simp [h, Ne.symm hc]

theorem lines_skeleton (hheader : '\n' ∉ protocol.headerMarker.toList.dropLast)
    (hentries : ∀ entry ∈ protocol.entries fields filling, '\n' ∉ entry) :
    ∃ first gap, protocol.headerMarker.toList <+: first ++ ['\n'] ∧
      Text.lines (protocol.skeleton fields filling).toList =
        (first :: (List.replicate gap [] ++ protocol.entries fields filling)).map (· ++ ['\n']) := by
  obtain ⟨first, gap, hfirst, hcarried, hline⟩ := exists_first_line hheader
  refine ⟨first, gap, hcarried, ?_⟩
  have htext : (protocol.skeleton fields filling).toList =
      Text.ended (first :: (List.replicate gap [] ++ protocol.entries fields filling)) := by
    rw [skeleton, String.toList_ofList, Text.ended_cons, hline, ← Text.ended_append, List.cons_append]
  rw [htext, Text.lines_ended]
  simp only [List.forall_mem_cons, List.forall_mem_append]
  refine ⟨hfirst, fun blank hblank => ?_, hentries⟩
  rw [List.eq_of_mem_replicate hblank]
  exact List.not_mem_nil

/-- The layout of such a file. -/
def skeletonLayout (protocol : Protocol) (first : List Char) (gap : Nat) (fields : List Declared)
    (filling : Region → List Char) : Layout where
  header := first ++ ['\n']
  accessors :=
    ⟨List.replicate gap (.plain ['\n']) ++ fields.map (Declared.item protocol),
      protocol.generatedMarker.toList ++ ['\n'], filling .accessors ++ ['\n']⟩
  parameters := ⟨[], protocol.generatedMarker.toList ++ ['\n'], filling .parameters ++ ['\n']⟩
  diff := ⟨[], protocol.generatedMarker.toList ++ ['\n'], filling .diff ++ ['\n']⟩
  tail := []

theorem lines_skeletonLayout (first : List Char) (gap : Nat) :
    (protocol.skeletonLayout first gap fields filling).lines =
      (first :: (List.replicate gap [] ++ protocol.entries fields filling)).map (· ++ ['\n']) := by
  have hgap : (List.replicate gap (Item.plain ['\n'])).flatMap Item.lines =
      List.replicate gap ['\n'] := by
    simp [List.flatMap_replicate, Item.lines]
  have hfields : (fields.map (Declared.item protocol)).flatMap Item.lines =
      (fields.flatMap (Declared.chunks protocol)).map (· ++ ['\n']) := by
    rw [List.flatMap_map, List.map_flatMap]
    exact List.flatMap_congr fun declared _ => declared.lines_item protocol
  simp [skeletonLayout, Layout.lines, Block.lines, entries, hgap, hfields]

/-! ## Usable protocols -/

theorem trim_ended {marker : String} (h : IsTrimmedLine marker) :
    Text.trim (marker.toList ++ ['\n']) = marker.toList := by
  rw [Text.trim_append_blank _ (by decide), h.1]

theorem Usable.lineKind_generated (h : protocol.Usable) :
    protocol.lineKind (protocol.generatedMarker.toList ++ ['\n']) = .marker := by
  rw [lineKind, trim_ended h.generated, if_pos List.prefix_rfl]

theorem Usable.lineKind_attr (h : protocol.Usable)
    (hne : protocol.stateAttribute ≠ protocol.propAttribute) (declared : Declared) :
    protocol.lineKind (declared.attr protocol ++ ['\n']) = (declared.item protocol).kind := by
  cases declared with
  | state field =>
      rw [Declared.attr, lineKind, trim_ended h.state, if_neg h.stateApart, if_pos rfl]
      rfl
  | prop field =>
      have hother : protocol.propAttribute.toList ≠ protocol.stateAttribute.toList :=
        fun hsame => hne (String.toList_inj.mp hsame.symm)
      rw [Declared.attr, lineKind, trim_ended h.prop, if_neg h.propApart, if_neg hother, if_pos rfl]
      rfl

theorem Usable.not_mem_attr (h : protocol.Usable) (declared : Declared) :
    '\n' ∉ declared.attr protocol := by
  cases declared with
  | state field => exact h.state.2
  | prop field => exact h.prop.2

theorem lineKind_blank {config : Config} (hcheck : config.check = .ok ()) :
    config.protocol.lineKind ['\n'] = .plain := by
  have htrim : Text.trim ['\n'] = [] := by decide
  have hgenerated : ¬ config.protocol.generatedMarker.toList <+: [] := fun h =>
    Config.marker_ne_nil hcheck (by simp [Config.markers]) (List.prefix_nil.mp h)
  have hstate : [] ≠ config.protocol.stateAttribute.toList := fun h =>
    Config.marker_ne_nil hcheck (by simp [Config.markers]) h.symm
  have hprop : [] ≠ config.protocol.propAttribute.toList := fun h =>
    Config.marker_ne_nil hcheck (by simp [Config.markers]) h.symm
  rw [lineKind, htrim, if_neg hgenerated, if_neg hstate, if_neg hprop]

theorem Usable.carriesHeader (h : protocol.Usable) {line : List Char}
    (hcarried : protocol.headerMarker.toList <+: line) : protocol.CarriesHeader line := by
  unfold CarriesHeader
  cases hmarker : protocol.headerMarker.toList with
  | nil => exact List.nil_prefix
  | cons c rest =>
      have hmark : c ≠ byteOrderMark := fun hc => h.mark (by rw [hmarker, hc]; rfl)
      rw [hmarker] at hcarried
      obtain ⟨more, rfl⟩ := hcarried
      rw [List.cons_append, List.dropWhile_cons_of_neg (by simpa using hmark), ← List.cons_append]
      exact List.prefix_append _ _

theorem Usable.wellFormed_skeletonLayout {config : Config} (h : config.protocol.Usable)
    (hcheck : config.check = .ok ()) (hfields : ∀ declared ∈ fields, declared.WellFormed)
    {first : List Char} (hcarried : config.protocol.headerMarker.toList <+: first ++ ['\n'])
    (gap : Nat) :
    (config.protocol.skeletonLayout first gap fields filling).WellFormed config.protocol where
  header := h.carriesHeader hcarried
  accessors := by
    refine ⟨fun item hitem => ?_, h.lineKind_generated⟩
    rcases List.mem_append.mp hitem with hgap | hfield
    · rw [List.eq_of_mem_replicate hgap]
      exact lineKind_blank hcheck
    · obtain ⟨declared, hmem, rfl⟩ := List.mem_map.mp hfield
      exact Declared.wellFormed_item (hfields declared hmem)
        (h.lineKind_attr (Config.check_eq_ok_iff.mp hcheck).2.2 declared)
  parameters := ⟨nofun, h.lineKind_generated⟩
  diff := ⟨nofun, h.lineKind_generated⟩

/-- Blank lines declare nothing, so what the items declare is what the fields are. -/
theorem flatMap_items_skeletonLayout {α : Type} {part : Item → List α} {parts : Declared → List α}
    (hblank : part (.plain ['\n']) = [])
    (hfield : ∀ declared : Declared, part (declared.item protocol) = parts declared)
    (first : List Char) (gap : Nat) :
    (protocol.skeletonLayout first gap fields filling).accessors.items.flatMap part =
      fields.flatMap parts := by
  simp [skeletonLayout, List.flatMap_replicate, List.flatMap_map, hblank, hfield]

theorem states_skeletonLayout (first : List Char) (gap : Nat) :
    (protocol.skeletonLayout first gap fields filling).states = fields.flatMap Declared.states := by
  rw [Layout.states, Block.states,
    flatMap_items_skeletonLayout rfl fun declared => declared.states_item protocol]
  simp [skeletonLayout, Block.states]

theorem props_skeletonLayout (first : List Char) (gap : Nat) :
    (protocol.skeletonLayout first gap fields filling).props = fields.flatMap Declared.props := by
  rw [Layout.props, Block.props,
    flatMap_items_skeletonLayout rfl fun declared => declared.props_item protocol]
  simp [skeletonLayout, Block.props]

/-- A usable protocol accepts the files that are made for it, and finds their fields. -/
theorem Usable.regenerate_skeleton {config : Config} (h : config.protocol.Usable)
    (hcheck : config.check = .ok ()) (hfields : ∀ declared ∈ fields, declared.WellFormed)
    (hfilling : ∀ region, '\n' ∉ filling region) :
    ∃ result,
      regenerate config.protocol (config.protocol.skeleton fields filling) = .ok (.annotated result) ∧
        result.props = fields.flatMap Declared.props ∧
        result.states = fields.flatMap Declared.states := by
  have hentries := not_mem_entries h.generated.2 (fun declared _ => h.not_mem_attr declared) hfields
    hfilling
  obtain ⟨first, gap, hcarried, hlines⟩ := lines_skeleton h.header hentries
  refine ⟨_, regenerate_eq_annotated_iff.mpr ⟨config.protocol.skeletonLayout first gap fields filling,
    h.wellFormed_skeletonLayout hcheck hfields hcarried gap, ?_, rfl⟩, ?_, ?_⟩
  · rw [lines_skeletonLayout, hlines]
  · exact props_skeletonLayout first gap
  · exact states_skeletonLayout first gap

/-! ## Protocols whose files are accepted -/

theorem CarriesHeader.head?_ne {line : List Char} (h : protocol.CarriesHeader line) :
    protocol.headerMarker.toList.head? ≠ some byteOrderMark := by
  intro hmark
  obtain ⟨rest, hrest⟩ := List.head?_eq_some_iff.mp hmark
  obtain ⟨more, hmore⟩ := h
  have hfirst := List.head?_dropWhile_not (· == byteOrderMark) line
  rw [← hmore, hrest] at hfirst
  simp at hfirst

theorem CarriesHeader.not_mem_dropLast {line : List Char} (h : protocol.CarriesHeader line)
    (hline : Text.IsLine line) : '\n' ∉ protocol.headerMarker.toList.dropLast := by
  intro hc
  obtain ⟨before, after, hparts⟩ := h.isInfix.trans (List.dropWhile_suffix _).isInfix
  apply hline.not_mem_dropLast
  -- the last character of the marker stands behind the line feed, in the line too
  rcases List.eq_nil_or_concat' protocol.headerMarker.toList with hnil | ⟨front, c, hfront⟩
  · rw [hnil] at hc
    cases hc
  · rw [hfront, List.dropLast_concat] at hc
    rw [← hparts, hfront, ← List.append_assoc before, List.append_assoc _ [c],
      List.dropLast_append_of_ne_nil (by simp)]
    simp [hc]

theorem isTrimmedLine_of_trim_eq {marker : String} {line : List Char} (h : Text.IsLine line)
    (htrim : Text.trim line = marker.toList) : IsTrimmedLine marker := by
  rw [IsTrimmedLine, ← htrim]
  exact ⟨Text.trim_trim line, h.not_mem_trim⟩

/-- The attribute that announces a kind of field. -/
def attributeFor (protocol : Protocol) : FieldKind → String
  | .state => protocol.stateAttribute
  | .prop => protocol.propAttribute

/-- An attribute that some line is taken for does not start with the generated marker. -/
theorem attribute_of_lineKind {line : List Char} {kind : FieldKind} (hline : Text.IsLine line)
    (h : protocol.lineKind line = .attributeOf kind) :
    IsTrimmedLine (protocol.attributeFor kind) ∧
      ¬ protocol.generatedMarker.toList <+: (protocol.attributeFor kind).toList := by
  unfold lineKind at h
  split_ifs at h with hgenerated hstate hprop
  · cases h
    exact ⟨isTrimmedLine_of_trim_eq hline hstate, hstate ▸ hgenerated⟩
  · cases h
    exact ⟨isTrimmedLine_of_trim_eq hline hprop, hprop ▸ hgenerated⟩

theorem prefix_of_lineKind {line : List Char} (h : protocol.lineKind line = .marker) :
    protocol.generatedMarker.toList <+: Text.trim line := by
  by_contra hnot
  rw [lineKind, if_neg hnot] at h
  split_ifs at h

end Protocol

theorem Item.kind_of_mem_states (item : Item) (field : StateField) (h : field ∈ item.states) :
    item.kind = .attributeOf .state := by
  cases item with
  | plain line => cases h
  | state attr decl field => rfl
  | prop attr decl field => cases h

theorem Item.kind_of_mem_props (item : Item) (field : PropField) (h : field ∈ item.props) :
    item.kind = .attributeOf .prop := by
  cases item with
  | plain line => cases h
  | state attr decl field => cases h
  | prop attr decl field => rfl

namespace Layout

variable {protocol : Protocol} {layout : Layout} {text : List Char}

theorem isLine_of_mem_block (hlines : layout.lines = Text.lines text) {region : Region}
    {line : List Char} (h : line ∈ (layout.block region).lines) : Text.IsLine line := by
  have hmem : line ∈ layout.lines := by
    refine List.mem_cons_of_mem _ ?_
    cases region with
    | accessors => exact List.mem_append_left _ h
    | parameters => exact List.mem_append_right _ (List.mem_append_left _ h)
    | diff => exact List.mem_append_right _ (List.mem_append_right _ (List.mem_append_left _ h))
  exact (Text.areLines_lines text).isLine (hlines ▸ hmem)

/-- A declared field shows that the attribute of its kind can be met. -/
theorem attribute_of_mem {α : Type} (h : layout.WellFormed protocol)
    (hlines : layout.lines = Text.lines text) (part : Item → List α) (kind : FieldKind)
    (hkind : ∀ item x, x ∈ part item → item.kind = .attributeOf kind) {x : α}
    (hx : x ∈ layout.upTo (fun block => block.items.flatMap part) .diff) :
    Protocol.IsTrimmedLine (protocol.attributeFor kind) ∧
      ¬ protocol.generatedMarker.toList <+: (protocol.attributeFor kind).toList := by
  obtain ⟨region, hmem⟩ := exists_mem_of_mem_upTo hx
  obtain ⟨item, hitem, hpart⟩ := List.mem_flatMap.mp hmem
  obtain ⟨line, rest, hfirst, hline⟩ := Item.exists_lines_eq_cons ((h.block region).1 item hitem)
  have hfound : line ∈ (layout.block region).items.flatMap Item.lines :=
    List.mem_flatMap.mpr ⟨item, hitem, by rw [hfirst]; exact List.mem_cons_self⟩
  exact Protocol.attribute_of_lineKind
    (isLine_of_mem_block hlines (List.mem_append_left _ hfound)) (hline.trans (hkind item x hpart))

theorem header_of_lines (h : layout.WellFormed protocol) (hlines : layout.lines = Text.lines text) :
    protocol.headerMarker.toList.head? ≠ some byteOrderMark ∧
      '\n' ∉ protocol.headerMarker.toList.dropLast := by
  have hmem : layout.header ∈ layout.lines := List.mem_cons_self
  have hline := (Text.areLines_lines text).isLine (hlines ▸ hmem)
  exact ⟨h.header.head?_ne, h.header.not_mem_dropLast hline⟩

end Layout

/-- If a file without fields and with empty regions is accepted, the generated marker can be met. -/
theorem Protocol.isTrimmedLine_generatedMarker {protocol : Protocol}
    (hne : protocol.generatedMarker.toList ≠ []) {layout : Layout} (h : layout.WellFormed protocol)
    (hlines : layout.lines = Text.lines (protocol.skeleton [] fun _ => []).toList) :
    IsTrimmedLine protocol.generatedMarker := by
  have hmarker := prefix_of_lineKind h.accessors.2
  have hmem : layout.accessors.marker ∈ layout.accessors.lines := by simp [Block.lines]
  have hline := Layout.isLine_of_mem_block hlines (show _ ∈ (layout.block .accessors).lines from hmem)
  have hfeed : '\n' ∉ protocol.generatedMarker.toList := fun hc => hline.not_mem_trim (hmarker.mem hc)
  refine ⟨?_, hfeed⟩
  -- the lines below the first are blank, or hold the marker and nothing else
  have hentries : ∀ entry ∈ protocol.entries [] fun _ => [], '\n' ∉ entry :=
    not_mem_entries hfeed (List.forall_mem_nil _) (List.forall_mem_nil _) fun _ => List.not_mem_nil
  obtain ⟨first, gap, -, hcut⟩ := lines_skeleton (Layout.header_of_lines h hlines).2 hentries
  have hbelow := (List.cons.inj (hlines.trans hcut)).2
  obtain ⟨entry, hentry, hsame⟩ := List.mem_map.mp (hbelow ▸ List.mem_append_left _ hmem)
  have hcases : entry = [] ∨ entry = protocol.generatedMarker.toList := by
    rcases List.mem_append.mp hentry with hblank | hentry
    · exact Or.inl (List.eq_of_mem_replicate hblank)
    · rcases cases_of_mem_entries hentry with ⟨_, hnone, _⟩ | hmarker | ⟨_, hempty⟩
      · cases hnone
      · exact Or.inr hmarker
      · exact Or.inl hempty
  rw [← hsame, Text.trim_append_blank _ (by decide)] at hmarker
  rcases hcases with rfl | rfl
  · exact absurd (List.prefix_nil.mp hmarker) hne
  · exact (Text.isInfix_trim _).eq_of_length
      (Nat.le_antisymm (Text.isInfix_trim _).length_le hmarker.length_le)

/-- **Which protocols work.** For every configuration that passes its check, the following are
equivalent:

* for any fields in any order, with any lines for the regions, regenerating accepts the plainest file
  that declares the fields, and reports exactly these fields in their order;
* the protocol is usable: the header marker does not start with a byte order mark and holds no line
  feed but at its end, the three other markers have no blank characters around them and no line
  feed in them, and neither attribute starts with the generated marker. -/
theorem skeletons_accepted_iff_usable {config : Config} (hcheck : config.check = .ok ()) :
    (∀ (fields : List Declared) (filling : Region → List Char),
        (∀ declared ∈ fields, declared.WellFormed) → (∀ region, '\n' ∉ filling region) →
        ∃ result,
          regenerate config.protocol (config.protocol.skeleton fields filling) =
              .ok (.annotated result) ∧
            result.props = fields.flatMap Declared.props ∧
            result.states = fields.flatMap Declared.states) ↔
      config.protocol.Usable := by
  constructor
  · intro haccepts
    have haccepted (fields : List Declared) (hfields : ∀ declared ∈ fields, declared.WellFormed) :
        ∃ layout : Layout, layout.WellFormed config.protocol ∧
          layout.lines = Text.lines (config.protocol.skeleton fields fun _ => []).toList ∧
          layout.props = fields.flatMap Declared.props ∧
          layout.states = fields.flatMap Declared.states := by
      obtain ⟨result, hpass, hprops, hstates⟩ :=
        haccepts fields (fun _ => []) hfields fun _ => List.not_mem_nil
      obtain ⟨layout, hlayout, hlines, rfl⟩ := regenerate_eq_annotated_iff.mp hpass
      exact ⟨layout, hlayout, hlines, hprops, hstates⟩
    have hpart : Declared.IsPart "x".toList := by decide
    have hstate : (Declared.state ⟨"x", "x"⟩).WellFormed := ⟨hpart, hpart⟩
    have hprop : (Declared.prop ⟨"x", "x"⟩).WellFormed := ⟨hpart, hpart⟩
    -- no field shows the header and the generated marker, one field shows its attribute
    obtain ⟨bare, hbare, hbareLines, -⟩ := haccepted [] (List.forall_mem_nil _)
    obtain ⟨stated, hstated, hstatedLines, -, hstates⟩ :=
      haccepted [.state ⟨"x", "x"⟩] (List.forall_mem_singleton.mpr hstate)
    obtain ⟨propped, hpropped, hproppedLines, hprops, -⟩ :=
      haccepted [.prop ⟨"x", "x"⟩] (List.forall_mem_singleton.mpr hprop)
    have hstateMem : ⟨"x", "x"⟩ ∈ stated.states := by simp [hstates, Declared.states]
    have hpropMem : ⟨"x", "x"⟩ ∈ propped.props := by simp [hprops, Declared.props]
    obtain ⟨hmark, hheader⟩ := Layout.header_of_lines hbare hbareLines
    have hgenerated := Protocol.isTrimmedLine_generatedMarker
      (Config.marker_ne_nil hcheck (by simp [Config.markers])) hbare hbareLines
    obtain ⟨hstateLine, hstateApart⟩ :=
      Layout.attribute_of_mem hstated hstatedLines Item.states .state Item.kind_of_mem_states hstateMem
    obtain ⟨hpropLine, hpropApart⟩ :=
      Layout.attribute_of_mem hpropped hproppedLines Item.props .prop Item.kind_of_mem_props hpropMem
    exact ⟨hmark, hheader, hgenerated, hstateLine, hpropLine, hstateApart, hpropApart⟩
  · intro husable fields filling hfields hfilling
    exact husable.regenerate_skeleton hcheck hfields hfilling

theorem default_config_accepts_skeletons :
    Config.check {} = .ok () ∧
      ∀ (fields : List Declared) (filling : Region → List Char),
        (∀ declared ∈ fields, declared.WellFormed) → (∀ region, '\n' ∉ filling region) →
        ∃ result,
          regenerate (Config.protocol {}) ((Config.protocol {}).skeleton fields filling) =
              .ok (.annotated result) ∧
            result.props = fields.flatMap Declared.props ∧
            result.states = fields.flatMap Declared.states := by
  have hcheck : Config.check {} = .ok () := by decide
  have husable : (Config.protocol {}).Usable := by decide
  exact ⟨hcheck, (skeletons_accepted_iff_usable hcheck).mpr husable⟩

/-- A configuration with a blank at the end of an attribute. -/
def spacedConfig : Config where
  protocol :=
    { headerMarker := "#", generatedMarker := "@", stateAttribute := "S", propAttribute := "P " }

/-- What regenerating a file with one prop gives: the attribute is not met. -/
def spacedResult : Regenerated where
  text :=
    "#\nP \nprivate int x;\n@\n    // Don't delete this line. \n" ++
      "@\n        // Don't delete this line. \n@\n        // Don't delete this line. \n"
  props := []
  states := []
  advisories := []
  changed := true

/-- The configuration passes its check, and the prop that the file declares is not found. -/
theorem prop_below_spaced_attribute_is_missed :
    spacedConfig.check = .ok () ∧ (Declared.prop ⟨"int", "x"⟩).WellFormed ∧
      regenerate spacedConfig.protocol
          (spacedConfig.protocol.skeleton [.prop ⟨"int", "x"⟩] fun _ => []) =
        .ok (.annotated spacedResult) ∧
      spacedResult.props ≠ [.prop ⟨"int", "x"⟩].flatMap Declared.props := by
  exact ⟨by decide, ⟨by decide, by decide⟩, by decide +kernel, by decide⟩

end RegionSync
