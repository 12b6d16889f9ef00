import RegionSync.Regenerate
import RegionSync.Proofs.Fields

set_option autoImplicit false

/-! # The layout of an annotated file

The grammar of annotated files, without reference to the pass that reads them. An annotated file
is a header line, three blocks and a tail. A *block* is a sequence of items, a marker line and the
line of a region. An *item* is a plain line, or an attribute line together with the line after it,
which declares a field. Whether a line is a marker, an attribute or plain is a matter of its own
text (`Protocol.lineKind`), and is asked only where an item or a marker may start: the line after
an attribute, the lines of the regions and the tail may look like anything.

A file has at most one layout (`Layout.eq_of_lines_eq`), because an item and a marker never start
with the same line.
-/

namespace RegionSync

/-! ## Kinds of lines -/

/-- What a line can be where an item or a marker may start. -/
inductive LineKind where
  | marker
  | attributeOf (kind : FieldKind)
  | plain
deriving DecidableEq

namespace Protocol

/-- The kind of a line, by its trimmed text. The markers may overlap: a line that starts with the
generated marker is a marker line even if it equals an attribute, and the attribute of states
comes before the attribute of props. -/
def lineKind (protocol : Protocol) (line : List Char) : LineKind :=
  if protocol.generatedMarker.toList <+: Text.trim line then .marker
  else if Text.trim line = protocol.stateAttribute.toList then .attributeOf .state
  else if Text.trim line = protocol.propAttribute.toList then .attributeOf .prop
  else .plain

/-- Whether a line starts with the header marker once all leading byte order marks are removed. -/
def CarriesHeader (protocol : Protocol) (line : List Char) : Prop :=
  protocol.headerMarker.toList <+: line.dropWhile (· == byteOrderMark)

theorem isHeader_iff (protocol : Protocol) (line : List Char) :
    protocol.isHeader line = true ↔ protocol.CarriesHeader line :=
  List.isPrefixOf_iff_prefix

end Protocol

/-! ## Items -/

/-- A piece of a file above a marker line. -/
inductive Item where
  | plain (line : List Char)
  | state (attr decl : List Char) (field : StateField)
  | prop (attr decl : List Char) (field : PropField)
deriving DecidableEq

namespace Item

/-- The lines of an item. -/
def lines : Item → List (List Char)
  | plain line => [line]
  | state attr decl _ => [attr, decl]
  | prop attr decl _ => [attr, decl]

/-- The kind of the first line of an item. -/
def kind : Item → LineKind
  | plain _ => .plain
  | state _ _ _ => .attributeOf .state
  | prop _ _ _ => .attributeOf .prop

/-- The states that an item declares. -/
def states : Item → List StateField
  | state _ _ field => [field]
  | _ => []

/-- The props that an item declares. -/
def props : Item → List PropField
  | prop _ _ field => [field]
  | _ => []

/-- The advisories on an item whose first line has the number `number`. -/
def advisories (number : Nat) : Item → List Advisory
  | prop _ _ field => (Advisory.check (number + 1) field).toList
  | _ => []

/-- An item is well-formed when its first line has the kind it should have and a declaration reads
as its field. Nothing else is asked of the line with the declaration. -/
def WellFormed (protocol : Protocol) : Item → Prop
  | plain line => protocol.lineKind line = .plain
  | state attr decl field =>
    protocol.lineKind attr = .attributeOf .state ∧
      ∃ number, Declaration.readState number (Text.trim decl) = .ok field
  | prop attr decl field =>
    protocol.lineKind attr = .attributeOf .prop ∧
      ∃ number, Declaration.readProp number (Text.trim decl) = .ok field

/-- The advisories on a sequence of items, the first line of which has the number `number`. -/
def advisoriesFrom : Nat → List Item → List Advisory
  | _, [] => []
  | number, item :: rest => item.advisories number ++ advisoriesFrom (number + item.lines.length) rest

end Item

/-! ## Blocks and layouts -/

/-- A region with what stands above it. -/
structure Block where
  items : List Item
  /-- The marker line. -/
  marker : List Char
  /-- The line of the region. -/
  region : List Char
deriving DecidableEq

namespace Block

/-- The lines of a block. -/
def lines (block : Block) : List (List Char) :=
  block.items.flatMap Item.lines ++ [block.marker, block.region]

/-- The states that a block declares. -/
def states (block : Block) : List StateField := block.items.flatMap Item.states

/-- The props that a block declares. -/
def props (block : Block) : List PropField := block.items.flatMap Item.props

/-- The block with another line for its region. -/
def replace (block : Block) (line : List Char) : Block := { block with region := line }

/-- A block is well-formed when its items are and its marker is a marker line. -/
def WellFormed (protocol : Protocol) (block : Block) : Prop :=
  (∀ item ∈ block.items, item.WellFormed protocol) ∧ protocol.lineKind block.marker = .marker

end Block

/-- The parts of an annotated file. -/
structure Layout where
  /-- The first line. -/
  header : List Char
  accessors : Block
  parameters : Block
  diff : Block
  /-- The lines after the last region. -/
  tail : List (List Char)
deriving DecidableEq

namespace Layout

/-- The lines of the file. -/
def lines (layout : Layout) : List (List Char) :=
  layout.header :: (layout.accessors.lines ++
    (layout.parameters.lines ++ (layout.diff.lines ++ layout.tail)))

/-- The states that the file declares, in file order. -/
def states (layout : Layout) : List StateField :=
  layout.accessors.states ++ layout.parameters.states ++ layout.diff.states

/-- The props that the file declares, in file order. -/
def props (layout : Layout) : List PropField :=
  layout.accessors.props ++ layout.parameters.props ++ layout.diff.props

/-- What the blocks down to a region hold, in file order. -/
def upTo {α : Type} (layout : Layout) (part : Block → List α) : Region → List α
  | .accessors => part layout.accessors
  | .parameters => part layout.accessors ++ part layout.parameters
  | .diff => part layout.accessors ++ part layout.parameters ++ part layout.diff

/-- The states declared above the line of a region. -/
def statesAbove (layout : Layout) (region : Region) : List StateField :=
  layout.upTo Block.states region

/-- The props declared above the line of a region. -/
def propsAbove (layout : Layout) (region : Region) : List PropField :=
  layout.upTo Block.props region

/-- The advisories on the props of the file. Its first block starts on line 2. -/
def advisories (layout : Layout) : List Advisory :=
  Item.advisoriesFrom 2 layout.accessors.items ++
    Item.advisoriesFrom (2 + layout.accessors.lines.length) layout.parameters.items ++
    Item.advisoriesFrom (2 + layout.accessors.lines.length + layout.parameters.lines.length)
      layout.diff.items

/-- The block of a region. -/
def block (layout : Layout) : Region → Block
  | .accessors => layout.accessors
  | .parameters => layout.parameters
  | .diff => layout.diff

/-- The layout with another line for a region. -/
def replace (layout : Layout) (region : Region) (line : List Char) : Layout :=
  match region with
  | .accessors => { layout with accessors := layout.accessors.replace line }
  | .parameters => { layout with parameters := layout.parameters.replace line }
  | .diff => { layout with diff := layout.diff.replace line }

/-- The text of a region that is up to date with the fields declared above it. -/
def renewedBody (layout : Layout) (region : Region) : List Char :=
  region.render (layout.statesAbove region) (layout.propsAbove region)

/-- The line of a region brought up to date; it keeps its ending. -/
def renewedLine (layout : Layout) (region : Region) : List Char :=
  layout.renewedBody region ++ Text.ending (layout.block region).region

/-- The layout with every region brought up to date. -/
def renew (layout : Layout) : Layout :=
  ((layout.replace .accessors (layout.renewedLine .accessors)).replace .parameters
    (layout.renewedLine .parameters)).replace .diff (layout.renewedLine .diff)

/-- What regenerating the file gives. -/
def result (layout : Layout) : Regenerated :=
  { text := String.ofList layout.renew.lines.flatten
    props := layout.props
    states := layout.states
    advisories := layout.advisories
    changed := decide (layout.renew.lines ≠ layout.lines) }

/-- A layout is well-formed when its first line carries the header and its blocks are well-formed. -/
structure WellFormed (protocol : Protocol) (layout : Layout) : Prop where
  header : protocol.CarriesHeader layout.header
  accessors : layout.accessors.WellFormed protocol
  parameters : layout.parameters.WellFormed protocol
  diff : layout.diff.WellFormed protocol

theorem WellFormed.block {protocol : Protocol} {layout : Layout} (h : layout.WellFormed protocol)
    (region : Region) : (layout.block region).WellFormed protocol := by
  cases region with
  | accessors => exact h.accessors
  | parameters => exact h.parameters
  | diff => exact h.diff

theorem exists_mem_of_mem_upTo {α : Type} {layout : Layout} {part : Block → List α}
    {region : Region} {x : α} (h : x ∈ layout.upTo part region) :
    ∃ other, x ∈ part (layout.block other) := by
  cases region with
  | accessors => exact ⟨.accessors, h⟩
  | parameters =>
      rcases List.mem_append.mp h with h | h
      · exact ⟨.accessors, h⟩
      · exact ⟨.parameters, h⟩
  | diff =>
      rcases List.mem_append.mp h with h | h
      · rcases List.mem_append.mp h with h | h
        · exact ⟨.accessors, h⟩
        · exact ⟨.parameters, h⟩
      · exact ⟨.diff, h⟩

/-- Renewing changes no line but those of the regions. -/
theorem renew_lines_eq_iff (layout : Layout) :
    layout.renew.lines = layout.lines ↔
      layout.renewedLine .accessors = layout.accessors.region ∧
        layout.renewedLine .parameters = layout.parameters.region ∧
        layout.renewedLine .diff = layout.diff.region := by
  simp [lines, renew, replace, Block.lines, Block.replace]

end Layout

/-! ## A file has one layout -/

theorem Item.exists_lines_eq_cons {protocol : Protocol} {item : Item}
    (h : item.WellFormed protocol) :
    ∃ first rest, item.lines = first :: rest ∧ protocol.lineKind first = item.kind := by
  cases item with
  | plain line => exact ⟨line, [], rfl, h⟩
  | state attr decl field => exact ⟨attr, [decl], rfl, h.1⟩
  | prop attr decl field => exact ⟨attr, [decl], rfl, h.1⟩

theorem Item.kind_ne_marker (item : Item) : item.kind ≠ .marker := by
  cases item <;> simp [kind]

/-- An item and a marker line never start the same lines. -/
theorem Item.lines_append_ne {protocol : Protocol} {item : Item} (h : item.WellFormed protocol)
    {marker : List Char} (hmarker : protocol.lineKind marker = .marker)
    (rest after : List (List Char)) : item.lines ++ rest ≠ marker :: after := by
  obtain ⟨first, more, hlines, hkind⟩ := exists_lines_eq_cons h
  rw [hlines, List.cons_append]
  intro heq
  obtain ⟨rfl, -⟩ := List.cons.inj heq
  exact item.kind_ne_marker (hkind.symm.trans hmarker)

/-- Two items at the front of the same lines are the same item: the kind of the first line says
whether there is a second one and how it is read. -/
theorem Item.eq_of_lines_append_eq {protocol : Protocol} {first second : Item}
    (h₁ : first.WellFormed protocol) (h₂ : second.WellFormed protocol)
    {rest₁ rest₂ : List (List Char)} (h : first.lines ++ rest₁ = second.lines ++ rest₂) :
    first = second ∧ rest₁ = rest₂ := by
  have hkind : first.kind = second.kind := by
    obtain ⟨line₁, more₁, hlines₁, hkind₁⟩ := exists_lines_eq_cons h₁
    obtain ⟨line₂, more₂, hlines₂, hkind₂⟩ := exists_lines_eq_cons h₂
    rw [hlines₁, hlines₂, List.cons_append, List.cons_append] at h
    rw [← hkind₁, ← hkind₂, (List.cons.inj h).1]
  cases first with
  | plain line₁ =>
      cases second with
      | plain line₂ =>
          obtain ⟨rfl, hrest⟩ := List.cons.inj h
          exact ⟨rfl, hrest⟩
      | state attr₂ decl₂ field₂ => cases hkind
      | prop attr₂ decl₂ field₂ => cases hkind
  | state attr₁ decl₁ field₁ =>
      cases second with
      | plain line₂ => cases hkind
      | state attr₂ decl₂ field₂ =>
          obtain ⟨-, number₁, hread₁⟩ := h₁
          obtain ⟨-, number₂, hread₂⟩ := h₂
          obtain ⟨rfl, hmore⟩ := List.cons.inj h
          obtain ⟨rfl, hrest⟩ := List.cons.inj hmore
          have hfield := Except.ok.inj
            ((Declaration.readState_number hread₁ number₂).symm.trans hread₂)
          exact ⟨by rw [hfield], hrest⟩
      | prop attr₂ decl₂ field₂ => cases hkind
  | prop attr₁ decl₁ field₁ =>
      cases second with
      | plain line₂ => cases hkind
      | state attr₂ decl₂ field₂ => cases hkind
      | prop attr₂ decl₂ field₂ =>
          obtain ⟨-, number₁, hread₁⟩ := h₁
          obtain ⟨-, number₂, hread₂⟩ := h₂
          obtain ⟨rfl, hmore⟩ := List.cons.inj h
          obtain ⟨rfl, hrest⟩ := List.cons.inj hmore
          have hfield := Except.ok.inj
            ((Declaration.readProp_number hread₁ number₂).symm.trans hread₂)
          exact ⟨by rw [hfield], hrest⟩

/-- Two sequences of items that reach from the same line to a marker line are the same sequence. The
induction is over one of them; the other has as many items, since none starts with a marker. -/
theorem Item.eq_of_flatMap_append_eq {protocol : Protocol} {items₁ items₂ : List Item}
    (h₁ : ∀ item ∈ items₁, item.WellFormed protocol) (h₂ : ∀ item ∈ items₂, item.WellFormed protocol)
    {marker₁ marker₂ : List Char} (hmarker₁ : protocol.lineKind marker₁ = .marker)
    (hmarker₂ : protocol.lineKind marker₂ = .marker) {after₁ after₂ : List (List Char)}
    (h : items₁.flatMap Item.lines ++ marker₁ :: after₁ =
      items₂.flatMap Item.lines ++ marker₂ :: after₂) :
    items₁ = items₂ ∧ marker₁ = marker₂ ∧ after₁ = after₂ := by
  induction items₁ generalizing items₂ with
  | nil =>
      cases items₂ with
      | nil => exact ⟨rfl, List.cons.inj h⟩
      | cons item₂ items₂ =>
          rw [List.flatMap_cons, List.append_assoc] at h
          exact absurd h.symm (Item.lines_append_ne (h₂ item₂ (by simp)) hmarker₁ _ _)
  | cons item₁ items₁ ih =>
      have hitem₁ := h₁ item₁ (by simp)
      cases items₂ with
      | nil =>
          rw [List.flatMap_cons, List.append_assoc] at h
          exact absurd h (Item.lines_append_ne hitem₁ hmarker₂ _ _)
      | cons item₂ items₂ =>
          simp only [List.flatMap_cons, List.append_assoc] at h
          obtain ⟨rfl, hmore⟩ := Item.eq_of_lines_append_eq hitem₁ (h₂ item₂ (by simp)) h
          obtain ⟨rfl, hafter⟩ := ih (List.forall_mem_of_forall_mem_cons h₁)
            (List.forall_mem_of_forall_mem_cons h₂) hmore
          exact ⟨rfl, hafter⟩

/-- Two blocks at the front of the same lines are the same block. -/
theorem Block.eq_of_lines_append_eq {protocol : Protocol} {first second : Block}
    (h₁ : first.WellFormed protocol) (h₂ : second.WellFormed protocol)
    {rest₁ rest₂ : List (List Char)} (h : first.lines ++ rest₁ = second.lines ++ rest₂) :
    first = second ∧ rest₁ = rest₂ := by
  obtain ⟨items₁, marker₁, region₁⟩ := first
  obtain ⟨items₂, marker₂, region₂⟩ := second
  simp only [Block.lines, List.append_assoc, List.cons_append, List.nil_append] at h
  obtain ⟨rfl, rfl, hafter⟩ := Item.eq_of_flatMap_append_eq h₁.1 h₂.1 h₁.2 h₂.2 h
  obtain ⟨rfl, hrest⟩ := List.cons.inj hafter
  exact ⟨rfl, hrest⟩

/-- **A file has at most one layout.** -/
theorem Layout.eq_of_lines_eq {protocol : Protocol} {first second : Layout}
    (h₁ : first.WellFormed protocol) (h₂ : second.WellFormed protocol)
    (h : first.lines = second.lines) : first = second := by
  obtain ⟨header₁, accessors₁, parameters₁, diff₁, tail₁⟩ := first
  obtain ⟨header₂, accessors₂, parameters₂, diff₂, tail₂⟩ := second
  obtain ⟨rfl, h⟩ := List.cons.inj h
  obtain ⟨rfl, h⟩ := Block.eq_of_lines_append_eq h₁.accessors h₂.accessors h
  obtain ⟨rfl, h⟩ := Block.eq_of_lines_append_eq h₁.parameters h₂.parameters h
  obtain ⟨rfl, rfl⟩ := Block.eq_of_lines_append_eq h₁.diff h₂.diff h
  rfl

end RegionSync
