import RegionSync.Proofs.Layout

set_option autoImplicit false

/-! # A pass accepts exactly the files with a layout

The pass reads a file line by line with one flag for an awaited declaration, the grammar takes it
apart into items, blocks and a tail. The two are tied together block by block: a pass that waits
for a region gets past a well-formed block with the fields of the block added to what it knows
(`Pass.run_block`), and if it ever gets to the tail, then a well-formed block is what it read
(`Pass.exists_block_of_run`). So a file is accepted exactly when it has a layout, and what the pass
gives is the result of the layout (`regenerate_eq_annotated_iff`).
-/

namespace RegionSync

/-! ## One line -/

/-- A pass that awaits no declaration goes by the kind of the line. -/
theorem Scan.read_of_not_awaiting {scan : Scan} (h : scan.awaited = none) (protocol : Protocol)
    (number : Nat) (line : List Char) :
    scan.read protocol number (Text.trim line) =
      match protocol.lineKind line with
      | .marker => .ok { scan with stage := scan.stage.next }
      | .attributeOf kind => .ok { scan with awaited := some kind }
      | .plain => .ok scan := by
  have hmarker : Text.startsWith protocol.generatedMarker.toList (Text.trim line) = true ↔
      protocol.generatedMarker.toList <+: Text.trim line := List.isPrefixOf_iff_prefix
  unfold Scan.read Protocol.lineKind
  rw [h]
  simp only [hmarker]
  split_ifs <;> rfl

namespace Pass

/-- The pass after it has copied some lines and come to know `scan`. -/
def copy (pass : Pass) (lines : List (List Char)) (scan : Scan) : Pass :=
  ⟨scan, lines.reverse ++ pass.written, pass.changed⟩

@[simp] theorem copy_scan (pass : Pass) (lines : List (List Char)) (scan : Scan) :
    (pass.copy lines scan).scan = scan := rfl

@[simp] theorem copy_copy (pass : Pass) (front back : List (List Char)) (first second : Scan) :
    (pass.copy front first).copy back second = pass.copy (front ++ back) second := by
  simp [copy]

theorem step_of_waiting {pass : Pass} {region : Region} (h : pass.scan.stage = .waiting region)
    (protocol : Protocol) (number : Nat) (line : List Char) :
    pass.step protocol number line =
      match pass.scan.read protocol number (Text.trim line) with
      | .ok scan => .ok (pass.copy [line] scan)
      | .error fault => .error (.faulty fault) := by
  unfold step Scan.step Scan.emit
  rw [h]
  cases pass.scan.read protocol number (Text.trim line) with
  | ok scan => simp [copy]
  | error fault => rfl

theorem step_of_inside {pass : Pass} {region : Region} (h : pass.scan.stage = .inside region)
    (protocol : Protocol) (number : Nat) (line : List Char) :
    pass.step protocol number line =
      .ok ⟨{ pass.scan with stage := pass.scan.stage.next },
        (region.render pass.scan.states pass.scan.props ++ Text.ending line) :: pass.written,
        pass.changed ||
          region.render pass.scan.states pass.scan.props ++ Text.ending line != line⟩ := by
  unfold step Scan.step Scan.emit
  rw [h]

theorem step_of_tail {pass : Pass} (h : pass.scan.stage = .tail) (protocol : Protocol)
    (number : Nat) (line : List Char) :
    pass.step protocol number line = .ok (pass.copy [line] pass.scan) := by
  unfold step Scan.step Scan.emit
  rw [h]
  simp [copy]

theorem run_cons_of_step {protocol : Protocol} {number : Nat} {line : List Char} {pass next : Pass}
    (h : pass.step protocol number line = .ok next) (rest : List (List Char)) :
    run protocol number (line :: rest) pass = run protocol (number + 1) rest next := by
  rw [run, h]

theorem exists_step_of_run {protocol : Protocol} {number : Nat} {line : List Char}
    {rest : List (List Char)} {pass final : Pass}
    (h : run protocol number (line :: rest) pass = .ok final) :
    ∃ next, pass.step protocol number line = .ok next ∧
      run protocol (number + 1) rest next = .ok final := by
  rw [run] at h
  split at h
  · rename_i next hstep
    exact ⟨next, hstep, h⟩
  · cases h

end Pass

/-! ## Items -/

/-- What a pass knows after some items, the first line of which has the number `number`. -/
def Scan.declare (scan : Scan) (number : Nat) (items : List Item) : Scan :=
  { scan with
    states := scan.states ++ items.flatMap Item.states
    props := scan.props ++ items.flatMap Item.props
    advisories := scan.advisories ++ Item.advisoriesFrom number items }

@[simp] theorem Scan.declare_nil (scan : Scan) (number : Nat) : scan.declare number [] = scan := by
  simp [declare, Item.advisoriesFrom]

theorem Scan.declare_cons (scan : Scan) (number : Nat) (item : Item) (items : List Item) :
    scan.declare number (item :: items) =
      (scan.declare number [item]).declare (number + item.lines.length) items := by
  simp [declare, Item.advisoriesFrom]

namespace Pass

variable {protocol : Protocol} {region : Region}

/-- At a line that is not awaited as a declaration, a waiting pass copies the line and takes note of
its kind. -/
theorem step_of_kind {pass : Pass} (hstage : pass.scan.stage = .waiting region)
    (hawait : pass.scan.awaited = none) (protocol : Protocol) (number : Nat) (line : List Char) :
    pass.step protocol number line =
      .ok (pass.copy [line]
        (match protocol.lineKind line with
        | .marker => { pass.scan with stage := .inside region }
        | .attributeOf kind => { pass.scan with awaited := some kind }
        | .plain => pass.scan)) := by
  rw [step_of_waiting hstage, Scan.read_of_not_awaiting hawait]
  cases protocol.lineKind line with
  | marker => simp only [hstage, Stage.next]
  | attributeOf kind => rfl
  | plain => rfl

/-- An attribute line and the line after it, if that line can be read as the attribute asks. -/
theorem run_declaration {pass : Pass} (hstage : pass.scan.stage = .waiting region)
    (hawait : pass.scan.awaited = none) {kind : FieldKind} {attr : List Char}
    (hkind : protocol.lineKind attr = .attributeOf kind) {number : Nat} {decl : List Char}
    {after : Scan}
    (hread : ({ pass.scan with awaited := some kind } : Scan).read protocol (number + 1)
      (Text.trim decl) = .ok after) (rest : List (List Char)) :
    run protocol number (attr :: decl :: rest) pass =
      run protocol (number + 2) rest (pass.copy [attr, decl] after) := by
  -- the first line is noted as an attribute, then the second is read as it asks
  have hattr := step_of_kind hstage hawait protocol number attr
  rw [hkind] at hattr
  set awaiting := pass.copy [attr] { pass.scan with awaited := some kind } with hawaiting
  have hwaiting : awaiting.scan.stage = .waiting region := hstage
  have hdecl : awaiting.step protocol (number + 1) decl = .ok (pass.copy [attr, decl] after) := by
    rw [step_of_waiting hwaiting, hawaiting, copy_scan, hread]
    simp only [copy_copy, List.singleton_append]
  rw [run_cons_of_step hattr, run_cons_of_step hdecl]

/-- A pass gets past an item with the field of the item added to what it knows. -/
theorem run_item {pass : Pass} (hstage : pass.scan.stage = .waiting region)
    (hawait : pass.scan.awaited = none) {item : Item} (h : item.WellFormed protocol) (number : Nat)
    (rest : List (List Char)) :
    run protocol number (item.lines ++ rest) pass =
      run protocol (number + item.lines.length) rest
        (pass.copy item.lines (pass.scan.declare number [item])) := by
  cases item with
  | plain line =>
      have hkind : protocol.lineKind line = .plain := h
      have hstep := step_of_kind hstage hawait protocol number line
      rw [hkind] at hstep
      show run protocol number (line :: rest) pass = _
      rw [run_cons_of_step hstep]
      simp [Scan.declare, Item.lines, Item.states, Item.props, Item.advisories, Item.advisoriesFrom]
  | state attr decl field =>
      obtain ⟨hkind, other, hread⟩ := h
      refine run_declaration hstage hawait hkind ?_ rest
      simp only [Scan.read, Declaration.readState_number hread (number + 1)]
      simp [Scan.declare, Item.states, Item.props, Item.advisories, Item.advisoriesFrom, hawait]
  | prop attr decl field =>
      obtain ⟨hkind, other, hread⟩ := h
      refine run_declaration hstage hawait hkind ?_ rest
      simp only [Scan.read, Declaration.readProp_number hread (number + 1)]
      simp [Scan.declare, Item.states, Item.props, Item.advisories, Item.advisoriesFrom, hawait]

theorem run_items {pass : Pass} (hstage : pass.scan.stage = .waiting region)
    (hawait : pass.scan.awaited = none) {items : List Item}
    (h : ∀ item ∈ items, item.WellFormed protocol) (number : Nat) (rest : List (List Char)) :
    run protocol number (items.flatMap Item.lines ++ rest) pass =
      run protocol (number + (items.flatMap Item.lines).length) rest
        (pass.copy (items.flatMap Item.lines) (pass.scan.declare number items)) := by
  induction items generalizing pass number with
  | nil => simp [copy]
  | cons item items ih =>
      set next := pass.copy item.lines (pass.scan.declare number [item]) with hnext
      have hnextStage : next.scan.stage = .waiting region := hstage
      have hnextAwait : next.scan.awaited = none := hawait
      rw [List.flatMap_cons, List.append_assoc, run_item hstage hawait (h item (by simp)), ← hnext,
        ih hnextStage hnextAwait (List.forall_mem_of_forall_mem_cons h), hnext, copy_copy, copy_scan,
        ← Scan.declare_cons, List.length_append, Nat.add_assoc]

/-! ## Blocks -/

/-- The pass after a block, the first line of which has the number `number`. -/
def pastBlock (pass : Pass) (number : Nat) (region : Region) (block : Block) : Pass :=
  let scan := pass.scan.declare number block.items
  let renewed := block.replace (region.render scan.states scan.props ++ Text.ending block.region)
  ⟨{ scan with stage := (Stage.inside region).next }, renewed.lines.reverse ++ pass.written,
    pass.changed || renewed.region != block.region⟩

/-- A pass that waits for a region gets past a block, and renews its region on the way. -/
theorem run_block {pass : Pass} (hstage : pass.scan.stage = .waiting region)
    (hawait : pass.scan.awaited = none) {block : Block} (h : block.WellFormed protocol)
    (number : Nat) (rest : List (List Char)) :
    run protocol number (block.lines ++ rest) pass =
      run protocol (number + block.lines.length) rest (pass.pastBlock number region block) := by
  obtain ⟨items, marker, line⟩ := block
  obtain ⟨hitems, hmarker⟩ := h
  -- `read` has passed the items, `inside` the marker line too; one more line is the region
  set read := pass.copy (items.flatMap Item.lines) (pass.scan.declare number items) with hread
  have hreadStage : read.scan.stage = .waiting region := hstage
  have hreadAwait : read.scan.awaited = none := hawait
  set count := number + (items.flatMap Item.lines).length with hcount
  have hstep := step_of_kind hreadStage hreadAwait protocol count marker
  rw [show protocol.lineKind marker = .marker from hmarker] at hstep
  set inside := read.copy [marker] { read.scan with stage := .inside region } with hinside
  have hinsideStage : inside.scan.stage = .inside region := rfl
  have hregion := step_of_inside hinsideStage protocol (count + 1) line
  simp only [Block.lines, List.append_assoc, List.cons_append, List.nil_append]
  rw [run_items hstage hawait hitems, ← hread, ← hcount, run_cons_of_step hstep,
    run_cons_of_step hregion, List.length_append, ← Nat.add_assoc, ← hcount]
  simp only [hinside, hread, copy_scan, copy_copy]
  simp [pastBlock, copy, Block.replace, Block.lines]

/-- A line that is read as an awaited declaration makes an item with its attribute line. -/
theorem exists_item_of_step {pass next : Pass} (hstage : pass.scan.stage = .waiting region)
    {kind : FieldKind} (hawait : pass.scan.awaited = some kind) {attr decl : List Char}
    (hkind : protocol.lineKind attr = .attributeOf kind) {number : Nat}
    (hstep : pass.step protocol number decl = .ok next) :
    ∃ item : Item, item.WellFormed protocol ∧ item.lines = [attr, decl] := by
  rw [step_of_waiting hstage, Scan.read, hawait] at hstep
  cases kind with
  | state =>
      cases hread : Declaration.readState number (Text.trim decl) with
      | ok field => exact ⟨.state attr decl field, ⟨hkind, number, hread⟩, rfl⟩
      | error fault => simp [hread] at hstep
  | prop =>
      cases hread : Declaration.readProp number (Text.trim decl) with
      | ok field => exact ⟨.prop attr decl field, ⟨hkind, number, hread⟩, rfl⟩
      | error fault => simp [hread] at hstep

/-- A pass that gets from a wait to the tail has an item in front of it, unless it is a marker. -/
theorem exists_item_of_run {pass final : Pass} (hstage : pass.scan.stage = .waiting region)
    (hawait : pass.scan.awaited = none) {line : List Char} {rest : List (List Char)} {number : Nat}
    (hkind : protocol.lineKind line ≠ .marker)
    (hrun : run protocol number (line :: rest) pass = .ok final)
    (hfinal : final.scan.stage = .tail) :
    ∃ (item : Item) (after : List (List Char)),
      item.WellFormed protocol ∧ line :: rest = item.lines ++ after := by
  obtain ⟨next, hstep, hrest⟩ := exists_step_of_run hrun
  rw [step_of_kind hstage hawait] at hstep
  cases hstep
  cases h : protocol.lineKind line with
  | marker => exact absurd h hkind
  | plain => exact ⟨.plain line, rest, h, rfl⟩
  | attributeOf kind =>
      rw [h] at hrest
      cases rest with
      | nil =>
          -- the file ends while the declaration is awaited
          cases hrest
          rw [copy_scan, hstage] at hfinal
          cases hfinal
      | cons decl after =>
          obtain ⟨declared, hdecl, -⟩ := exists_step_of_run hrest
          set awaiting := pass.copy [line] { pass.scan with awaited := some kind } with hawaiting
          have hwaiting : awaiting.scan.stage = .waiting region := hstage
          obtain ⟨item, hitem, hlines⟩ := exists_item_of_step hwaiting rfl h hdecl
          exact ⟨item, after, hitem, by rw [hlines]; rfl⟩

/-- What a pass that gets from a wait to the tail has in front of it is a block. The induction is on
the number of lines, since an item takes one or two of them. -/
theorem exists_block_of_run {final : Pass} (hfinal : final.scan.stage = .tail)
    {lines : List (List Char)} {number : Nat} {pass : Pass}
    (hstage : pass.scan.stage = .waiting region) (hawait : pass.scan.awaited = none)
    (hrun : run protocol number lines pass = .ok final) :
    ∃ (block : Block) (rest : List (List Char)),
      block.WellFormed protocol ∧ lines = block.lines ++ rest := by
  induction hcount : lines.length using Nat.strong_induction_on generalizing lines number pass with
  | _ count ih =>
      cases lines with
      | nil =>
          cases hrun
          rw [hstage] at hfinal
          cases hfinal
      | cons line rest =>
          by_cases hkind : protocol.lineKind line = .marker
          · -- the items end here, and the next line is the region, whatever it looks like
            obtain ⟨next, hstep, hrest⟩ := exists_step_of_run hrun
            rw [step_of_kind hstage hawait, hkind] at hstep
            cases hstep
            cases rest with
            | nil =>
                cases hrest
                cases hfinal
            | cons inner rest => exact ⟨⟨[], line, inner⟩, rest, ⟨by simp, hkind⟩, rfl⟩
          · -- an item comes first; the pass gets past it to lines that start with a block
            obtain ⟨item, after, hitem, hlines⟩ :=
              exists_item_of_run hstage hawait hkind hrun hfinal
            rw [hlines, run_item hstage hawait hitem] at hrun
            have hshorter : after.length < count := by
              obtain ⟨first, more, hfirst, -⟩ := Item.exists_lines_eq_cons hitem
              rw [← hcount, hlines, hfirst, List.length_append, List.length_cons]
              omega
            set next := pass.copy item.lines (pass.scan.declare number [item]) with hnext
            have hnextStage : next.scan.stage = .waiting region := hstage
            have hnextAwait : next.scan.awaited = none := hawait
            obtain ⟨block, back, hblock, hafter⟩ := ih _ hshorter hnextStage hnextAwait hrun rfl
            refine ⟨{ block with items := item :: block.items }, back, ⟨?_, hblock.2⟩, ?_⟩
            · exact List.forall_mem_cons.mpr ⟨hitem, hblock.1⟩
            · rw [hlines, hafter]
              simp [Block.lines]

/-! ## The tail -/

theorem run_tail {pass : Pass} (h : pass.scan.stage = .tail) (number : Nat)
    (lines : List (List Char)) :
    run protocol number lines pass = .ok (pass.copy lines pass.scan) := by
  induction lines generalizing pass number with
  | nil => simp [run, copy]
  | cons line rest ih =>
      have hnext : (pass.copy [line] pass.scan).scan.stage = .tail := h
      rw [run_cons_of_step (step_of_tail h protocol number line), ih hnext, copy_copy, copy_scan,
        List.singleton_append]

end Pass

/-! ## Whole files -/

/-- The pass that has read the header line. -/
def Pass.pastHeader (header : List Char) : Pass :=
  { scan := { stage := .waiting .accessors }, written := [header] }

theorem Pass.run_header (protocol : Protocol) (header : List Char) (rest : List (List Char)) :
    run protocol 1 (header :: rest) {} =
      if protocol.isHeader header then run protocol 2 rest (pastHeader header)
      else .error .notAnnotated := by
  cases h : protocol.isHeader header with
  | true => simp [run, step, Scan.step, Scan.emit, h, pastHeader, Stage.next]
  | false => simp [run, step, Scan.step, h]

/-- The pass that has read all lines of a file with the given layout. -/
def Pass.pastLayout (layout : Layout) : Pass where
  scan := ⟨.tail, none, layout.props, layout.states, layout.advisories⟩
  written := layout.renew.lines.reverse
  changed := decide (layout.renew.lines ≠ layout.lines)

theorem Pass.run_layout {protocol : Protocol} {layout : Layout} (h : layout.WellFormed protocol) :
    run protocol 1 layout.lines {} = .ok (pastLayout layout) := by
  have hheader : protocol.isHeader layout.header = true := (protocol.isHeader_iff _).mpr h.header
  rw [Layout.lines, run_header, if_pos hheader, run_block rfl rfl h.accessors,
    run_block rfl rfl h.parameters, run_block rfl rfl h.diff, run_tail rfl]
  simp only [pastBlock, copy, pastHeader, pastLayout, Except.ok.injEq, Pass.mk.injEq]
  -- what was declared, what was written, and whether a line was changed
  refine ⟨?_, ?_, ?_⟩
  · simp [Scan.declare, Layout.props, Layout.states, Layout.advisories, Block.props, Block.states,
      Stage.next]
  · simp [Scan.declare, Layout.lines, Layout.renew, Layout.replace, Layout.renewedLine,
      Layout.renewedBody, Layout.block, Layout.statesAbove, Layout.propsAbove, Layout.upTo,
      Block.props, Block.states, Block.replace, Block.lines]
  · rw [Bool.eq_iff_iff, decide_eq_true_iff, ne_eq, Layout.renew_lines_eq_iff]
    simp [Scan.declare, Layout.renewedLine, Layout.renewedBody, Layout.block, Layout.statesAbove,
      Layout.propsAbove, Layout.upTo, Block.props, Block.states, Block.replace]
    tauto

/-- A pass that ends in the tail has read a file with a layout. -/
theorem Pass.exists_layout_of_run {protocol : Protocol} {lines : List (List Char)} {final : Pass}
    (hrun : run protocol 1 lines {} = .ok final) (hfinal : final.scan.stage = .tail) :
    ∃ layout : Layout, layout.WellFormed protocol ∧ layout.lines = lines := by
  cases lines with
  | nil =>
      cases hrun
      cases hfinal
  | cons header rest =>
      rw [run_header] at hrun
      split_ifs at hrun with hheader
      -- running over a block that was found leads to the wait for the next one
      obtain ⟨accessors, rest, haccessors, rfl⟩ := exists_block_of_run hfinal rfl rfl hrun
      rw [run_block rfl rfl haccessors] at hrun
      obtain ⟨parameters, rest, hparameters, rfl⟩ := exists_block_of_run hfinal rfl rfl hrun
      rw [run_block rfl rfl hparameters] at hrun
      obtain ⟨diff, tail, hdiff, rfl⟩ := exists_block_of_run hfinal rfl rfl hrun
      exact ⟨⟨header, accessors, parameters, diff, tail⟩,
        ⟨(protocol.isHeader_iff header).mp hheader, haccessors, hparameters, hdiff⟩, rfl⟩

/-- **Regenerating succeeds exactly on the files with a layout**, with the result of the layout. -/
theorem regenerate_eq_annotated_iff {protocol : Protocol} {text : String} {result : Regenerated} :
    regenerate protocol text = .ok (.annotated result) ↔
      ∃ layout : Layout, layout.WellFormed protocol ∧ layout.lines = Text.lines text.toList ∧
        result = layout.result := by
  constructor
  · intro h
    unfold regenerate at h
    split at h
    · rename_i final hrun
      -- only a pass that has reached the tail gives a result
      have hfinal : final.scan.stage = .tail := by
        unfold Pass.finish at h
        split at h
        · cases h
        · assumption
        · cases h
      obtain ⟨layout, hlayout, hlines⟩ := Pass.exists_layout_of_run hrun hfinal
      refine ⟨layout, hlayout, hlines, ?_⟩
      rw [← hlines, Pass.run_layout hlayout] at hrun
      cases hrun
      simp only [Pass.finish, Pass.pastLayout, Except.ok.injEq, Regeneration.annotated.injEq] at h
      rw [← h, Layout.result, List.reverse_reverse]
    · cases h
    · cases h
  · rintro ⟨layout, hlayout, hlines, rfl⟩
    rw [regenerate, ← hlines, Pass.run_layout hlayout]
    simp [Pass.finish, Pass.pastLayout, Layout.result]

/-! ## Files that are not annotated -/

theorem Stage.next_ne_firstLine (stage : Stage) : stage.next ≠ .firstLine := by
  rcases stage with _ | region | region | _
  · simp [next]
  · simp [next]
  · cases region <;> simp [next]
  · simp [next]

/-- Reading a line leaves the stage as it is or moves on to the next one. -/
theorem Scan.stage_of_read {scan after : Scan} {protocol : Protocol} {number : Nat}
    {content : List Char} (h : scan.read protocol number content = .ok after) :
    after.stage = scan.stage ∨ after.stage = scan.stage.next := by
  unfold read at h
  split at h
  · split at h
    · cases h
      exact Or.inl rfl
    · cases h
  · split at h
    · cases h
      exact Or.inl rfl
    · cases h
  · split_ifs at h
    · cases h
      exact Or.inr rfl
    · cases h
      exact Or.inl rfl
    · cases h
      exact Or.inl rfl
    · cases h
      exact Or.inl rfl

/-- Behind the first line the pass never goes back to it. -/
theorem Scan.stage_ne_firstLine_of_step {scan after : Scan} (h : scan.stage ≠ .firstLine)
    {protocol : Protocol} {number : Nat} {line : List Char}
    (hstep : scan.step protocol number line = .ok after) : after.stage ≠ .firstLine := by
  unfold step at hstep
  split at hstep
  · rename_i hstage
    exact absurd hstage h
  · split at hstep
    · rename_i hread
      cases hstep
      rcases stage_of_read hread with hsame | hnext
      · rw [hsame]
        exact h
      · rw [hnext]
        exact Stage.next_ne_firstLine _
    · cases hstep
  · cases hstep
    exact Stage.next_ne_firstLine _
  · cases hstep
    exact h

/-- Only the first line can show that a file is not annotated. -/
theorem Scan.step_ne_notAnnotated {scan : Scan} (h : scan.stage ≠ .firstLine) (protocol : Protocol)
    (number : Nat) (line : List Char) : scan.step protocol number line ≠ .error .notAnnotated := by
  intro hstep
  unfold step at hstep
  split at hstep
  · rename_i hstage
    exact absurd hstage h
  · split at hstep <;> cases hstep
  · cases hstep
  · cases hstep

theorem Pass.run_of_ne_firstLine (protocol : Protocol) (lines : List (List Char)) :
    ∀ (number : Nat) (pass : Pass), pass.scan.stage ≠ .firstLine →
      run protocol number lines pass ≠ .error .notAnnotated ∧
        ∀ final, run protocol number lines pass = .ok final → final.scan.stage ≠ .firstLine := by
  induction lines with
  | nil =>
      intro number pass h
      refine ⟨by simp [run], fun final hfinal => ?_⟩
      cases hfinal
      exact h
  | cons line rest ih =>
      intro number pass h
      rw [run, step]
      cases hstep : pass.scan.step protocol number line with
      | ok after => exact ih (number + 1) _ (Scan.stage_ne_firstLine_of_step h hstep)
      | error halt =>
          refine ⟨fun hhalt => ?_, fun final hfinal => by cases hfinal⟩
          cases hhalt
          exact Scan.step_ne_notAnnotated h protocol number line hstep

/-- A pass that got past the header never finds the file not to be annotated. -/
theorem Pass.finish_ne_notAnnotated {pass : Pass} (h : pass.scan.stage ≠ .firstLine) :
    pass.finish ≠ .ok .notAnnotated := by
  intro hfinish
  unfold finish at hfinish
  split at hfinish
  · rename_i hstage
    exact h hstage
  · cases hfinish
  · cases hfinish

/-- **A file is not annotated exactly when it is empty or its first line lacks the header.** -/
theorem regenerate_eq_notAnnotated_iff {protocol : Protocol} {text : String} :
    regenerate protocol text = .ok .notAnnotated ↔
      text = "" ∨ ∃ header rest, Text.lines text.toList = header :: rest ∧
        ¬ protocol.CarriesHeader header := by
  cases hlines : Text.lines text.toList with
  | nil =>
      have hempty : text.toList = [] := by rw [← Text.lines_flatten text.toList, hlines]; rfl
      have htext : text = "" := String.toList_eq_nil_iff.mp hempty
      simp [htext, regenerate, Text.lines, Text.linesFrom, Pass.run, Pass.finish]
  | cons header rest =>
      have htext : text ≠ "" := by
        rintro rfl
        cases hlines
      have hright : (text = "" ∨ ∃ first others, header :: rest = first :: others ∧
          ¬ protocol.CarriesHeader first) ↔ ¬ protocol.isHeader header = true := by
        rw [protocol.isHeader_iff]
        constructor
        · rintro (hempty | ⟨first, others, heq, hfirst⟩)
          · exact absurd hempty htext
          · cases heq
            exact hfirst
        · intro hheader
          exact Or.inr ⟨header, rest, rfl, hheader⟩
      rw [hright, regenerate, hlines, Pass.run_header]
      by_cases hheader : protocol.isHeader header = true
      · obtain ⟨hrun, hfinal⟩ := Pass.run_of_ne_firstLine protocol rest 2 (Pass.pastHeader header)
          (by simp [Pass.pastHeader])
        rw [if_pos hheader]
        refine iff_of_false (fun h => ?_) (fun h => h hheader)
        split at h
        · rename_i final hok
          exact Pass.finish_ne_notAnnotated (hfinal final hok) h
        · rename_i hhalt
          exact hrun hhalt
        · cases h
      · rw [if_neg hheader]
        exact iff_of_true rfl hheader

/-! ## The grammar -/

/-- **The pass accepts exactly its grammar.** A file is accepted if and only if it has a layout; it has
at most one; the fields that the pass reports are those that the layout declares, in file order;
and a file counts as not annotated if and only if it is empty or its first line lacks the header. -/
theorem regenerate_accepts_exactly_layouts (protocol : Protocol) (text : String) :
    ((∃ result, regenerate protocol text = .ok (.annotated result)) ↔
      ∃ layout : Layout, layout.WellFormed protocol ∧ layout.lines = Text.lines text.toList) ∧
    (∀ first second : Layout, first.WellFormed protocol → second.WellFormed protocol →
      first.lines = Text.lines text.toList → second.lines = Text.lines text.toList →
      first = second) ∧
    (∀ (result : Regenerated) (layout : Layout),
      regenerate protocol text = .ok (.annotated result) →
      layout.WellFormed protocol → layout.lines = Text.lines text.toList →
      result.props = layout.props ∧ result.states = layout.states) ∧
    (regenerate protocol text = .ok .notAnnotated ↔
      text = "" ∨ ∃ header rest, Text.lines text.toList = header :: rest ∧
        ¬ protocol.CarriesHeader header) := by
  refine ⟨⟨?_, ?_⟩, ?_, ?_, regenerate_eq_notAnnotated_iff⟩
  · rintro ⟨result, h⟩
    obtain ⟨layout, hlayout, hlines, -⟩ := regenerate_eq_annotated_iff.mp h
    exact ⟨layout, hlayout, hlines⟩
  · rintro ⟨layout, hlayout, hlines⟩
    exact ⟨layout.result, regenerate_eq_annotated_iff.mpr ⟨layout, hlayout, hlines, rfl⟩⟩
  · intro first second h₁ h₂ hlines₁ hlines₂
    exact Layout.eq_of_lines_eq h₁ h₂ (hlines₁.trans hlines₂.symm)
  · intro result layout h hlayout hlines
    obtain ⟨other, hother, hlines', rfl⟩ := regenerate_eq_annotated_iff.mp h
    rw [Layout.eq_of_lines_eq hlayout hother (hlines.trans hlines'.symm)]
    exact ⟨rfl, rfl⟩

end RegionSync
