import RegionSync.Proofs.Opacity

set_option autoImplicit false

/-! # Faults

Why a file that starts with the header cannot be regenerated, without reference to the pass that
finds it out. Below the header there is an *opening*: blocks, fewer than three, and items. What
follows the opening is what stops the pass: nothing, an attribute or a marker as the last line, or
an attribute above a line that cannot be read as the attribute asks. `Blocked` lists these cases
with their faults.

Every file with a header has a layout or is blocked (`exists_layout_or_blocked`), and the pass
reports the fault of a blocked file (`regenerate_of_blocked`). So it reports a fault exactly if the
file is blocked by it (`regenerate_eq_error_iff`). A faulty declaration is found on the lines down
to it, and nothing below the last region is ever a fault (`faults_are_exact_and_local`).
-/

namespace RegionSync

/-! ## Openings -/

/-- Line `number` with the text `content` has this fault when it is read as an attribute asks. -/
def Declaration.Fails (kind : FieldKind) (number : Nat) (content : List Char) (fault : Fault) :
    Prop :=
  match kind with
  | .state => readState number content = .error fault
  | .prop => readProp number content = .error fault

/-- The region whose marker is searched for below a number of blocks. -/
def Region.belowBlocks : Nat → Region
  | 0 => .accessors
  | 1 => .parameters
  | _ => .diff

/-- The lines of a file down to a place above its third region where an item or a marker may
start. -/
structure Opening where
  /-- The first line. -/
  header : List Char
  blocks : List Block
  /-- The third region is not reached. -/
  few : blocks.length < 3
  /-- What stands below the last of the blocks. -/
  items : List Item

namespace Opening

/-- The lines of the opening. -/
def lines (opening : Opening) : List (List Char) :=
  opening.header :: (opening.blocks.flatMap Block.lines ++ opening.items.flatMap Item.lines)

/-- The region whose marker is searched for below the opening. -/
def region (opening : Opening) : Region := .belowBlocks opening.blocks.length

/-- The opening with another item below it. -/
def push (opening : Opening) (item : Item) : Opening :=
  { opening with items := opening.items ++ [item] }

/-- An opening is well-formed when its first line carries the header and its blocks and items are
well-formed; so all its declarations can be read. -/
structure WellFormed (protocol : Protocol) (opening : Opening) : Prop where
  header : protocol.CarriesHeader opening.header
  blocks : ∀ block ∈ opening.blocks, block.WellFormed protocol
  items : ∀ item ∈ opening.items, item.WellFormed protocol

theorem lines_push (opening : Opening) (item : Item) :
    (opening.push item).lines = opening.lines ++ item.lines := by
  simp [lines, push]

theorem WellFormed.push {protocol : Protocol} {opening : Opening} (h : opening.WellFormed protocol)
    {item : Item} (hitem : item.WellFormed protocol) : (opening.push item).WellFormed protocol := by
  refine ⟨h.header, h.blocks, ?_⟩
  intro other hother
  rcases List.mem_append.mp hother with hother | hother
  · exact h.items other hother
  · rw [List.mem_singleton.mp hother]
    exact hitem

end Opening

/-! ## Blocked files -/

/-- Line `number` is the declaration of an attribute that stands directly below an opening, and has
this fault. -/
def FaultAt (protocol : Protocol) (lines : List (List Char)) (number : Nat) (fault : Fault) :
    Prop :=
  ∃ (opening : Opening) (kind : FieldKind) (attr decl : List Char) (rest : List (List Char)),
    opening.WellFormed protocol ∧ lines = opening.lines ++ attr :: decl :: rest ∧
    number = opening.lines.length + 2 ∧ protocol.lineKind attr = .attributeOf kind ∧
    Declaration.Fails kind number (Text.trim decl) fault

/-- Why a file with a header has no layout. -/
inductive Blocked (protocol : Protocol) (lines : List (List Char)) : Fault → Prop where
  /-- The file ends where an item or a marker may start. -/
  | ended (opening : Opening) (h : opening.WellFormed protocol) (hlines : lines = opening.lines) :
      Blocked protocol lines (.truncated (.waiting opening.region))
  /-- The file ends with an attribute. -/
  | undeclared (opening : Opening) (h : opening.WellFormed protocol) (kind : FieldKind)
      (attr : List Char) (hattr : protocol.lineKind attr = .attributeOf kind)
      (hlines : lines = opening.lines ++ [attr]) :
      Blocked protocol lines (.truncated (.waiting opening.region))
  /-- The file ends with a marker. -/
  | unfilled (opening : Opening) (h : opening.WellFormed protocol) (marker : List Char)
      (hmarker : protocol.lineKind marker = .marker) (hlines : lines = opening.lines ++ [marker]) :
      Blocked protocol lines (.truncated (.inside opening.region))
  /-- A declaration cannot be read. -/
  | unreadable (number : Nat) (fault : Fault) (h : FaultAt protocol lines number fault) :
      Blocked protocol lines fault

/-- A line reads as an attribute asks or has a fault, whatever its number. -/
theorem Declaration.exists_item_or_fails {protocol : Protocol} {kind : FieldKind} {attr : List Char}
    (hattr : protocol.lineKind attr = .attributeOf kind) (number : Nat) (decl : List Char) :
    (∃ item : Item, item.WellFormed protocol ∧ item.lines = [attr, decl]) ∨
      ∃ fault, Fails kind number (Text.trim decl) fault := by
  cases kind with
  | state =>
      cases hread : readState number (Text.trim decl) with
      | ok field => exact Or.inl ⟨.state attr decl field, ⟨hattr, number, hread⟩, rfl⟩
      | error fault => exact Or.inr ⟨fault, hread⟩
  | prop =>
      cases hread : readProp number (Text.trim decl) with
      | ok field => exact Or.inl ⟨.prop attr decl field, ⟨hattr, number, hread⟩, rfl⟩
      | error fault => exact Or.inr ⟨fault, hread⟩

/-- Below the opening there are items down to a marker and the line of a region, or else the file is
blocked. -/
def Opening.Settles (protocol : Protocol) (opening : Opening) (rest : List (List Char)) : Prop :=
  (∃ (block : Block) (after : List (List Char)),
    block.WellFormed protocol ∧ rest = block.lines ++ after) ∨
  ∃ fault, Blocked protocol (opening.lines ++ rest) fault

/-- An item that is moved from the opening to the lines below goes to the block that is found
there. -/
theorem Opening.Settles.of_push {protocol : Protocol} {opening : Opening} {item : Item}
    {rest : List (List Char)} (h : (opening.push item).Settles protocol rest)
    (hitem : item.WellFormed protocol) : opening.Settles protocol (item.lines ++ rest) := by
  rcases h with ⟨block, after, hblock, rfl⟩ | hblocked
  · refine Or.inl ⟨{ block with items := item :: block.items }, after, ⟨?_, hblock.2⟩, ?_⟩
    · exact List.forall_mem_cons.mpr ⟨hitem, hblock.1⟩
    · simp [Block.lines]
  · rw [Opening.lines_push, List.append_assoc] at hblocked
    exact Or.inr hblocked

/-- The induction takes one line for a plain item and two for a declaration, and moves the item to
the opening. -/
theorem Opening.settles {protocol : Protocol} (rest : List (List Char)) :
    ∀ opening : Opening, opening.WellFormed protocol → opening.Settles protocol rest := by
  induction rest using List.twoStepInduction with
  | nil =>
      intro opening h
      exact Or.inr ⟨_, .ended opening h (List.append_nil _)⟩
  | singleton line =>
      intro opening h
      refine Or.inr ?_
      cases hkind : protocol.lineKind line with
      | marker => exact ⟨_, .unfilled opening h line hkind rfl⟩
      | attributeOf kind => exact ⟨_, .undeclared opening h kind line hkind rfl⟩
      | plain =>
          have hplain : (Item.plain line).WellFormed protocol := hkind
          exact ⟨_, .ended (opening.push (.plain line)) (h.push hplain)
            (opening.lines_push (.plain line)).symm⟩
  | cons_cons line next rest ihRest ihNext =>
      intro opening h
      cases hkind : protocol.lineKind line with
      | marker => exact Or.inl ⟨⟨[], line, next⟩, rest, ⟨nofun, hkind⟩, rfl⟩
      | plain =>
          have hplain : (Item.plain line).WellFormed protocol := hkind
          exact (ihNext next _ (h.push hplain)).of_push hplain
      | attributeOf kind =>
          rcases Declaration.exists_item_or_fails hkind (opening.lines.length + 2) next with
            ⟨item, hitem, hlines⟩ | ⟨fault, hfails⟩
          · have hsettles := (ihRest _ (h.push hitem)).of_push hitem
            rwa [hlines] at hsettles
          · exact Or.inr ⟨fault, .unreadable _ fault
              ⟨opening, kind, line, next, rest, h, rfl, rfl, hkind, hfails⟩⟩

/-- **A file with a header has a layout or is blocked.** -/
theorem exists_layout_or_blocked {protocol : Protocol} {header : List Char}
    (hheader : protocol.CarriesHeader header) (rest : List (List Char)) :
    (∃ layout : Layout, layout.WellFormed protocol ∧ layout.lines = header :: rest) ∨
      ∃ fault, Blocked protocol (header :: rest) fault := by
  -- the openings below no block, one block and two blocks, each with the lines that follow it
  have hstep (blocks : List Block) (hfew : blocks.length < 3)
      (hblocks : ∀ block ∈ blocks, block.WellFormed protocol) (below : List (List Char)) :
      (∃ (block : Block) (after : List (List Char)),
        block.WellFormed protocol ∧ below = block.lines ++ after) ∨
      ∃ fault, Blocked protocol (header :: (blocks.flatMap Block.lines ++ below)) fault := by
    have h := Opening.settles below ⟨header, blocks, hfew, []⟩ ⟨hheader, hblocks, nofun⟩
    simpa [Opening.Settles, Opening.lines] using h
  rcases hstep [] (by decide) nofun rest with ⟨accessors, rest, haccessors, rfl⟩ | hblocked
  · rcases hstep [accessors] (by simp) (by simpa using haccessors) rest with
      ⟨parameters, rest, hparameters, rfl⟩ | hblocked
    · rcases hstep [accessors, parameters] (by simp) (by simp [haccessors, hparameters]) rest with
        ⟨diff, tail, hdiff, rfl⟩ | hblocked
      · exact Or.inl ⟨⟨header, accessors, parameters, diff, tail⟩,
          ⟨hheader, haccessors, hparameters, hdiff⟩, rfl⟩
      · exact Or.inr (by simpa using hblocked)
    · exact Or.inr (by simpa using hblocked)
  · exact Or.inr (by simpa using hblocked)

/-! ## The pass over a blocked file -/

namespace Pass

variable {protocol : Protocol}

/-- A pass gets past blocks as long as they are not the last ones. -/
theorem exists_run_blocks {blocks : List Block}
    (h : ∀ block ∈ blocks, block.WellFormed protocol) (count : Nat)
    (hfew : count + blocks.length < 3) (pass : Pass)
    (hstage : pass.scan.stage = .waiting (.belowBlocks count)) (hawait : pass.scan.awaited = none)
    (number : Nat) :
    ∃ next : Pass, next.scan.stage = .waiting (.belowBlocks (count + blocks.length)) ∧
      next.scan.awaited = none ∧
      ∀ rest, run protocol number (blocks.flatMap Block.lines ++ rest) pass =
        run protocol (number + (blocks.flatMap Block.lines).length) rest next := by
  induction blocks generalizing count pass number with
  | nil => exact ⟨pass, hstage, hawait, fun rest => rfl⟩
  | cons block blocks ih =>
      rw [List.length_cons] at hfew
      have hnext : (Stage.inside (.belowBlocks count)).next =
          .waiting (.belowBlocks (count + 1)) := by
        -- another marker is searched for below the first region and below the second
        have hcount : count = 0 ∨ count = 1 := by omega
        rcases hcount with rfl | rfl <;> rfl
      set past := pass.pastBlock number (.belowBlocks count) block with hpast
      have hpastStage : past.scan.stage = .waiting (.belowBlocks (count + 1)) := hnext
      have hpastAwait : past.scan.awaited = none := hawait
      obtain ⟨last, hlast, hnone, hrun⟩ := ih (List.forall_mem_of_forall_mem_cons h)
        (count + 1) (by omega) past hpastStage hpastAwait (number + block.lines.length)
      refine ⟨last, ?_, hnone, ?_⟩
      · rw [hlast, List.length_cons, Nat.add_assoc, Nat.add_comm 1]
      · intro rest
        rw [List.flatMap_cons, List.append_assoc, run_block hstage hawait (h block (by simp)),
          ← hpast, hrun, List.length_append, Nat.add_assoc]

/-- Below an opening the pass searches for the marker of its region and awaits no declaration. -/
theorem exists_run_opening {opening : Opening} (h : opening.WellFormed protocol) :
    ∃ pass : Pass, pass.scan.stage = .waiting opening.region ∧ pass.scan.awaited = none ∧
      ∀ rest, run protocol 1 (opening.lines ++ rest) {} =
        run protocol (opening.lines.length + 1) rest pass := by
  have hheader : protocol.isHeader opening.header = true := (protocol.isHeader_iff _).mpr h.header
  have hfew : 0 + opening.blocks.length < 3 := by
    have := opening.few
    omega
  obtain ⟨past, hstage, hawait, hrun⟩ := exists_run_blocks h.blocks 0 hfew
    (pastHeader opening.header) rfl rfl 2
  rw [Nat.zero_add] at hstage
  set count := 2 + (opening.blocks.flatMap Block.lines).length with hcount
  refine ⟨past.copy (opening.items.flatMap Item.lines) (past.scan.declare count opening.items),
    hstage, hawait, ?_⟩
  intro rest
  have hlength : opening.lines.length + 1 =
      count + (opening.items.flatMap Item.lines).length := by
    simp only [Opening.lines, List.length_cons, List.length_append]
    omega
  rw [hlength, Opening.lines, List.cons_append, run_header, if_pos hheader, List.append_assoc, hrun,
    run_items hstage hawait h.items]

/-- A line that an attribute announces and that has a fault stops the pass with this fault. -/
theorem step_of_fails {pass : Pass} {region : Region} (hstage : pass.scan.stage = .waiting region)
    {kind : FieldKind} (hawait : pass.scan.awaited = some kind) {number : Nat} {decl : List Char}
    {fault : Fault} (h : Declaration.Fails kind number (Text.trim decl) fault) :
    pass.step protocol number decl = .error (.faulty fault) := by
  rw [step_of_waiting hstage, Scan.read, hawait]
  cases kind with
  | state => simp only [show Declaration.readState number (Text.trim decl) = .error fault from h]
  | prop => simp only [show Declaration.readProp number (Text.trim decl) = .error fault from h]

end Pass

/-- **The pass reports what blocks the file.** -/
theorem regenerate_of_blocked {protocol : Protocol} {text : String} {fault : Fault}
    (h : Blocked protocol (Text.lines text.toList) fault) :
    regenerate protocol text = .error fault := by
  cases h with
  | ended opening h hlines =>
      obtain ⟨pass, hstage, -, hrun⟩ := Pass.exists_run_opening h
      have hend := hrun []
      rw [List.append_nil, ← hlines] at hend
      simp only [regenerate, hend, Pass.run, Pass.finish, hstage]
  | undeclared opening h kind attr hattr hlines =>
      obtain ⟨pass, hstage, hawait, hrun⟩ := Pass.exists_run_opening h
      have hstep := Pass.step_of_kind hstage hawait protocol (opening.lines.length + 1) attr
      simp only [hattr] at hstep
      rw [regenerate, hlines, hrun, Pass.run_cons_of_step hstep]
      simp only [Pass.run, Pass.finish, Pass.copy_scan, hstage]
  | unfilled opening h marker hmarker hlines =>
      obtain ⟨pass, hstage, hawait, hrun⟩ := Pass.exists_run_opening h
      have hstep := Pass.step_of_kind hstage hawait protocol (opening.lines.length + 1) marker
      simp only [hmarker] at hstep
      rw [regenerate, hlines, hrun, Pass.run_cons_of_step hstep]
      simp only [Pass.run, Pass.finish, Pass.copy_scan]
  | unreadable number fault h =>
      obtain ⟨opening, kind, attr, decl, rest, h, hlines, rfl, hattr, hfails⟩ := h
      obtain ⟨pass, hstage, hawait, hrun⟩ := Pass.exists_run_opening h
      have hstep := Pass.step_of_kind hstage hawait protocol (opening.lines.length + 1) attr
      simp only [hattr] at hstep
      -- the attribute is noted, then the line below it cannot be read
      set awaiting := pass.copy [attr] { pass.scan with awaited := some kind } with hawaiting
      have hwaiting : awaiting.scan.stage = .waiting opening.region := hstage
      have hdecl : awaiting.step protocol (opening.lines.length + 1 + 1) decl =
          .error (.faulty fault) := Pass.step_of_fails hwaiting rfl hfails
      rw [regenerate, hlines, hrun, Pass.run_cons_of_step hstep, Pass.run, hdecl]

/-- **A fault is reported exactly if it blocks the file.** -/
theorem regenerate_eq_error_iff {protocol : Protocol} {text : String} {fault : Fault} :
    regenerate protocol text = .error fault ↔ Blocked protocol (Text.lines text.toList) fault := by
  refine ⟨fun h => ?_, regenerate_of_blocked⟩
  have hannotated : ¬ regenerate protocol text = .ok .notAnnotated := by
    rw [h]
    nofun
  rw [regenerate_eq_notAnnotated_iff, not_or, not_exists] at hannotated
  obtain ⟨hempty, hheader⟩ := hannotated
  cases hlines : Text.lines text.toList with
  | nil =>
      have hflat := Text.lines_flatten text.toList
      rw [hlines] at hflat
      exact absurd (String.toList_eq_nil_iff.mp hflat.symm) hempty
  | cons header rest =>
      have hcarries : protocol.CarriesHeader header := by
        by_contra hnone
        exact hheader header ⟨rest, hlines, hnone⟩
      rcases exists_layout_or_blocked hcarries rest with
        ⟨layout, hlayout, hsame⟩ | ⟨other, hblocked⟩
      · -- a file with a layout is accepted
        have hok := regenerate_eq_annotated_iff.mpr
          ⟨layout, hlayout, hsame.trans hlines.symm, rfl⟩
        rw [h] at hok
        cases hok
      · rw [← hlines] at hblocked ⊢
        have hother := regenerate_of_blocked hblocked
        rw [h] at hother
        cases hother
        exact hblocked

/-! ## Where faults are found -/

/-- After these lines the pass searches for the marker of a region and awaits no declaration. -/
def Searches (protocol : Protocol) (lines : List (List Char)) (region : Region) : Prop :=
  ∃ pass, Pass.run protocol 1 lines {} = .ok pass ∧ pass.scan.stage = .waiting region ∧
    pass.scan.awaited = none

/-- A fault of a declaration names the line of the declaration. -/
theorem Declaration.line?_of_fails {kind : FieldKind} {number : Nat} {content : List Char}
    {fault : Fault} (h : Fails kind number content fault) : fault.line? = some number := by
  have hsplit (fault : Fault) (h : split number content = .error fault) :
      fault.line? = some number := by
    unfold split at h
    split at h
    · cases h
      rfl
    · split at h
      · cases h
      · cases h
        rfl
  cases kind with
  | state =>
      have hread : readState number content = .error fault := h
      unfold readState at hread
      split at hread
      · split at hread
        · cases hread
        · cases hread
          rfl
      · rename_i hother
        cases hread
        exact hsplit _ hother
  | prop =>
      have hread : readProp number content = .error fault := h
      unfold readProp at hread
      split at hread
      · cases hread
      · rename_i hother
        cases hread
        exact hsplit _ hother

theorem FaultAt.line? {protocol : Protocol} {lines : List (List Char)} {number : Nat}
    {fault : Fault} (h : FaultAt protocol lines number fault) : fault.line? = some number := by
  obtain ⟨opening, kind, attr, decl, rest, -, -, -, -, hfails⟩ := h
  exact Declaration.line?_of_fails hfails

theorem FaultAt.three_le {protocol : Protocol} {lines : List (List Char)} {number : Nat}
    {fault : Fault} (h : FaultAt protocol lines number fault) : 3 ≤ number := by
  obtain ⟨opening, kind, attr, decl, rest, -, -, rfl, -, -⟩ := h
  simp [Opening.lines]

/-- The lines below a faulty declaration have no part in the fault, nor have the blanks around the
declaration, such as its line ending. -/
theorem FaultAt.of_same_lines {protocol : Protocol} {lines other : List (List Char)} {number : Nat}
    {fault : Fault} (h : FaultAt protocol lines number fault)
    (habove : other.take (number - 1) = lines.take (number - 1))
    (hdecl : other[number - 1]?.map Text.trim = lines[number - 1]?.map Text.trim) :
    FaultAt protocol other number fault := by
  obtain ⟨opening, kind, attr, decl, rest, hopening, rfl, rfl, hattr, hfails⟩ := h
  set above := opening.lines ++ [attr] with hsplit
  have hlength : opening.lines.length + 2 - 1 = above.length := by
    rw [hsplit, List.length_append, List.length_singleton]
    omega
  have hlines : opening.lines ++ attr :: decl :: rest = above ++ decl :: rest := by
    rw [hsplit, List.append_assoc]
    rfl
  rw [hlength, hlines, List.take_left] at habove
  rw [hlength, hlines, ← List.head?_drop, ← List.head?_drop, List.drop_left] at hdecl
  -- the other file goes on with a line that differs from the declaration by blanks only
  obtain ⟨line, hline, htrim⟩ := Option.map_eq_some_iff.mp hdecl
  obtain ⟨below, hbelow⟩ := List.head?_eq_some_iff.mp hline
  refine ⟨opening, kind, attr, line, below, hopening, ?_, rfl, hattr, htrim ▸ hfails⟩
  calc other
      = other.take above.length ++ other.drop above.length := (List.take_append_drop _ _).symm
    _ = above ++ line :: below := by rw [habove, hbelow]
    _ = opening.lines ++ attr :: line :: below := by
        rw [hsplit, List.append_assoc]
        rfl

/-- The attribute above a faulty declaration is found in the search for a marker. -/
theorem FaultAt.searches {protocol : Protocol} {lines : List (List Char)} {number : Nat}
    {fault : Fault} (h : FaultAt protocol lines number fault) :
    ∃ region, Searches protocol (lines.take (number - 2)) region := by
  obtain ⟨opening, kind, attr, decl, rest, hopening, rfl, rfl, -, -⟩ := h
  obtain ⟨pass, hstage, hawait, hrun⟩ := Pass.exists_run_opening hopening
  refine ⟨opening.region, pass, ?_, hstage, hawait⟩
  have hend := hrun []
  rw [List.append_nil] at hend
  rw [Nat.add_sub_cancel, List.take_left, hend, Pass.run]

/-- A fault that names a line is the fault of a declaration. -/
theorem Blocked.faultAt {protocol : Protocol} {lines : List (List Char)} {fault : Fault}
    (h : Blocked protocol lines fault) {number : Nat} (hline : fault.line? = some number) :
    FaultAt protocol lines number fault := by
  cases h with
  | ended opening h hlines => cases hline
  | undeclared opening h kind attr hattr hlines => cases hline
  | unfilled opening h marker hmarker hlines => cases hline
  | unreadable other fault h =>
      obtain rfl := Option.some.inj (h.line?.symm.trans hline)
      exact h

/-- How a file ends before its third region: in the search for a marker, perhaps with an attribute
as its last line, or with a marker as its last line. -/
theorem blocked_truncated_iff {protocol : Protocol} {lines : List (List Char)} {stage : Stage} :
    Blocked protocol lines (.truncated stage) ↔
      ∃ opening : Opening, opening.WellFormed protocol ∧
        (stage = .waiting opening.region ∧
            (lines = opening.lines ∨ ∃ kind attr, protocol.lineKind attr = .attributeOf kind ∧
              lines = opening.lines ++ [attr]) ∨
          stage = .inside opening.region ∧ ∃ marker, protocol.lineKind marker = .marker ∧
            lines = opening.lines ++ [marker]) := by
  constructor
  · intro h
    cases h with
    | ended opening h hlines => exact ⟨opening, h, Or.inl ⟨rfl, Or.inl hlines⟩⟩
    | undeclared opening h kind attr hattr hlines =>
        exact ⟨opening, h, Or.inl ⟨rfl, Or.inr ⟨kind, attr, hattr, hlines⟩⟩⟩
    | unfilled opening h marker hmarker hlines =>
        exact ⟨opening, h, Or.inr ⟨rfl, marker, hmarker, hlines⟩⟩
    | unreadable number _ h => cases h.line?
  · rintro ⟨opening, h,
      ⟨rfl, hlines | ⟨kind, attr, hattr, hlines⟩⟩ | ⟨rfl, marker, hmarker, hlines⟩⟩
    · exact .ended opening h hlines
    · exact .undeclared opening h kind attr hattr hlines
    · exact .unfilled opening h marker hmarker hlines

/-- A blocked file starts with the header. -/
theorem Blocked.exists_header {protocol : Protocol} {lines : List (List Char)} {fault : Fault}
    (h : Blocked protocol lines fault) :
    ∃ header rest, lines = header :: rest ∧ protocol.CarriesHeader header := by
  have hstart (opening : Opening) (hopening : opening.WellFormed protocol)
      (hbegins : opening.lines <+: lines) :
      ∃ header rest, lines = header :: rest ∧ protocol.CarriesHeader header := by
    obtain ⟨rest, rfl⟩ := hbegins
    exact ⟨opening.header, _, rfl, hopening.header⟩
  cases h with
  | ended opening h hlines => exact hstart opening h (hlines ▸ List.prefix_rfl)
  | undeclared opening h kind attr hattr hlines =>
      exact hstart opening h (hlines ▸ List.prefix_append _ _)
  | unfilled opening h marker hmarker hlines =>
      exact hstart opening h (hlines ▸ List.prefix_append _ _)
  | unreadable number fault h =>
      obtain ⟨opening, kind, attr, decl, rest, hopening, hlines, -, -, -⟩ := h
      exact hstart opening hopening (hlines ▸ List.prefix_append _ _)

/-- Whatever stands below the third region, the file is accepted. -/
theorem regenerate_of_head {protocol : Protocol} {text : String} {layout : Layout}
    (h : layout.WellFormed protocol) (hhead : layout.head <+: Text.lines text.toList) :
    ∃ result, regenerate protocol text = .ok (.annotated result) := by
  obtain ⟨tail, htail⟩ := hhead
  -- the lines down to the third region are enough for a layout of the whole file
  let whole : Layout := { layout with tail := tail }
  have hwhole : whole.WellFormed protocol := ⟨h.header, h.accessors, h.parameters, h.diff⟩
  have hlines : whole.lines = Text.lines text.toList := by
    rw [whole.lines_eq_head, ← htail]
    rfl
  exact ⟨whole.result, regenerate_eq_annotated_iff.mpr ⟨whole, hwhole, hlines, rfl⟩⟩

/-- A file is truncated exactly if it starts with the header, no declaration is at fault and the
third region is not reached. -/
theorem exists_truncated_iff {protocol : Protocol} {text : String} :
    (∃ stage, regenerate protocol text = .error (.truncated stage)) ↔
      (∃ header rest, Text.lines text.toList = header :: rest ∧ protocol.CarriesHeader header) ∧
      (¬ ∃ n fault, FaultAt protocol (Text.lines text.toList) n fault) ∧
      ¬ ∃ layout : Layout, layout.WellFormed protocol ∧ layout.head <+: Text.lines text.toList := by
  constructor
  · rintro ⟨stage, h⟩
    refine ⟨(regenerate_eq_error_iff.mp h).exists_header, ?_, ?_⟩
    · rintro ⟨n, fault, hfault⟩
      have hother := regenerate_of_blocked (.unreadable n fault hfault)
      rw [h] at hother
      cases hother
      cases hfault.line?
    · rintro ⟨layout, hlayout, hhead⟩
      obtain ⟨result, hok⟩ := regenerate_of_head hlayout hhead
      rw [h] at hok
      cases hok
  · rintro ⟨⟨header, rest, hlines, hheader⟩, hfault, hlayout⟩
    rcases exists_layout_or_blocked hheader rest with ⟨layout, h, hsame⟩ | ⟨fault, hblocked⟩
    · refine absurd ⟨layout, h, ?_⟩ hlayout
      rw [hlines, ← hsame, layout.lines_eq_head]
      exact List.prefix_append _ _
    · rw [← hlines] at hblocked
      have hnone : fault.line? = none := by
        rw [Option.eq_none_iff_forall_ne_some]
        intro n hline
        exact hfault ⟨n, fault, hblocked.faultAt hline⟩
      cases fault with
      | truncated stage => exact ⟨stage, regenerate_of_blocked hblocked⟩
      | missingVisibility n content => cases hnone
      | tokenCount n found content => cases hnone
      | malformedStateType n ty => cases hnone

/-- The last line of the file is a marker that the pass finds where it searches for one. -/
def EndsAtMarker (protocol : Protocol) (lines : List (List Char)) : Prop :=
  ∃ (opening : Opening) (marker : List Char), opening.WellFormed protocol ∧
    protocol.lineKind marker = .marker ∧ lines = opening.lines ++ [marker]

/-- A truncated file ends at the line of a region exactly if it ends with a marker, and otherwise in
the search for one. -/
theorem stage_of_truncated {protocol : Protocol} {text : String} {stage : Stage}
    (h : regenerate protocol text = .error (.truncated stage)) :
    stage ≠ .firstLine ∧ stage ≠ .tail ∧
      ((∃ region, stage = .inside region) ↔ EndsAtMarker protocol (Text.lines text.toList)) := by
  have hinside : EndsAtMarker protocol (Text.lines text.toList) →
      ∃ region, stage = .inside region := by
    rintro ⟨opening, marker, hopening, hmarker, hlines⟩
    have hother := regenerate_of_blocked (.unfilled opening hopening marker hmarker hlines)
    rw [h] at hother
    cases hother
    exact ⟨opening.region, rfl⟩
  obtain ⟨opening, hopening, ⟨rfl, -⟩ | ⟨rfl, marker, hmarker, hlines⟩⟩ :=
    blocked_truncated_iff.mp (regenerate_eq_error_iff.mp h)
  · refine ⟨nofun, nofun, ?_, hinside⟩
    rintro ⟨region, hregion⟩
    cases hregion
  · exact ⟨nofun, nofun, fun _ => ⟨opening, marker, hopening, hmarker, hlines⟩, hinside⟩

/-- **Faults are exact and local.**

* A fault that names line `n` is what the line gives when it is read as the attribute above it asks.
  The attribute was found in the search for a marker, and all declarations above it can be read.
  Every file with the same first `n` lines, but for blanks around the last of them, has the same
  fault.
* A file is truncated exactly if its first line carries the header, no declaration is at fault and
  its third region is not reached. It then ends in the search for a marker, perhaps with an
  attribute, or at the line of a region, with a marker.
* Whatever stands below the third region, there is no fault. -/
theorem faults_are_exact_and_local (protocol : Protocol) (text : String) :
    (∀ (fault : Fault) (n : Nat), regenerate protocol text = .error fault → fault.line? = some n →
      3 ≤ n ∧ FaultAt protocol (Text.lines text.toList) n fault ∧
      (∃ region, Searches protocol ((Text.lines text.toList).take (n - 2)) region) ∧
      ∀ other : String,
        (Text.lines other.toList).take (n - 1) = (Text.lines text.toList).take (n - 1) →
        (Text.lines other.toList)[n - 1]?.map Text.trim =
          (Text.lines text.toList)[n - 1]?.map Text.trim →
        regenerate protocol other = .error fault) ∧
    ((∃ stage, regenerate protocol text = .error (.truncated stage)) ↔
      (∃ header rest, Text.lines text.toList = header :: rest ∧ protocol.CarriesHeader header) ∧
      (¬ ∃ n fault, FaultAt protocol (Text.lines text.toList) n fault) ∧
      ¬ ∃ layout : Layout, layout.WellFormed protocol ∧ layout.head <+: Text.lines text.toList) ∧
    (∀ stage, regenerate protocol text = .error (.truncated stage) ↔
      ∃ opening : Opening, opening.WellFormed protocol ∧
        (stage = .waiting opening.region ∧
            (Text.lines text.toList = opening.lines ∨
              ∃ kind attr, protocol.lineKind attr = .attributeOf kind ∧
                Text.lines text.toList = opening.lines ++ [attr]) ∨
          stage = .inside opening.region ∧ ∃ marker, protocol.lineKind marker = .marker ∧
            Text.lines text.toList = opening.lines ++ [marker])) ∧
    (∀ stage, regenerate protocol text = .error (.truncated stage) →
      stage ≠ .firstLine ∧ stage ≠ .tail ∧
      ((∃ region, stage = .inside region) ↔ EndsAtMarker protocol (Text.lines text.toList))) ∧
    ∀ layout : Layout, layout.WellFormed protocol → layout.head <+: Text.lines text.toList →
      ∃ result, regenerate protocol text = .ok (.annotated result) := by
  refine ⟨?_, exists_truncated_iff, ?_, fun _ => stage_of_truncated,
    fun _ => regenerate_of_head⟩
  · intro fault n h hline
    have hfault := (regenerate_eq_error_iff.mp h).faultAt hline
    refine ⟨hfault.three_le, hfault, hfault.searches, ?_⟩
    intro other habove hdecl
    exact regenerate_of_blocked (.unreadable n fault (hfault.of_same_lines habove hdecl))
  · intro stage
    rw [regenerate_eq_error_iff, blocked_truncated_iff]

/-- A file whose second declaration is a state of the wrong form, below its first region. -/
def misdeclaredText : String := "#\nP\nprivate N x\n@\n\nS\nprivate N y\n@"

theorem faults_of_misdeclaredText_are_exact_and_local :
    regenerate sampleProtocol misdeclaredText = .error (.malformedStateType 7 "N") ∧
      FaultAt sampleProtocol (Text.lines misdeclaredText.toList) 7 (.malformedStateType 7 "N") ∧
      regenerate sampleProtocol "#\nP\nprivate N x\n@\n\nS\nprivate N y\r\nP\n?" =
        .error (.malformedStateType 7 "N") := by
  have h : regenerate sampleProtocol misdeclaredText = .error (.malformedStateType 7 "N") := by
    decide +kernel
  obtain ⟨-, hfault, -, hlocal⟩ := (faults_are_exact_and_local _ _).1 _ 7 h rfl
  exact ⟨h, hfault, hlocal _ (by decide +kernel) (by decide +kernel)⟩

end RegionSync
