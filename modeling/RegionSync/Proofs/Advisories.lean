import RegionSync.Proofs.LineEndings

set_option autoImplicit false

/-! # Advisories

A prop gets an advisory exactly if its type has none of the known spellings
(`TypeKind.classify_eq_unknown_iff`). The rules for the spellings overlap and are tried one after
the other; together they ask for nothing but these spellings, since the two ends of a setter type
cannot share a character.

The advisories of a pass stand on the lines of the declarations. `Advises` says this of some lines
of a file together with the props that they declare, and holds of lines that are put together from
parts of which it holds (`Advises.append`). So it holds of items, of blocks and of the whole file
(`Layout.advises`).
-/

namespace RegionSync

/-! ## Types that are not recognised -/

namespace Text

variable {start ending text : List Char} {c : Char}

/-- A beginning and an ending that share no character stand in a text side by side. -/
theorem startsWith_endsWith_iff (h : c ∉ start) :
    startsWith start text = true ∧ endsWith (c :: ending) text = true ↔
      ∃ inner, text = start ++ inner ++ c :: ending := by
  rw [endsWith_iff, startsWith, List.isPrefixOf_iff_prefix]
  constructor
  · rintro ⟨hstart, front, rfl⟩
    obtain ⟨inner, rfl⟩ := (prefix_append_cons_iff h).mp hstart
    exact ⟨inner, rfl⟩
  · rintro ⟨inner, rfl⟩
    exact ⟨⟨inner ++ c :: ending, by simp⟩, List.suffix_append _ _⟩

end Text

namespace TypeKind

/-- The type has none of the spellings that are known to be immutable. -/
structure Unrecognized (ty : String) : Prop where
  primitive : ty ∉ ["int", "long", "float", "double", "bool", "string"]
  setter : ∀ inner, ty ≠ "State<" ++ inner ++ ">.SetterType"
  callback : ¬ "CallbackType.".toList <+: ty.toList
  action : ¬ "Action".toList <+: ty.toList
  enumFirst : ¬ "Enum".toList <+: ty.toList
  enumLast : ¬ "Enum".toList <:+ ty.toList

theorem setter_iff (ty : String) :
    (Text.startsWith "State<".toList ty.toList && Text.endsWith ">.SetterType".toList ty.toList) =
        true ↔ ∃ inner, ty = "State<" ++ inner ++ ">.SetterType" := by
  have hend : ">.SetterType".toList = '>' :: ".SetterType".toList := by decide
  rw [Bool.and_eq_true, hend, Text.startsWith_endsWith_iff (by decide), ← hend]
  constructor
  · rintro ⟨inner, hty⟩
    have hinner : (String.ofList inner).toList = inner := String.toList_ofList
    refine ⟨String.ofList inner, String.toList_inj.mp ?_⟩
    rw [hty, String.toList_append, String.toList_append, hinner]
  · rintro ⟨inner, rfl⟩
    exact ⟨inner.toList, by rw [String.toList_append, String.toList_append]⟩

theorem classify_eq_unknown_iff (ty : String) : classify ty = .unknown ↔ Unrecognized ty := by
  have hstart (start : List Char) : Text.startsWith start ty.toList = true ↔ start <+: ty.toList :=
    List.isPrefixOf_iff_prefix
  unfold classify
  simp only [hstart, Bool.or_eq_true, Text.endsWith_iff]
  constructor
  · intro h
    split_ifs at h with hprimitive hsetter hcallback haction henum
    rw [setter_iff] at hsetter
    exact ⟨hprimitive, not_exists.mp hsetter, hcallback, haction, fun hfirst => henum (.inl hfirst),
      fun hlast => henum (.inr hlast)⟩
  · rintro ⟨hprimitive, hsetter, hcallback, haction, hfirst, hlast⟩
    rw [← not_exists, ← setter_iff] at hsetter
    rw [if_neg (show ty ∉ primitives from hprimitive), if_neg hsetter, if_neg hcallback,
      if_neg haction, if_neg (not_or.mpr ⟨hfirst, hlast⟩)]

instance (ty : String) : Decidable (Unrecognized ty) :=
  decidable_of_iff _ (classify_eq_unknown_iff ty)

end TypeKind

open TypeKind (Unrecognized)

theorem Advisory.check_of_unrecognized {prop : PropField} (h : Unrecognized prop.ty) (number : Nat) :
    check number prop = some ⟨number, prop⟩ := by
  have hkind : prop.kind = .unknown := (TypeKind.classify_eq_unknown_iff _).mpr h
  rw [check, hkind]
  rfl

theorem Advisory.check_of_recognized {prop : PropField} (h : ¬ Unrecognized prop.ty)
    (number : Nat) : check number prop = none := by
  have hkind : prop.kind ≠ .unknown := fun hkind =>
    h ((TypeKind.classify_eq_unknown_iff _).mp hkind)
  rw [check, if_pos (by simpa [TypeKind.isRecognized] using hkind)]

theorem Protocol.trim_of_attributeOf_prop {protocol : Protocol} {line : List Char}
    (h : protocol.lineKind line = .attributeOf .prop) :
    Text.trim line = protocol.propAttribute.toList ∧
      Text.trim line ≠ protocol.stateAttribute.toList := by
  unfold lineKind at h
  split_ifs at h with hgenerated hstate hprop
  · cases h
  · exact ⟨hprop, hstate⟩

/-! ## Advisories on some lines -/

/-- The advisory stands on one of `lines`, the first of which has the number `number`: the line
declares its prop, and the line above is an attribute of props. -/
def Advisory.PlacedIn (protocol : Protocol) (number : Nat) (lines : List (List Char))
    (advisory : Advisory) : Prop :=
  ∃ front attr decl back, lines = front ++ attr :: decl :: back ∧
    advisory.line = number + front.length + 1 ∧ protocol.lineKind attr = .attributeOf .prop ∧
    Declaration.readProp advisory.line (Text.trim decl) = .ok advisory.prop

/-- The advisories on some lines, the first of which has the number `number`, and on the props that
these lines declare. -/
structure Advises (protocol : Protocol) (number : Nat) (lines : List (List Char))
    (props : List PropField) (advisories : List Advisory) : Prop where
  complete : advisories.map Advisory.prop = props.filter fun prop => Unrecognized prop.ty
  placed : ∀ advisory ∈ advisories, advisory.PlacedIn protocol number lines
  increasing : advisories.Pairwise fun first second => first.line < second.line

section

variable {protocol : Protocol} {number : Nat} {lines front back : List (List Char)}
  {props props' : List PropField} {advisories advisories' : List Advisory} {advisory : Advisory}

namespace Advisory.PlacedIn

theorem line_gt (h : advisory.PlacedIn protocol number lines) : number < advisory.line := by
  obtain ⟨front, attr, decl, back, -, hline, -⟩ := h
  omega

theorem line_lt (h : advisory.PlacedIn protocol number lines) :
    advisory.line < number + lines.length := by
  obtain ⟨front, attr, decl, back, rfl, hline, -⟩ := h
  simp only [List.length_append, List.length_cons]
  omega

theorem append_right (h : advisory.PlacedIn protocol number front) (back : List (List Char)) :
    advisory.PlacedIn protocol number (front ++ back) := by
  obtain ⟨above, attr, decl, below, rfl, hline, hrest⟩ := h
  exact ⟨above, attr, decl, below ++ back, by simp, hline, hrest⟩

theorem append_left (front : List (List Char))
    (h : advisory.PlacedIn protocol (number + front.length) back) :
    advisory.PlacedIn protocol number (front ++ back) := by
  obtain ⟨above, attr, decl, below, rfl, hline, hrest⟩ := h
  refine ⟨front ++ above, attr, decl, below, by simp, ?_, hrest⟩
  rw [hline, List.length_append]
  omega

end Advisory.PlacedIn

namespace Advises

/-- There is nothing to advise on where no prop is declared. -/
theorem none (protocol : Protocol) (number : Nat) (lines : List (List Char)) :
    Advises protocol number lines [] [] :=
  ⟨rfl, by simp, List.Pairwise.nil⟩

/-- Lines that follow each other: the advisories on the first come before those on the others. -/
theorem append (h : Advises protocol number front props advisories)
    (h' : Advises protocol (number + front.length) back props' advisories') :
    Advises protocol number (front ++ back) (props ++ props') (advisories ++ advisories') where
  complete := by rw [List.map_append, List.filter_append, h.complete, h'.complete]
  placed := by
    intro advisory hadvisory
    rcases List.mem_append.mp hadvisory with hadvisory | hadvisory
    · exact (h.placed advisory hadvisory).append_right back
    · exact (h'.placed advisory hadvisory).append_left front
  increasing := by
    refine List.pairwise_append.mpr ⟨h.increasing, h'.increasing, ?_⟩
    intro first hfirst second hsecond
    have hbefore := (h.placed first hfirst).line_lt
    have hafter := (h'.placed second hsecond).line_gt
    omega

end Advises

/-! ## Items, blocks and files -/

theorem Item.advises {item : Item} (h : item.WellFormed protocol) (number : Nat) :
    Advises protocol number item.lines item.props (item.advisories number) := by
  cases item with
  | plain line => exact Advises.none protocol number _
  | state attr decl field => exact Advises.none protocol number _
  | prop attr decl field =>
      obtain ⟨hattr, other, hread⟩ := h
      by_cases hty : Unrecognized field.ty
      · rw [advisories, Advisory.check_of_unrecognized hty]
        refine ⟨?_, fun advisory hadvisory => ?_, List.pairwise_singleton _ _⟩
        · simp [props, hty]
        · rw [Option.toList_some, List.mem_singleton] at hadvisory
          subst hadvisory
          exact ⟨[], attr, decl, [], rfl, rfl, hattr, Declaration.readProp_number hread _⟩
      · rw [advisories, Advisory.check_of_recognized hty]
        exact ⟨by simp [props, hty], by simp, List.Pairwise.nil⟩

theorem Item.advises_flatMap {items : List Item} (h : ∀ item ∈ items, item.WellFormed protocol)
    (number : Nat) :
    Advises protocol number (items.flatMap Item.lines) (items.flatMap Item.props)
      (advisoriesFrom number items) := by
  induction items generalizing number with
  | nil => exact Advises.none protocol number _
  | cons item items ih =>
      have hitem := item.advises (h item (by simp)) number
      have hitems := ih (List.forall_mem_of_forall_mem_cons h) (number + item.lines.length)
      exact hitem.append hitems

theorem Block.advises {block : Block} (h : block.WellFormed protocol) (number : Nat) :
    Advises protocol number block.lines block.props (Item.advisoriesFrom number block.items) := by
  have hitems := Item.advises_flatMap h.1 number
  simpa [Block.lines, Block.props] using
    hitems.append (Advises.none protocol _ [block.marker, block.region])

theorem Layout.advises {layout : Layout} (h : layout.WellFormed protocol) :
    Advises protocol 1 layout.lines layout.props layout.advisories := by
  have hheader := Advises.none protocol 1 [layout.header]
  have haccessors := layout.accessors.advises h.accessors 2
  have hparameters := layout.parameters.advises h.parameters (2 + layout.accessors.lines.length)
  have hdiff := layout.diff.advises h.diff
    (2 + layout.accessors.lines.length + layout.parameters.lines.length)
  have htail := Advises.none protocol (2 + layout.accessors.lines.length +
    layout.parameters.lines.length + layout.diff.lines.length) layout.tail
  have hall := hheader.append
    (haccessors.append (hparameters.append (hdiff.append htail)))
  simpa [Layout.lines, Layout.props, Layout.advisories] using hall

end

/-- **The advisories of a pass are complete and stand where they belong.** They are on the props
whose types are not recognised, in the order of the props, and on increasing lines. The line of
an advisory declares its prop, and the line above it is the attribute of props, not that of
states. -/
theorem advisories_complete_and_placed {protocol : Protocol} {text : String} {result : Regenerated}
    (h : regenerate protocol text = .ok (.annotated result)) :
    result.advisories.map Advisory.prop =
      (result.props.filter fun prop => Unrecognized prop.ty) ∧
    (result.advisories.map Advisory.line).Pairwise (· < ·) ∧
    ∀ advisory ∈ result.advisories, ∃ n attr decl, advisory.line = n + 2 ∧
      (Text.lines text.toList)[n]? = some attr ∧ (Text.lines text.toList)[n + 1]? = some decl ∧
      Text.trim attr = protocol.propAttribute.toList ∧
      Text.trim attr ≠ protocol.stateAttribute.toList ∧
      Declaration.readProp advisory.line (Text.trim decl) = .ok advisory.prop := by
  obtain ⟨layout, hlayout, hlines, rfl⟩ := regenerate_eq_annotated_iff.mp h
  obtain ⟨hcomplete, hplaced, hincreasing⟩ := layout.advises hlayout
  refine ⟨hcomplete, List.pairwise_map.mpr hincreasing, fun advisory hadvisory => ?_⟩
  obtain ⟨front, attr, decl, back, hcut, hline, hattr, hread⟩ := hplaced advisory hadvisory
  obtain ⟨hprop, hstate⟩ := Protocol.trim_of_attributeOf_prop hattr
  refine ⟨front.length, attr, decl, by omega, ?_, ?_, hprop, hstate, hread⟩
  · rw [← hlines, hcut]
    simp
  · rw [← hlines, hcut]
    simp

/-- A file that declares a prop of an unknown type twice, with a state and another prop between. -/
def advisedText : String :=
  "#\nP\nprivate N x\nS\nprivate State<N> s\n@\n\nP\nprivate int y\nP\nprivate N x\n@\n\n@\n?"

/-- What regenerating the file gives. -/
def advisedResult : Regenerated where
  text := "#\nP\nprivate N x\nS\nprivate State<N> s\n@\n" ++
    "    public N P_s \x7b get => s.Get(police); set \x7b s.Set(value); \x7d \x7d \n" ++
    "P\nprivate int y\nP\nprivate N x\n@\n        N x_, int y_, N x_\n@\n" ++
    "        if (x != x_) \x7b x = x_; need_react = true; \x7d " ++
    "if (y != y_) \x7b y = y_; need_react = true; \x7d " ++
    "if (x != x_) \x7b x = x_; need_react = true; \x7d "
  props := [⟨"N", "x"⟩, ⟨"int", "y"⟩, ⟨"N", "x"⟩]
  states := [⟨"N", "s"⟩]
  advisories := [⟨3, ⟨"N", "x"⟩⟩, ⟨11, ⟨"N", "x"⟩⟩]
  changed := true

theorem advisories_of_advisedText_complete_and_placed :
    regenerate sampleProtocol advisedText = .ok (.annotated advisedResult) ∧
      advisedResult.advisories.map Advisory.prop =
        (advisedResult.props.filter fun prop => Unrecognized prop.ty) ∧
      (advisedResult.advisories.map Advisory.line).Pairwise (· < ·) ∧
      ∃ n attr decl, 11 = n + 2 ∧ (Text.lines advisedText.toList)[n]? = some attr ∧
        (Text.lines advisedText.toList)[n + 1]? = some decl ∧ Text.trim attr = ['P'] ∧
        Declaration.readProp 11 (Text.trim decl) = .ok ⟨"N", "x"⟩ := by
  have h : regenerate sampleProtocol advisedText = .ok (.annotated advisedResult) := by
    decide +kernel
  obtain ⟨hcomplete, hincreasing, hplaced⟩ := advisories_complete_and_placed h
  obtain ⟨n, attr, decl, hline, hattr, hdecl, hprop, -, hread⟩ :=
    hplaced ⟨11, ⟨"N", "x"⟩⟩ (by decide)
  exact ⟨h, hcomplete, hincreasing, n, attr, decl, hline, hattr, hdecl, hprop, hread⟩

end RegionSync
