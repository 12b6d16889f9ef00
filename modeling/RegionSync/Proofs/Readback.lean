import RegionSync.Proofs.Coherence
import RegionSync.Proofs.Words

set_option autoImplicit false

/-! # Regions can be read back

The types and names in a region are arbitrary words: they may hold commas and braces, or look like
parts of the text around them. They cannot hold white space, though, and the fixed texts of a region
have white space at fixed places. So the words of a region come in groups of the same size, one for
each field (`words_flatMap_accessor`, `words_flatMap_takeover`), and the groups give the fields
back. Hence a region determines the fields it was rendered from, the diff region their names, and
none of them is taken for the region of an empty class (`regions_determine_fields`).
-/

namespace RegionSync

/-! ## Groups of words -/

namespace Text

variable {α β : Type} {parts : α → List β} {fields first second : List α} {size : Nat}

/-- The groups of `size` members of `group.reverse ++ rest`, where `group` is the group being read,
its newest member first. Only the last group may be smaller. -/
def groupsFrom (size : Nat) : List β → List β → List (List β)
  | group, [] => if group.isEmpty then [] else [group.reverse]
  | group, x :: rest =>
    if group.length + 1 = size then (x :: group).reverse :: groupsFrom size [] rest
    else groupsFrom size (x :: group) rest

/-- A list cut into groups of `size` members. -/
def groups (size : Nat) (all : List β) : List (List β) := groupsFrom size [] all

example : groups 2 [1, 2, 3, 4, 5] = [[1, 2], [3, 4], [5]] := by decide

theorem groupsFrom_append {group part : List β} (hpart : part ≠ [])
    (hsize : group.length + part.length = size) (rest : List β) :
    groupsFrom size group (part ++ rest) = (group.reverse ++ part) :: groupsFrom size [] rest := by
  induction part generalizing group with
  | nil => exact absurd rfl hpart
  | cons x part ih =>
      rw [List.length_cons] at hsize
      rw [List.cons_append, groupsFrom]
      by_cases hlast : part = []
      · rw [hlast, List.length_nil] at hsize
        rw [if_pos hsize, hlast, List.reverse_cons, List.nil_append]
      · have hpos := List.length_pos_iff.mpr hlast
        rw [if_neg (by omega), ih hlast (by rw [List.length_cons]; omega)]
        simp

/-- Groups of one size, none of them empty, are read back. -/
theorem groups_flatMap (hpos : 0 < size) (hsize : ∀ x, (parts x).length = size) (fields : List α) :
    groups size (fields.flatMap parts) = fields.map parts := by
  induction fields with
  | nil => rfl
  | cons x fields ih =>
      have hne : parts x ≠ [] := List.length_pos_iff.mp (by rw [hsize]; exact hpos)
      have hlength : ([] : List β).length + (parts x).length = size := by simp [hsize]
      rw [List.flatMap_cons, groups, groupsFrom_append hne hlength, List.map_cons, ← ih]
      rfl

theorem map_eq_of_flatMap_eq (hpos : 0 < size) (hsize : ∀ x, (parts x).length = size)
    (h : first.flatMap parts = second.flatMap parts) : first.map parts = second.map parts := by
  rw [← groups_flatMap hpos hsize first, h, groups_flatMap hpos hsize]

/-- What is written group by group, with a blank behind each word, is read back as one list of
words. -/
theorem words_flatMap {render : α → List Char} {parts : α → List (List Char)}
    (hrender : ∀ field, render field = spaced (parts field))
    (hwords : ∀ field ∈ fields, ∀ word ∈ parts field, IsWord word) :
    words (fields.flatMap render) = fields.flatMap parts := by
  have hspaced : fields.flatMap render = spaced (fields.flatMap parts) := by
    rw [spaced_flatMap, funext hrender]
  rw [hspaced, words_spaced]
  intro word hword
  obtain ⟨field, hfield, hmem⟩ := List.mem_flatMap.mp hword
  exact hwords field hfield word hmem

/-- Ending every part with the separator is joining the parts and adding a separator. -/
theorem flatten_intersperse_append_separator (separator : List Char) {parts : List (List Char)}
    (h : parts ≠ []) :
    (parts.intersperse separator).flatten ++ separator = parts.flatMap (· ++ separator) := by
  induction parts with
  | nil => exact absurd rfl h
  | cons part parts ih =>
      cases parts with
      | nil => simp
      | cons next parts =>
          have hrest := ih (by simp)
          rw [List.intersperse_cons_cons, List.flatten_cons, List.flatten_cons, List.append_assoc,
            List.append_assoc, hrest]
          simp only [List.flatMap_cons, List.append_assoc]

end Text

instance (state : StateField) : Decidable state.WellFormed := inferInstanceAs (Decidable (_ ∧ _))

instance (prop : PropField) : Decidable prop.WellFormed := inferInstanceAs (Decidable (_ ∧ _))

namespace Region

open Text (IsWord NoBreak spaced)

variable {state : StateField} {prop : PropField} {states states' : List StateField}
  {props props' : List PropField}

/-! ## The words of the regions -/

/-- The words of an accessor. -/
def accessorWords (state : StateField) : List (List Char) :=
  ["public".toList, state.ty.toList, state.accessorName.toList, "\x7b".toList, "get".toList,
    "=>".toList, state.name.toList ++ ".Get(police);".toList, "set".toList, "\x7b".toList,
    state.name.toList ++ ".Set(value);".toList, "\x7d".toList, "\x7d".toList]

/-- The words of a formal parameter with a comma behind it. -/
def paramWords (prop : PropField) : List (List Char) :=
  [prop.ty.toList, prop.paramName.toList ++ ",".toList]

/-- The words of a guarded assignment. -/
def takeoverWords (prop : PropField) : List (List Char) :=
  ["if".toList, "(".toList ++ prop.name.toList, "!=".toList, prop.paramName.toList ++ ")".toList,
    "\x7b".toList, prop.name.toList, "=".toList, prop.paramName.toList ++ ";".toList,
    "need_react".toList, "=".toList, "true;".toList, "\x7d".toList]

theorem length_accessorWords (state : StateField) : (accessorWords state).length = 12 := rfl

theorem length_paramWords (prop : PropField) : (paramWords prop).length = 2 := rfl

theorem length_takeoverWords (prop : PropField) : (takeoverWords prop).length = 12 := rfl

theorem accessor_eq_spaced (state : StateField) : accessor state = spaced (accessorWords state) := by
  have hpublic : "public ".toList = "public".toList ++ [' '] := by decide
  have hget : " \x7b get => ".toList =
      [' '] ++ "\x7b".toList ++ [' '] ++ "get".toList ++ [' '] ++ "=>".toList ++ [' '] := by decide
  have hset : ".Get(police); set \x7b ".toList =
      ".Get(police);".toList ++ [' '] ++ "set".toList ++ [' '] ++ "\x7b".toList ++ [' '] := by decide
  have hend : ".Set(value); \x7d \x7d ".toList =
      ".Set(value);".toList ++ [' '] ++ "\x7d".toList ++ [' '] ++ "\x7d".toList ++ [' '] := by decide
  have hblank : " ".toList = [' '] := by decide
  unfold accessor
  rw [hpublic, hget, hset, hend, hblank]
  simp only [accessorWords, spaced, List.flatMap_cons, List.flatMap_nil, List.append_assoc,
    List.append_nil]

theorem formalParam_eq_spaced (prop : PropField) :
    prop.formalParam.toList ++ ", ".toList = spaced (paramWords prop) := by
  have hcomma : ", ".toList = ",".toList ++ [' '] := by decide
  have hblank : " ".toList = [' '] := by decide
  unfold PropField.formalParam
  rw [String.toList_append, String.toList_append, hcomma, hblank]
  simp only [paramWords, spaced, List.flatMap_cons, List.flatMap_nil, List.append_assoc,
    List.append_nil]

theorem takeover_eq_spaced (prop : PropField) : takeover prop = spaced (takeoverWords prop) := by
  have hif : "if (".toList = "if".toList ++ [' '] ++ "(".toList := by decide
  have hne : " != ".toList = [' '] ++ "!=".toList ++ [' '] := by decide
  have hthen : ") \x7b ".toList = ")".toList ++ [' '] ++ "\x7b".toList ++ [' '] := by decide
  have heq : " = ".toList = [' '] ++ "=".toList ++ [' '] := by decide
  have hend : "; need_react = true; \x7d ".toList = ";".toList ++ [' '] ++ "need_react".toList ++
      [' '] ++ "=".toList ++ [' '] ++ "true;".toList ++ [' '] ++ "\x7d".toList ++ [' '] := by decide
  unfold takeover
  rw [hif, hne, hthen, heq, hend]
  simp only [takeoverWords, spaced, List.flatMap_cons, List.flatMap_nil, List.append_assoc,
    List.append_nil]

theorem isWord_paramName (h : IsWord prop.name.toList) : IsWord prop.paramName.toList := by
  rw [PropField.paramName, String.toList_append]
  exact h.append (by decide)

theorem isWord_accessorWords (h : state.WellFormed) : ∀ word ∈ accessorWords state, IsWord word := by
  have haccessor : IsWord state.accessorName.toList := by
    rw [StateField.accessorName, String.toList_append]
    exact IsWord.append (by decide) h.2
  have hget : IsWord (state.name.toList ++ ".Get(police);".toList) := h.2.append (by decide)
  have hset : IsWord (state.name.toList ++ ".Set(value);".toList) := h.2.append (by decide)
  simp only [accessorWords, List.forall_mem_cons]
  exact ⟨by decide, h.1, haccessor, by decide, by decide, by decide, hget, by decide, by decide,
    hset, by decide, by decide, by simp⟩

theorem isWord_paramWords (h : prop.WellFormed) : ∀ word ∈ paramWords prop, IsWord word := by
  have hname : IsWord (prop.paramName.toList ++ ",".toList) :=
    (isWord_paramName h.2).append (by decide)
  simp only [paramWords, List.forall_mem_cons]
  exact ⟨h.1, hname, by simp⟩

theorem isWord_takeoverWords (h : IsWord prop.name.toList) :
    ∀ word ∈ takeoverWords prop, IsWord word := by
  have hopen : IsWord ("(".toList ++ prop.name.toList) := IsWord.append (by decide) h
  have hclose : IsWord (prop.paramName.toList ++ ")".toList) :=
    (isWord_paramName h).append (by decide)
  have hend : IsWord (prop.paramName.toList ++ ";".toList) :=
    (isWord_paramName h).append (by decide)
  simp only [takeoverWords, List.forall_mem_cons]
  exact ⟨by decide, hopen, by decide, hclose, by decide, h, by decide, hend, by decide, by decide,
    by decide, by decide, by simp⟩

theorem words_flatMap_accessor (h : ∀ state ∈ states, state.WellFormed) :
    Text.words (states.flatMap accessor) = states.flatMap accessorWords :=
  Text.words_flatMap accessor_eq_spaced fun state hstate => isWord_accessorWords (h state hstate)

theorem words_flatMap_takeover (h : ∀ prop ∈ props, IsWord prop.name.toList) :
    Text.words (props.flatMap takeover) = props.flatMap takeoverWords :=
  Text.words_flatMap takeover_eq_spaced fun prop hprop => isWord_takeoverWords (h prop hprop)

/-- A list of parameters has the words of its members, once it is ended with a comma. -/
theorem words_joinedParams (hne : props ≠ []) (h : ∀ prop ∈ props, prop.WellFormed) :
    Text.words (joinedParams props ++ ", ".toList) = props.flatMap paramWords := by
  rw [joinedParams, Text.flatten_intersperse_append_separator _ (by simpa using hne),
    List.flatMap_map]
  exact Text.words_flatMap formalParam_eq_spaced fun prop hprop => isWord_paramWords (h prop hprop)

/-! ## Fields from words -/

theorem accessorWords_injective : Function.Injective accessorWords := by
  rintro ⟨ty, name⟩ ⟨ty', name'⟩ h
  simp only [accessorWords, List.cons.injEq] at h
  obtain ⟨-, hty, -, -, -, -, hget, -⟩ := h
  have hname := List.append_cancel_right hget
  rw [String.toList_inj] at hty hname
  rw [hty, hname]

theorem paramWords_injective : Function.Injective paramWords := by
  rintro ⟨ty, name⟩ ⟨ty', name'⟩ h
  simp only [paramWords, List.cons.injEq, PropField.paramName, String.toList_append] at h
  obtain ⟨hty, hparam, -⟩ := h
  have hname := List.append_cancel_right (List.append_cancel_right hparam)
  rw [String.toList_inj] at hty hname
  rw [hty, hname]

/-! ## Regions and placeholders -/

/-- A guarded assignment starts with a keyword. -/
theorem exists_takeover_eq_cons (prop : PropField) : ∃ rest, takeover prop = 'i' :: rest := by
  have hif : "if (".toList = 'i' :: "f (".toList := by decide
  unfold takeover
  simp only [List.append_assoc]
  rw [hif, List.cons_append]
  exact ⟨_, rfl⟩

theorem flatMap_takeover_ne_placeholder (props : List PropField) :
    props.flatMap takeover ≠ placeholder := by
  have hplaceholder : placeholder.head? = some '/' := by decide
  intro hsame
  rw [← hsame] at hplaceholder
  cases props with
  | nil => cases hplaceholder
  | cons prop props =>
      obtain ⟨rest, hrest⟩ := exists_takeover_eq_cons prop
      rw [List.flatMap_cons, hrest, List.cons_append, List.head?_cons] at hplaceholder
      exact absurd hplaceholder (by decide)

theorem joinedParams_eq_nil_iff : joinedParams props = [] ↔ props = [] := by
  constructor
  · intro hnil
    by_contra hne
    have hlast := getLast?_joinedParams hne
    rw [hnil] at hlast
    cases hlast
  · rintro rfl
    rfl

theorem joinedParams_ne_placeholder (props : List PropField) : joinedParams props ≠ placeholder := by
  have hplaceholder : placeholder.getLast? = some ' ' := by decide
  intro hsame
  have hne : props ≠ [] := by
    rintro rfl
    exact absurd hsame (by decide)
  rw [← hsame, getLast?_joinedParams hne] at hplaceholder
  exact absurd hplaceholder (by decide)

/-- The lines of a region are the same only if their contents are: no content looks like the
placeholder. -/
theorem content_eq_of_line_eq {α : Type} {indent : Nat} {content : List α → List Char}
    (hcontent : ∀ fields, content fields ≠ placeholder) {first second : List α}
    (h : line indent (!first.isEmpty) (content first) =
      line indent (!second.isEmpty) (content second)) :
    content first = content second := by
  rw [line_inj] at h
  cases first with
  | nil =>
      cases second with
      | nil => rfl
      | cons y second => exact absurd h.symm (hcontent _)
  | cons x first =>
      cases second with
      | nil => exact absurd h (hcontent _)
      | cons y second => exact h

theorem not_isGap_line (indent : Nat) {declared : Bool} {content : List Char}
    (h : declared = true → ∃ c ∈ content, Text.isBlank c = false) :
    ¬ Text.IsGap (line indent declared content) := by
  intro hgap
  have hback := (List.forall_mem_append.mp hgap).2
  cases declared with
  | false =>
      have hmark : '/' ∈ placeholder := by decide
      exact absurd (hback '/' hmark) (by decide)
  | true =>
      obtain ⟨c, hmem, hc⟩ := h rfl
      rw [hback c hmem] at hc
      cases hc

/-- No region is a blank line. -/
theorem not_isGap_render (region : Region) (states : List StateField) (props : List PropField) :
    ¬ Text.IsGap (region.render states props) := by
  cases region with
  | accessors =>
      refine not_isGap_line 4 fun hdeclared => ⟨'p', ?_, by decide⟩
      obtain ⟨state, others, rfl⟩ := List.exists_cons_of_ne_nil (by simpa using hdeclared)
      obtain ⟨rest, hrest⟩ := exists_accessor_eq_cons state
      simp [hrest]
  | parameters =>
      refine not_isGap_line 8 fun hdeclared => ⟨'_', ?_, by decide⟩
      exact List.mem_of_getLast? (getLast?_joinedParams (by simpa using hdeclared))
  | diff =>
      refine not_isGap_line 8 fun hdeclared => ⟨'i', ?_, by decide⟩
      obtain ⟨prop, others, rfl⟩ := List.exists_cons_of_ne_nil (by simpa using hdeclared)
      obtain ⟨rest, hrest⟩ := exists_takeover_eq_cons prop
      simp [hrest]

/-! ## Regions determine their fields -/

theorem eq_of_renderAccessors_eq (h : ∀ state ∈ states, state.WellFormed)
    (h' : ∀ state ∈ states', state.WellFormed)
    (hsame : renderAccessors states = renderAccessors states') : states = states' := by
  have hwords := congrArg Text.words (content_eq_of_line_eq flatMap_accessor_ne_placeholder hsame)
  rw [words_flatMap_accessor h, words_flatMap_accessor h'] at hwords
  have hgroups := Text.map_eq_of_flatMap_eq (by decide) length_accessorWords hwords
  exact List.map_injective_iff.mpr accessorWords_injective hgroups

theorem eq_of_renderParameters_eq (h : ∀ prop ∈ props, prop.WellFormed)
    (h' : ∀ prop ∈ props', prop.WellFormed)
    (hsame : renderParameters props = renderParameters props') : props = props' := by
  have hcontent : joinedParams props = joinedParams props' :=
    content_eq_of_line_eq joinedParams_ne_placeholder hsame
  by_cases hne : props = []
  · rw [hne, joinedParams_eq_nil_iff.mp (hcontent.symm.trans (joinedParams_eq_nil_iff.mpr hne))]
  · have hne' : props' ≠ [] := by
      rw [ne_eq, ← joinedParams_eq_nil_iff, ← hcontent, joinedParams_eq_nil_iff]
      exact hne
    have hwords := words_joinedParams hne h
    rw [hcontent, words_joinedParams hne' h'] at hwords
    have hgroups := Text.map_eq_of_flatMap_eq (by decide) length_paramWords hwords.symm
    exact List.map_injective_iff.mpr paramWords_injective hgroups

/-- The diff region does not show the types. -/
theorem names_eq_of_renderDiff_eq (h : ∀ prop ∈ props, IsWord prop.name.toList)
    (h' : ∀ prop ∈ props', IsWord prop.name.toList)
    (hsame : renderDiff props = renderDiff props') :
    props.map PropField.name = props'.map PropField.name := by
  have hwords := congrArg Text.words (content_eq_of_line_eq flatMap_takeover_ne_placeholder hsame)
  rw [words_flatMap_takeover h, words_flatMap_takeover h'] at hwords
  have hgroups := Text.map_eq_of_flatMap_eq (by decide) length_takeoverWords hwords
  -- the sixth word of a guarded assignment is the name
  have hnames := congrArg (List.map fun words => String.ofList (words.getD 5 [])) hgroups
  simpa [takeoverWords, Function.comp_def] using hnames

/-- **A region is one line, and can be read back.** For fields whose types and names are words, the
three regions hold no line break and are not blank; the accessors determine the states, the
parameters determine the props, and the diff region determines the names of the props. So no region
with fields is the placeholder, and the same accessors and parameters are never up to date with two
different lists of fields. -/
theorem regions_determine_fields (hstates : ∀ state ∈ states, state.WellFormed)
    (hstates' : ∀ state ∈ states', state.WellFormed) (hprops : ∀ prop ∈ props, prop.WellFormed)
    (hprops' : ∀ prop ∈ props', prop.WellFormed) :
    (∀ region : Region, NoBreak (region.render states props) ∧
      ¬ Text.IsGap (region.render states props)) ∧
    (renderAccessors states = renderAccessors states' → states = states') ∧
    (renderParameters props = renderParameters props' → props = props') ∧
    (renderDiff props = renderDiff props' →
      props.map PropField.name = props'.map PropField.name) ∧
    (states ≠ [] → renderAccessors states ≠ List.replicate 4 ' ' ++ placeholder) ∧
    (props ≠ [] → renderParameters props ≠ List.replicate 8 ' ' ++ placeholder ∧
      renderDiff props ≠ List.replicate 8 ' ' ++ placeholder) ∧
    (∀ accessors parameters, accessors = renderAccessors states →
      parameters = renderParameters props → accessors = renderAccessors states' →
      parameters = renderParameters props' → states = states' ∧ props = props') := by
  have hnames : ∀ prop ∈ props, IsWord prop.name.toList := fun prop hprop => (hprops prop hprop).2
  have hnames' : ∀ prop ∈ props', IsWord prop.name.toList :=
    fun prop hprop => (hprops' prop hprop).2
  refine ⟨fun region => ⟨noBreak_render region hstates hprops, not_isGap_render region _ _⟩,
    eq_of_renderAccessors_eq hstates hstates', eq_of_renderParameters_eq hprops hprops',
    names_eq_of_renderDiff_eq hnames hnames', fun hne hsame => ?_, fun hne => ⟨fun hsame => ?_,
    fun hsame => ?_⟩, ?_⟩
  -- the placeholder is what an empty list renders to
  · have hempty : renderAccessors states = renderAccessors [] := hsame
    exact hne (eq_of_renderAccessors_eq hstates (by simp) hempty)
  · have hempty : renderParameters props = renderParameters [] := hsame
    exact hne (eq_of_renderParameters_eq hprops (by simp) hempty)
  · have hempty : renderDiff props = renderDiff [] := hsame
    exact hne (List.map_eq_nil_iff.mp (names_eq_of_renderDiff_eq hnames (by simp) hempty))
  · rintro accessors parameters rfl rfl haccessors hparameters
    exact ⟨eq_of_renderAccessors_eq hstates hstates' haccessors,
      eq_of_renderParameters_eq hprops hprops' hparameters⟩

/-- States whose types and names look like parts of an accessor. -/
def mimicStates : List StateField := [⟨"int", "P_hp"⟩, ⟨"\x7b", "hp.Get(police);"⟩]

/-- Props whose types and names look like the ends of parameters. -/
def mimicProps : List PropField := [⟨"int", "x_,"⟩, ⟨"y_,", "y"⟩]

theorem regions_determine_mimicFields :
    ((∀ state ∈ mimicStates, state.WellFormed) ∧ (∀ prop ∈ mimicProps, prop.WellFormed)) ∧
      renderAccessors mimicStates ≠ renderAccessors [⟨"int", "P_hp"⟩] ∧
      renderParameters mimicProps ≠ renderParameters [⟨"int", "x"⟩, ⟨"y_,", "y"⟩] ∧
      renderDiff mimicProps ≠ List.replicate 8 ' ' ++ placeholder := by
  have hstates : ∀ state ∈ mimicStates, state.WellFormed := by decide
  have hprops : ∀ prop ∈ mimicProps, prop.WellFormed := by decide
  have hstates' : ∀ state ∈ [(⟨"int", "P_hp"⟩ : StateField)], state.WellFormed := by decide
  have hprops' : ∀ prop ∈ [(⟨"int", "x"⟩ : PropField), ⟨"y_,", "y"⟩], prop.WellFormed := by decide
  obtain ⟨-, haccessors, hparameters, -, -, hplaceholder, -⟩ :=
    regions_determine_fields hstates hstates' hprops hprops'
  refine ⟨⟨hstates, hprops⟩, fun hsame => ?_, fun hsame => ?_, (hplaceholder (by decide)).2⟩
  · exact absurd (haccessors hsame) (by decide)
  · exact absurd (hparameters hsame) (by decide)

end Region

end RegionSync
