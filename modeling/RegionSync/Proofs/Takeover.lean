import RegionSync.Proofs.Declared
import RegionSync.Proofs.Readback
import Mathlib.Logic.Function.Basic

set_option autoImplicit false

/-! # Running the generated code

The parameter region and the diff region are code: the one lists the parameters of a method, the
other holds an assignment for every prop, guarded by a comparison. `readParams` and `readClauses`
read them as such, and a `Frame` is what the assignments work on, the parameters and the fields. A
name stands for the parameter of this name if there is one, and for the field otherwise.

The code should leave every prop's field with the argument passed for it, and should set a flag
exactly if some field had another value before (`TakenOver`). Its names get in each other's way in
two cases. The parameter of a prop `x` is called `x_`; if there is a prop with this name, too, then
its field is hidden by the parameter and never changes (`run_fields_of_hidden`). And a prop may have
the name of the flag; then its field is the flag, and once set it stays set (`run_flag`). In all
other cases the code does what it is for (`takes_over_iff_names_apart`).
-/

namespace RegionSync.Takeover

open Text (IsWord)
open Region (renderParameters renderDiff takeoverWords paramWords)

/-! ## Reading the regions as code -/

/-- A guarded assignment: if `left` and `right` differ, `target` takes the value of `source` and
`flag` is set. -/
structure Clause where
  left : List Char
  right : List Char
  target : List Char
  source : List Char
  flag : List Char
deriving DecidableEq

/-- Reads a guarded assignment from its words. -/
def Clause.ofWords? : List (List Char) → Option Clause
  | [word, left, differs, right, opening, target, becomes, source, flag, raised, truth, closing] =>
    if [word, differs, opening, becomes, raised, truth, closing] =
        ["if", "!=", "\x7b", "=", "=", "true;", "\x7d"].map String.toList then
      match Text.dropStart? "(".toList left, Text.dropEnd? ")".toList right,
        Text.dropEnd? ";".toList source with
      | some left, some right, some source => some ⟨left, right, target, source, flag⟩
      | _, _, _ => none
    else none
  | _ => none

/-- Reads the name of a formal parameter from its words, the last of which ends with a comma. -/
def paramOfWords? : List (List Char) → Option (List Char)
  | [_, name] => Text.dropEnd? ",".toList name
  | _ => none

/-- Whether a text starts with a comment; what follows in a region is part of it. -/
def isComment (text : List Char) : Bool :=
  (Text.words text).head?.any (Text.startsWith "//".toList)

/-- The guarded assignments in a region. -/
def readClauses (text : List Char) : Option (List Clause) :=
  if isComment text then some [] else (Text.groups 12 (Text.words text)).mapM Clause.ofWords?

/-- The names of the parameters in a region. -/
def readParams (text : List Char) : Option (List (List Char)) :=
  -- the comma after the last parameter makes all of them look the same
  let text := text ++ ", ".toList
  if isComment text then some [] else (Text.groups 2 (Text.words text)).mapM paramOfWords?

/-! ## Running it -/

/-- What the code works on: the values of the parameters and of the fields, by their names. -/
structure Frame (V : Type) where
  params : List Char → Option V
  fields : List Char → V

section

variable {V : Type} {frame : Frame V} {name : List Char} {value truth : V}

/-- The value of the parameter with the given name, or else of the field. -/
def Frame.get (frame : Frame V) (name : List Char) : V :=
  (frame.params name).getD (frame.fields name)

/-- Assigns to the parameter with the given name, or else to the field. -/
def Frame.set (frame : Frame V) (name : List Char) (value : V) : Frame V :=
  match frame.params name with
  | some _ => { frame with params := Function.update frame.params name (some value) }
  | none => { frame with fields := Function.update frame.fields name value }

variable [DecidableEq V]

/-- Runs a guarded assignment; `truth` is the value of a flag that is set. -/
def Clause.exec (truth : V) (frame : Frame V) (clause : Clause) : Frame V :=
  if frame.get clause.left ≠ frame.get clause.right then
    (frame.set clause.target (frame.get clause.source)).set clause.flag truth
  else frame

/-- Runs guarded assignments one after the other. -/
def run (truth : V) (clauses : List Clause) (frame : Frame V) : Frame V :=
  clauses.foldl (Clause.exec truth) frame

/-- Calls a method with the given names of parameters and code, on an object with these fields. -/
def call (truth : V) (names : List (List Char)) (code : List Char) (args : List V)
    (fields : List Char → V) : Option (Frame V) :=
  (readClauses code).map fun clauses =>
    run truth clauses ⟨fun name => (names.zip args).lookup name, fields⟩

end

/-- The name of the flag. -/
def flagName : List Char := "need_react".toList

/-- What a call should lead to: every field has the value of its argument, and the flag is set if a
field had another value before, and left alone if none had. -/
structure TakenOver {V : Type} (truth : V) (props : List PropField) (args : PropField → V)
    (fields : List Char → V) (after : Frame V) : Prop where
  taken : ∀ prop ∈ props, after.fields prop.name.toList = args prop
  raised : (∃ prop ∈ props, fields prop.name.toList ≠ args prop) → after.fields flagName = truth
  kept : (∀ prop ∈ props, fields prop.name.toList = args prop) →
    after.fields flagName = fields flagName

/-- The generated code does what it is for, whatever the values are. -/
def TakesOver (props : List PropField) : Prop :=
  ∀ (V : Type) [DecidableEq V] (truth : V) (args : PropField → V) (fields : List Char → V),
    ∃ after, call truth (props.map fun prop => prop.paramName.toList) (renderDiff props)
        (props.map args) fields = some after ∧
      TakenOver truth props args fields after

/-! ## The code that the regions hold -/

section

variable {prop : PropField} {props : List PropField}

/-- The guarded assignment of a prop. -/
def clauseOf (prop : PropField) : Clause :=
  ⟨prop.name.toList, prop.paramName.toList, prop.name.toList, prop.paramName.toList, flagName⟩

theorem ofWords?_takeoverWords (prop : PropField) :
    Clause.ofWords? (takeoverWords prop) = some (clauseOf prop) := by
  have hleft := Text.dropStart?_append "(".toList prop.name.toList
  have hright := Text.dropEnd?_append prop.paramName.toList ")".toList
  have hsource := Text.dropEnd?_append prop.paramName.toList ";".toList
  simp only [takeoverWords, Clause.ofWords?, hleft, hright, hsource]
  rfl

theorem paramOfWords?_paramWords (prop : PropField) :
    paramOfWords? (paramWords prop) = some prop.paramName.toList :=
  Text.dropEnd?_append _ _

theorem mapM_map_eq_some {α β γ : Type} {parts : α → β} {read : β → Option γ} {value : α → γ}
    (h : ∀ x, read (parts x) = some (value x)) (fields : List α) :
    (fields.map parts).mapM read = some (fields.map value) := by
  induction fields with
  | nil => rfl
  | cons x fields ih => simp [List.mapM_cons, h, ih]

theorem words_line (indent : Nat) (content : List Char) :
    Text.words (Region.line indent true content) = Text.words content := by
  refine Text.words_gap_append ?_ content
  intro c hc
  rw [List.eq_of_mem_replicate hc]
  decide

/-- **The diff region holds one guarded assignment for each prop.** -/
theorem readClauses_renderDiff (h : ∀ prop ∈ props, IsWord prop.name.toList) :
    readClauses (renderDiff props) = some (props.map clauseOf) := by
  cases props with
  | nil => decide
  | cons prop props =>
      have hwords : Text.words (renderDiff (prop :: props)) =
          (prop :: props).flatMap takeoverWords := by
        rw [renderDiff, List.isEmpty_cons, Bool.not_false, words_line,
          Region.words_flatMap_takeover h]
      have hcode : isComment (renderDiff (prop :: props)) = false := by
        rw [isComment, hwords]
        rfl
      rw [readClauses, hcode, hwords,
        Text.groups_flatMap (by decide) Region.length_takeoverWords]
      exact mapM_map_eq_some ofWords?_takeoverWords _

/-- **The parameter region holds one parameter for each prop**, if no type is taken for a comment. -/
theorem readParams_renderParameters (h : ∀ prop ∈ props, prop.WellFormed)
    (hcode : ∀ prop ∈ props, Text.startsWith "//".toList prop.ty.toList = false) :
    readParams (renderParameters props) = some (props.map fun prop => prop.paramName.toList) := by
  cases props with
  | nil => decide
  | cons prop props =>
      have hwords : Text.words (renderParameters (prop :: props) ++ ", ".toList) =
          (prop :: props).flatMap paramWords := by
        have happend : renderParameters (prop :: props) ++ ", ".toList =
            Region.line 8 true (Region.joinedParams (prop :: props) ++ ", ".toList) :=
          List.append_assoc _ _ _
        rw [happend, words_line, Region.words_joinedParams (by simp) h]
      have hcomment : isComment (renderParameters (prop :: props) ++ ", ".toList) = false := by
        rw [isComment, hwords]
        exact hcode prop (by simp)
      rw [readParams, hcomment, hwords, Text.groups_flatMap (by decide) Region.length_paramWords]
      exact mapM_map_eq_some paramOfWords?_paramWords _

end

/-! ## Frames -/

section

variable {V : Type} {frame : Frame V} {name other : List Char} {value : V}

theorem Frame.get_of_param (h : frame.params name = some value) : frame.get name = value := by
  rw [Frame.get, h, Option.getD_some]

theorem Frame.get_of_field (h : frame.params name = none) : frame.get name = frame.fields name := by
  rw [Frame.get, h, Option.getD_none]

theorem Frame.set_of_field (h : frame.params name = none) (value : V) :
    frame.set name value = { frame with fields := Function.update frame.fields name value } := by
  rw [Frame.set, h]

/-- An assignment makes no parameter and drops none. -/
@[simp] theorem Frame.params_set_eq_none_iff :
    (frame.set name value).params other = none ↔ frame.params other = none := by
  unfold Frame.set
  split
  · rename_i old hold
    by_cases hname : other = name
    · simp [hname, hold]
    · simp [hname]
  · rfl

/-- The field that a parameter hides is not assigned to. -/
theorem Frame.fields_set_of_hidden (h : frame.params other ≠ none) :
    (frame.set name value).fields other = frame.fields other := by
  unfold Frame.set
  split
  · rfl
  · rename_i hnone
    have hne : other ≠ name := by
      rintro rfl
      exact h hnone
    exact Function.update_of_ne hne _ _

variable [DecidableEq V] {truth : V} {clause : Clause}

theorem Clause.params_exec_eq_none_iff :
    (clause.exec truth frame).params name = none ↔ frame.params name = none := by
  unfold Clause.exec
  split_ifs
  · simp
  · rfl

theorem Clause.fields_exec_of_hidden (h : frame.params name ≠ none) :
    (clause.exec truth frame).fields name = frame.fields name := by
  unfold Clause.exec
  split_ifs
  · rw [Frame.fields_set_of_hidden (by simpa using h), Frame.fields_set_of_hidden h]
  · rfl

/-- The flag is assigned last. -/
theorem Clause.fields_exec_flag (h : frame.params clause.flag = none)
    (hset : frame.fields clause.flag = truth) :
    (clause.exec truth frame).fields clause.flag = truth := by
  unfold Clause.exec
  split_ifs
  · rw [Frame.set_of_field (Frame.params_set_eq_none_iff.mpr h)]
    exact Function.update_self ..
  · exact hset

/-- **A field that is hidden by a parameter never changes**, whatever is run. -/
theorem run_fields_of_hidden (h : frame.params name ≠ none) (clauses : List Clause) :
    (run truth clauses frame).fields name = frame.fields name := by
  induction clauses generalizing frame with
  | nil => rfl
  | cons clause clauses ih =>
      have hstep : (clause.exec truth frame).params name ≠ none := by
        rwa [ne_eq, Clause.params_exec_eq_none_iff]
      exact (ih hstep).trans (Clause.fields_exec_of_hidden h)

/-- **Once set, the flag stays set.** -/
theorem run_flag (h : frame.params flagName = none) (hset : frame.fields flagName = truth)
    {clauses : List Clause} (hflag : ∀ clause ∈ clauses, clause.flag = flagName) :
    (run truth clauses frame).fields flagName = truth := by
  induction clauses generalizing frame with
  | nil => exact hset
  | cons clause clauses ih =>
      rw [List.forall_mem_cons] at hflag
      refine ih (Clause.params_exec_eq_none_iff.mpr h) ?_ hflag.2
      rw [← hflag.1] at h hset ⊢
      exact Clause.fields_exec_flag h hset

end

/-! ## A single assignment -/

section

variable {V : Type} [DecidableEq V] {truth value : V} {frame : Frame V} {prop : PropField}

/-- What the guarded assignment of a prop does to the fields, if no name is hidden. -/
def adopt (truth : V) (name : List Char) (value : V) (fields : List Char → V) : List Char → V :=
  if fields name ≠ value then Function.update (Function.update fields name value) flagName truth
  else fields

theorem exec_clauseOf (hname : frame.params prop.name.toList = none)
    (hparam : frame.params prop.paramName.toList = some value)
    (hflag : frame.params flagName = none) :
    (clauseOf prop).exec truth frame =
      { frame with fields := adopt truth prop.name.toList value frame.fields } := by
  simp only [Clause.exec, clauseOf, Frame.get_of_field hname, Frame.get_of_param hparam, adopt]
  split_ifs
  · rw [Frame.set_of_field hname]
    refine Frame.set_of_field ?_ truth
    exact hflag
  · rfl

end

section

variable {V : Type} [DecidableEq V] {truth value : V} {fields : List Char → V}
  {name other : List Char}

theorem adopt_self (h : name ≠ flagName) : adopt truth name value fields name = value := by
  unfold adopt
  split_ifs with hsame
  · rw [Function.update_of_ne h, Function.update_self]
  · exact not_not.mp hsame

theorem adopt_of_ne (hne : other ≠ name) (hflag : other ≠ flagName) :
    adopt truth name value fields other = fields other := by
  unfold adopt
  split_ifs
  · rw [Function.update_of_ne hflag, Function.update_of_ne hne]
  · rfl

theorem adopt_flag :
    adopt truth name value fields flagName =
      if fields name ≠ value then truth else fields flagName := by
  unfold adopt
  split_ifs
  · rw [Function.update_self]
  · rfl

end

/-! ## All assignments -/

section

variable {V : Type} [DecidableEq V] {truth : V} {args : PropField → V} {fields : List Char → V}
  {frame : Frame V} {prop : PropField} {props : List PropField} {name : List Char}

/-- What the guarded assignments of all props do to the fields, if no name is hidden. -/
def adoptAll (truth : V) (args : PropField → V) (props : List PropField) (fields : List Char → V) :
    List Char → V :=
  props.foldl (fun fields prop => adopt truth prop.name.toList (args prop) fields) fields

theorem adoptAll_cons :
    adoptAll truth args (prop :: props) fields =
      adoptAll truth args props (adopt truth prop.name.toList (args prop) fields) := rfl

theorem run_clauseOf (hflag : frame.params flagName = none)
    (hnames : ∀ prop ∈ props, frame.params prop.name.toList = none)
    (hparams : ∀ prop ∈ props, frame.params prop.paramName.toList = some (args prop)) :
    run truth (props.map clauseOf) frame =
      { frame with fields := adoptAll truth args props frame.fields } := by
  induction props generalizing frame with
  | nil => rfl
  | cons prop props ih =>
      rw [List.forall_mem_cons] at hnames hparams
      rw [List.map_cons, run, List.foldl_cons, exec_clauseOf hnames.1 hparams.1 hflag]
      exact ih hflag hnames.2 hparams.2

theorem adoptAll_of_notMem (hname : ∀ prop ∈ props, name ≠ prop.name.toList)
    (hflag : name ≠ flagName) : adoptAll truth args props fields name = fields name := by
  induction props generalizing fields with
  | nil => rfl
  | cons prop props ih =>
      rw [List.forall_mem_cons] at hname
      rw [adoptAll_cons, ih hname.2, adopt_of_ne hname.1 hflag]

/-- The names of distinct fields are different for the code, too. -/
theorem name_ne_of_nodup (h : ((prop :: props).map PropField.name).Nodup) :
    ∀ other ∈ props, prop.name.toList ≠ other.name.toList := by
  intro other hother hsame
  rw [String.toList_inj] at hsame
  exact (List.nodup_cons.mp h).1 (hsame ▸ List.mem_map_of_mem hother)

theorem adoptAll_of_mem (hdistinct : (props.map PropField.name).Nodup)
    (hflag : ∀ prop ∈ props, prop.name.toList ≠ flagName) (hmem : prop ∈ props) :
    adoptAll truth args props fields prop.name.toList = args prop := by
  induction props generalizing fields with
  | nil => cases hmem
  | cons first props ih =>
      rw [List.forall_mem_cons] at hflag
      rw [adoptAll_cons]
      cases hmem with
      | head =>
          -- no later assignment is to the field of the first prop
          rw [adoptAll_of_notMem (name_ne_of_nodup hdistinct) hflag.1, adopt_self hflag.1]
      | tail _ hmem => exact ih (List.nodup_cons.mp hdistinct).2 hflag.2 hmem

theorem adoptAll_flag (hdistinct : (props.map PropField.name).Nodup)
    (hflag : ∀ prop ∈ props, prop.name.toList ≠ flagName) :
    adoptAll truth args props fields flagName =
      if ∃ prop ∈ props, fields prop.name.toList ≠ args prop then truth else fields flagName := by
  induction props generalizing fields with
  | nil => simp [adoptAll]
  | cons first props ih =>
      rw [List.forall_mem_cons] at hflag
      -- the first assignment leaves the fields of the others as they are
      have hothers : ∀ other ∈ props,
          adopt truth first.name.toList (args first) fields other.name.toList =
            fields other.name.toList := fun other hother =>
        adopt_of_ne (name_ne_of_nodup hdistinct other hother).symm (hflag.2 other hother)
      have hdiffers : (∃ prop ∈ props,
          adopt truth first.name.toList (args first) fields prop.name.toList ≠ args prop) ↔
            ∃ prop ∈ props, fields prop.name.toList ≠ args prop :=
        exists_congr fun other => and_congr_right fun hother => by rw [hothers other hother]
      rw [adoptAll_cons, ih (List.nodup_cons.mp hdistinct).2 hflag.2, adopt_flag]
      simp only [hdiffers, List.exists_mem_cons_iff]
      by_cases hfirst : fields first.name.toList = args first <;> simp [hfirst]

end

/-! ## Parameters -/

section

variable {V : Type} {args : PropField → V} {prop : PropField} {props : List PropField}
  {name : List Char}

/-- The parameters that a call passes. -/
def passed (props : List PropField) (args : PropField → V) (name : List Char) : Option V :=
  ((props.map fun prop => prop.paramName.toList).zip (props.map args)).lookup name

theorem passed_eq : passed props args name =
    (props.map fun prop => (prop.paramName.toList, args prop)).lookup name := by
  rw [passed, List.zip_map']

theorem passed_eq_none_iff :
    passed props args name = none ↔ ∀ prop ∈ props, name ≠ prop.paramName.toList := by
  rw [passed_eq, List.lookup_eq_none_iff]
  simp

theorem paramName_ne {first second : PropField} (h : first.name.toList ≠ second.name.toList) :
    first.paramName.toList ≠ second.paramName.toList := by
  intro hsame
  rw [PropField.paramName, PropField.paramName, String.toList_append, String.toList_append] at hsame
  exact h (List.append_cancel_right hsame)

theorem passed_of_mem (hdistinct : (props.map PropField.name).Nodup) (hmem : prop ∈ props) :
    passed props args prop.paramName.toList = some (args prop) := by
  rw [passed_eq]
  induction props with
  | nil => cases hmem
  | cons first props ih =>
      rw [List.map_cons, List.lookup_cons]
      cases hmem with
      | head => rw [beq_self_eq_true]
      | tail _ hmem =>
          have hne := paramName_ne (name_ne_of_nodup hdistinct prop hmem).symm
          rw [beq_false_of_ne hne]
          exact ih (List.nodup_cons.mp hdistinct).2 hmem

/-- No parameter has the name of the flag: parameters end with an underscore. -/
theorem passed_flag : passed props args flagName = none := by
  rw [passed_eq_none_iff]
  intro prop _ hsame
  have hlast := congrArg List.getLast? hsame
  have hunderscore : prop.paramName.toList.getLast? = some '_' := by
    rw [PropField.paramName, String.toList_append]
    exact List.getLast?_concat
  rw [hunderscore] at hlast
  exact absurd hlast (by decide)

end

/-! ## Names that are apart -/

section

variable {V : Type} [DecidableEq V] {truth : V} {args : PropField → V} {fields : List Char → V}
  {frame : Frame V} {prop other : PropField} {props : List PropField}

theorem call_renderDiff (h : ∀ prop ∈ props, IsWord prop.name.toList) :
    call truth (props.map fun prop => prop.paramName.toList) (renderDiff props) (props.map args)
      fields = some (run truth (props.map clauseOf) ⟨passed props args, fields⟩) := by
  rw [call, readClauses_renderDiff h]
  rfl

theorem takenOver_run (hdistinct : (props.map PropField.name).Nodup)
    (hflag : ∀ prop ∈ props, prop.name.toList ≠ flagName)
    (hapart : ∀ prop ∈ props, ∀ other ∈ props, prop.name.toList ≠ other.paramName.toList) :
    TakenOver truth props args fields
      (run truth (props.map clauseOf) ⟨passed props args, fields⟩) := by
  have hrun : run truth (props.map clauseOf) ⟨passed props args, fields⟩ =
      ⟨passed props args, adoptAll truth args props fields⟩ :=
    run_clauseOf passed_flag (fun prop hprop => passed_eq_none_iff.mpr (hapart prop hprop))
      fun prop hprop => passed_of_mem hdistinct hprop
  rw [hrun]
  refine ⟨fun prop hprop => adoptAll_of_mem hdistinct hflag hprop, fun hdiffers => ?_,
    fun hsame => ?_⟩
  · exact (adoptAll_flag hdistinct hflag).trans (if_pos hdiffers)
  · refine (adoptAll_flag hdistinct hflag).trans (if_neg ?_)
    rintro ⟨prop, hprop, hne⟩
    exact hne (hsame prop hprop)

/-- If a parameter has the name of a prop, the prop's field keeps its old value. -/
theorem not_takesOver_of_hidden (hnames : ∀ prop ∈ props, IsWord prop.name.toList)
    (hprop : prop ∈ props) (hother : other ∈ props) (hsame : prop.name = other.paramName) :
    ¬ TakesOver props := by
  intro h
  obtain ⟨after, hcall, hafter⟩ := h Bool true (fun _ => true) fun _ => false
  rw [call_renderDiff hnames, Option.some_inj] at hcall
  have hhidden : passed props (fun _ => true) prop.name.toList ≠ none := by
    rw [ne_eq, passed_eq_none_iff, hsame]
    exact fun hfree => hfree other hother rfl
  have hstale : after.fields prop.name.toList = false := by
    rw [← hcall]
    exact run_fields_of_hidden hhidden _
  have htaken := hafter.taken prop hprop
  rw [hstale] at htaken
  cases htaken

/-- If a prop has the name of the flag, its field is set whatever its argument is. -/
theorem not_takesOver_of_flag (hnames : ∀ prop ∈ props, IsWord prop.name.toList)
    (hprop : prop ∈ props) (hflag : prop.name.toList = flagName) : ¬ TakesOver props := by
  intro h
  obtain ⟨after, hcall, hafter⟩ := h Bool true (fun _ => false) fun _ => true
  rw [call_renderDiff hnames, Option.some_inj] at hcall
  have hset : after.fields flagName = true := by
    rw [← hcall]
    apply run_flag
    · exact passed_flag
    · rfl
    · exact List.forall_mem_map.mpr fun _ _ => rfl
  have htaken := hafter.taken prop hprop
  rw [hflag, hset] at htaken
  cases htaken

/-- **When the generated code does what it is for.** For props whose names are distinct words: if
the types are words, too, and do not look like comments, then the parameter region lists the
parameter of each prop; and the code takes every argument over, and sets the flag exactly if a value
was new, if and only if no prop has the name of the flag and no prop has the name of a parameter. -/
theorem takes_over_iff_names_apart (hnames : ∀ prop ∈ props, IsWord prop.name.toList)
    (hdistinct : (props.map PropField.name).Nodup) :
    ((∀ prop ∈ props, IsWord prop.ty.toList ∧ Text.startsWith "//".toList prop.ty.toList = false) →
      readParams (renderParameters props) = some (props.map fun prop => prop.paramName.toList)) ∧
    (TakesOver props ↔ (∀ prop ∈ props, prop.name ≠ "need_react") ∧
      ∀ prop ∈ props, ∀ other ∈ props, prop.name ≠ other.paramName) := by
  refine ⟨fun htypes => ?_, fun htakes => ⟨fun prop hprop hflag => ?_,
    fun prop hprop other hother hsame => ?_⟩, ?_⟩
  · exact readParams_renderParameters
      (fun prop hprop => ⟨(htypes prop hprop).1, hnames prop hprop⟩)
      fun prop hprop => (htypes prop hprop).2
  · exact not_takesOver_of_flag hnames hprop (by rw [hflag]; rfl) htakes
  · exact not_takesOver_of_hidden hnames hprop hother hsame htakes
  · rintro ⟨hflag, hapart⟩ V _ truth args fields
    refine ⟨_, call_renderDiff hnames, takenOver_run hdistinct ?_ ?_⟩
    · intro prop hprop hsame
      exact hflag prop hprop (String.toList_inj.mp hsame)
    · intro prop hprop other hother hsame
      exact hapart prop hprop other hother (String.toList_inj.mp hsame)

end

/-- Props whose names are apart. -/
def pointProps : List PropField := [⟨"int", "x"⟩, ⟨"int", "y"⟩]

theorem takesOver_pointProps :
    ((∀ prop ∈ pointProps, IsWord prop.name.toList) ∧ (pointProps.map PropField.name).Nodup) ∧
      readParams (renderParameters pointProps) = some ["x_".toList, "y_".toList] ∧
      TakesOver pointProps := by
  have hnames : ∀ prop ∈ pointProps, IsWord prop.name.toList := by decide
  have hdistinct : (pointProps.map PropField.name).Nodup := by decide
  have hcode := takes_over_iff_names_apart hnames hdistinct
  exact ⟨⟨hnames, hdistinct⟩, hcode.1 (by decide), hcode.2.mpr (by decide)⟩

/-- Two props with different names, where the parameter of the first is called like the second. -/
def hidingProps : List PropField := [⟨"int", "x"⟩, ⟨"int", "x_"⟩]

theorem not_takesOver_hidingProps :
    ((∀ prop ∈ hidingProps, IsWord prop.name.toList) ∧ (hidingProps.map PropField.name).Nodup) ∧
      ¬ TakesOver hidingProps := by
  refine ⟨⟨by decide, by decide⟩, fun h => ?_⟩
  -- the arguments are 1 and 2, and the second field stays 0
  obtain ⟨after, hcall, hafter⟩ := h Nat 3 (fun prop => if prop.name = "x" then 1 else 2) fun _ => 0
  have hstale := congrArg (Option.map fun frame => frame.fields "x_".toList) hcall
  have htaken := hafter.taken ⟨"int", "x_"⟩ (by decide)
  rw [Option.map_some, htaken] at hstale
  exact absurd hstale (by decide +kernel)

end RegionSync.Takeover
