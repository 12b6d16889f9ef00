import RegionSync.Json.Skip
import RegionSync.Proofs.Json.Scalars

set_option autoImplicit false

/-! # JSON values, and passing over them

The grammar of JSON (`IsValue`): words, numbers, strings, lists and objects, with gaps around every
part of a bracket. A code unit in a string may be anything here, and a number may be of any size.
The machine that passes over values nobody asked for gets to the end of each of them
(`skipValue_of_isValue`). It keeps the open brackets on a stack, so this is shown for every stack:
when a value is complete, the machine goes on where the brackets around it go on (`resume`).
-/

namespace RegionSync.Json

/-! ## The grammar -/

/-- The inside of a string, with code units of any kind. -/
inductive IsEscaped : List Char → Prop where
  | nil : IsEscaped []
  | plain {c : Char} {body : List Char} (hunquoted : c ≠ '"') (hunescaped : c ≠ '\\')
      (hprinted : 0x20 ≤ c.toNat) (htail : IsEscaped body) : IsEscaped (c :: body)
  | letter {letter c : Char} {body : List Char} (hmeans : (letter, c) ∈ letterEscapes)
      (htail : IsEscaped body) : IsEscaped ('\\' :: letter :: body)
  | unit {digits body : List Char} {unit : Nat} (hunit : IsCodeUnit digits unit)
      (htail : IsEscaped body) : IsEscaped ('\\' :: 'u' :: digits ++ body)

/-- One digit or more. -/
def IsDigits (text : List Char) : Prop := text ≠ [] ∧ ∀ c ∈ text, c.isDigit = true

/-- The part of a number before the point: a zero stands alone. -/
def IsWhole (text : List Char) : Prop := text = ['0'] ∨ IsDigits text ∧ text.head? ≠ some '0'

/-- The point with the digits after it, or nothing. -/
def IsFraction (text : List Char) : Prop :=
  text = [] ∨ ∃ digits, IsDigits digits ∧ text = '.' :: digits

/-- An exponent, or nothing. -/
def IsExponent (text : List Char) : Prop :=
  text = [] ∨ ∃ mark sign digits, (mark = 'e' ∨ mark = 'E')
    ∧ (sign = [] ∨ sign = ['+'] ∨ sign = ['-']) ∧ IsDigits digits ∧ text = mark :: (sign ++ digits)

/-- A number. -/
def IsNumber (text : List Char) : Prop :=
  ∃ sign whole fraction exponent, (sign = [] ∨ sign = ['-']) ∧ IsWhole whole ∧ IsFraction fraction
    ∧ IsExponent exponent ∧ text = sign ++ (whole ++ (fraction ++ exponent))

/-- An item of a list, or what follows the colon of a member: a value between gaps. -/
inductive IsItem (value : List Char) : List Char → Prop where
  | mk {lead trail : List Char} (hblank_lead : IsGap lead) (hblank_trail : IsGap trail) :
      IsItem value (lead ++ (value ++ trail))

/-- A member of an object: the inside of its name and its value, with gaps around both. -/
inductive IsMember (key value : List Char) : List Char → Prop where
  | mk {lead inner text : List Char} (hblank_lead : IsGap lead) (hblank_inner : IsGap inner)
      (hitem : IsItem value text) :
      IsMember key value (lead ++ '"' :: (key ++ '"' :: (inner ++ ':' :: text)))

/-- Parts with commas between them. -/
inductive Joined {α : Type} (IsPart : α → List Char → Prop) : List α → List Char → Prop where
  | one {part : α} {text : List Char} (hhead : IsPart part text) : Joined IsPart [part] text
  | cons {part next : α} {parts : List α} {text rest : List Char} (hhead : IsPart part text)
      (htail : Joined IsPart (next :: parts) rest) :
      Joined IsPart (part :: next :: parts) (text ++ ',' :: rest)

/-- Parts between brackets. -/
inductive Enclosed {α : Type} (opening closing : Char) (IsPart : α → List Char → Prop) :
    List α → List Char → Prop where
  | empty {gap : List Char} (hblank : IsGap gap) :
      Enclosed opening closing IsPart [] (opening :: gap ++ [closing])
  | parts {part : α} {parts : List α} {text : List Char}
      (hjoined : Joined IsPart (part :: parts) text) :
      Enclosed opening closing IsPart (part :: parts) (opening :: text ++ [closing])

/-- An object, by the insides of its names and its values. -/
abbrev IsObject : List (List Char × List Char) → List Char → Prop :=
  Enclosed '{' '}' fun member => IsMember member.1 member.2

/-- A value. -/
inductive IsValue : List Char → Prop where
  | null : IsValue ['n', 'u', 'l', 'l']
  | yes : IsValue ['t', 'r', 'u', 'e']
  | no : IsValue ['f', 'a', 'l', 's', 'e']
  | number {text : List Char} (hnumber : IsNumber text) : IsValue text
  | string {body : List Char} (hescaped : IsEscaped body) : IsValue ('"' :: body ++ ['"'])
  | list {values : List (List Char)} {text : List Char}
      (hitems : Enclosed '[' ']' IsItem values text) (heach : ∀ value ∈ values, IsValue value) :
      IsValue text
  | object {members : List (List Char × List Char)} {text : List Char}
      (hobject : IsObject members text) (hnames : ∀ member ∈ members, IsEscaped member.1)
      (heach : ∀ member ∈ members, IsValue member.2) : IsValue text

/-! ## Going on after a value -/

/-- How it goes on once a value is complete. -/
def resume : List Bracket → List Char → Except Fault (List Char)
  | [], rest => .ok rest
  | bracket :: stack, rest => skipFrom .afterValue (bracket :: stack) rest

section Machine

variable {place : Place} {stack : List Bracket} {rest gap body digits : List Char} {c : Char}

theorem skipFrom_of_more {next : Place} {stack' : List Bracket}
    (h : skipStep place stack c rest = .more next stack') :
    skipFrom place stack (c :: rest) = skipFrom next stack' rest := by
  rw [skipFrom, h]

theorem skipFrom_of_completed {outer : List Bracket}
    (h : skipStep place stack c rest = completed outer) :
    skipFrom place stack (c :: rest) = resume outer rest := by
  rw [skipFrom, h]
  cases outer with
  | nil => rfl
  | cons bracket outer => rfl

/-- The places where blanks may stand. -/
inductive IsOpenPlace : Place → List Bracket → Prop where
  | value {stack : List Bracket} : IsOpenPlace .value stack
  | firstItem {stack : List Bracket} : IsOpenPlace .firstItem stack
  | firstName {stack : List Bracket} : IsOpenPlace .firstName stack
  | name {stack : List Bracket} : IsOpenPlace .name stack
  | colon {stack : List Bracket} : IsOpenPlace .colon stack
  | afterValue {bracket : Bracket} {stack : List Bracket} : IsOpenPlace .afterValue (bracket :: stack)

theorem skipFrom_gap (hopenPlace : IsOpenPlace place stack) (hblank : IsGap gap)
    (rest : List Char) :
    skipFrom place stack (gap ++ rest) = skipFrom place stack rest := by
  induction gap with
  | nil => rfl
  | cons c gap ih =>
      have hc : isBlank c = true := hblank c List.mem_cons_self
      -- an object may end where its first name may begin
      have hclose : c ≠ '}' := by
        rintro rfl
        cases hc
      have hstays : skipStep place stack c (gap ++ rest) = .more place stack := by
        cases hopenPlace with
        | value => simp [skipStep, valueStep, hc]
        | firstItem => simp [skipStep, hc]
        | firstName => simp [skipStep, nameStep, hc, hclose]
        | name => simp [skipStep, nameStep, hc]
        | colon => simp [skipStep, hc]
        | @afterValue bracket stack => cases bracket <;> simp [skipStep, afterValueStep, hc]
      rw [List.cons_append, skipFrom_of_more hstays]
      exact ih fun d hmem => hblank d (List.mem_cons_of_mem _ hmem)

/-! ## Words and strings -/

theorem skipFrom_string (hescaped : IsEscaped body) (isName : Bool) (stack : List Bracket)
    (rest : List Char) :
    skipFrom (.inString isName) stack (body ++ '"' :: rest) =
      if isName then skipFrom .colon stack rest else resume stack rest := by
  induction hescaped with
  | nil =>
      cases isName with
      | true => exact skipFrom_of_more rfl
      | false => exact skipFrom_of_completed rfl
  | @plain c body hunquoted hunescaped hprinted htail ih =>
      have hprintable : ¬ c.toNat < 0x20 := by omega
      have hstays : skipStep (.inString isName) stack c (body ++ '"' :: rest) =
          .more (.inString isName) stack := by
        simp [skipStep, hunquoted, hunescaped, hprintable]
      rw [List.cons_append, skipFrom_of_more hstays, ih]
  | @letter letter c body hmeans htail ih =>
      obtain ⟨hnoUnit, hmeant⟩ := escapeLetter?_of_mem hmeans
      have hstarted : skipFrom (.inString isName) stack ('\\' :: letter :: body ++ '"' :: rest) =
          skipFrom (.escape isName) stack (letter :: (body ++ '"' :: rest)) := rfl
      have hended : skipStep (.escape isName) stack letter (body ++ '"' :: rest) =
          .more (.inString isName) stack := by
        simp [skipStep, hnoUnit, hmeant]
      rw [hstarted, skipFrom_of_more hended, ih]
  | @unit digits body _ hunit htail ih =>
      have hstarted : skipFrom (.inString isName) stack
          ('\\' :: 'u' :: digits ++ body ++ '"' :: rest) =
          skipFrom (.digits isName 3) stack (digits ++ (body ++ '"' :: rest)) := by
        rw [List.cons_append, List.cons_append, List.cons_append, List.cons_append,
          List.append_assoc]
        rfl
      rw [hstarted]
      cases hunit with
      | mk hfirst hsecond hthird hfourth =>
          simp only [List.cons_append, List.nil_append, skipFrom, skipStep, hfirst, hsecond, hthird,
            hfourth]
          exact ih

/-! ## Numbers -/

/-- The places where a number may end. -/
inductive IsNumberEnd : Place → Prop where
  | zero : IsNumberEnd .zero
  | whole : IsNumberEnd .whole
  | fraction : IsNumberEnd .fraction
  | exponent : IsNumberEnd .exponent

/-- A number ends before a character that cannot continue it. -/
theorem skipFrom_of_breaks (hends : IsNumberEnd place) (stack : List Bracket)
    (hbreaks : Breaks rest) : skipFrom place stack rest = resume stack rest := by
  cases rest with
  | nil => cases hends <;> cases stack <;> rfl
  | cons c rest =>
      obtain ⟨hdigit, hpoint, hmark⟩ := hbreaks c rfl
      have hstep : skipStep place stack c rest = afterValueStep stack c := by
        cases hends <;> simp [skipStep, pointStep, exponentStep, hdigit, hpoint, hmark]
      rw [skipFrom, hstep]
      cases stack with
      | nil => rfl
      | cons bracket outer => rfl

/-- Digits among digits. -/
theorem skipFrom_digits (hamong : place = .whole ∨ place = .fraction ∨ place = .exponent)
    (hall : ∀ c ∈ digits, c.isDigit = true) (rest : List Char) :
    skipFrom place stack (digits ++ rest) = skipFrom place stack rest := by
  induction digits with
  | nil => rfl
  | cons c digits ih =>
      have hc : c.isDigit = true := hall c List.mem_cons_self
      have hstays : skipStep place stack c (digits ++ rest) = .more place stack := by
        rcases hamong with rfl | rfl | rfl <;> simp [skipStep, hc]
      rw [List.cons_append, skipFrom_of_more hstays]
      exact ih fun d hmem => hall d (List.mem_cons_of_mem _ hmem)

/-- The places where a digit must follow, each with the place after it. -/
def digitPlaces : List (Place × Place) :=
  [(.point, .fraction), (.exponentMark, .exponent), (.exponentSign, .exponent)]

/-- Digits where one must be. -/
theorem skipFrom_first_digits (next : Place) (hleads : (place, next) ∈ digitPlaces)
    (hdigits : IsDigits digits) (rest : List Char) :
    skipFrom place stack (digits ++ rest) = skipFrom next stack rest := by
  obtain ⟨hnonempty, hall⟩ := hdigits
  cases digits with
  | nil => exact absurd rfl hnonempty
  | cons c digits =>
      have hc : c.isDigit = true := hall c List.mem_cons_self
      have hsignless : c ≠ '+' ∧ c ≠ '-' := by
        constructor <;> (rintro rfl; cases hc)
      simp only [digitPlaces, List.mem_cons, Prod.mk.injEq, List.not_mem_nil, or_false] at hleads
      have henters : skipStep place stack c (digits ++ rest) = .more next stack := by
        rcases hleads with ⟨rfl, rfl⟩ | ⟨rfl, rfl⟩ | ⟨rfl, rfl⟩ <;>
          simp [skipStep, digitStep, hc, hsignless]
      have hamong : next = .whole ∨ next = .fraction ∨ next = .exponent := by
        rcases hleads with ⟨-, rfl⟩ | ⟨-, rfl⟩ | ⟨-, rfl⟩ <;> simp
      rw [List.cons_append, skipFrom_of_more henters]
      exact skipFrom_digits hamong (fun d hmem => hall d (List.mem_cons_of_mem _ hmem)) rest

theorem skipFrom_exponent (hbefore : place = .zero ∨ place = .whole ∨ place = .fraction)
    {text : List Char} (hexponent : IsExponent text) (hbreaks : Breaks rest) :
    skipFrom place stack (text ++ rest) = resume stack rest := by
  rcases hexponent with rfl | ⟨mark, sign, digits, hmarked, hsigned, hdigits, rfl⟩
  · refine skipFrom_of_breaks ?_ stack hbreaks
    rcases hbefore with rfl | rfl | rfl
    · exact .zero
    · exact .whole
    · exact .fraction
  · have hbegun : skipStep place stack mark (sign ++ digits ++ rest) =
        .more .exponentMark stack := by
      rcases hbefore with rfl | rfl | rfl <;> rcases hmarked with rfl | rfl <;> rfl
    have hpassed : skipFrom .exponentMark stack (sign ++ digits ++ rest) =
        skipFrom .exponent stack rest := by
      rcases hsigned with rfl | rfl | rfl
      · exact skipFrom_first_digits .exponent (by simp [digitPlaces]) hdigits rest
      · show skipFrom .exponentSign stack (digits ++ rest) = _
        exact skipFrom_first_digits .exponent (by simp [digitPlaces]) hdigits rest
      · show skipFrom .exponentSign stack (digits ++ rest) = _
        exact skipFrom_first_digits .exponent (by simp [digitPlaces]) hdigits rest
    rw [List.cons_append, skipFrom_of_more hbegun, hpassed]
    exact skipFrom_of_breaks .exponent stack hbreaks

theorem skipFrom_fraction (hbefore : place = .zero ∨ place = .whole) {text exponent : List Char}
    (hfraction : IsFraction text) (hexponent : IsExponent exponent) (hbreaks : Breaks rest) :
    skipFrom place stack (text ++ (exponent ++ rest)) = resume stack rest := by
  rcases hfraction with rfl | ⟨digits, hdigits, rfl⟩
  · refine skipFrom_exponent ?_ hexponent hbreaks
    rcases hbefore with rfl | rfl
    · exact .inl rfl
    · exact .inr (.inl rfl)
  · have hbegun : skipStep place stack '.' (digits ++ (exponent ++ rest)) = .more .point stack := by
      rcases hbefore with rfl | rfl <;> rfl
    rw [List.cons_append, skipFrom_of_more hbegun,
      skipFrom_first_digits .fraction (by simp [digitPlaces]) hdigits]
    exact skipFrom_exponent (.inr (.inr rfl)) hexponent hbreaks

/-- A digit is none of the characters that begin another kind of value. -/
theorem plain_of_isDigit (hdigit : c.isDigit = true) :
    isBlank c = false ∧ c ∉ ['n', 't', 'f', '-', '"', '[', ']', '{', '}'] := by
  constructor
  · rw [Bool.eq_false_iff]
    intro hblank
    rcases eq_of_isBlank hblank with rfl | rfl | rfl | rfl <;> cases hdigit
  · intro hmem
    simp only [List.mem_cons, List.not_mem_nil, or_false] at hmem
    rcases hmem with rfl | rfl | rfl | rfl | rfl | rfl | rfl | rfl | rfl <;> cases hdigit

/-- The part before the point leads to one of the two places after it. -/
theorem exists_skipFrom_whole (hstart : place = .value ∨ place = .sign) {whole : List Char}
    (hwhole : IsWhole whole) (stack : List Bracket) :
    ∃ next, (next = .zero ∨ next = .whole) ∧
      ∀ rest, skipFrom place stack (whole ++ rest) = skipFrom next stack rest := by
  rcases hwhole with rfl | ⟨⟨hnonempty, hall⟩, hleading⟩
  · refine ⟨.zero, .inl rfl, fun rest => skipFrom_of_more ?_⟩
    rcases hstart with rfl | rfl <;> rfl
  · refine ⟨.whole, .inr rfl, fun rest => ?_⟩
    cases whole with
    | nil => exact absurd rfl hnonempty
    | cons c digits =>
        have hc : c.isDigit = true := hall c List.mem_cons_self
        have hzero : c ≠ '0' := fun hsame => hleading (by rw [hsame]; rfl)
        obtain ⟨hvisible, hplain⟩ := plain_of_isDigit hc
        simp only [List.mem_cons, not_or] at hplain
        have hbegun : skipStep place stack c (digits ++ rest) = .more .whole stack := by
          rcases hstart with rfl | rfl
          · simp [skipStep, valueStep, hvisible, hplain, hzero, hc]
          · simp [skipStep, digitStep, hzero, hc]
        rw [List.cons_append, skipFrom_of_more hbegun]
        exact skipFrom_digits (.inl rfl) (fun d hmem => hall d (List.mem_cons_of_mem _ hmem)) rest

theorem skipFrom_number {text : List Char} (hnumber : IsNumber text) (stack : List Bracket)
    (hbreaks : Breaks rest) : skipFrom .value stack (text ++ rest) = resume stack rest := by
  obtain ⟨sign, whole, fraction, exponent, hsigned, hwhole, hfraction, hexponent, rfl⟩ :=
    hnumber
  have hafter : ∀ start : Place, start = .value ∨ start = .sign →
      skipFrom start stack (whole ++ (fraction ++ exponent) ++ rest) = resume stack rest := by
    intro start hbegins
    obtain ⟨next, hends, hpassed⟩ := exists_skipFrom_whole hbegins hwhole stack
    rw [List.append_assoc, hpassed, List.append_assoc]
    exact skipFrom_fraction hends hfraction hexponent hbreaks
  rcases hsigned with rfl | rfl
  · exact hafter .value (.inl rfl)
  · show skipFrom .sign stack (whole ++ (fraction ++ exponent) ++ rest) = _
    exact hafter .sign (.inr rfl)

end Machine

/-! ## Brackets -/

/-- Whether a text is passed over as a value, whichever brackets are open. -/
def Skips (text : List Char) : Prop :=
  ∀ stack rest, Breaks rest → skipFrom .value stack (text ++ rest) = resume stack rest

section Brackets

variable {stack : List Bracket} {bracket : Bracket} {key value text rest : List Char} {c : Char}

/-- An item is passed over up to the comma or the bracket after it. -/
theorem skipFrom_item (hitem : IsItem value text) (hskips : Skips value)
    (hbreaks : Breaks (c :: rest)) :
    skipFrom .value (bracket :: stack) (text ++ c :: rest) =
      skipFrom .afterValue (bracket :: stack) (c :: rest) := by
  cases hitem with
  | mk hblank_lead hblank_trail =>
      rw [List.append_assoc, skipFrom_gap .value hblank_lead, List.append_assoc,
        hskips _ _ (breaks_gap hblank_trail hbreaks)]
      exact skipFrom_gap .afterValue hblank_trail _

/-- A member is passed over up to the comma or the bracket after it. -/
theorem skipFrom_member {place : Place} (hstart : place = .firstName ∨ place = .name)
    (hmember : IsMember key value text) (hescaped : IsEscaped key) (hskips : Skips value)
    (hbreaks : Breaks (c :: rest)) :
    skipFrom place (bracket :: stack) (text ++ c :: rest) =
      skipFrom .afterValue (bracket :: stack) (c :: rest) := by
  cases hmember with
  | @mk lead inner text hblank_lead hblank_inner hitem =>
      have hopenPlace : IsOpenPlace place (bracket :: stack) := by
        rcases hstart with rfl | rfl
        · exact .firstName
        · exact .name
      have hquoted : skipStep place (bracket :: stack) '"'
          (key ++ '"' :: (inner ++ ':' :: (text ++ c :: rest))) =
            .more (.inString true) (bracket :: stack) := by
        rcases hstart with rfl | rfl <;> rfl
      have hcolon : skipStep .colon (bracket :: stack) ':' (text ++ c :: rest) =
          .more .value (bracket :: stack) := rfl
      simp only [List.append_assoc, List.cons_append]
      rw [skipFrom_gap hopenPlace hblank_lead, skipFrom_of_more hquoted, skipFrom_string hescaped,
        if_pos rfl, skipFrom_gap .colon hblank_inner,
        skipFrom_of_more hcolon]
      exact skipFrom_item hitem hskips hbreaks

theorem breaks_comma (rest : List Char) : Breaks (',' :: rest) :=
  breaks_cons rfl (by decide) rfl rest

theorem breaks_brace (rest : List Char) : Breaks ('}' :: rest) :=
  breaks_cons rfl (by decide) rfl rest

theorem skipFrom_items {values : List (List Char)} (hjoined : Joined IsItem values text)
    (heach : ∀ value ∈ values, Skips value) (stack : List Bracket) (rest : List Char) :
    skipFrom .value (.list :: stack) (text ++ ']' :: rest) = resume stack rest := by
  induction hjoined with
  | one hitem =>
      rw [skipFrom_item hitem (heach _ List.mem_cons_self) (breaks_cons rfl (by decide) rfl rest)]
      exact skipFrom_of_completed rfl
  | @cons value next values text more hitem htail ih =>
      have hcomma : skipStep .afterValue (.list :: stack) ',' (more ++ ']' :: rest) =
          .more .value (.list :: stack) := rfl
      rw [List.append_assoc, List.cons_append,
        skipFrom_item hitem (heach _ List.mem_cons_self) (breaks_comma _), skipFrom_of_more hcomma]
      exact ih fun value hmem => heach value (List.mem_cons_of_mem _ hmem)

theorem skipFrom_members {members : List (List Char × List Char)}
    (hjoined : Joined (fun member => IsMember member.1 member.2) members text)
    (hnames : ∀ member ∈ members, IsEscaped member.1) (heach : ∀ member ∈ members, Skips member.2)
    {place : Place} (hstart : place = .firstName ∨ place = .name) (stack : List Bracket)
    (rest : List Char) :
    skipFrom place (.object :: stack) (text ++ '}' :: rest) = resume stack rest := by
  induction hjoined generalizing place with
  | one hmember =>
      rw [skipFrom_member hstart hmember (hnames _ List.mem_cons_self) (heach _ List.mem_cons_self)
        (breaks_brace rest)]
      exact skipFrom_of_completed rfl
  | @cons member next members text more hmember htail ih =>
      have hcomma : skipStep .afterValue (.object :: stack) ',' (more ++ '}' :: rest) =
          .more .name (.object :: stack) := rfl
      rw [List.append_assoc, List.cons_append, skipFrom_member hstart hmember
        (hnames _ List.mem_cons_self) (heach _ List.mem_cons_self) (breaks_comma _),
        skipFrom_of_more hcomma]
      exact ih (fun member hmem => hnames member (List.mem_cons_of_mem _ hmem))
        (fun member hmem => heach member (List.mem_cons_of_mem _ hmem)) (.inr rfl)

end Brackets

/-! ## Values -/

/-- A value does not begin with a blank or a closing bracket. -/
theorem IsValue.exists_cons {text : List Char} (hvalue : IsValue text) :
    ∃ c more, text = c :: more ∧ isBlank c = false ∧ c ≠ ']' := by
  cases hvalue with
  | null => exact ⟨_, _, rfl, rfl, by decide⟩
  | yes => exact ⟨_, _, rfl, rfl, by decide⟩
  | no => exact ⟨_, _, rfl, rfl, by decide⟩
  | string hescaped => exact ⟨_, _, rfl, rfl, by decide⟩
  | list hitems heach => cases hitems <;> exact ⟨_, _, rfl, rfl, by decide⟩
  | object hmembers hnames heach => cases hmembers <;> exact ⟨_, _, rfl, rfl, by decide⟩
  | number hnumber =>
      obtain ⟨sign, whole, fraction, exponent, hsigned, hwhole, -, -, rfl⟩ := hnumber
      rcases hsigned with rfl | rfl
      · rcases hwhole with rfl | ⟨⟨hnonempty, hall⟩, -⟩
        · exact ⟨_, _, rfl, rfl, by decide⟩
        · cases whole with
          | nil => exact absurd rfl hnonempty
          | cons c digits =>
              obtain ⟨hvisible, hplain⟩ := plain_of_isDigit (hall c List.mem_cons_self)
              exact ⟨c, _, rfl, hvisible, fun hsame => hplain (by simp [hsame])⟩
      · exact ⟨_, _, rfl, rfl, by decide⟩

/-- The first item of a list is passed over like any other. -/
theorem skipFrom_firstItem {values : List (List Char)} {text : List Char}
    (hjoined : Joined IsItem values text) (heach : ∀ value ∈ values, IsValue value)
    (stack : List Bracket) (rest : List Char) :
    skipFrom .firstItem stack (text ++ rest) = skipFrom .value stack (text ++ rest) := by
  have hfirst : ∀ value item more, IsValue value → IsItem value item →
      skipFrom .firstItem stack (item ++ more) = skipFrom .value stack (item ++ more) := by
    rintro value _ more hvalue ⟨hblank_lead, -⟩
    obtain ⟨c, tail, rfl, hvisible, hunclosed⟩ := hvalue.exists_cons
    rw [List.append_assoc, skipFrom_gap .firstItem hblank_lead,
      skipFrom_gap .value hblank_lead, List.cons_append, List.cons_append, skipFrom, skipFrom]
    simp only [skipStep, hvisible, hunclosed, Bool.false_eq_true, if_false]
  cases hjoined with
  | one hitem => exact hfirst _ _ _ (heach _ List.mem_cons_self) hitem
  | cons hitem htail =>
      rw [List.append_assoc]
      exact hfirst _ _ _ (heach _ List.mem_cons_self) hitem

/-- **Every value is passed over,** whichever brackets are open. The induction is on the grammar:
the parts of a bracket are values themselves. -/
theorem IsValue.skips {text : List Char} (hvalue : IsValue text) : Skips text := by
  induction hvalue with
  | null =>
      intro stack rest _
      exact (skipFrom_of_completed rfl : skipFrom (.word ['l']) stack ('l' :: rest) = _)
  | yes =>
      intro stack rest _
      exact (skipFrom_of_completed rfl : skipFrom (.word ['e']) stack ('e' :: rest) = _)
  | no =>
      intro stack rest _
      exact (skipFrom_of_completed rfl : skipFrom (.word ['e']) stack ('e' :: rest) = _)
  | number hnumber =>
      intro stack rest hbreaks
      exact skipFrom_number hnumber stack hbreaks
  | @string body hescaped =>
      intro stack rest _
      show skipFrom (.inString false) stack (body ++ ['"'] ++ rest) = _
      rw [List.append_assoc, List.singleton_append, skipFrom_string hescaped]
      rfl
  | @list values text hitems heach ih =>
      intro stack rest _
      cases hitems with
      | @empty gap hblank =>
          show skipFrom .firstItem (.list :: stack) (gap ++ [']'] ++ rest) = _
          rw [List.append_assoc, skipFrom_gap .firstItem hblank]
          exact skipFrom_of_completed rfl
      | @parts value values inside hjoined =>
          show skipFrom .firstItem (.list :: stack) (inside ++ [']'] ++ rest) = _
          rw [List.append_assoc, skipFrom_firstItem hjoined heach]
          exact skipFrom_items hjoined ih stack rest
  | @object members text hobject hnames heach ih =>
      intro stack rest _
      cases hobject with
      | @empty gap hblank =>
          show skipFrom .firstName (.object :: stack) (gap ++ ['}'] ++ rest) = _
          rw [List.append_assoc, skipFrom_gap .firstName hblank]
          exact skipFrom_of_completed rfl
      | @parts member members inside hjoined =>
          show skipFrom .firstName (.object :: stack) (inside ++ ['}'] ++ rest) = _
          rw [List.append_assoc]
          exact skipFrom_members hjoined hnames ih (.inl rfl) stack rest

theorem skipValue_of_isValue {text gap rest : List Char} (hvalue : IsValue text)
    (hblank : IsGap gap) (hbreaks : Breaks rest) :
    skipValue (gap ++ (text ++ rest)) = .ok rest := by
  rw [skipValue, skipFrom_gap .value hblank]
  exact hvalue.skips [] rest hbreaks

end RegionSync.Json
