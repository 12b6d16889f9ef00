import RegionSync.Json.Choice
import RegionSync.Json.Record
import RegionSync.Proofs.Json.Values

set_option autoImplicit false

/-! # Reading records and alternatives

An object is read into a record one member after the other: a member of the record is set, any
other one is passed over (`Schema.Adds`). What comes out is what the members make of the starting
record, one by one (`Schema.Fills`), wherever the blanks are and however the names are spelled
(`Schema.takes_object`).

A codec is *faithful* if it takes what it writes for the value that it wrote. A record is read back
if putting its written members into the starting record gives the record (`Schema.takes_write`), and
values that go by a name are read back if no two have the same one (`faithful_named`).
-/

namespace RegionSync.Json

/-! ## Faithful codecs -/

/-- Whether every value is read back from what is written for it. -/
def Codec.Faithful {α : Type} (codec : Codec α) : Prop :=
  ∀ value, codec.Takes (codec.write value) value

theorem faithful_string : Codec.string.Faithful := fun value => takes_string (isString_quote value)

theorem faithful_unsigned : Codec.unsigned.Faithful := takes_unsigned

theorem faithful_bool : Codec.bool.Faithful := takes_bool

theorem Codec.Takes.decode_encode {α : Type} {codec : Codec α} {value : α}
    (htakes : codec.Takes (codec.write value) value) :
    codec.decode (codec.encode value) = .ok value := by
  refine htakes.parse isGap_nil isGap_nil ?_
  rw [List.nil_append, List.append_nil]
  exact String.toList_ofList

/-- Whether every value is the value of its JSON form. -/
def Codec.RoundTrips {α : Type} (codec : Codec α) : Prop :=
  ∀ value, codec.decode (codec.encode value) = .ok value

theorem Codec.Faithful.roundTrips {α : Type} {codec : Codec α} (hfaithful : codec.Faithful) :
    codec.RoundTrips := fun value => (hfaithful value).decode_encode

/-! ## Members -/

section Members

variable {ρ : Type} {schema : Schema ρ} {key value text inner rest : List Char} {c : Char}
  {members : List (List Char × List Char)}

/-- Whether reading a text into a record through a member changes the record in this way. -/
def Member.Puts (member : Member ρ) (text : List Char) (record record' : ρ) : Prop :=
  ∀ gap rest, IsGap gap → Breaks rest →
    member.read record (gap ++ (text ++ rest)) = .ok (record', rest)

theorem Member.puts_of {α : Type} {codec : Codec α} {content : α}
    (htakes : codec.Takes text content) (name : String) (get : ρ → α) (set : α → ρ → ρ)
    (record : ρ) :
    (Member.of name codec get set).Puts text record (set content record) := by
  intro gap rest hblank hbreaks
  show Except.map _ (codec.read (gap ++ (text ++ rest))) = _
  rw [htakes gap rest hblank hbreaks]
  rfl

/-- How far the reading of an object has come: the names that were seen, and the record. -/
structure Progress (ρ : Type) where
  seen : List String
  record : ρ

/-- What one member of an object does. -/
inductive Schema.Adds (schema : Schema ρ) (key value : List Char) :
    Progress ρ → Progress ρ → Prop where
  /-- A member that the record does not have is passed over. -/
  | unknown {name : String} {state : Progress ρ} (hspelled : SpellsAll key name.toList)
      (habsent : schema.members.find? (·.name == name) = none) (hvalue : IsValue value) :
      schema.Adds key value state state
  /-- A member of the record is set. -/
  | known {member : Member ρ} {seen : List String} {record record' : ρ}
      (hspelled : SpellsAll key member.name.toList)
      (hfound : schema.members.find? (·.name == member.name) = some member)
      (hfresh : member.name ∉ seen) (hputs : member.Puts value record record') :
      schema.Adds key value ⟨seen, record⟩ ⟨member.name :: seen, record'⟩

/-- What members of an object do one after the other. -/
inductive Schema.Fills (schema : Schema ρ) :
    List (List Char × List Char) → Progress ρ → Progress ρ → Prop where
  | nil {state : Progress ρ} : schema.Fills [] state state
  | cons {key value : List Char} {members : List (List Char × List Char)}
      {state middle state' : Progress ρ} (hhead : schema.Adds key value state middle)
      (htail : schema.Fills members middle state') :
      schema.Fills ((key, value) :: members) state state'

theorem passColon_gap (hblank : IsGap inner) (text : List Char) :
    passColon (inner ++ ':' :: text) = .ok text := by
  rw [passColon, skipBlank_gap_cons hblank rfl]
  rfl

/-- A member that is read after its name. -/
theorem Schema.Adds.readMember {state state' : Progress ρ}
    (hadds : schema.Adds key value state state') (hblank : IsGap inner) (hitem : IsItem value text)
    (hbreaks : Breaks (c :: rest)) :
    ∃ name trail, SpellsAll key name.toList ∧ IsGap trail ∧
      schema.readMember state.seen state.record name (inner ++ ':' :: (text ++ c :: rest)) =
        .ok (state'.record, state'.seen, trail ++ c :: rest) := by
  cases hitem with
  | @mk lead trail hblank_lead hblank_trail =>
      have hafter := breaks_gap hblank_trail hbreaks
      rw [List.append_assoc, List.append_assoc]
      cases hadds with
      | @unknown name _ hspelled habsent hvalue =>
          refine ⟨name, trail, hspelled, hblank_trail, ?_⟩
          rw [Schema.readMember, habsent]
          simp only [passColon_gap hblank, skipValue_of_isValue hvalue hblank_lead hafter]
          rfl
      | @known member seen record record' hspelled hfound hfresh hputs =>
          refine ⟨member.name, trail, hspelled, hblank_trail, ?_⟩
          have hunseen : seen.contains member.name = false := by simpa using hfresh
          rw [Schema.readMember, hfound]
          simp only [hunseen, Bool.false_eq_true, if_false, passColon_gap hblank,
            hputs lead _ hblank_lead hafter]
          rfl

theorem Schema.nextName_gap (isFirst : Bool) (hblank : IsGap inner) (text : List Char) :
    Schema.nextName isFirst (inner ++ text) = Schema.nextName isFirst text := by
  rw [Schema.nextName, skipBlank_gap hblank]
  rfl

theorem Schema.readMembers_gap (budget : Nat) (isFirst : Bool) (state : Progress ρ)
    (hblank : IsGap inner) (text : List Char) :
    schema.readMembers budget isFirst state.seen state.record (inner ++ text) =
      schema.readMembers budget isFirst state.seen state.record text := by
  cases budget with
  | zero => rfl
  | succ budget => rw [Schema.readMembers, Schema.readMembers, Schema.nextName_gap isFirst hblank]

/-- The name of the first member of an object. -/
theorem Schema.nextName_first (hblank : IsGap inner) (text : List Char) :
    Schema.nextName true (inner ++ '"' :: text) = .ok (.part text) := by
  rw [Schema.nextName_gap true hblank]
  rfl

/-- The name of a member after a comma. -/
theorem Schema.nextName_comma (hblank : IsGap inner) (text : List Char) :
    Schema.nextName false (',' :: (inner ++ '"' :: text)) = .ok (.part text) := by
  have hcomma : skipBlank (',' :: (inner ++ '"' :: text)) = ',' :: (inner ++ '"' :: text) :=
    skipBlank_of_not_blank rfl _
  rw [Schema.nextName, hcomma]
  simp [skipBlank_gap_cons hblank (rfl : isBlank '"' = false)]

/-- How the members of an object begin: the first one with nothing before it, any other one with a
comma. -/
inductive Leads (text : List Char) : Bool → List Char → Prop where
  | first : Leads text true text
  | comma : Leads text false (',' :: text)

/-- **One member.** The members after it are read with the progress that it makes. -/
theorem Schema.Adds.readMembers {state state' : Progress ρ}
    (hadds : schema.Adds key value state state') (hmember : IsMember key value text)
    (hbreaks : Breaks (c :: rest)) {isFirst : Bool} {input : List Char}
    (hleads : Leads (text ++ c :: rest) isFirst input) (budget : Nat) :
    schema.readMembers (budget + 1) isFirst state.seen state.record input =
      schema.readMembers budget false state'.seen state'.record (c :: rest) := by
  cases hmember with
  | @mk lead inner text hblank_lead hblank_inner hitem =>
      obtain ⟨name, trail, hspelled, hblank_trail, hreadMember⟩ :=
        hadds.readMember hblank_inner hitem hbreaks
      have hnext : Schema.nextName isFirst input =
          .ok (.part (key ++ '"' :: (inner ++ ':' :: (text ++ c :: rest)))) := by
        cases hleads with
        | first =>
            simp only [List.append_assoc, List.cons_append]
            exact Schema.nextName_first hblank_lead _
        | comma =>
            simp only [List.append_assoc, List.cons_append]
            exact Schema.nextName_comma hblank_lead _
      rw [Schema.readMembers, hnext]
      simp only [readStringBody_of_spellsAll hspelled, hreadMember]
      exact Schema.readMembers_gap budget false state' hblank_trail _

theorem Schema.readMembers_close {state : Progress ρ}
    (hcomplete : schema.isComplete state.seen = true) (isFirst : Bool) (budget : Nat)
    (rest : List Char) :
    schema.readMembers (budget + 1) isFirst state.seen state.record ('}' :: rest) =
      .ok (state.record, rest) := by
  have hnext : Schema.nextName isFirst ('}' :: rest) = .ok (.close rest) := rfl
  rw [Schema.readMembers, hnext]
  simp only [hcomplete, if_true]

/-- **All members.** The induction is on the members; the bracket takes one more of the budget. -/
theorem Schema.Fills.readMembers {state state' : Progress ρ}
    (hjoined : Joined (fun member => IsMember member.1 member.2) members text)
    (hfills : schema.Fills members state state') (hcomplete : schema.isComplete state'.seen = true)
    {budget : Nat} (henough : members.length < budget) {isFirst : Bool} {input : List Char}
    (hleads : Leads (text ++ '}' :: rest) isFirst input) :
    schema.readMembers budget isFirst state.seen state.record input =
      .ok (state'.record, rest) := by
  induction hjoined generalizing state budget isFirst input with
  | @one member text hmember =>
      -- one of the budget is for the member, one for the bracket
      obtain ⟨budget, rfl⟩ : ∃ n, budget = n + 1 + 1 := ⟨budget - 2, by simp at henough; omega⟩
      cases hfills with
      | cons hhead htail =>
          cases htail with
          | nil =>
              rw [hhead.readMembers hmember (breaks_brace rest) hleads]
              exact Schema.readMembers_close hcomplete false budget rest
  | @cons member next members text more hmember htail ih =>
      obtain ⟨budget, rfl⟩ : ∃ n, budget = n + 1 := ⟨budget - 1, by simp at henough; omega⟩
      rw [List.append_assoc, List.cons_append] at hleads
      cases hfills with
      | cons hhead hfillsTail =>
          rw [hhead.readMembers hmember (breaks_comma _) hleads]
          exact ih hfillsTail (by simpa using henough) .comma

/-- There are not more parts than commas, and one. -/
theorem Joined.length_le {α : Type} {IsPart : α → List Char → Prop} {parts : List α}
    (hjoined : Joined IsPart parts text) : parts.length ≤ text.length + 1 := by
  induction hjoined with
  | one => simp
  | cons hhead htail ih =>
      simp only [List.length_cons, List.length_append] at ih ⊢
      omega

/-- **Every object is taken for what its members make of the starting record.** -/
theorem Schema.takes_object (hobject : IsObject members text) {state : Progress ρ}
    (hfills : schema.Fills members ⟨[], schema.start⟩ state)
    (hcomplete : schema.isComplete state.seen = true) : schema.codec.Takes text state.record := by
  intro gap rest hblank _
  show schema.read _ = _
  cases hobject with
  | @empty inner hblank_inner =>
      cases hfills with
      | nil =>
          rw [List.cons_append, List.cons_append, List.append_assoc, Schema.read,
            skipBlank_gap_cons hblank rfl]
          have hclose := Schema.readMembers_close hcomplete true (inner ++ '}' :: rest).length rest
          rw [← Schema.readMembers_gap _ _ _ hblank_inner] at hclose
          exact hclose
  | @parts member members inside hjoined =>
      have hcount := hjoined.length_le
      rw [List.cons_append, List.cons_append, List.append_assoc, Schema.read,
        skipBlank_gap_cons hblank rfl]
      refine hfills.readMembers hjoined hcomplete ?_ .first
      -- the commas alone account for all members but one
      simp only [List.length_append, List.length_cons] at hcount ⊢
      omega

end Members

/-! ## Objects without gaps -/

/-- A member without gaps. -/
def compactMember (member : List Char × List Char) : List Char :=
  '"' :: (member.1 ++ '"' :: ':' :: member.2)

/-- An object without gaps. -/
def compact (members : List (List Char × List Char)) : List Char :=
  ['{'] ++ ((members.map compactMember).intersperse [',']).flatten ++ ['}']

theorem isMember_compactMember (member : List Char × List Char) :
    IsMember member.1 member.2 (compactMember member) := by
  have hspelled : compactMember member =
      [] ++ '"' :: (member.1 ++ '"' :: ([] ++ ':' :: ([] ++ (member.2 ++ [])))) := by
    simp [compactMember]
  rw [hspelled]
  exact .mk isGap_nil isGap_nil (.mk isGap_nil isGap_nil)

theorem joined_compactMember (member : List Char × List Char)
    (members : List (List Char × List Char)) :
    Joined (fun member => IsMember member.1 member.2) (member :: members)
      (((member :: members).map compactMember).intersperse [',']).flatten := by
  induction members generalizing member with
  | nil =>
      rw [List.map_singleton, List.intersperse_singleton, List.flatten_singleton]
      exact .one (isMember_compactMember member)
  | cons next members ih =>
      rw [List.map_cons, List.map_cons, List.intersperse_cons_cons, List.flatten_cons,
        List.flatten_cons, List.singleton_append]
      exact .cons (isMember_compactMember member) (ih next)

theorem isObject_compact (members : List (List Char × List Char)) :
    IsObject members (compact members) := by
  cases members with
  | nil => exact .empty isGap_nil
  | cons member members => exact .parts (joined_compactMember member members)

/-- What has a name of its own is found by it. -/
theorem find?_key {α : Type} {items : List α} {key : α → String} (hdistinct : (items.map key).Nodup)
    {item : α} (hmem : item ∈ items) :
    items.find? (fun other => key other == key item) = some item := by
  obtain ⟨found, hfound⟩ : ∃ found, items.find? (fun other => key other == key item) = some found :=
    Option.isSome_iff_exists.mp (List.find?_isSome.mpr ⟨item, hmem, beq_self_eq_true _⟩)
  have hsameKey : key found = key item := by simpa using List.find?_some hfound
  have hsame := List.inj_on_of_nodup_map hdistinct (List.mem_of_find?_eq_some hfound) hmem hsameKey
  rw [hfound, hsame]

/-! ## Written records -/

section Written

variable {ρ : Type} {schema : Schema ρ} {record : ρ}

/-- Whether writing a record and reading the members one after the other leads from one record to
another. -/
inductive Rebuilds (record : ρ) : List (Member ρ) → ρ → ρ → Prop where
  | nil {done : ρ} : Rebuilds record [] done done
  | cons {member : Member ρ} {members : List (Member ρ)} {before middle after : ρ}
      (hputs : member.Puts (member.write record) before middle)
      (htail : Rebuilds record members middle after) :
      Rebuilds record (member :: members) before after

/-- A member with a faithful codec is set to what the record holds. -/
theorem Rebuilds.of {α : Type} {name : String} {codec : Codec α} {get : ρ → α} {set : α → ρ → ρ}
    {members : List (Member ρ)} {before after : ρ} (hfaithful : codec.Faithful)
    (htail : Rebuilds record members (set (get record) before) after) :
    Rebuilds record (.of name codec get set :: members) before after :=
  .cons (Member.puts_of (hfaithful (get record)) name get set before) htail

/-- A member as it is written: the inside of its name, and its value. -/
def Member.written (record : ρ) (member : Member ρ) : List Char × List Char :=
  (member.name.toList.flatMap escapeChar, member.write record)

theorem Schema.write_eq_compact (schema : Schema ρ) (record : ρ) :
    schema.write record = compact (schema.members.map (·.written record)) := by
  have hmember : Schema.writeMember record = compactMember ∘ (·.written record) := by
    funext member
    simp [Schema.writeMember, compactMember, quote, Member.written]
  rw [Schema.write, compact, List.map_map, hmember]

/-- The written members do to a record what reading them one by one does. -/
theorem Rebuilds.fills {members : List (Member ρ)} {before after : ρ}
    (hrebuilds : Rebuilds record members before after)
    (hdistinct : (schema.members.map (·.name)).Nodup) (hsubset : members ⊆ schema.members)
    (honce : (members.map (·.name)).Nodup) {seen : List String}
    (hfresh : ∀ member ∈ members, member.name ∉ seen) :
    schema.Fills (members.map (·.written record)) ⟨seen, before⟩
      ⟨(members.map (·.name)).reverse ++ seen, after⟩ := by
  induction hrebuilds generalizing seen with
  | nil => exact .nil
  | @cons member members before middle after hputs htail ih =>
      rw [List.map_cons, List.nodup_cons] at honce
      have hadds : schema.Adds (member.written record).1 (member.written record).2 ⟨seen, before⟩
          ⟨member.name :: seen, middle⟩ :=
        .known (spellsAll_flatMap_escapeChar _) (find?_key hdistinct (hsubset List.mem_cons_self))
          (hfresh member List.mem_cons_self) hputs
      have hfreshTail : ∀ other ∈ members, other.name ∉ member.name :: seen := by
        intro other hmem
        rw [List.mem_cons, not_or]
        refine ⟨fun hsame => honce.1 ?_, hfresh other (List.mem_cons_of_mem _ hmem)⟩
        exact List.mem_map.mpr ⟨other, hmem, hsame⟩
      rw [List.map_cons, List.map_cons, List.reverse_cons, List.append_assoc, List.singleton_append]
      exact .cons hadds (ih (List.subset_of_cons_subset hsubset) honce.2 hfreshTail)

/-- **A record is read back** from what is written for it. -/
theorem Schema.takes_write (hdistinct : (schema.members.map (·.name)).Nodup)
    (hrebuilds : Rebuilds record schema.members schema.start record) :
    schema.codec.Takes (schema.codec.write record) record := by
  have hfills : schema.Fills (schema.members.map (·.written record)) ⟨[], schema.start⟩
      ⟨(schema.members.map (·.name)).reverse ++ [], record⟩ :=
    hrebuilds.fills hdistinct (List.Subset.refl _) hdistinct fun _ _ => List.not_mem_nil
  have hcomplete : schema.isComplete ((schema.members.map (·.name)).reverse ++ []) = true := by
    simp only [Schema.isComplete, List.append_nil, Bool.or_eq_true, List.all_eq_true,
      List.contains_iff_mem, List.mem_reverse]
    exact .inr fun member hmem => List.mem_map_of_mem hmem
  have hobject := isObject_compact (schema.members.map (·.written record))
  rw [← schema.write_eq_compact record] at hobject
  exact Schema.takes_object hobject hfills hcomplete

end Written

/-! ## Alternatives -/

section Alternatives

variable {α β : Type} {variants : List (Variant α)} {name : String} {gap text : List Char}

/-- An alternative that is given by its name. -/
theorem Variant.readAny_name {variant : Variant α} {value : α}
    (hfound : Variant.find variants name = .ok variant) (hconstant : variant.constant = some value)
    (hspelled : IsString text name) (hblank : IsGap gap) (rest : List Char) :
    Variant.readAny variants (gap ++ (text ++ rest)) = .ok (value, rest) := by
  obtain ⟨body, hspelledBody, rfl⟩ := hspelled
  rw [List.cons_append, List.cons_append, List.append_assoc, Variant.readAny,
    skipBlank_gap_cons hblank rfl]
  simp only [Variant.readName, List.singleton_append, readStringBody_of_spellsAll hspelledBody,
    hfound, hconstant]

/-- An alternative that is given by its name and its content. -/
theorem Variant.readAny_carrying {codec : Codec β} {content : β} {make : β → α}
    (hfound : Variant.find variants name = .ok (.carrying name codec.read make))
    (htakes : codec.Takes text content) (hblank : IsGap gap) (rest : List Char) :
    Variant.readAny variants (gap ++ '{' :: (quote name ++ ':' :: (text ++ '}' :: rest))) =
      .ok (make content, rest) := by
  have hkey : Variant.readKey (quote name ++ ':' :: (text ++ '}' :: rest)) =
      .ok (name, ':' :: (text ++ '}' :: rest)) := by
    have hbody := readStringBody_of_spellsAll (spellsAll_flatMap_escapeChar name.toList)
      (':' :: (text ++ '}' :: rest))
    simpa [Variant.readKey, quote, skipBlank_of_not_blank (rfl : isBlank '"' = false)] using hbody
  have hcolon : passColon (':' :: (text ++ '}' :: rest)) = .ok (text ++ '}' :: rest) :=
    passColon_gap isGap_nil _
  have hcontentRead : codec.read (text ++ '}' :: rest) = .ok (content, '}' :: rest) :=
    htakes [] _ isGap_nil (breaks_brace rest)
  have hended : Variant.passEnd ('}' :: rest) = .ok rest := rfl
  rw [Variant.readAny, skipBlank_gap_cons hblank rfl]
  simp only [Variant.readObject, hkey, hfound, hcolon, Variant.carrying, hcontentRead, Except.map,
    hended]

/-- **Values that go by a name are read back** if no two of them have the same name. -/
theorem faithful_named {values : List α} {name : α → String} (hall : ∀ value, value ∈ values)
    (hdistinct : (values.map name).Nodup) : (Codec.named values name).Faithful := by
  intro value gap rest hblank _
  have hfound : Variant.find (values.map fun value => .plain (name value) value) (name value) =
      .ok (.plain (name value) value) := by
    have hhere := find?_key hdistinct (hall value)
    simp only [Variant.find, List.find?_map, Function.comp_def, Variant.plain, hhere,
      Option.map_some]
  exact Variant.readAny_name hfound rfl (isString_quote _) hblank rest

end Alternatives

end RegionSync.Json
