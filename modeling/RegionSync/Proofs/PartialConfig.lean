import RegionSync.Interchange
import RegionSync.Proofs.Json.Records
import Mathlib.Data.Finset.Basic

set_option autoImplicit false

/-! # Settings that are given in part

A document may give any of the settings, in any order and among whatever else. What is not given
keeps the default of the record that it belongs to, so a part of the settings that is given in part
keeps the defaults for the rest of that part (`Config.pick`). The reader goes from the record filled
by some names to the one filled by one name more, so the order does not matter (`Schema.Sets`), and
the names at the end are those that the document gives (`Schema.IsPartial.takes`).
-/

namespace RegionSync

namespace Json

/-! ## Objects with some of the members -/

/-- A member of an object as it is meant: its name, how the name is spelled, and its value. -/
structure Property where
  name : String
  key : List Char
  value : List Char
  spelled : SpellsAll key name.toList

/-- The property with a name spelled as it would be written. -/
def Property.plain (name : String) (value : List Char) : Property where
  name := name
  key := name.toList.flatMap escapeChar
  value := value
  spelled := spellsAll_flatMap_escapeChar name.toList

/-- The two texts of a property. -/
def Property.texts (property : Property) : List Char × List Char := (property.key, property.value)

section Partial

variable {ρ : Type} {schema : Schema ρ} {chosen : Finset String} {Gives : String → List Char → Prop}
  {properties : List Property} {text : List Char} {fill : Finset String → ρ}

/-- The names of the members of a record. -/
def Schema.names (schema : Schema ρ) : List String := schema.members.map (·.name)

/-- The names among the properties that the record has. -/
def Schema.namesIn (schema : Schema ρ) (properties : List Property) : List String :=
  (properties.map (·.name)).filter fun name => name ∈ schema.names

/-- Whether an object holds exactly the chosen members of a record, each once and with a text that
`Gives` allows, in any order, and among them any values by names that the record does not have. -/
structure Schema.IsPartial (schema : Schema ρ) (chosen : Finset String)
    (Gives : String → List Char → Prop) (properties : List Property) (text : List Char) : Prop where
  object : IsObject (properties.map (·.texts)) text
  once : (schema.namesIn properties).Nodup
  exactly : ∀ name, name ∈ chosen ↔ name ∈ schema.namesIn properties
  known : ∀ property ∈ properties, property.name ∈ schema.names → Gives property.name property.value
  unknown : ∀ property ∈ properties, property.name ∉ schema.names → IsValue property.value

/-- Whether a text for a name sets a member in the records that have been filled by some names, and
the name is one more of them. -/
def Schema.Sets (schema : Schema ρ) (fill : Finset String → ρ) (name : String) (text : List Char) :
    Prop :=
  ∃ member, schema.members.find? (·.name == name) = some member ∧
    ∀ given, member.Puts text (fill given) (fill (insert name given))

theorem Schema.sets_of {α : Type} {name : String} {codec : Codec α} {get : ρ → α} {set : α → ρ → ρ}
    {content : α} (hfound : schema.members.find? (·.name == name) = some (.of name codec get set))
    (htakes : codec.Takes text content)
    (hmore : ∀ given, set content (fill given) = fill (insert name given)) :
    schema.Sets fill name text := by
  refine ⟨_, hfound, fun given => ?_⟩
  rw [← hmore given]
  exact Member.puts_of htakes name get set (fill given)

/-- One property adds its name to those that were read if the record has it. -/
theorem Schema.adds_property {property : Property} {seen : List String}
    (hknown : property.name ∈ schema.names → schema.Sets fill property.name property.value)
    (hunknown : property.name ∉ schema.names → IsValue property.value)
    (hfresh : property.name ∈ schema.names → property.name ∉ seen) :
    schema.Adds property.key property.value ⟨seen, fill seen.toFinset⟩
      ⟨schema.namesIn [property] ++ seen, fill (schema.namesIn [property] ++ seen).toFinset⟩ := by
  by_cases hmem : property.name ∈ schema.names
  · have hnames : schema.namesIn [property] = [property.name] := by simp [Schema.namesIn, hmem]
    obtain ⟨member, hfound, hputs⟩ := hknown hmem
    have hname : member.name = property.name := by simpa using List.find?_some hfound
    rw [hnames, List.singleton_append, List.toFinset_cons, ← hname]
    rw [← hname] at hfound hputs hfresh
    refine .known ?_ hfound (hfresh (hname ▸ hmem)) (hputs seen.toFinset)
    rw [hname]
    exact property.spelled
  · have hnames : schema.namesIn [property] = [] := by simp [Schema.namesIn, hmem]
    have habsent : schema.members.find? (·.name == property.name) = none := by
      rw [List.find?_eq_none]
      intro member hmember hsame
      exact hmem (List.mem_map.mpr ⟨member, hmember, by simpa using hsame⟩)
    rw [hnames, List.nil_append]
    exact .unknown property.spelled habsent (hunknown hmem)

theorem Schema.namesIn_cons (schema : Schema ρ) (property : Property) (properties : List Property) :
    schema.namesIn (property :: properties) =
      schema.namesIn [property] ++ schema.namesIn properties := by
  rw [Schema.namesIn, ← List.singleton_append, List.map_append, List.filter_append]
  rfl

/-- The properties add their names to those that were read. The induction is on the properties, and
the record is always the one that is filled by the names read so far. -/
theorem Schema.fills_properties
    (hknown : ∀ property ∈ properties, property.name ∈ schema.names →
      schema.Sets fill property.name property.value)
    (hunknown : ∀ property ∈ properties, property.name ∉ schema.names → IsValue property.value)
    (honce : (schema.namesIn properties).Nodup) {seen : List String}
    (hfresh : ∀ name ∈ schema.namesIn properties, name ∉ seen) :
    ∃ seen', schema.Fills (properties.map (·.texts)) ⟨seen, fill seen.toFinset⟩
        ⟨seen', fill seen'.toFinset⟩ ∧
      ∀ name, name ∈ seen' ↔ name ∈ schema.namesIn properties ∨ name ∈ seen := by
  induction properties generalizing seen with
  | nil => exact ⟨seen, .nil, fun name => by simp [Schema.namesIn]⟩
  | cons property properties ih =>
      rw [Schema.namesIn_cons] at honce hfresh
      obtain ⟨-, honceTail, hapart⟩ := List.nodup_append.mp honce
      have hfreshHead : property.name ∈ schema.names → property.name ∉ seen := fun hmem =>
        hfresh property.name (List.mem_append_left _ (by simp [Schema.namesIn, hmem]))
      have hfreshTail : ∀ name ∈ schema.namesIn properties,
          name ∉ schema.namesIn [property] ++ seen := by
        intro name hmem
        rw [List.mem_append, not_or]
        exact ⟨fun hhere => hapart name hhere name hmem rfl,
          hfresh name (List.mem_append_right _ hmem)⟩
      obtain ⟨seen', hfills, hnames⟩ := ih
        (fun other hmem => hknown other (List.mem_cons_of_mem _ hmem))
        (fun other hmem => hunknown other (List.mem_cons_of_mem _ hmem)) honceTail hfreshTail
      have hadds := Schema.adds_property (hknown property List.mem_cons_self)
        (hunknown property List.mem_cons_self) hfreshHead
      refine ⟨seen', .cons hadds hfills, fun name => ?_⟩
      rw [hnames, Schema.namesIn_cons schema property properties, List.mem_append, List.mem_append,
        or_left_comm, or_assoc]

/-- **An object with some of the members is taken for the record that is filled by their names.** -/
theorem Schema.IsPartial.takes (hgiven : schema.IsPartial chosen Gives properties text)
    (fill : Finset String → ρ) (hlenient : schema.lenient = true) (hstart : fill ∅ = schema.start)
    (hsets : ∀ name text, Gives name text → schema.Sets fill name text) :
    schema.codec.Takes text (fill chosen) := by
  obtain ⟨seen, hfills, hnames⟩ := Schema.fills_properties
    (fun property hmem hname => hsets _ _ (hgiven.known property hmem hname)) hgiven.unknown
    hgiven.once (fun name _ => List.not_mem_nil)
  have hsame : seen.toFinset = chosen := by
    ext name
    rw [List.mem_toFinset, hnames, hgiven.exactly]
    simp
  have hcomplete : schema.isComplete seen = true := by simp [Schema.isComplete, hlenient]
  rw [List.toFinset_nil, hstart] at hfills
  rw [← hsame]
  exact Schema.takes_object hgiven.object hfills hcomplete

end Partial

end Json

open Json

/-! ## Parts of the settings -/

/-- The texts that give a protocol's settings, by name. -/
inductive Protocol.Gives (protocol : Protocol) : String → List Char → Prop where
  | fileExtension {text : List Char} (hspelled : IsString text protocol.fileExtension) :
      protocol.Gives "file_extension" text
  | headerMarker {text : List Char} (hspelled : IsString text protocol.headerMarker) :
      protocol.Gives "header_marker" text
  | generatedMarker {text : List Char} (hspelled : IsString text protocol.generatedMarker) :
      protocol.Gives "generated_marker" text
  | stateAttribute {text : List Char} (hspelled : IsString text protocol.stateAttribute) :
      protocol.Gives "state_attribute" text
  | propAttribute {text : List Char} (hspelled : IsString text protocol.propAttribute) :
      protocol.Gives "prop_attribute" text

/-- The chosen settings of a protocol, and the defaults for the rest. -/
def Protocol.pick (protocol : Protocol) (chosen : Finset String) : Protocol where
  fileExtension :=
    if "file_extension" ∈ chosen then protocol.fileExtension else ({} : Protocol).fileExtension
  headerMarker :=
    if "header_marker" ∈ chosen then protocol.headerMarker else ({} : Protocol).headerMarker
  generatedMarker :=
    if "generated_marker" ∈ chosen then protocol.generatedMarker
    else ({} : Protocol).generatedMarker
  stateAttribute :=
    if "state_attribute" ∈ chosen then protocol.stateAttribute else ({} : Protocol).stateAttribute
  propAttribute :=
    if "prop_attribute" ∈ chosen then protocol.propAttribute else ({} : Protocol).propAttribute

theorem Protocol.takes_partial {protocol : Protocol} {chosen : Finset String}
    {properties : List Property} {text : List Char}
    (hgiven : Protocol.schema.IsPartial chosen protocol.Gives properties text) :
    Protocol.codec.Takes text (protocol.pick chosen) := by
  refine hgiven.takes protocol.pick rfl rfl fun name text hgives => ?_
  cases hgives with
  | fileExtension hspelled =>
      exact Schema.sets_of rfl (takes_string hspelled) fun given => by simp [Protocol.pick]
  | headerMarker hspelled =>
      exact Schema.sets_of rfl (takes_string hspelled) fun given => by simp [Protocol.pick]
  | generatedMarker hspelled =>
      exact Schema.sets_of rfl (takes_string hspelled) fun given => by simp [Protocol.pick]
  | stateAttribute hspelled =>
      exact Schema.sets_of rfl (takes_string hspelled) fun given => by simp [Protocol.pick]
  | propAttribute hspelled =>
      exact Schema.sets_of rfl (takes_string hspelled) fun given => by simp [Protocol.pick]

/-- The texts that give a worker's settings, by name. -/
inductive WorkerConfig.Gives (worker : WorkerConfig) : String → List Char → Prop where
  | settleMs : worker.Gives "settle_ms" (Codec.unsigned.write worker.settleMs)
  | queueCapacity : worker.Gives "queue_capacity" (Codec.unsigned.write worker.queueCapacity)

/-- The chosen settings of a worker, and the defaults for the rest. -/
def WorkerConfig.pick (worker : WorkerConfig) (chosen : Finset String) : WorkerConfig where
  settleMs := if "settle_ms" ∈ chosen then worker.settleMs else ({} : WorkerConfig).settleMs
  queueCapacity :=
    if "queue_capacity" ∈ chosen then worker.queueCapacity else ({} : WorkerConfig).queueCapacity

theorem WorkerConfig.takes_partial {worker : WorkerConfig} {chosen : Finset String}
    {properties : List Property} {text : List Char}
    (hgiven : WorkerConfig.schema.IsPartial chosen worker.Gives properties text) :
    WorkerConfig.codec.Takes text (worker.pick chosen) := by
  refine hgiven.takes worker.pick rfl rfl fun name text hgives => ?_
  cases hgives with
  | settleMs =>
      exact Schema.sets_of rfl (takes_unsigned _) fun given => by simp [WorkerConfig.pick]
  | queueCapacity =>
      exact Schema.sets_of rfl (takes_unsigned _) fun given => by simp [WorkerConfig.pick]

/-- The text that gives a watcher's setting, by name. -/
inductive WatchConfig.Gives (watch : WatchConfig) : String → List Char → Prop where
  | recursive : watch.Gives "recursive" (Codec.bool.write watch.recursive)

/-- The setting of a watcher if it is chosen, or the default. -/
def WatchConfig.pick (watch : WatchConfig) (chosen : Finset String) : WatchConfig where
  recursive := if "recursive" ∈ chosen then watch.recursive else ({} : WatchConfig).recursive

theorem WatchConfig.takes_partial {watch : WatchConfig} {chosen : Finset String}
    {properties : List Property} {text : List Char}
    (hgiven : WatchConfig.schema.IsPartial chosen watch.Gives properties text) :
    WatchConfig.codec.Takes text (watch.pick chosen) := by
  refine hgiven.takes watch.pick rfl rfl fun name text hgives => ?_
  cases hgives with
  | recursive => exact Schema.sets_of rfl (takes_bool _) fun given => by simp [WatchConfig.pick]

/-! ## All settings -/

namespace Config

/-- The names of the settings that are given: those of the configuration, and those in each of its
parts. -/
structure Choice where
  config : Finset String
  protocol : Finset String
  worker : Finset String
  watch : Finset String

/-- The texts that give settings, by name. A part may itself be given in part. -/
inductive Gives (config : Config) (choice : Choice) : String → List Char → Prop where
  | rootPath {text : List Char} (hspelled : IsString text config.rootPath.text) :
      config.Gives choice "root_path" text
  | protocol {properties : List Property} {text : List Char}
      (hgiven : Protocol.schema.IsPartial choice.protocol config.protocol.Gives properties text) :
      config.Gives choice "protocol" text
  | worker {properties : List Property} {text : List Char}
      (hgiven : WorkerConfig.schema.IsPartial choice.worker config.worker.Gives properties text) :
      config.Gives choice "worker" text
  | watch {properties : List Property} {text : List Char}
      (hgiven : WatchConfig.schema.IsPartial choice.watch config.watch.Gives properties text) :
      config.Gives choice "watch" text

/-- The chosen settings, and for every other one the default of the record that it belongs to. -/
def pick (config : Config) (choice : Choice) : Config where
  rootPath := if "root_path" ∈ choice.config then config.rootPath else ({} : Config).rootPath
  protocol := if "protocol" ∈ choice.config then config.protocol.pick choice.protocol else {}
  worker := if "worker" ∈ choice.config then config.worker.pick choice.worker else {}
  watch := if "watch" ∈ choice.config then config.watch.pick choice.watch else {}

theorem takes_partial {config : Config} {choice : Choice} {properties : List Property}
    {text : List Char}
    (hgiven : Config.schema.IsPartial choice.config (config.Gives choice) properties text) :
    Config.codec.Takes text (config.pick choice) := by
  -- what is chosen inside the parts stays the same while the names are read
  refine hgiven.takes (fun names => config.pick { choice with config := names }) rfl rfl
    fun name text hgives => ?_
  cases hgives with
  | rootPath hspelled =>
      exact Schema.sets_of rfl (takes_string hspelled) fun given => by simp [pick]
  | protocol hgiven =>
      exact Schema.sets_of rfl (Protocol.takes_partial hgiven) fun given => by simp [pick]
  | worker hgiven =>
      exact Schema.sets_of rfl (WorkerConfig.takes_partial hgiven) fun given => by simp [pick]
  | watch hgiven =>
      exact Schema.sets_of rfl (WatchConfig.takes_partial hgiven) fun given => by simp [pick]

end Config

/-- **Settings that are given in part keep the defaults for the rest.** The document holds an object
with exactly the chosen settings, in any order, with blanks anywhere, strings and names in any
spelling, and any values by unknown names among them. It is read as the chosen settings with the
defaults for the rest, and a file that holds it is loaded as these settings if they pass their
check. -/
theorem settings_given_in_part_keep_defaults (config : Config) (choice : Config.Choice)
    {properties : List Property} {gap text gap' : List Char} {document : String}
    (hblank : IsGap gap) (hblank' : IsGap gap') (hspelled : document.toList = gap ++ (text ++ gap'))
    (hgiven : Config.schema.IsPartial choice.config (config.Gives choice) properties text) :
    Config.codec.decode document = .ok (config.pick choice)
    ∧ ∀ tree path, FileTree.readText tree path = .ok document →
        Config.load tree path = (config.pick choice).check.map fun () => config.pick choice := by
  have hdecoded := (Config.takes_partial hgiven).parse hblank hblank' hspelled
  refine ⟨hdecoded, fun tree path hheld => ?_⟩
  rw [Config.load, hheld]
  simp only [hdecoded]
  cases (config.pick choice).check with
  | error error => rfl
  | ok => rfl

/-- An object without gaps that gives a setting of the worker. -/
def quickWorker : List Property := [.plain "settle_ms" ['7']]

theorem isPartial_quickWorker :
    WorkerConfig.schema.IsPartial {"settle_ms"} (WorkerConfig.Gives ⟨7, 3⟩) quickWorker
      (compact (quickWorker.map (·.texts))) where
  object := isObject_compact _
  once := by decide
  exactly name := by
    have hnames : WorkerConfig.schema.namesIn quickWorker = ["settle_ms"] := by decide
    simp [hnames]
  known := by
    rintro property hmem -
    obtain rfl := List.mem_singleton.mp hmem
    exact .settleMs
  unknown := by
    rintro property hmem habsent
    obtain rfl := List.mem_singleton.mp hmem
    exact absurd (by decide) habsent

/-- An object that gives this worker after something unknown. -/
def quickConfig : List Property :=
  [.plain "extra" "[null]".toList, .plain "worker" (compact (quickWorker.map (·.texts)))]

theorem isPartial_quickConfig :
    Config.schema.IsPartial {"worker"}
      (Config.Gives { worker := ⟨7, 3⟩ } ⟨{"worker"}, ∅, {"settle_ms"}, ∅⟩) quickConfig
      (compact (quickConfig.map (·.texts))) where
  object := isObject_compact _
  once := by decide
  exactly name := by
    have hnames : Config.schema.namesIn quickConfig = ["worker"] := by decide
    simp [hnames]
  known := by
    rintro property hmem hknown
    rcases List.mem_pair.mp hmem with rfl | rfl
    · exact absurd hknown (by decide)
    · exact .worker isPartial_quickWorker
  unknown := by
    have hitem : IsItem "null".toList ([] ++ ("null".toList ++ [])) := .mk isGap_nil isGap_nil
    have hitems : Enclosed '[' ']' IsItem ["null".toList] "[null]".toList := .parts (.one hitem)
    rintro property hmem habsent
    rcases List.mem_pair.mp hmem with rfl | rfl
    · exact .list hitems (List.forall_mem_singleton.mpr .null)
    · exact absurd (by decide) habsent

theorem settings_of_quickConfig_keep_defaults :
    Config.codec.decode " \x7b\"extra\":[null],\"worker\":\x7b\"settle_ms\":7\x7d\x7d\n" =
      .ok { worker := { settleMs := 7 } } := by
  have hlead : IsGap [' '] := by simp [IsGap, isBlank]
  have htrail : IsGap ['\n'] := by simp [IsGap, isBlank]
  have hpicked : Config.pick { worker := ⟨7, 3⟩ } ⟨{"worker"}, ∅, {"settle_ms"}, ∅⟩ =
      { worker := { settleMs := 7 } } := by decide
  rw [← hpicked]
  exact (settings_given_in_part_keep_defaults _ _ hlead htrail (by decide) isPartial_quickConfig).1

end RegionSync
