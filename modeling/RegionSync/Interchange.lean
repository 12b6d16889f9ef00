import RegionSync.Config
import RegionSync.Field
import RegionSync.Json.Choice
import RegionSync.Json.Record
import RegionSync.Stage
import RegionSync.Stats

set_option autoImplicit false

/-! # JSON forms of the project's values

Every value that leaves or enters the tool has one codec. Records that describe what was found
must be complete; settings may leave out what shall keep its default.
-/

namespace RegionSync

open Json (Codec Member Schema Variant)

/-! ## Fields -/

/-- How a kind of type is called. -/
def TypeKind.name : TypeKind → String
  | primitive => "primitive"
  | setter => "setter"
  | callback => "callback"
  | action => "action"
  | enumeration => "enum"
  | unknown => "unknown"

/-- The kinds of types. -/
def TypeKind.all : List TypeKind :=
  [.primitive, .setter, .callback, .action, .enumeration, .unknown]

def TypeKind.codec : Codec TypeKind := .named TypeKind.all TypeKind.name

def PropField.schema : Schema PropField where
  start := ⟨"", ""⟩
  lenient := false
  members :=
    [.of "ty" .string (·.ty) fun ty prop => { prop with ty := ty },
      .of "name" .string (·.name) fun name prop => { prop with name := name }]

def PropField.codec : Codec PropField := PropField.schema.codec

def StateField.schema : Schema StateField where
  start := ⟨"", ""⟩
  lenient := false
  members :=
    [.of "ty" .string (·.ty) fun ty state => { state with ty := ty },
      .of "name" .string (·.name) fun name state => { state with name := name }]

def StateField.codec : Codec StateField := StateField.schema.codec

def Advisory.schema : Schema Advisory where
  start := ⟨0, ⟨"", ""⟩⟩
  lenient := false
  members :=
    [.of "line" .unsigned (·.line.toUInt64) fun line advisory =>
        { advisory with line := line.toNat },
      .of "prop" PropField.codec (·.prop) fun prop advisory => { advisory with prop := prop }]

def Advisory.codec : Codec Advisory := Advisory.schema.codec

/-! ## Stages -/

/-- How a stage is called. -/
def Stage.name : Stage → String
  | firstLine => "first_line"
  | waiting .accessors => "waiting_for_state"
  | inside .accessors => "at_state"
  | waiting .parameters => "waiting_for_params"
  | inside .parameters => "at_params"
  | waiting .diff => "waiting_for_diff"
  | inside .diff => "at_diff"
  | tail => "tail"

def Stage.codec : Codec Stage := .named Stage.all Stage.name

/-! ## Outcomes and statistics -/

/-- How a reason is called. -/
def SkipReason.name : SkipReason → String
  | extension => "extension"
  | notAnnotated => "not_annotated"

def SkipReason.codec : Codec SkipReason := .named [.extension, .notAnnotated] SkipReason.name

def Outcome.codec : Codec Outcome where
  write
    | .skipped reason => "\x7b\"skipped\":".toList ++ SkipReason.codec.write reason ++ "\x7d".toList
    | .unchanged => Json.quote "unchanged"
    | .updated => Json.quote "rewritten"
    | .stale => Json.quote "stale"
  read := Variant.readAny
    [.carrying "skipped" SkipReason.codec.read .skipped, .plain "unchanged" .unchanged,
      .plain "rewritten" .updated, .plain "stale" .stale]

/-- The counters in the order in which they are written. -/
def Stats.schema : Schema Stats where
  start := {}
  lenient := false
  members :=
    [.of "total" .unsigned (·.total) fun n stats => { stats with total := n },
      .of "rewritten" .unsigned (·.updated) fun n stats => { stats with updated := n },
      .of "unchanged" .unsigned (·.unchanged) fun n stats => { stats with unchanged := n },
      .of "stale" .unsigned (·.stale) fun n stats => { stats with stale := n },
      .of "skipped" .unsigned (·.skipped) fun n stats => { stats with skipped := n },
      .of "failed" .unsigned (·.failed) fun n stats => { stats with failed := n },
      .of "advisories" .unsigned (·.advisories) fun n stats => { stats with advisories := n }]

def Stats.codec : Codec Stats := Stats.schema.codec

/-! ## Settings -/

def Protocol.schema : Schema Protocol where
  start := {}
  lenient := true
  members :=
    [.of "file_extension" .string (·.fileExtension) fun text protocol =>
        { protocol with fileExtension := text },
      .of "header_marker" .string (·.headerMarker) fun text protocol =>
        { protocol with headerMarker := text },
      .of "generated_marker" .string (·.generatedMarker) fun text protocol =>
        { protocol with generatedMarker := text },
      .of "state_attribute" .string (·.stateAttribute) fun text protocol =>
        { protocol with stateAttribute := text },
      .of "prop_attribute" .string (·.propAttribute) fun text protocol =>
        { protocol with propAttribute := text }]

def Protocol.codec : Codec Protocol := Protocol.schema.codec

def WorkerConfig.schema : Schema WorkerConfig where
  start := {}
  lenient := true
  members :=
    [.of "settle_ms" .unsigned (·.settleMs) fun n worker => { worker with settleMs := n },
      .of "queue_capacity" .unsigned (·.queueCapacity) fun n worker =>
        { worker with queueCapacity := n }]

def WorkerConfig.codec : Codec WorkerConfig := WorkerConfig.schema.codec

def WatchConfig.schema : Schema WatchConfig where
  start := {}
  lenient := true
  members :=
    [.of "recursive" .bool (·.recursive) fun flag watch => { watch with recursive := flag }]

def WatchConfig.codec : Codec WatchConfig := WatchConfig.schema.codec

def Config.schema : Schema Config where
  start := {}
  lenient := true
  members :=
    [.of "root_path" .string (·.rootPath.text) fun text config =>
        { config with rootPath := ⟨text⟩ },
      .of "protocol" Protocol.codec (·.protocol) fun protocol config =>
        { config with protocol := protocol },
      .of "worker" WorkerConfig.codec (·.worker) fun worker config =>
        { config with worker := worker },
      .of "watch" WatchConfig.codec (·.watch) fun watch config => { config with watch := watch }]

def Config.codec : Codec Config := Config.schema.codec

/-- Reads the configuration file that a path leads to and checks its settings. -/
def Config.load (tree : FileTree) (path : Path) : Except ConfigError Config :=
  match tree.readText path with
  | .error error => .error (.unreadable error)
  | .ok text =>
    match Config.codec.decode text with
    | .error fault => .error (.unparsable fault)
    | .ok config =>
      match config.check with
      | .error error => .error error
      | .ok () => .ok config

end RegionSync
