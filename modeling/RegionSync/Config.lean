import RegionSync.FileTree.Resolve
import RegionSync.Json.Reader
import RegionSync.Protocol

set_option autoImplicit false

/-! # Configuration

The settings of the tool, each with its default. A configuration is usable (`Config.check`) when
the queue has room, no marker is blank and the two attributes can be told apart; its root must
be a directory (`checkRoot`).
-/

namespace RegionSync

/-- Settings of the background worker. -/
structure WorkerConfig where
  /-- How long to wait after a notification before the file is read, in milliseconds. -/
  settleMs : UInt64 := 100
  /-- How many paths the queue holds before it grows. -/
  queueCapacity : UInt64 := 8
deriving DecidableEq

/-- Settings of the watcher. -/
structure WatchConfig where
  /-- Whether directories below the root are watched too. -/
  recursive : Bool := true
deriving DecidableEq

/-- The settings of the tool. -/
structure Config where
  /-- The directory with the annotated sources. -/
  rootPath : Path := ⟨""⟩
  protocol : Protocol := {}
  worker : WorkerConfig := {}
  watch : WatchConfig := {}
deriving DecidableEq

/-! ## Errors -/

/-- Why a configuration cannot be used. -/
inductive ConfigError where
  | invalidPath (path : Path) (reason : String)
  | missingDirectory (path : Path)
  | invalidOption (option reason : String)
  /-- The file cannot be read. -/
  | unreadable (error : IoError)
  /-- The file does not hold a configuration. -/
  | unparsable (fault : Json.Fault)
deriving DecidableEq

/-- The wording of an error. -/
def ConfigError.message : ConfigError → String
  | invalidPath path reason => "invalid path '" ++ path.text ++ "': " ++ reason
  | missingDirectory path => "missing required directory: " ++ path.text
  | invalidOption option reason => "invalid configuration option '" ++ option ++ "': " ++ reason
  | unreadable error => "failed to read configuration: " ++ error.message
  | unparsable _ => "failed to parse configuration"

/-! ## Checks -/

namespace Config

/-- The markers that must not be blank, with their names. -/
def markers (config : Config) : List (String × String) :=
  [("protocol.file_extension", config.protocol.fileExtension),
    ("protocol.header_marker", config.protocol.headerMarker),
    ("protocol.generated_marker", config.protocol.generatedMarker),
    ("protocol.state_attribute", config.protocol.stateAttribute),
    ("protocol.prop_attribute", config.protocol.propAttribute)]

/-- Checks that the settings make sense together; the first problem is reported. -/
def check (config : Config) : Except ConfigError Unit :=
  if config.worker.queueCapacity = 0 then
    .error (.invalidOption "worker.queue_capacity" "must be at least 1")
  else
    match config.markers.find? fun marker => (Text.trim marker.2.toList).isEmpty with
    | some (option, _) => .error (.invalidOption option "must not be empty")
    | none =>
      if config.protocol.stateAttribute = config.protocol.propAttribute then
        .error (.invalidOption "protocol.state_attribute"
          "must differ from protocol.prop_attribute")
      else .ok ()

end Config

/-- Checks that a path leads to a directory. -/
def checkRoot (tree : FileTree) (root : Path) : Except ConfigError Unit :=
  if !tree.pathExists root then .error (.missingDirectory root)
  else if !tree.isDirectory root then .error (.invalidPath root "not a directory")
  else .ok ()

end RegionSync
