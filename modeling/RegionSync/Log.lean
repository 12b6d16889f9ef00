set_option autoImplicit false

/-! # Log lines

The tool tells what it does in log lines: a level, the part of the tool that speaks, a message and
named values. In a message, characters that would steer a terminal are made visible.
-/

namespace RegionSync

/-! ## Levels and sources -/

/-- How important a log line is. -/
inductive LogLevel where
  | error
  | warn
  | info
  | debug
  | trace
deriving DecidableEq

namespace LogLevel

/-- How a level is called. -/
def label : LogLevel → String
  | error => "ERROR"
  | warn => "WARN"
  | info => "INFO"
  | debug => "DEBUG"
  | trace => "TRACE"

/-- The position of a level, the most important first. -/
def rank : LogLevel → Nat
  | error => 1
  | warn => 2
  | info => 3
  | debug => 4
  | trace => 5

end LogLevel

/-- The part of the tool, or of what it is built on, that writes a log line. -/
inductive LogSource where
  | command
  | batch
  | listing
  | validator
  | worker
  | monitor
  /-- What walks over directories. -/
  | walk
  /-- What waits for events. -/
  | poll
  /-- What watches directories. -/
  | notifier
deriving DecidableEq

namespace LogSource

/-- The name by which a source can be chosen. -/
def label : LogSource → String
  | command => "meta_react"
  | batch => "mr_scanner"
  | listing => "mr_scanner::walker"
  | validator => "mr_scanner::rewriter"
  | worker => "mr_watcher::worker"
  | monitor => "mr_watcher::watcher"
  | walk => "ignore::walk"
  | poll => "mio::poll"
  | notifier => "notify::inotify"

/-- The names of values that a source adds to each of its lines and that are never shown. -/
def hiddenNames : LogSource → List String
  | walk | poll | notifier => ["log.target", "log.module_path", "log.file", "log.line"]
  | _ => []

end LogSource

/-! ## Lines -/

/-- A line of the log. -/
structure LogLine where
  level : LogLevel
  source : LogSource
  message : String
  /-- The named values, as they are shown; one that is absent is not shown. -/
  fields : List (String × Option String) := []
deriving DecidableEq

namespace LogLine

/-- The names by which a line can be chosen: those of its values, and that of its message. -/
def names (line : LogLine) : List String :=
  "message" :: line.fields.map (·.1) ++ line.source.hiddenNames

/-- A character of a message as it is shown. -/
def visible (c : Char) : List Char :=
  let digits := Nat.toDigits 16 c.toNat
  if c.toNat = 0x07 ∨ c.toNat = 0x08 ∨ c.toNat = 0x0C then "\\x0".toList ++ digits
  else if c.toNat = 0x1B ∨ c.toNat = 0x7F then "\\x".toList ++ digits
  else if 0x80 ≤ c.toNat ∧ c.toNat ≤ 0x9F then "\\u\x7b".toList ++ digits ++ "\x7d".toList
  else [c]

/-- The text of a log line. -/
def render (line : LogLine) : String :=
  let value (field : String × Option String) : String :=
    match field.2 with
    | some text => " " ++ field.1 ++ "=" ++ text
    | none => ""
  line.level.label ++ " " ++ String.ofList (line.message.toList.flatMap visible) ++
    String.join (line.fields.map value)

end LogLine

end RegionSync
