import RegionSync.Batch
import RegionSync.Cli.Args
import RegionSync.Cli.LogFilter
import RegionSync.Interchange
import RegionSync.Watch.Monitor
import RegionSync.Watch.Service

set_option autoImplicit false

/-! # Running the commands

What the program prints and does to the files, as a function of its arguments, its environment
and the files. `check` is one batch pass with a summary; `watch` is a batch pass followed by
revalidation of the files that others modify, until something ends it.
-/

namespace RegionSync.Cli

/-- What a command did. -/
structure Result where
  stdout : String := ""
  stderr : String := ""
  /-- The error that ended the command. -/
  error : Option String := none
  /-- Every log line, shown or not. -/
  log : List LogLine := []
  /-- The files afterwards. -/
  tree : FileTree

/-! ## Settings -/

/-- The settings of a call before they are checked: the path option comes first, then the root of
the configuration file, then the working directory. -/
def loadConfig (call : Invocation) (tree : FileTree) : Except ConfigError Config :=
  let loaded := match call.config with
    | some path => Config.load tree path
    | none => .ok {}
  loaded.map fun config =>
    match call.path with
    | some path => { config with rootPath := path }
    | none => if config.rootPath.text = "" then { config with rootPath := ⟨"."⟩ } else config

/-- The checked settings of a call. -/
def buildConfig (call : Invocation) (tree : FileTree) : Except ConfigError Config := do
  let config ← loadConfig call tree
  config.check
  checkRoot tree config.rootPath
  .ok config

/-! ## The summary -/

/-- The summary that is printed at the end. -/
def summaryText (stats : Stats) : String :=
  "\nValidation Summary\n==================\n\n" ++
    "Files validated:  " ++ toString stats.total ++ "\n" ++
    "  Annotated:      " ++ toString stats.annotated ++ "\n" ++
    "  Rewritten:      " ++ toString stats.updated ++ "\n" ++
    "  Up to date:     " ++ toString stats.unchanged ++ "\n" ++
    "  Stale:          " ++ toString stats.stale ++ "\n" ++
    "  Not annotated:  " ++ toString stats.skipped ++ "\n" ++
    "  Failed:         " ++ toString stats.failed ++ "\n" ++
    "Advisories:       " ++ toString stats.advisories ++ "\n"

/-- The counters as a JSON document. -/
def summaryJson (stats : Stats) : String :=
  String.ofList (Stats.schema.writeLines stats) ++ "\n"

/-- A titled list of lines, or nothing if there are none. -/
def titled (title : String) (lines : List String) : String :=
  if lines.isEmpty then ""
  else
    "\n" ++ title ++ " (" ++ toString lines.length ++ "):\n" ++
      String.join (lines.map fun line => "  " ++ line ++ "\n")

/-! ## Checking -/

/-- The error that a report amounts to: failures count more than stale files. -/
def reportError? (report : BatchReport) : Option String :=
  if !report.failures.isEmpty then
    some (toString report.failures.length ++ " file(s) failed validation")
  else if !report.stale.isEmpty then
    some (toString report.stale.length ++ " file(s) have stale generated regions")
  else none

/-- Runs one batch pass and prints a summary. -/
def runCheck (config : Config) (dryRun json : Bool) (tree : FileTree) : Result :=
  let starting : LogLine :=
    ⟨.info, .command, "Starting check",
      [("root", some config.rootPath.text), ("dry_run", some (toString dryRun))]⟩
  match Validator.batch ⟨config.protocol, dryRun⟩ {} tree config.rootPath with
  | .error error => { error := some error.message, log := [starting], tree := tree }
  | .ok (report, after) =>
    { stdout := if json then summaryJson report.stats else summaryText report.stats
      stderr := titled "Stale" (report.stale.map Path.text) ++
        titled "Errors" (report.failures.map Failure.message)
      error := reportError? report
      log := starting :: report.log
      tree := after }

/-! ## Watching -/

/-- What ends a watch. -/
inductive ShutdownReason where
  | inputClosed
  | terminated
  | interrupted
deriving DecidableEq

/-- How a reason is called. -/
def ShutdownReason.label : ShutdownReason → String
  | inputClosed => "stdin closed"
  | terminated => "SIGTERM"
  | interrupted => "interrupt"

/-- A watch that goes on. -/
structure Watching where
  monitor : Monitor
  /-- The watched root as the log shows it. -/
  shownRoot : String
  service : Service
  /-- What was told so far. -/
  log : List LogLine

namespace Watching

/-- What is told about a file that was revalidated. -/
def resultLine (visit : Visit) : LogLine :=
  let path := ("path", some visit.path.text)
  match visit.result with
  | .ok outcome => ⟨.debug, .command, "Revalidated", [path, ("outcome", some outcome.label)]⟩
  | .error failure =>
    ⟨.error, .worker, "Validation failed: " ++ failure.message ++ ": " ++ failure.cause, [path]⟩

/-- What is told about a path while it is handled. -/
def handledLines (path : Path) (handled : Handled) : List LogLine :=
  ⟨.debug, .worker, "Processing", [("path", some path.text)]⟩ :: match handled with
    | .validated visit => visit.log ++ [resultLine visit]
    | .ended _ => []

/-- Queues a modified file and validates what is queued. -/
def revalidate (watching : Watching) (path : Path) : Watching :=
  let (added, worker) := watching.service.worker.enqueue path
  let queued : List LogLine :=
    if added then [⟨.debug, .command, "Queued modified file", []⟩] else []
  let (handled, service) := Service.drain { watching.service with worker := worker } .ok
  let told := handled.flatMap fun item => handledLines item.1 item.2
  { watching with service := service, log := watching.log ++ queued ++ told }

/-- Makes a change that somebody else makes, and revalidates the file if it is reported. -/
def edit (watching : Watching) (change : Change) : Watching :=
  let tree := watching.service.tree
  let (reported, monitor) := watching.monitor.observe tree change
  let watching :=
    { watching with
      monitor := monitor
      service := { watching.service with tree := change.apply tree } }
  match reported.bind Location.path? with
  | some path => watching.revalidate path
  | none => watching

/-- Starts to watch the root after a batch pass over it. If that cannot be done, the result is that
of the whole command. -/
def start (config : Config) (tree : FileTree) : Except Result Watching :=
  let starting : LogLine :=
    ⟨.info, .command, "Starting watch", [("root", some config.rootPath.text)]⟩
  let validator : Validator := { protocol := config.protocol }
  match validator.batch {} tree config.rootPath with
  | .error error => .error { error := some error.message, log := [starting], tree := tree }
  | .ok (report, after) =>
    let capacity := config.worker.queueCapacity.toNat
    let log := starting :: report.log ++
      [⟨.info, .command, "Initial batch pass done", [("summary", some report.stats.summary)]⟩,
        ⟨.info, .worker, "Worker started",
          [("settle_ms", some (toString config.worker.settleMs)),
            ("capacity", some (toString capacity))]⟩]
    match Monitor.start after config.rootPath config.watch
        (CompositeFilter.watched config.protocol).accepts with
    | .error error => .error { error := some error.message, log := log, tree := after }
    | .ok monitor =>
      let shownRoot := "/" ++ Location.display monitor.root
      let started : List LogLine :=
        [⟨.trace, .poll, "registering event source with poller: token=Token(0), interests=READABLE",
          []⟩] ++
        monitor.watched.reverse.map (fun watched =>
          ⟨.trace, .notifier, "adding inotify watch: /" ++ watched.shown.display, []⟩) ++
        [⟨.info, .monitor, "File watcher started",
          [("path", some shownRoot), ("recursive", some (toString monitor.recursive))]⟩]
      .ok
        { monitor := monitor
          shownRoot := shownRoot
          service :=
            { worker := .ofCapacity capacity
              validator := some validator
              tree := after
              stats := report.stats }
          log := log ++ started }

/-- Ends the watch and prints a summary. -/
def close (watching : Watching) (reason : ShutdownReason) : Result :=
  let service := watching.service.shutdown
  let stats := service.stats
  let last : LogLine :=
    if stats.isClean then ⟨.info, .command, "Stopped", [("summary", some stats.summary)]⟩
    else ⟨.warn, .command, "Stopped with failed files", [("summary", some stats.summary)]⟩
  { stdout := summaryText stats
    log := watching.log ++
      [⟨.info, .command, "Shutting down", [("reason", some ("\"" ++ reason.label ++ "\""))]⟩,
        ⟨.info, .monitor, "File watcher stopped", [("path", some watching.shownRoot)]⟩,
        ⟨.info, .worker, "Worker stopped", []⟩, last]
    tree := service.tree }

end Watching

/-- Watches the root while others make changes, until something ends the watch. -/
def runWatch (config : Config) (edits : List Change) (reason : ShutdownReason) (tree : FileTree) :
    Result :=
  match Watching.start config tree with
  | .error result => result
  | .ok watching => (edits.foldl Watching.edit watching).close reason

/-! ## The program -/

/-- What happens to a running watch: the changes that others make, and what ends it. -/
structure Happenings where
  edits : List Change := []
  reason : ShutdownReason := .inputClosed

/-- What is told before the command starts. -/
def preamble (call : Invocation) : List LogLine :=
  match call.config with
  | some path => [⟨.debug, .command, "Loading configuration", [("path", some path.text)]⟩]
  | none => []

/-- Runs a command. -/
def execute (call : Invocation) (happenings : Happenings) (tree : FileTree) : Result :=
  match buildConfig call tree with
  | .error error => { error := some error.message, log := preamble call, tree := tree }
  | .ok config =>
    let result := match call.command with
      | .check dryRun json => runCheck config dryRun json tree
      | .watch _ => runWatch config happenings.edits happenings.reason tree
    { result with log := preamble call ++ result.log }

/-- What a run of the program comes to. -/
structure Transcript where
  exitCode : Nat
  stdout : String := ""
  stderr : String := ""
  error : Option String := none
  /-- The log lines that are shown. -/
  log : List String := []
  /-- Whether the log is coloured. -/
  colored : Bool := false
  tree : FileTree

/-- The version of the program. -/
def version : String := "0.1.0"

/-- The page that explains how a scope is used. -/
def helpPage (scope : Scope) : String :=
  let usage := match scope with
    | .top => "meta-react [OPTIONS] <COMMAND>"
    | .check => "meta-react check [OPTIONS]"
    | .watch => "meta-react watch [OPTIONS]"
  let option (flag : Flag) : String :=
    let short := match flag.short? with
      | some c => "-" ++ String.ofList [c] ++ ", "
      | none => "    "
    "  " ++ short ++ flag.display ++ "\n"
  let commands := match scope with
    | .top => "Commands:\n  check\n  watch\n  help\n\n"
    | _ => ""
  about ++ "\n\nUsage: " ++ usage ++ "\n\n" ++ commands ++ "Options:\n" ++
    String.join (scope.flags.map option)

/-- What a call that runs no command comes to. -/
def stopTranscript (tree : FileTree) : Stop → Transcript
  | .help scope => { exitCode := 0, stdout := helpPage scope, tree := tree }
  | .version scope =>
    { exitCode := 0, stdout := scope.programName ++ " " ++ version ++ "\n", tree := tree }
  | .misused error => { exitCode := 2, stderr := error.message ++ "\n", tree := tree }

/-- The lines of `line.reverse ++ text` as an error report shows them, where `line` is the line being
read, its newest character first: all but the first are set in, and so is a last one that is
empty, but no other empty one. -/
def reportFrom : List Char → List Char → List Char
  | line, [] => line.reverse
  | line, c :: text =>
    if c = '\n' then
      let indent := if Text.startsWith ['\n'] text then 0 else 6
      line.reverse ++ '\n' :: List.replicate indent ' ' ++ reportFrom [] text
    else reportFrom (c :: line) text

/-- The error that ended a command as a report shows it. -/
def reportText (message : String) : String := String.ofList (reportFrom [] message.toList)

/-- What a command comes to: its log is shown as far as the filter says, in colour unless an option
or the environment forbids it. -/
def commandTranscript (env : Environment) (call : Invocation) (result : Result) : Transcript :=
  let filter := LogFilter.ofCall (env.lookup logVariable) call.verbose
  let shown := (result.log.filter filter.shows).map LogLine.render
  { exitCode := if result.error.isSome then 1 else 0
    stdout := result.stdout
    stderr := result.stderr
    error := result.error.map reportText
    log := shown
    colored := !call.noColor && (env.lookup "NO_COLOR").isNone && !shown.isEmpty
    tree := result.tree }

/-- Runs the program. -/
def run (env : Environment) (args : List String) (happenings : Happenings) (tree : FileTree) :
    Transcript :=
  match parseArgs env args with
  | .error stop => stopTranscript tree stop
  | .ok call => commandTranscript env call (execute call happenings tree)

end RegionSync.Cli
