import RegionSync.Cli.Run

set_option autoImplicit false

/-! # The program

Loads the files that a call is about into a file tree, runs the call on it, writes back the files
that changed and prints what there is to print. A watch looks for modified files at short
intervals. Everything else is decided by the pure functions that are called here.
-/

namespace RegionSync.Cli

/-- The steps of a path from the working directory, also for a path that starts at the root. -/
def placeOf (tree : FileTree) (path : Path) : List PathStep :=
  if path.isAbsolute then List.replicate tree.workingDir.length .up ++ path.steps else path.steps

/-- Adds the directory or file at a path to a tree; a file only if `wanted` says so, and otherwise
without its content. -/
def loadPath (wanted : Path → Bool) (tree : FileTree) (path : Path) : IO FileTree := do
  if path.text.isEmpty then return tree
  let file := (← IO.currentDir) / path.text
  let place := placeOf tree path
  if ← file.isDir then return (Change.makeDirectory place).apply tree
  else if ← file.pathExists then
    if wanted path then
      try return (Change.write place (← IO.FS.readBinFile file)).apply tree
      catch _ =>
        let tree := (Change.write place ByteArray.empty).apply tree
        return (Change.permit place ⟨false, false, false⟩).apply tree
    else return (Change.write place ByteArray.empty).apply tree
  else return tree

/-- Adds a directory and the files in it, with those below it if `recursive` says so. -/
partial def loadDirectory (wanted : Path → Bool) (recursive : Bool) (tree : FileTree)
    (dir : Path) : IO FileTree := do
  let mut tree ← loadPath wanted tree dir
  if dir.text.isEmpty then return tree
  let file := (← IO.currentDir) / dir.text
  if ← file.isDir then
    for entry in ← file.readDir do
      let path := dir.child entry.fileName
      let isDirectory ← entry.path.isDir
      if isDirectory && recursive then tree ← loadDirectory wanted recursive tree path
      else tree ← loadPath wanted tree path
  return tree

/-- Writes the files of `after` that differ from `before`. -/
def storeChanges (before after : FileTree) : IO Unit := do
  for (location, content) in after.filesBelow [] do
    if before.content? location != some content then
      IO.FS.writeBinFile ("/" ++ Location.display location) content

/-- The environment variables that matter. -/
def readEnvironment : IO Environment := do
  let mut env := []
  for name in [pathVariable, configVariable, logVariable, "NO_COLOR"] do
    if let some value ← IO.getEnv name then env := (name, value) :: env
  return env

/-- The tree that holds the working directory and nothing else. -/
def workingTree : IO FileTree := do
  let names := (Path.segments (← IO.currentDir).toString.toList).filter (!·.isEmpty)
  return FileTree.empty (names.map fun name => .text (String.ofList name))

/-- Prints a finished run and gives its exit code. -/
def printTranscript (transcript : Transcript) : IO UInt32 := do
  for line in transcript.log do IO.println line
  IO.print transcript.stdout
  IO.eprint transcript.stderr
  if let some error := transcript.error then IO.eprintln ("Error: " ++ error)
  return transcript.exitCode.toUInt32

/-- Reads the standard input to its end. -/
partial def drainInput (input : IO.FS.Stream) : IO Unit := do
  if (← input.getLine).isEmpty then return () else drainInput input

/-- Prints the log lines that a call shows. -/
def tell (env : Environment) (call : Invocation) (lines : List LogLine) : IO Unit := do
  let filter := LogFilter.ofCall (env.lookup logVariable) call.verbose
  for line in lines.filter filter.shows do IO.println line.render

/-- Looks for modified files until the input is closed. The log lines after the first `told` are
printed as they come. -/
partial def pollLoop (load : FileTree → IO FileTree) (print : List LogLine → IO Unit)
    (ended : IO Bool) (told : Nat) (watching : Watching) : IO Watching := do
  print (watching.log.drop told)
  let told := watching.log.length
  if ← ended then return watching
  IO.sleep 200
  let before := watching.service.tree
  let fresh ← load before
  let mut watching := watching
  for (location, content) in fresh.filesBelow [] do
    if before.content? location != some content then
      let place := List.replicate before.workingDir.length .up ++ location.map .enter
      watching := watching.edit (.write place content)
  storeChanges fresh watching.service.tree
  pollLoop load print ended told watching

/-- Runs a watch on the files that are there. The result has the log lines that are not printed
yet. -/
def watchFiles (config : Config) (ignoreStdin : Bool) (load : FileTree → IO FileTree)
    (print : List LogLine → IO Unit) (tree : FileTree) : IO Result := do
  match Watching.start config tree with
  | .error result =>
    storeChanges tree result.tree
    return result
  | .ok watching =>
    storeChanges tree watching.service.tree
    let input ← IO.asTask (do drainInput (← IO.getStdin))
    let ended : IO Bool := if ignoreStdin then pure false else IO.hasFinished input
    let watching ← pollLoop load print ended 0 watching
    let result := watching.close .inputClosed
    return { result with log := result.log.drop watching.log.length }

/-- Runs a call on the files that are there. -/
def runCall (env : Environment) (call : Invocation) : IO UInt32 := do
  let tree ← workingTree
  let tree ← match call.config with
    | some path => loadPath (fun _ => true) tree path
    | none => pure tree
  let finish (result : Result) : IO UInt32 := printTranscript (commandTranscript env call result)
  match loadConfig call tree with
  | .error _ => finish (execute call {} tree)
  | .ok config =>
    let isWatch := match call.command with
      | .watch _ => true
      | .check _ _ => false
    let wanted := config.protocol.matchesExtension
    let load (tree : FileTree) : IO FileTree :=
      loadDirectory wanted (isWatch && config.watch.recursive) tree config.rootPath
    let tree ← load tree
    match call.command, buildConfig call tree with
    | .watch ignoreStdin, .ok config =>
      tell env call (preamble call)
      finish (← watchFiles config ignoreStdin load (tell env call) tree)
    | _, _ =>
      let result := execute call {} tree
      storeChanges tree result.tree
      finish result

end RegionSync.Cli

/-- Runs the program with its arguments. -/
def main (args : List String) : IO UInt32 := do
  let env ← RegionSync.Cli.readEnvironment
  match RegionSync.Cli.parseArgs env args with
  | .error stop =>
    RegionSync.Cli.printTranscript
      (RegionSync.Cli.stopTranscript (← RegionSync.Cli.workingTree) stop)
  | .ok call => RegionSync.Cli.runCall env call
