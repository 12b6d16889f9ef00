import RegionSync.Config
import RegionSync.FileTree.Change
import RegionSync.Text.Printable
import RegionSync.Watch.Event
import RegionSync.Watch.Filter

set_option autoImplicit false

/-! # Watching a directory

A monitor reports the files below its root whose content was modified and that its filter takes.
The root is the location that its path leads to when the monitor starts. Links to directories are
followed as they are found then, and a file behind a link is reported under the path that goes
through the link. Directories that are made or moved below the root later are watched too; links
that are made later are not followed.
-/

namespace RegionSync

/-- Why a directory cannot be watched. -/
inductive WatchError where
  /-- The system refuses to watch. -/
  | backend (text : String)
  | pathNotFound (path : Path)
  | channelClosed
  /-- A path is not UTF-8. -/
  | notText (bytes : ByteArray)
  | workerCrashed
  | io (error : IoError)

/-- The wording of an error. -/
def WatchError.message : WatchError → String
  | backend text => "notify watcher error: " ++ text
  | pathNotFound path => "path does not exist: " ++ path.text
  | channelClosed => "event channel closed unexpectedly"
  | notText bytes => "path is not valid UTF-8: " ++ Text.display bytes
  | workerCrashed => "worker thread panicked"
  | io error => "I/O error: " ++ error.message

/-! ## What is watched -/

/-- A directory that is watched; a root may also be a file. -/
structure Watched where
  /-- Where the directory is. -/
  dir : Location
  /-- The location under which it is reported. -/
  shown : Location
deriving DecidableEq

/-- The directories at and below a watched one, links followed, each before those below it. A link
back to one of `above`, the directories on the way, is not followed, so the way cannot go on for
ever; `budget` bounds its length. -/
def FileTree.reach (tree : FileTree) : Nat → List Location → Watched → List Watched
  | 0, _, _ => []
  | budget + 1, above, watched =>
    let above := watched.dir :: above
    watched :: (tree.children watched.dir).reverse.flatMap fun child =>
      let shown := watched.shown ++ [child.1]
      match child.2 with
      | .directory _ => reach tree budget above ⟨watched.dir ++ [child.1], shown⟩
      | .file _ _ => []
      | .link _ =>
        match tree.follow true maxLinks watched.dir [.enter child.1] with
        | .ok dir =>
          if tree.hasDirectory dir && !above.contains dir then
            reach tree budget above ⟨dir, shown⟩
          else []
        | .error _ => []

/-- All directories that are reached from a watched one. Between two links the way goes down the
tree, and no link leads to the same directory twice on one way. -/
def FileTree.reachAll (tree : FileTree) (watched : Watched) : List Watched :=
  let size := tree.entries.length + 1
  tree.reach (size * size) [] watched

/-- A watch on a directory. -/
structure Monitor where
  root : Location
  /-- Whether directories below the root are watched too. -/
  recursive : Bool
  filter : PathFilter
  /-- The directories that are watched, the newest first. -/
  watched : List Watched

namespace Monitor

/-- Starts to watch the location that a path leads to. -/
def start (tree : FileTree) (path : Path) (config : WatchConfig) (filter : PathFilter) :
    Except WatchError Monitor :=
  if !tree.pathExists path then .error (.pathNotFound path)
  else
    match tree.resolve path with
    | .ok root =>
      let watched := if config.recursive then tree.reachAll ⟨root, root⟩ else [⟨root, root⟩]
      .ok ⟨root, config.recursive, filter, watched.reverse⟩
    | .error error => .error (.io error)

/-- What is watched at a location. -/
def find? (monitor : Monitor) (location : Location) : Option Watched :=
  monitor.watched.find? (·.dir == location)

/-- The location under which an entry of a watched directory is reported. -/
def shown? (monitor : Monitor) (location : Location) : Option Location :=
  match location.getLast?, monitor.find? location.dropLast with
  | some name, some watched => some (watched.shown ++ [name])
  | _, _ => none

/-! ## Following changes -/

/-- Stops to watch everything that is reported at or below some locations. -/
def forget (monitor : Monitor) (gone : List Location) : Monitor :=
  { monitor with
    watched := monitor.watched.filter fun watched => !gone.any (·.isPrefixOf watched.shown) }

/-- Watches a directory that has appeared at a location, and what is reached from it, if the
directory around it is watched and directories below the root are. -/
def welcome (tree : FileTree) (monitor : Monitor) (location : Location) : Monitor :=
  match monitor.shown? location with
  | some shown =>
    if monitor.recursive && tree.hasDirectory location then
      { monitor with watched := (tree.reachAll ⟨location, shown⟩).reverse ++ monitor.watched }
    else monitor
  | none => monitor

/-- The monitor after what stood at a location has been removed. -/
def afterRemoval (monitor : Monitor) (location : Location) : Monitor :=
  let removed := monitor.watched.filter fun watched => location.isPrefixOf watched.dir
  monitor.forget ((monitor.shown? location).toList ++ removed.map (·.shown))

/-- The monitor after what stood at a location has been moved. A directory that is still watched
goes on to be reported as before. -/
def afterMove (monitor : Monitor) (tree : FileTree) (source destination : Location) : Monitor :=
  let monitor := monitor.forget (monitor.shown? source).toList
  let moved (dir : Location) : Location :=
    if source.isPrefixOf dir then destination ++ dir.drop source.length else dir
  let kept := monitor.watched.filter fun watched => !destination.isPrefixOf watched.dir
  let relocated := kept.map fun watched => ⟨moved watched.dir, watched.shown⟩
  welcome tree { monitor with watched := relocated } destination

/-- The monitor after a change that turned `before` into `after`. -/
def follow (monitor : Monitor) (before after : FileTree) (change : Change) : Monitor :=
  match change with
  | .remove place =>
    match before.locateSteps false place with
    | .ok location => monitor.afterRemoval location
    | .error _ => monitor
  | .rename place destination =>
    match before.locateSteps false place, before.locateSteps false destination with
    | .ok source, .ok target =>
      if source = target then monitor else monitor.afterMove after source target
    | _, _ => monitor
  | _ =>
    let made := (after.entries.map (·.1)).filter fun location =>
      after.hasDirectory location && (before.get? location).isNone
    (made.mergeSort fun a b => a.length ≤ b.length).foldl (welcome after) monitor

/-- Makes a change to `tree`: the location that is reported, if one is, and the monitor
afterwards. -/
def observe (monitor : Monitor) (tree : FileTree) (change : Change) : Option Location × Monitor :=
  match change.perform tree with
  | .error _ => (none, monitor)
  | .ok after =>
    let monitor := monitor.follow tree after change
    let reported := (change.modified? tree).bind fun location =>
      ((monitor.find? location).map (·.shown)) <|> monitor.shown? location
    let accepted := reported.filter fun location =>
      match Location.path? location with
      | some path => monitor.filter path
      | none => false
    (accepted, monitor)

/-- A running monitor as it is shown, its root given as a text. -/
def describe (root : String) : String :=
  "FileWatcher \x7b watch_path: " ++ Text.quoted root ++ ", is_running: true, .. \x7d"

end Monitor

end RegionSync
