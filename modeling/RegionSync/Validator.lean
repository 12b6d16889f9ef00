import RegionSync.FileTree.Resolve
import RegionSync.Log
import RegionSync.Regenerate
import RegionSync.Stats

set_option autoImplicit false

/-! # Validating one file

A validator reads a file, regenerates it, and writes it back only if a region was not up to
date; in a dry run it never writes. All that a validation does follows from its *verdict*: the
result, the counters, the log, and the tree it leaves.
-/

namespace RegionSync

/-- How files are validated. -/
structure Validator where
  protocol : Protocol := {}
  /-- Whether stale files are only reported. -/
  dryRun : Bool := false

/-- What a validation found and did. -/
inductive Verdict where
  | otherExtension
  | unreadable (error : IoError)
  | notAnnotated
  | faulty (fault : Fault)
  | upToDate (result : Regenerated)
  | stale (result : Regenerated)
  | updated (result : Regenerated)
  | unwritable (result : Regenerated) (error : IoError)

/-- A file that was validated. -/
structure Visit where
  path : Path
  verdict : Verdict

namespace Verdict

/-- What the verdict on the file at `path` comes to. -/
def result (path : Path) : Verdict → Except Failure Outcome
  | otherExtension => .ok (.skipped .extension)
  | unreadable error => .error (.unreadable path error)
  | notAnnotated => .ok (.skipped .notAnnotated)
  | faulty fault => .error (.faulty path fault)
  | upToDate _ => .ok .unchanged
  | stale _ => .ok .stale
  | updated _ => .ok .updated
  | unwritable _ error => .error (.unwritable path error)

/-- The advisories on a file that could be regenerated. -/
def advisories : Verdict → List Advisory
  | upToDate result => result.advisories
  | stale result => result.advisories
  | updated result => result.advisories
  | unwritable result _ => result.advisories
  | _ => []

end Verdict

namespace Visit

/-- The result of the visit. -/
def result (visit : Visit) : Except Failure Outcome := visit.verdict.result visit.path

/-- The failure, if the validation failed. -/
def failure? (visit : Visit) : Option Failure :=
  match visit.result with
  | .ok _ => none
  | .error failure => some failure

/-- Whether the file was found stale and left alone. -/
def isStale (visit : Visit) : Bool :=
  match visit.verdict with
  | .stale _ => true
  | _ => false

/-- Counts the visit. -/
def record (stats : Stats) (visit : Visit) : Stats :=
  (stats.addAdvisories visit.verdict.advisories.length).recordResult visit.result

/-- What is told about the visit while it goes on. -/
def log (visit : Visit) : List LogLine :=
  let path := ("path", some visit.path.text)
  let closing : List LogLine := match visit.verdict with
    | .upToDate _ => [⟨.debug, .validator, "Generated regions up to date", [path]⟩]
    | .stale _ => [⟨.info, .validator, "Generated regions are stale", [path]⟩]
    | .updated result =>
      [⟨.info, .validator, "Rewrote generated regions",
        [path, ("props", some (toString result.props.length)),
          ("states", some (toString result.states.length))]⟩]
    | _ => []
  let warnings := visit.verdict.advisories.map fun advisory =>
    ⟨.warn, .validator, advisory.message, [path, ("prop", some advisory.prop.name)]⟩
  match visit.verdict with
  | .otherExtension => []
  | _ => ⟨.debug, .validator, "Validating", [path]⟩ :: warnings ++ closing

end Visit

namespace Validator

/-- Validates the file that a path leads to: the verdict, and the tree afterwards. -/
def examine (validator : Validator) (tree : FileTree) (path : Path) : Verdict × FileTree :=
  if !validator.protocol.matchesExtension path then (.otherExtension, tree)
  else
    match tree.readText path with
    | .error error => (.unreadable error, tree)
    | .ok text =>
      match regenerate validator.protocol text with
      | .error fault => (.faulty fault, tree)
      | .ok .notAnnotated => (.notAnnotated, tree)
      | .ok (.annotated result) =>
        if !result.changed then (.upToDate result, tree)
        else if validator.dryRun then (.stale result, tree)
        else
          match tree.write path (Text.encode result.text) with
          | .ok tree => (.updated result, tree)
          | .error error => (.unwritable result error, tree)

/-- Validates a file and keeps the verdict with its path. -/
def visit (validator : Validator) (tree : FileTree) (path : Path) : Visit × FileTree :=
  let (verdict, after) := validator.examine tree path
  (⟨path, verdict⟩, after)

/-- Validates files one after the other. -/
def visitAll (validator : Validator) : List Path → FileTree → List Visit × FileTree
  | [], tree => ([], tree)
  | path :: paths, tree =>
    let (visit, tree) := validator.visit tree path
    let (visits, tree) := visitAll validator paths tree
    (visit :: visits, tree)

end Validator

end RegionSync
