import RegionSync.Validator
import RegionSync.Watch.Worker

set_option autoImplicit false

/-! # The revalidation service

A worker whose job is to validate the files that are queued. Handling a path that ends well is
one validation of its file; a handler that fails or crashes leaves the files alone. A service
without a validator only keeps the queue.
-/

namespace RegionSync

/-- A worker with the files it validates. -/
structure Service where
  worker : Worker
  validator : Option Validator := some {}
  tree : FileTree
  stats : Stats := {}

/-- How the handling of a path ended. -/
inductive Handled where
  /-- The file was validated. -/
  | validated (visit : Visit)
  /-- Nothing was done to the file. -/
  | ended (result : HandlerResult)

namespace Service

/-- Handles a path to its end: its file is validated and counted. -/
def handle (service : Service) (path : Path) : Handled × Service :=
  match service.validator with
  | none => (.ended .ok, service)
  | some validator =>
    let (visit, tree) := validator.visit service.tree path
    (.validated visit, { service with tree := tree, stats := visit.record service.stats })

/-- Ends the handling of the current path, validating its file if the handler ends well. -/
def finish (service : Service) (result : HandlerResult) : Option (Path × Handled) × Service :=
  match service.worker.handling? with
  | none => (none, service)
  | some path =>
    let (handled, service) := match result with
      | .ok => service.handle path
      | result => (.ended result, service)
    (some (path, handled), { service with worker := service.worker.finish result })

/-- Ends handlings until the worker is idle, at most `budget` of them. -/
def finishAll (result : HandlerResult) : Nat → Service → List (Path × Handled) × Service
  | 0, service => ([], service)
  | budget + 1, service =>
    match service.finish result with
    | (none, service) => ([], service)
    | (some handled, service) =>
      let (rest, service) := finishAll result budget service
      (handled :: rest, service)

/-- Ends handlings until the worker is idle: the current one and one for each pending path. -/
def drain (service : Service) (result : HandlerResult) : List (Path × Handled) × Service :=
  finishAll result (service.worker.queue.pending.length + 1) service

/-- Stops the worker and lets the current handling end well. -/
def shutdown (service : Service) : Service :=
  let stopped := { service with worker := service.worker.stop }
  (stopped.finish .ok).2

end Service

end RegionSync
