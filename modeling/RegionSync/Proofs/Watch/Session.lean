import RegionSync.Watch.Service
import RegionSync.Proofs.WriteBack
import RegionSync.Proofs.Watch.Delivery

set_option autoImplicit false

/-! # Sessions: a service among other programs

While a service watches files, others change them. A *session* is a list of events: changes of
single files by anybody else, requests and stop requests, and the steps of the worker, in any
order. A handling that ends well is one validation of the file, made in one step.

`Service.Step` says once what an event does. The worker of a service goes through a run of its own
(`Step.worker_step`), no event moves the place that a path leads to (`Step.sameWays`), and what
the service does by itself is one of the sessions (`exists_run_finish`).
-/

namespace RegionSync

/-- Left to itself, the worker waits and takes a path, as far as it can. -/
theorem Worker.exists_run_advance (worker : Worker) :
    ∃ own : List Worker.Event, (∀ event ∈ own, event = .wait ∨ ∃ choice, event = .pop choice)
      ∧ worker.run own = some worker.advance := by
  unfold advance
  cases hwaited : worker.step? .wait with
  | none => exact ⟨[], nofun, rfl⟩
  | some claimed =>
      cases hpopped : claimed.step? (.pop claimed.queue.pending.head?) with
      | none => exact ⟨[.wait], by simp, by simp [run, hwaited, hpopped]⟩
      | some handling =>
          exact ⟨[.wait, .pop claimed.queue.pending.head?], by simp,
            by simp [run, hwaited, hpopped]⟩

theorem Worker.handling?_eq_some_iff {worker : Worker} {path : Path} :
    worker.handling? = some path ↔ worker.phase = .handling path := by
  unfold handling?
  cases worker.phase <;> simp

namespace Service

/-- A service that starts to validate the files of a tree, with nothing queued. -/
def watching (capacity : Nat) (protocol : Protocol) (tree : FileTree) : Service where
  worker := .ofCapacity capacity
  validator := some { protocol := protocol }
  tree := tree

/-! ## One event -/

/-- What can happen to a service and its files, one thing at a time. -/
inductive Event where
  /-- Somebody else gives the file of a path a content and an access, or takes it away. -/
  | edit (path : Path) (file : Option (ByteArray × Access))
  /-- Something happens to the queue or the worker. -/
  | worker (event : Worker.Event)

/-- The path that an event is about, if it comes from outside. -/
def Event.path? : Event → Option Path
  | .edit path _ => some path
  | .worker (.enqueue path) => some path
  | _ => none

/-- What an event of the worker does to the files and the counters: a handling that ends well
validates the file. -/
def attend (service : Service) : Worker.Event → Service
  | .finish .ok =>
    match service.worker.handling? with
    | some path => (service.handle path).2
    | none => service
  | _ => service

/-- The service after an event, if it can happen. -/
def step? (service : Service) : Event → Option Service
  | .edit path file =>
    match service.tree.resolve path with
    | .ok location =>
      if service.tree.waymark? location = none then
        some { service with tree := service.tree.withFile location file }
      else none
    | .error _ => none
  | .worker event =>
    match service.worker.step? event with
    | some worker => some { service.attend event with worker := worker }
    | none => none

/-- What an event does to a service, and when it can happen. -/
inductive Step (service : Service) : Event → Service → Prop where
  /-- A file is changed where a file or nothing stands. -/
  | edit (path : Path) (file : Option (ByteArray × Access)) (location : Location)
      (hleads : service.tree.resolve path = .ok location)
      (hfree : service.tree.waymark? location = none) :
      Step service (.edit path file)
        { service with tree := service.tree.withFile location file }
  /-- The file of the path that was taken is validated and counted, and the worker waits again. -/
  | validate (path : Path) (validator : Validator)
      (hhandling : service.worker.phase = .handling path)
      (hvalidates : service.validator = some validator) :
      Step service (.worker (.finish .ok))
        { service with
          worker := { service.worker with phase := .waiting }
          tree := (validator.visit service.tree path).2
          stats := (validator.visit service.tree path).1.record service.stats }
  /-- The queue or the worker goes on, and no file is touched. -/
  | queue (event : Worker.Event) (worker : Worker)
      (hquiet : event = .finish .ok → service.validator = none)
      (hstep : Worker.Step service.worker event worker) :
      Step service (.worker event) { service with worker := worker }

variable {service next last : Service} {event : Event} {events before after : List Event}

theorem attend_of_handling {validator : Validator} {path : Path}
    (hhandling : service.worker.phase = .handling path)
    (hvalidates : service.validator = some validator) :
    service.attend (.finish .ok) =
      { service with
        tree := (validator.visit service.tree path).2
        stats := (validator.visit service.tree path).1.record service.stats } := by
  simp only [attend, Worker.handling?, hhandling, handle, hvalidates]

theorem attend_of_quiet {event : Worker.Event}
    (hquiet : event = .finish .ok → service.validator = none) : service.attend event = service := by
  unfold attend
  split
  case h_1 =>
      split
      case h_1 path _ => simp only [handle, hquiet rfl]
      case h_2 => rfl
  case h_2 => rfl

theorem step_of_step? (h : service.step? event = some next) : Step service event next := by
  unfold step? at h
  split at h
  case h_1 path file =>
      split at h
      case h_1 location hleads =>
          split at h
          case isTrue hfree =>
              cases h
              exact .edit path file location hleads hfree
          case isFalse => cases h
      case h_2 => cases h
  case h_2 own =>
      split at h
      case h_2 => cases h
      case h_1 worker hstepped =>
          cases h
          have hstep := Worker.step_of_step? hstepped
          by_cases hquiet : own = .finish .ok → service.validator = none
          · rw [attend_of_quiet hquiet]
            exact .queue own worker hquiet hstep
          · obtain ⟨rfl, hsome_validator⟩ := Classical.not_imp.mp hquiet
            obtain ⟨validator, hvalidates⟩ := Option.ne_none_iff_exists'.mp hsome_validator
            cases hstep with
            | finish result path hhandling =>
                rw [attend_of_handling hhandling hvalidates]
                exact .validate path validator hhandling hvalidates

/-- `Step` is the graph of `step?`. -/
theorem step?_eq_some_iff : service.step? event = some next ↔ Step service event next := by
  refine ⟨step_of_step?, fun hstep => ?_⟩
  cases hstep with
  | edit path file location hleads hfree => simp only [step?, hleads, hfree, if_true]
  | validate path validator hhandling hvalidates =>
      have hstep : Worker.Step service.worker (.finish .ok)
          { service.worker with phase := .waiting } :=
        .finish .ok path hhandling
      simp only [step?, Worker.step?_eq_some_iff.mpr hstep, attend_of_handling hhandling hvalidates]
  | queue event worker hquiet hstep =>
      simp only [step?, Worker.step?_eq_some_iff.mpr hstep, attend_of_quiet hquiet]

/-! ## Sessions -/

/-- The service after some events, if they can happen one after the other. -/
def run (service : Service) (events : List Event) : Option Service := events.foldlM step? service

theorem run_cons_eq_some_iff :
    service.run (event :: events) = some last
      ↔ ∃ next, Step service event next ∧ next.run events = some last := by
  simp only [run, List.foldlM_cons, Option.bind_eq_bind, Option.bind_eq_some_iff, step?_eq_some_iff]

theorem run_append_eq_some_iff :
    service.run (before ++ after) = some last
      ↔ ∃ middle, service.run before = some middle ∧ middle.run after = some last := by
  simp only [run, List.foldlM_append, Option.bind_eq_bind, Option.bind_eq_some_iff]

/-- What every event of a session keeps is true after the session. -/
theorem invariant_of_run {P : Service → Prop}
    (hkept : ∀ service event next, event ∈ events → Step service event next → P service → P next)
    (hrun : service.run events = some last) (hholds : P service) : P last := by
  induction events generalizing service with
  | nil =>
      cases hrun
      exact hholds
  | cons event events ih =>
      obtain ⟨next, hstep, hrest⟩ := run_cons_eq_some_iff.mp hrun
      exact ih
        (fun service event next hmem => hkept service event next (List.mem_cons_of_mem _ hmem))
        hrest (hkept service event next List.mem_cons_self hstep hholds)

/-! ## What an event leaves alone -/

theorem Step.validator_eq (hstep : Step service event next) :
    next.validator = service.validator := by
  cases hstep <;> rfl

/-- No event moves a place that a path leads to. -/
theorem Step.sameWays (hstep : Step service event next) : service.tree.SameWays next.tree := by
  cases hstep with
  | edit path file location hleads hfree => exact (FileTree.edited_withFile hfree file).sameWays
  | validate path validator hhandling hvalidates => exact validator.sameWays_visit service.tree path
  | queue own worker hquiet hstep => exact .refl _

theorem sameWays_of_run (hrun : service.run events = some last) :
    service.tree.SameWays last.tree :=
  invariant_of_run (P := fun reached => service.tree.SameWays reached.tree)
    (fun _ _ _ _ hstep hways => hways.trans hstep.sameWays) hrun (.refl _)

/-- The worker of a service takes the steps of a worker, and a change of a file is none of them. -/
theorem Step.worker_step (hstep : Step service event next) :
    (∃ path file, event = .edit path file ∧ next.worker = service.worker)
      ∨ ∃ own, event = .worker own ∧ Worker.Step service.worker own next.worker := by
  cases hstep with
  | edit path file location hleads hfree => exact .inl ⟨path, file, rfl, rfl⟩
  | validate path validator hhandling hvalidates =>
      exact .inr ⟨.finish .ok, rfl, .finish .ok path hhandling⟩
  | queue own worker hquiet hstep => exact .inr ⟨own, rfl, hstep⟩

/-- Whatever a worker keeps at each of its steps, the worker of a service keeps. -/
theorem Step.sound (hstep : Step service event next) (hsound : service.worker.Sound) :
    next.worker.Sound := by
  rcases hstep.worker_step with ⟨path, file, -, hsame⟩ | ⟨own, -, hstep⟩
  · rwa [hsame]
  · exact hstep.sound hsound

/-! ## The service by itself -/

@[simp] theorem worker_handle (service : Service) (path : Path) :
    (service.handle path).2.worker = service.worker := by
  unfold handle
  split <;> rfl

/-- Events of the worker that end no handling happen to the worker alone. -/
theorem run_map_worker {own : List Worker.Event} {worker : Worker}
    (hquiet : ∀ event ∈ own, event ≠ .finish .ok) (hrun : service.worker.run own = some worker) :
    service.run (own.map .worker) = some { service with worker := worker } := by
  induction own generalizing service with
  | nil =>
      cases hrun
      rfl
  | cons event own ih =>
      obtain ⟨next, hstep, hrest⟩ := Worker.run_cons_eq_some_iff.mp hrun
      refine run_cons_eq_some_iff.mpr ⟨{ service with worker := next }, ?_, ?_⟩
      · exact .queue event next
          (fun hended => absurd hended (hquiet event List.mem_cons_self)) hstep
      · exact ih (fun event hmem => hquiet event (List.mem_cons_of_mem _ hmem)) hrest

/-- What the service does when a handling ends is one of the sessions, made of steps of the worker. -/
theorem exists_run_finish {path : Path} (hhandling : service.worker.phase = .handling path)
    (result : HandlerResult) :
    ∃ own : List Worker.Event, (∀ event ∈ own, event.isOwn = true)
      ∧ service.run (own.map .worker) = some (service.finish result).2 := by
  have hended : service.worker.step? (.finish result) =
      some { service.worker with phase := .waiting } :=
    Worker.step?_eq_some_iff.mpr (.finish result path hhandling)
  obtain ⟨own, hkinds, hadvances⟩ :=
    Worker.exists_run_advance { service.worker with phase := .waiting }
  refine ⟨.finish result :: own, ?_, ?_⟩
  · intro event hmem
    rcases List.mem_cons.mp hmem with rfl | hmem
    · rfl
    · rcases hkinds event hmem with rfl | ⟨choice, rfl⟩ <;> rfl
  · have hquiet : ∀ event ∈ own, event ≠ .finish .ok := by
      intro event hmem
      rcases hkinds event hmem with rfl | ⟨choice, rfl⟩ <;> nofun
    have hsame : (service.finish result).2 =
        { service.attend (.finish result) with
          worker := Worker.advance { service.worker with phase := .waiting } } := by
      cases result <;>
        simp [finish, attend, Worker.handling?, hhandling, Worker.finish, hended]
    rw [hsame, List.map_cons, run_cons_eq_some_iff]
    refine ⟨{ service.attend (.finish result) with
      worker := { service.worker with phase := .waiting } }, ?_, run_map_worker hquiet hadvances⟩
    rw [← step?_eq_some_iff, step?, hended]

end Service

end RegionSync
