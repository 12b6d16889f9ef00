import RegionSync.Proofs.Watch.Session

set_option autoImplicit false

/-! # Watched files come to be in sync

A file is *in sync* when a validation would not update it. A file that others change is in sync
again once the service is at rest, provided that every change is followed by a request for the
file: the request waits until its path is taken, and a path that was taken is validated. Requests
that are dropped, changes that are made while the file waits or is handled, and handlings of other
files in between make no difference.

The invariant is `Service.Covered`: the file is in sync, or it waits, or it is being handled. Every
event keeps it but a change of the file itself, and a request for the file establishes it.
-/

namespace RegionSync

/-- Spellings of one path have the same extension. -/
theorem Protocol.matchesExtension_congr {path other : Path} (hsame : path.same other = true)
    (protocol : Protocol) : protocol.matchesExtension path = protocol.matchesExtension other := by
  have hcomponents : path.components = other.components := by simpa [Path.same] using hsame
  simp only [matchesExtension, Path.hasExtension, Path.extension?, Path.fileName?, hcomponents]

/-! ## Files in sync -/

namespace Validator

variable {validator : Validator} {tree after : FileTree} {path other : Path} {location : Location}

/-- A validation of the file would not update it. -/
def InSync (validator : Validator) (tree : FileTree) (path : Path) : Prop :=
  (validator.visit tree path).1.result ≠ .ok .updated

theorem inSync_iff :
    validator.InSync tree path
      ↔ ∀ location access text result, ¬ validator.Updates tree path location access text result := by
  constructor
  · intro hsync location access text result hupdates
    exact hsync (by rw [hupdates.visit_eq]; rfl)
  · intro hnever hupdated
    obtain ⟨location, access, text, result, hupdates⟩ := exists_updates_of_visit rfl hupdated
    exact hnever location access text result hupdates

/-- A change of another file leaves the file in sync. -/
theorem InSync.of_edited (hsync : validator.InSync tree path) (hedited : tree.Edited location after)
    (hapart : tree.resolve path ≠ .ok location) : validator.InSync after path := by
  rw [inSync_iff] at hsync ⊢
  intro place access text result hupdates
  have hleads := (hedited.sameWays.resolve_eq_ok_iff path place).mp hupdates.reads.leads
  have helsewhere : place ≠ location := by
    rintro rfl
    exact hapart hleads
  have hholds := (hedited.elsewhere place helsewhere).symm.trans hupdates.reads.holds
  exact hsync place access text result
    ⟨hupdates.wanted, ⟨hleads, hholds, hupdates.reads.readable⟩, hupdates.outdated, hupdates.wet,
      hupdates.writable⟩

/-- A file that was updated is in sync, under every path that leads to it. -/
theorem Updates.inSync {access : Access} {text : String} {result : Regenerated}
    (hupdates : validator.Updates tree other location access text result)
    (hleads : tree.resolve path = .ok location) :
    validator.InSync (validator.visit tree other).2 path := by
  have hways := validator.sameWays_visit tree other
  have hnamed := FileTree.ne_nil_of_waymark?_eq_none hupdates.reads.waymark?_eq_none
  rw [hupdates.visit_eq] at hways ⊢
  rw [inSync_iff]
  intro place access' text' result' hagain
  -- the file holds the text that was written, and that text is not outdated
  obtain rfl : location = place :=
    Except.ok.inj (hleads.symm.trans ((hways.resolve_eq_ok_iff path place).mp hagain.reads.leads))
  have hholds := hagain.reads.holds
  rw [FileTree.get?_set_self tree location _ hnamed] at hholds
  obtain rfl : result.text = text' :=
    Text.encode_inj.mp (Entry.file.inj (Option.some.inj hholds)).1
  exact not_outdates_of_regenerate hupdates.outdated.accepts result' hagain.outdated

/-- No validation brings another file out of sync. -/
theorem InSync.visit (hsync : validator.InSync tree path) (other : Path) :
    validator.InSync (validator.visit tree other).2 path := by
  rcases validator.visit_cases tree other with ⟨-, hsame⟩ | ⟨place, access, text, result, hupdates⟩
  · rwa [hsame]
  · by_cases hleads : tree.resolve path = .ok place
    · exact hupdates.inSync hleads
    · rw [hupdates.visit_eq]
      exact hsync.of_edited (hupdates.reads.edited _) hleads

/-- Validating a file brings it in sync, under each spelling of its path that leads to it. -/
theorem inSync_visit (hsame : path.same other = true)
    (hleads : ∀ location, tree.resolve path = .ok location → tree.resolve other = .ok location) :
    validator.InSync (validator.visit tree other).2 path := by
  rcases validator.visit_cases tree other with
    ⟨hkept, hunchanged⟩ | ⟨place, access, text, result, hupdates⟩
  · rw [hunchanged, inSync_iff]
    intro location access text result hupdates
    have hwanted := (validator.protocol.matchesExtension_congr hsame).symm.trans hupdates.wanted
    have hupdates' : validator.Updates tree other location access text result :=
      ⟨hwanted,
        ⟨hleads location hupdates.reads.leads, hupdates.reads.holds, hupdates.reads.readable⟩,
        hupdates.outdated, hupdates.wet, hupdates.writable⟩
    exact hkept (by rw [hupdates'.visit_eq]; rfl)
  · by_cases hhere : tree.resolve path = .ok place
    · exact hupdates.inSync hhere
    · -- the path leads nowhere
      rw [inSync_iff]
      intro location access text result hagain
      have hback := ((validator.sameWays_visit tree other).resolve_eq_ok_iff path location).mp
        hagain.reads.leads
      obtain rfl : location = place :=
        Except.ok.inj ((hleads location hback).symm.trans hupdates.reads.leads)
      exact hhere hback

/-- Validating a file in sync finds nothing to do, or fails, and leaves the tree as it is. -/
theorem InSync.visit_eq (hsync : validator.InSync tree path) (hwet : validator.dryRun = false) :
    ∃ visit, validator.visit tree path = (visit, tree)
      ∧ (visit.result = .ok .unchanged ∨ (∃ reason, visit.result = .ok (.skipped reason))
        ∨ ∃ failure, visit.result = .error failure) := by
  refine ⟨(validator.visit tree path).1, Prod.ext rfl (tree_eq_of_visit rfl hsync), ?_⟩
  cases hfound : (validator.visit tree path).1.result with
  | error failure => exact .inr (.inr ⟨failure, rfl⟩)
  | ok outcome =>
      cases outcome with
      | skipped reason => exact .inr (.inl ⟨reason, rfl⟩)
      | unchanged => exact .inl rfl
      | updated => exact absurd hfound hsync
      | stale =>
          have hdry := ((result_eq_stale_iff rfl).mp hfound).1
          rw [hwet] at hdry
          cases hdry

end Validator

/-! ## Paths that tell files apart -/

/-- Each of some paths denotes a file of its own: those that lead to the file of one of them are
exactly its spellings. A spelling with a slash behind the name of a file would lead nowhere. -/
def FileTree.Separates (tree : FileTree) (paths : List Path) : Prop :=
  ∀ path ∈ paths, ∀ other ∈ paths, ∀ location, tree.resolve path = .ok location →
    (tree.resolve other = .ok location ↔ path.same other = true)

theorem FileTree.Separates.of_sameWays {tree after : FileTree} {paths : List Path}
    (hseparates : tree.Separates paths) (hways : tree.SameWays after) : after.Separates paths := by
  intro path hpath other hother location hleads
  rw [hways.resolve_eq_ok_iff] at hleads ⊢
  exact hseparates path hpath other hother location hleads

/-! ## What the worker has before it -/

namespace Worker

variable {worker next : Worker} {event : Event} {path : Path}

/-- The path waits or is being handled, under any spelling. -/
def Engaged (worker : Worker) (path : Path) : Prop :=
  worker.queue.contains path = true ∨ ∃ taken, worker.phase = .handling taken ∧ taken.same path = true

theorem engaged_of_asksFor (hstep : Step worker event next) (hasks : event.asksFor path = true) :
    next.Engaged path := by
  cases hstep with
  | enqueue other =>
      refine .inl ?_
      rw [Queue.contains_enqueue, show other.same path = true from hasks, Bool.or_true]
  | _ => cases hasks

/-- The worker is done with a path only when the handling of it ends. -/
theorem Engaged.step (hengaged : worker.Engaged path) (hstep : Step worker event next)
    (hsound : worker.Sound) :
    next.Engaged path ∨ ∃ result taken, event = .finish result ∧ worker.phase = .handling taken
      ∧ taken.same path = true := by
  rcases hengaged with hwaits | ⟨taken, hhandling, hsame⟩
  · cases hstep with
    | enqueue other =>
        refine .inl (.inl ?_)
        rw [Queue.contains_enqueue, hwaits, Bool.true_or]
    | take taken hclaimed hmem =>
        -- the path goes from the queue to the handler, or another one does
        cases hsame : taken.same path with
        | true => exact .inl (.inr ⟨taken, rfl, hsame⟩)
        | false =>
            refine .inl (.inl ?_)
            rw [Queue.contains_without hsound.distinct hmem, hwaits, hsame]
            rfl
    | _ => exact .inl (.inl hwaits)
  · cases hstep with
    | enqueue other => exact .inl (.inr ⟨taken, hhandling, hsame⟩)
    | stop => exact .inl (.inr ⟨taken, hhandling, hsame⟩)
    | finish result other hphase => exact .inr ⟨result, taken, rfl, hhandling, hsame⟩
    | exit hphase | claim hphase | take _ hphase | miss hphase =>
        rw [hhandling] at hphase
        cases hphase

/-- Nothing waits but what was asked for. -/
theorem Step.mem_pending (hstep : Step worker event next) (hmem : path ∈ next.queue.pending) :
    path ∈ worker.queue.pending ∨ event = .enqueue path := by
  cases hstep with
  | enqueue other =>
      simp only [Queue.enqueue] at hmem
      split at hmem
      case isTrue => exact .inl hmem
      case isFalse =>
          rcases List.mem_append.mp hmem with hmem | hmem
          · exact .inl hmem
          · exact .inr (by rw [List.mem_singleton.mp hmem])
  | take taken hclaimed hwaits => exact .inl (List.mem_of_mem_erase hmem)
  | _ => exact .inl hmem

/-- Nothing is handled but what waited. -/
theorem Step.handling (hstep : Step worker event next) (hhandling : next.phase = .handling path) :
    worker.phase = .handling path ∨ path ∈ worker.queue.pending := by
  cases hstep with
  | enqueue other => exact .inl hhandling
  | stop => exact .inl hhandling
  | take taken hclaimed hwaits =>
      cases hhandling
      exact .inr hwaits
  | _ => cases hhandling

end Worker

namespace Service

variable {service next last : Service} {event : Event} {events : List Event}
variable {validator : Validator} {paths : List Path} {path : Path}

/-! ## At any time -/

/-- What holds of a service at any time: it has its validator, the paths that it deals with are among
those named in the session, and they tell the files apart. -/
structure Steady (validator : Validator) (paths : List Path) (service : Service) : Prop where
  sound : service.worker.Sound
  validates : service.validator = some validator
  separates : service.tree.Separates paths
  queued : ∀ path ∈ service.worker.queue.pending, path ∈ paths
  handled : ∀ path, service.worker.phase = .handling path → path ∈ paths

theorem steady_watching (capacity : Nat) (protocol : Protocol) {tree : FileTree}
    (hseparates : tree.Separates paths) :
    (watching capacity protocol tree).Steady { protocol := protocol } paths where
  sound := Worker.sound_ofCapacity capacity
  validates := rfl
  separates := hseparates
  queued := nofun
  handled := nofun

theorem Step.steady (hstep : Step service event next) (hsteady : service.Steady validator paths)
    (hnamed : ∀ path, event.path? = some path → path ∈ paths) : next.Steady validator paths := by
  refine ⟨hstep.sound hsteady.sound, hstep.validator_eq.trans hsteady.validates,
    hsteady.separates.of_sameWays hstep.sameWays, ?_, ?_⟩
  · intro path hmem
    rcases hstep.worker_step with ⟨other, file, -, hsame⟩ | ⟨own, rfl, hmoved⟩
    · rw [hsame] at hmem
      exact hsteady.queued path hmem
    · rcases hmoved.mem_pending hmem with hmem | rfl
      · exact hsteady.queued path hmem
      · exact hnamed path rfl
  · intro path hhandling
    rcases hstep.worker_step with ⟨other, file, -, hsame⟩ | ⟨own, rfl, hmoved⟩
    · rw [hsame] at hhandling
      exact hsteady.handled path hhandling
    · rcases hmoved.handling hhandling with hhandling | hmem
      · exact hsteady.handled path hhandling
      · exact hsteady.queued path hmem

/-! ## Covered files -/

/-- The file of a path is in sync, or the worker will validate it. -/
def Covered (validator : Validator) (path : Path) (service : Service) : Prop :=
  validator.InSync service.tree path ∨ service.worker.Engaged path

/-- Whether an event is a change of the file of a path, under any spelling. -/
def Event.edits (path : Path) : Event → Bool
  | .edit other _ => other.same path
  | .worker _ => false

/-- Whether an event is a request for a path, under any spelling. -/
def Event.asksFor (path : Path) : Event → Bool
  | .edit _ _ => false
  | .worker event => event.asksFor path

/-- A request covers the file, whatever the state of the file. -/
theorem covered_of_asksFor (hstep : Step service event next) (hasks : event.asksFor path = true) :
    next.Covered validator path := by
  rcases hstep.worker_step with ⟨other, file, rfl, -⟩ | ⟨own, rfl, hmoved⟩
  · cases hasks
  · exact .inr (Worker.engaged_of_asksFor hmoved hasks)

/-- Only a change of the file itself can leave it uncovered. -/
theorem Covered.step (hcovered : service.Covered validator path) (hstep : Step service event next)
    (hsteady : service.Steady validator paths) (hmem : path ∈ paths)
    (hnamed : ∀ path, event.path? = some path → path ∈ paths)
    (hvalidates : ∀ result, event = .worker (.finish result) → result = .ok)
    (hapart : event.edits path = false) : next.Covered validator path := by
  cases hstep with
  | edit other file location hleads hfree =>
      rcases hcovered with hsync | hengaged
      · -- the change is made somewhere else
        refine .inl (hsync.of_edited (FileTree.edited_withFile hfree file) fun hhere => ?_)
        have hsame :=
          (hsteady.separates path hmem other (hnamed other rfl) location hhere).mp hleads
        rw [Path.same_comm, show other.same path = false from hapart] at hsame
        cases hsame
      · exact .inr hengaged
  | validate taken own hhandling hupdates =>
      obtain rfl : own = validator := Option.some.inj (hupdates.symm.trans hsteady.validates)
      rcases hcovered with hsync | hengaged
      · exact .inl (hsync.visit taken)
      · rcases hengaged.step (.finish .ok taken hhandling) hsteady.sound with
          hengaged | ⟨-, other, -, hhandling', hsame⟩
        · exact .inr hengaged
        · -- the path was being handled, under a spelling that leads to the same file
          obtain rfl : taken = other := by simpa [hhandling] using hhandling'
          rw [Path.same_comm] at hsame
          exact .inl (Validator.inSync_visit hsame fun location hhere =>
            (hsteady.separates path hmem taken (hsteady.handled taken hhandling) location hhere).mpr
              hsame)
  | queue own worker hquiet hstep =>
      rcases hcovered with hsync | hengaged
      · exact .inl hsync
      · rcases hengaged.step hstep hsteady.sound with hengaged | ⟨result, -, rfl, -, -⟩
        · exact .inr hengaged
        · obtain rfl := hvalidates result rfl
          cases (hquiet rfl).symm.trans hsteady.validates

/-! ## Announced changes -/

/-- Whether every change of a file is followed by a request for it. -/
def announced : List Event → Bool
  | [] => true
  | .edit path _ :: later => later.any (Event.asksFor path) && announced later
  | .worker _ :: later => announced later

theorem announced_of_cons (hholds : announced (event :: events) = true) :
    announced events = true := by
  cases event with
  | edit path file => exact (Bool.and_eq_true_iff.mp hholds).2
  | worker own => exact hholds

theorem Event.asksFor_congr {other : Path} (hsame : path.same other = true) (event : Event) :
    event.asksFor path = event.asksFor other := by
  rcases event with _ | (asked | _ | _ | _ | _)
  case worker.enqueue =>
      simp only [Event.asksFor, Worker.Event.asksFor]
      rw [Path.same_comm, Path.same_congr hsame, Path.same_comm]
  all_goals rfl

theorem exists_asksFor_of_edits (hholds : announced (event :: events) = true)
    (hedits : event.edits path = true) : ∃ ask ∈ events, ask.asksFor path = true := by
  cases event with
  | edit other file =>
      have hasked := List.any_eq_true.mp (Bool.and_eq_true_iff.mp hholds).1
      simpa only [Event.asksFor_congr hedits] using hasked
  | worker own => cases hedits

/-- A file that is covered, or for which a request is still to come, is covered in the end. The
induction is on the session: a change of the file is followed by a request, and any other event
keeps the file covered. -/
theorem covered_of_run (hsteady : service.Steady validator paths) (hmem : path ∈ paths)
    (hnamed : ∀ event ∈ events, ∀ path, event.path? = some path → path ∈ paths)
    (hvalidates : ∀ result, .worker (.finish result) ∈ events → result = .ok)
    (htells : announced events = true) (hrun : service.run events = some last)
    (howed : service.Covered validator path ∨ ∃ ask ∈ events, ask.asksFor path = true) :
    last.Covered validator path := by
  induction events generalizing service with
  | nil =>
      cases hrun
      rcases howed with hcovered | ⟨ask, hmem, -⟩
      · exact hcovered
      · cases hmem
  | cons event events ih =>
      obtain ⟨next, hstep, hrest⟩ := run_cons_eq_some_iff.mp hrun
      have hhere := hnamed event List.mem_cons_self
      refine ih (hstep.steady hsteady hhere)
        (fun event hmem => hnamed event (List.mem_cons_of_mem _ hmem))
        (fun result hmem => hvalidates result (List.mem_cons_of_mem _ hmem))
        (announced_of_cons htells) hrest ?_
      cases hedits : event.edits path with
      | true => exact .inr (exists_asksFor_of_edits htells hedits)
      | false =>
          rcases howed with hcovered | ⟨ask, hask, hasks⟩
          · refine .inl (hcovered.step hstep hsteady hmem hhere ?_ hedits)
            rintro result rfl
            exact hvalidates result List.mem_cons_self
          · rcases List.mem_cons.mp hask with rfl | hlater
            · exact .inl (covered_of_asksFor hstep hasks)
            · exact .inr ⟨ask, hlater, hasks⟩

theorem exists_asksFor_of_mem {file : Option (ByteArray × Access)}
    (htells : announced events = true) (hedited : .edit path file ∈ events) :
    ∃ ask ∈ events, ask.asksFor path = true := by
  induction events with
  | nil => cases hedited
  | cons event events ih =>
      have hlater : ∃ ask ∈ events, ask.asksFor path = true := by
        rcases List.mem_cons.mp hedited with rfl | hmem
        · exact exists_asksFor_of_edits htells (Path.same_self path)
        · exact ih (announced_of_cons htells) hmem
      obtain ⟨ask, hmem, hasks⟩ := hlater
      exact ⟨ask, List.mem_cons_of_mem _ hmem, hasks⟩

/-- A worker that waits with nothing queued is not engaged with any path. -/
theorem Covered.inSync (hcovered : service.Covered validator path)
    (hwaiting : service.worker.phase = .waiting) (hempty : service.worker.queue.pending = []) :
    validator.InSync service.tree path := by
  rcases hcovered with hsync | hwaits | ⟨taken, hhandling, -⟩
  · exact hsync
  · rw [Queue.contains_of_pending_eq_nil hempty] at hwaits
    cases hwaits
  · rw [hwaiting] at hhandling
    cases hhandling

/-- **Edited files converge.** Others change files in any order and ask for paths in any order, and
the worker takes whichever waiting path it likes. Let the paths that are named tell the files apart,
let each handling be a validation, and let every change of a file be followed by a request for it.
Once the worker waits and nothing is queued, each file that was changed is in sync: validating it
again finds nothing to do, or fails, and leaves all files as they are. -/
theorem edited_files_converge (capacity : Nat) (protocol : Protocol) (tree : FileTree)
    (events : List Event) (last : Service)
    (hrun : (watching capacity protocol tree).run events = some last)
    (hseparates : tree.Separates (events.filterMap Event.path?))
    (hvalidates : ∀ result, .worker (.finish result) ∈ events → result = .ok)
    (htells : announced events = true)
    (hwaiting : last.worker.phase = .waiting) (hempty : last.worker.queue.pending = [])
    (path : Path) (file : Option (ByteArray × Access)) (hedited : .edit path file ∈ events) :
    ∃ visit, Validator.visit { protocol := protocol } last.tree path = (visit, last.tree)
      ∧ (visit.result = .ok .unchanged ∨ (∃ reason, visit.result = .ok (.skipped reason))
        ∨ ∃ failure, visit.result = .error failure) := by
  have hnamed : ∀ event ∈ events, ∀ path, event.path? = some path
      → path ∈ events.filterMap Event.path? :=
    fun event hmem path habout => List.mem_filterMap.mpr ⟨event, hmem, habout⟩
  have hcovered : last.Covered { protocol := protocol } path :=
    covered_of_run (steady_watching capacity protocol hseparates) (hnamed _ hedited path rfl) hnamed
      hvalidates htells hrun (.inr (exists_asksFor_of_mem htells hedited))
  exact (hcovered.inSync hwaiting hempty).visit_eq rfl

/-- A file is made and asked for. While it waits another file is taken away, and while it is handled
the other file is made again. Of the two requests for the other file the second one is dropped. -/
def settlingSession : List Event :=
  [.edit ⟨"b.cs"⟩ (some (Text.encode "z", {})), .worker (.enqueue ⟨"b.cs"⟩), .edit ⟨"a.cs"⟩ none,
    .worker .wait, .worker (.enqueue ⟨"a.cs"⟩), .worker (.pop (some ⟨"b.cs"⟩)),
    .edit ⟨"a.cs"⟩ (some (Text.encode sampleText, {})), .worker (.finish .ok),
    .worker (.enqueue ⟨"a.cs"⟩), .worker .wait, .worker (.pop (some ⟨"a.cs"⟩)),
    .worker (.finish .ok)]

theorem separates_settlingSession :
    sampleTree.Separates (settlingSession.filterMap Event.path?) := by
  have hleads_a : sampleTree.resolve ⟨"a.cs"⟩ = .ok [.text "a.cs"] := by decide +kernel
  have hleads_b : sampleTree.resolve ⟨"b.cs"⟩ = .ok [.text "b.cs"] := by decide +kernel
  have htwo : ∀ path ∈ settlingSession.filterMap Event.path?,
      path = ⟨"a.cs"⟩ ∨ path = ⟨"b.cs"⟩ := by
    decide +kernel
  intro path hpath other hother location hleads
  rcases htwo path hpath with rfl | rfl <;> rcases htwo other hother with rfl | rfl
  · exact ⟨fun _ => Path.same_self _, fun _ => hleads⟩
  · cases hleads_a.symm.trans hleads
    decide +kernel
  · cases hleads_b.symm.trans hleads
    decide +kernel
  · exact ⟨fun _ => Path.same_self _, fun _ => hleads⟩

theorem edited_files_converge_in_settlingSession :
    ∃ last visit, (watching 1 sampleProtocol sampleTree).run settlingSession = some last
      ∧ last.stats.updated = 1
      ∧ Validator.visit { protocol := sampleProtocol } last.tree ⟨"a.cs"⟩ = (visit, last.tree)
      ∧ (visit.result = .ok .unchanged ∨ (∃ reason, visit.result = .ok (.skipped reason))
        ∨ ∃ failure, visit.result = .error failure) := by
  have hran : ((watching 1 sampleProtocol sampleTree).run settlingSession).any (fun last =>
      decide (last.worker.phase = .waiting ∧ last.worker.queue.pending = []
        ∧ last.stats.updated = 1)) = true := by
    decide +kernel
  obtain ⟨last, hrun, hrest⟩ := (Option.any_eq_true _ _).mp hran
  obtain ⟨hwaiting, hempty, honce⟩ := of_decide_eq_true hrest
  obtain ⟨visit, hvisited, houtcome⟩ := edited_files_converge 1 sampleProtocol sampleTree
    settlingSession last hrun separates_settlingSession (by simp [settlingSession])
    (by decide +kernel) hwaiting hempty ⟨"a.cs"⟩ none (by simp [settlingSession])
  exact ⟨last, visit, hrun, honce, hvisited, houtcome⟩

end Service

end RegionSync
