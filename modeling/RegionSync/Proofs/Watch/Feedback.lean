import RegionSync.Proofs.Watch.Session

set_option autoImplicit false

/-! # The service does not feed itself

A validation that updates a file modifies it, so it may well cause a request for the same file,
and another validation. That ends there: the text that was written is not outdated, and it stays so
until somebody else changes the file.

The account is kept by one inequality (`Step.account`): a validation that updates the file at a
location needs it to be outdated, it is not outdated afterwards, and only a change made by others
can make it so again. Hence between two updates of a file there is such a change
(`updates_bounded_by_edits`).
-/

namespace RegionSync

/-! ## Outdated files -/

/-- Whether an entry is a file with a text that regenerating accepts and changes. -/
def Protocol.isOutdated (protocol : Protocol) : Option Entry → Bool
  | some (.file content _) =>
    match Text.decode? content with
    | some text =>
      match regenerate protocol text with
      | .ok (.annotated result) => result.changed
      | _ => false
    | none => false
  | _ => false

theorem Protocol.isOutdated_file_iff {protocol : Protocol} {text : String} {access : Access} :
    protocol.isOutdated (some (.file (Text.encode text) access)) = true
      ↔ ∃ result, protocol.Outdates text result := by
  simp only [isOutdated, Text.decode?_eq_some_iff.mpr rfl]
  constructor
  · intro h
    split at h
    case h_1 result haccepts => exact ⟨result, haccepts, (changed_iff_of_regenerate haccepts).mp h⟩
    case h_2 => cases h
  · rintro ⟨result, haccepts, hdiffers⟩
    simp only [haccepts]
    exact (changed_iff_of_regenerate haccepts).mpr hdiffers

namespace Service

variable {service next last : Service} {event : Event} {events : List Event}

/-- Whether the file at a location is outdated. -/
def isOutdated (service : Service) (location : Location) : Bool :=
  service.validator.any fun validator =>
    validator.protocol.isOutdated (service.tree.get? location)

/-! ## Updates and changes of a file -/

/-- The visit that an event makes. -/
def visit? (service : Service) : Event → Option Visit
  | .worker (.finish .ok) =>
    match service.validator, service.worker.handling? with
    | some validator, some path => some (validator.visit service.tree path).1
    | _, _ => none
  | _ => none

/-- Whether an event is a visit that updates the file at a location. -/
def updates (service : Service) (location : Location) (event : Event) : Bool :=
  (service.visit? event).any fun visit =>
    decide (service.tree.resolve visit.path = .ok location ∧ visit.result = .ok .updated)

/-- Whether an event is a change that others make to the file at a location. -/
def Event.editsAt (tree : FileTree) (location : Location) : Event → Bool
  | .edit path _ => decide (tree.resolve path = .ok location)
  | .worker _ => false

/-- How often the file at a location is updated in a session. -/
def updateCount (location : Location) : Service → List Event → Nat
  | _, [] => 0
  | service, event :: events =>
    (service.updates location event).toNat +
      match service.step? event with
      | some next => updateCount location next events
      | none => 0

/-- How often others change the file at a location. -/
def editCount (tree : FileTree) (location : Location) (events : List Event) : Nat :=
  events.countP (Event.editsAt tree location)

theorem visit?_eq_some_iff {visit : Visit} :
    service.visit? event = some visit
      ↔ event = .worker (.finish .ok) ∧ ∃ path validator, service.worker.phase = .handling path
          ∧ service.validator = some validator ∧ visit = (validator.visit service.tree path).1 := by
  constructor
  · intro h
    unfold visit? at h
    split at h
    case h_2 => cases h
    case h_1 =>
        split at h
        case h_2 => cases h
        case h_1 validator path hvalidates hhandled =>
            cases h
            exact ⟨rfl, path, validator, Worker.handling?_eq_some_iff.mp hhandled, hvalidates, rfl⟩
  · rintro ⟨rfl, path, validator, hhandling, hvalidates, rfl⟩
    simp only [visit?, hvalidates, Worker.handling?_eq_some_iff.mpr hhandling]

/-- A visit that updates a file is a validation that has all it takes. -/
theorem updates_eq_true_iff {location : Location} :
    service.updates location event = true
      ↔ event = .worker (.finish .ok) ∧ ∃ path validator access text result,
          service.worker.phase = .handling path ∧ service.validator = some validator
            ∧ validator.Updates service.tree path location access text result := by
  unfold updates
  rw [Option.any_eq_true]
  constructor
  · rintro ⟨visit, hvisited, houtcome⟩
    obtain ⟨hleads, hupdated⟩ := of_decide_eq_true houtcome
    obtain ⟨rfl, path, validator, hhandling, hvalidates, rfl⟩ := visit?_eq_some_iff.mp hvisited
    obtain ⟨place, access, text, result, hupdates⟩ := Validator.exists_updates_of_visit rfl hupdated
    obtain rfl : place = location := Except.ok.inj (hupdates.reads.leads.symm.trans hleads)
    exact ⟨rfl, path, validator, access, text, result, hhandling, hvalidates, hupdates⟩
  · rintro ⟨rfl, path, validator, access, text, result, hhandling, hvalidates, hupdates⟩
    refine ⟨_, visit?_eq_some_iff.mpr ⟨rfl, path, validator, hhandling, hvalidates, rfl⟩, ?_⟩
    rw [hupdates.visit_eq]
    exact decide_eq_true ⟨hupdates.reads.leads, rfl⟩

/-! ## The account -/

theorem isOutdated_of_updates {validator : Validator} {path : Path} {location : Location}
    {access : Access} {text : String} {result : Regenerated}
    (hvalidates : service.validator = some validator)
    (hupdates : validator.Updates service.tree path location access text result) :
    service.isOutdated location = true := by
  rw [isOutdated, hvalidates, Option.any_some, hupdates.reads.holds, Protocol.isOutdated_file_iff]
  exact ⟨result, hupdates.outdated⟩

/-- A visit that updates a file leaves it up to date. -/
theorem not_isOutdated_of_updates {validator : Validator} {path : Path} {location : Location}
    {access : Access} {text : String} {result : Regenerated}
    (hvalidates : next.validator = some validator)
    (hwritten : next.tree.get? location = some (.file (Text.encode result.text) access))
    (hupdates : validator.Updates service.tree path location access text result) :
    next.isOutdated location = false := by
  rw [Bool.eq_false_iff, isOutdated, hvalidates, Option.any_some, hwritten]
  intro hagain
  obtain ⟨second, houtdated⟩ := Protocol.isOutdated_file_iff.mp hagain
  exact not_outdates_of_regenerate hupdates.outdated.accepts second houtdated

/-- A file is updated only if it is outdated, and then it is not any more; a file that is outdated
after an event was so before, or others have changed it. -/
theorem Step.account (hstep : Step service event next) (location : Location) :
    (service.updates location event).toNat + (next.isOutdated location).toNat
      ≤ (service.isOutdated location).toNat + (event.editsAt service.tree location).toNat := by
  cases hstep with
  | edit path file place hleads hfree =>
      have hquiet : service.updates location (.edit path file) = false := rfl
      by_cases hhere : place = location
      · have hcounted : Event.editsAt service.tree location (.edit path file) = true := by
          simp [Event.editsAt, hleads, hhere]
        have hbound := Bool.toNat_le (isOutdated
          { service with tree := service.tree.withFile place file } location)
        rw [hquiet, hcounted, Bool.toNat_false, Bool.toNat_true]
        omega
      · have helsewhere := (FileTree.edited_withFile hfree file).elsewhere location (Ne.symm hhere)
        simp [hquiet, isOutdated, helsewhere]
  | queue own worker hquiet hstep =>
      have hidle : service.updates location (.worker own) = false := by
        rw [Bool.eq_false_iff]
        intro hupdated
        obtain ⟨hended, -, validator, -, -, -, -, hvalidates, -⟩ := updates_eq_true_iff.mp hupdated
        cases hended
        rw [hquiet rfl] at hvalidates
        cases hvalidates
      simp [hidle, isOutdated]
  | validate path validator hhandling hvalidates =>
      cases hupdated : service.updates location (.worker (.finish .ok)) with
      | true =>
          obtain ⟨-, other, validator', access, text, result, hhandling', hvalidates', hupdates⟩ :=
            updates_eq_true_iff.mp hupdated
          cases hhandling.symm.trans hhandling'
          cases hvalidates.symm.trans hvalidates'
          have hnamed := FileTree.ne_nil_of_waymark?_eq_none hupdates.reads.waymark?_eq_none
          have houtdated := isOutdated_of_updates hvalidates hupdates
          have hrenewed : isOutdated { service with
              worker := { service.worker with phase := .waiting }
              tree := (validator.visit service.tree path).2
              stats := (validator.visit service.tree path).1.record service.stats } location
                = false := by
            refine not_isOutdated_of_updates hvalidates ?_ hupdates
            rw [hupdates.visit_eq]
            exact FileTree.get?_set_self _ _ _ hnamed
          rw [houtdated, hrenewed]
          exact Nat.le_add_right _ _
      | false =>
          -- the visit leaves the tree alone, or it updates a file somewhere else
          have hsame : (validator.visit service.tree path).2.get? location
              = service.tree.get? location := by
            rcases validator.visit_cases service.tree path with
              ⟨-, hkept⟩ | ⟨place, access, text, result, hupdates⟩
            · rw [hkept]
            · rw [hupdates.visit_eq]
              refine FileTree.get?_set_of_ne _ _ ?_
              rintro rfl
              have hcounted := updates_eq_true_iff.mpr
                ⟨rfl, path, validator, access, text, result, hhandling, hvalidates, hupdates⟩
              rw [hupdated] at hcounted
              cases hcounted
          simp [isOutdated, hsame]

/-- Others change the same files, wherever in a session they are looked up. -/
theorem editCount_congr {tree after : FileTree} (hways : tree.SameWays after) (location : Location)
    (events : List Event) : editCount after location events = editCount tree location events := by
  refine List.countP_congr fun event _ => ?_
  cases event with
  | edit path file => simp only [Event.editsAt, hways.resolve_eq_ok_iff path location]
  | worker own => rfl

theorem editCount_cons (tree : FileTree) (location : Location) (event : Event)
    (events : List Event) :
    editCount tree location (event :: events)
      = (event.editsAt tree location).toNat + editCount tree location events := by
  rw [editCount, List.countP_cons, editCount, Nat.add_comm]
  cases event.editsAt tree location <;> rfl

theorem updateCount_cons (hstep : Step service event next) (location : Location) :
    updateCount location service (event :: events)
      = (service.updates location event).toNat + updateCount location next events := by
  rw [updateCount, step?_eq_some_iff.mpr hstep]

theorem account_of_run (hrun : service.run events = some last) (location : Location) :
    updateCount location service events + (last.isOutdated location).toNat
      ≤ (service.isOutdated location).toNat + editCount service.tree location events := by
  induction events generalizing service with
  | nil =>
      cases hrun
      simp [updateCount, editCount]
  | cons event events ih =>
      obtain ⟨next, hstep, hrest⟩ := run_cons_eq_some_iff.mp hrun
      have hhere := hstep.account location
      have hthere := ih hrest
      rw [editCount_congr hstep.sameWays] at hthere
      rw [updateCount_cons hstep, editCount_cons]
      omega

/-! ## Between two updates -/

theorem editsAt_of_updates {location : Location} (hupdated : service.updates location event = true)
    (tree : FileTree) : event.editsAt tree location = false := by
  obtain ⟨rfl, -⟩ := updates_eq_true_iff.mp hupdated
  rfl

/-- The first update leaves the file up to date, and the second one needs it to be outdated. -/
theorem exists_edit_between {reached : Service} {location : Location} {first second : Event}
    {between : List Event} (hstep₁ : Step service first next)
    (hupdated₁ : service.updates location first = true) (hrun : next.run between = some reached)
    (hstep₂ : Step reached second last) (hupdated₂ : reached.updates location second = true) :
    ∃ path file, .edit path file ∈ between ∧ service.tree.resolve path = .ok location := by
  have haccount₁ := hstep₁.account location
  have haccount := account_of_run hrun location
  have haccount₂ := hstep₂.account location
  rw [hupdated₁, editsAt_of_updates hupdated₁] at haccount₁
  rw [hupdated₂, editsAt_of_updates hupdated₂] at haccount₂
  rw [editCount_congr hstep₁.sameWays] at haccount
  have honce := Bool.toNat_le (service.isOutdated location)
  simp only [Bool.toNat_true, Bool.toNat_false] at haccount₁ haccount₂
  have hedited : 0 < editCount service.tree location between := by omega
  obtain ⟨event, hmem, hcounted⟩ := List.countP_pos_iff.mp hedited
  cases event with
  | edit path file => exact ⟨path, file, hmem, of_decide_eq_true hcounted⟩
  | worker own => cases hcounted

/-- After some events of a session, the next one updates the file at a location. -/
def UpdatesAfter (service : Service) (location : Location) (before : List Event) (event : Event) :
    Prop :=
  ∃ reached, service.run before = some reached ∧ reached.updates location event = true

/-- **The service does not feed itself.** In every session, from any state of the service, and for
every file:

* the file is updated at most once more than others change it;
* between two updates of the file, others change it. -/
theorem updates_bounded_by_edits (service : Service) (events : List Event) (last : Service)
    (hrun : service.run events = some last) (location : Location) :
    updateCount location service events ≤ 1 + editCount service.tree location events
      ∧ ∀ before first between second after,
          events = before ++ first :: (between ++ second :: after) →
          service.UpdatesAfter location before first →
          service.UpdatesAfter location (before ++ first :: between) second →
          ∃ path file, .edit path file ∈ between ∧ service.tree.resolve path = .ok location := by
  constructor
  · have haccount := account_of_run hrun location
    have honce := Bool.toNat_le (service.isOutdated location)
    omega
  · rintro before first between second after rfl ⟨reached₁, hfirst, hupdated₁⟩
      ⟨reached₂, hsecond, hupdated₂⟩
    -- the session passes through the states in which the two updates are made
    obtain ⟨middle, hbefore, hrest⟩ := run_append_eq_some_iff.mp hrun
    obtain ⟨next, hstep₁, hrest⟩ := run_cons_eq_some_iff.mp hrest
    obtain ⟨reached, hbetween, hrest⟩ := run_append_eq_some_iff.mp hrest
    obtain ⟨_, hstep₂, -⟩ := run_cons_eq_some_iff.mp hrest
    obtain rfl : middle = reached₁ := Option.some.inj (hbefore.symm.trans hfirst)
    have hreached : service.run (before ++ first :: between) = some reached :=
      run_append_eq_some_iff.mpr
        ⟨middle, hbefore, run_cons_eq_some_iff.mpr ⟨next, hstep₁, hbetween⟩⟩
    obtain rfl : reached = reached₂ := Option.some.inj (hreached.symm.trans hsecond)
    obtain ⟨path, file, hmem, hleads⟩ :=
      exists_edit_between hstep₁ hupdated₁ hbetween hstep₂ hupdated₂
    exact ⟨path, file, hmem, ((sameWays_of_run hbefore).resolve_eq_ok_iff path location).mp hleads⟩

/-- A path is asked for and taken. -/
def sampleRequest : List Event :=
  [.worker (.enqueue ⟨"a.cs"⟩), .worker .wait, .worker (.pop (some ⟨"a.cs"⟩))]

/-- The update of the file has caused a request for it; before the worker goes on, somebody undoes
the update. -/
def sampleEcho : List Event :=
  [.worker (.enqueue ⟨"a.cs"⟩), .edit ⟨"a.cs"⟩ (some (Text.encode sampleText, {})), .worker .wait,
    .worker (.pop (some ⟨"a.cs"⟩))]

/-- The file is updated before the echo and after it. -/
def sampleSession : List Event :=
  sampleRequest ++ .worker (.finish .ok) :: (sampleEcho ++ [.worker (.finish .ok)])

theorem updates_bounded_in_sampleSession :
    ∃ last, (watching 1 sampleProtocol sampleTree).run sampleSession = some last
      ∧ updateCount [.text "a.cs"] (watching 1 sampleProtocol sampleTree) sampleSession
          ≤ 1 + editCount sampleTree [.text "a.cs"] sampleSession
      ∧ ∃ path file, .edit path file ∈ sampleEcho
          ∧ sampleTree.resolve path = .ok [.text "a.cs"] := by
  have hran : ((watching 1 sampleProtocol sampleTree).run sampleSession).isSome = true := by
    decide +kernel
  obtain ⟨last, hrun⟩ := Option.isSome_iff_exists.mp hran
  obtain ⟨hbounded, hbetween⟩ := updates_bounded_by_edits _ _ last hrun [.text "a.cs"]
  refine ⟨last, hrun, hbounded, hbetween sampleRequest _ sampleEcho _ [] rfl ?_ ?_⟩
  · exact (Option.any_eq_true _ _).mp (by decide +kernel)
  · exact (Option.any_eq_true _ _).mp (by decide +kernel)

end Service

end RegionSync
