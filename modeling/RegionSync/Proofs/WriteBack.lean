import RegionSync.Validator
import RegionSync.Proofs.FileTree.Edit
import RegionSync.Proofs.Renewal

set_option autoImplicit false

/-! # What a validation does to the files

A validation reads one file and writes it back if regenerating changes its text. `Examined` says
once, guard by guard, what can be found and what the tree is like afterwards; it is the graph of
`Validator.examine` (`examine_eq_iff`). From it follows the contract of a validation
(`visit_writes_back`): only the file that the path leads to can change, it changes exactly if the
validation says so, and then it holds the regenerated text.
-/

namespace RegionSync

/-! ## Texts as bytes -/

namespace Text

theorem decode?_eq_some_iff {bytes : ByteArray} {text : String} :
    decode? bytes = some text ↔ bytes = encode text := by
  unfold decode? encode String.fromUTF8?
  constructor
  · intro h
    split at h
    case isTrue => cases h; rfl
    case isFalse => cases h
  · rintro rfl
    exact dif_pos text.isValidUTF8

theorem encode_inj {first second : String} : encode first = encode second ↔ first = second :=
  String.toByteArray_inj

end Text

/-! ## Reading and writing one file -/

namespace FileTree

variable {tree : FileTree} {path : Path} {location : Location} {access : Access} {text : String}

theorem read_eq_ok_iff {content : ByteArray} :
    tree.read path = .ok content ↔
      ∃ location access, tree.resolve path = .ok location ∧
        tree.get? location = some (.file content access) ∧ access.read = true := by
  unfold read
  constructor
  · intro h
    split at h
    case h_1 => cases h
    case h_2 location hleads =>
        split at h
        case h_1 found access hholds =>
            split at h
            case isTrue hreadable =>
                cases h
                exact ⟨location, access, hleads, hholds, hreadable⟩
            case isFalse => cases h
        case h_2 => cases h
        case h_3 => cases h
        case h_4 => cases h
  · rintro ⟨location, access, hleads, hholds, hreadable⟩
    simp only [hleads, hholds, hreadable, if_true]

/-- A path leads to a file that can be read and that holds a text. -/
structure Reads (tree : FileTree) (path : Path) (location : Location) (access : Access)
    (text : String) : Prop where
  leads : tree.resolve path = .ok location
  holds : tree.get? location = some (.file (Text.encode text) access)
  readable : access.read = true

theorem readText_eq_ok_iff :
    tree.readText path = .ok text ↔ ∃ location access, tree.Reads path location access text := by
  unfold readText
  constructor
  · intro h
    split at h
    case h_1 => cases h
    case h_2 bytes hread =>
        split at h
        case h_1 found hdecoded =>
            cases h
            obtain ⟨location, access, hleads, hholds, hreadable⟩ := read_eq_ok_iff.mp hread
            rw [Text.decode?_eq_some_iff.mp hdecoded] at hholds
            exact ⟨location, access, hleads, hholds, hreadable⟩
        case h_2 => cases h
  · rintro ⟨location, access, hleads, hholds, hreadable⟩
    rw [read_eq_ok_iff.mpr ⟨location, access, hleads, hholds, hreadable⟩]
    simp only [Text.decode?_eq_some_iff.mpr rfl]

/-- A file that was read can be written if its access allows it, and keeps its access. -/
theorem Reads.write_eq (hreads : tree.Reads path location access text) (content : ByteArray) :
    tree.write path content =
      if access.write then .ok (tree.set location (.file content access)) else .error .denied := by
  simp only [write, hreads.leads, store, hreads.holds]

theorem Reads.waymark?_eq_none (hreads : tree.Reads path location access text) :
    tree.waymark? location = none :=
  waymark?_eq_none_iff.mpr (.inr ⟨_, _, hreads.holds⟩)

theorem Reads.edited (hreads : tree.Reads path location access text) (content : ByteArray) :
    tree.Edited location (tree.set location (.file content access)) :=
  edited_withFile hreads.waymark?_eq_none (some (content, access))

/-- If a path leads to a file that can be read, that file can be written. -/
def WritableIfReadable (tree : FileTree) (path : Path) : Prop :=
  ∀ location content access, tree.resolve path = .ok location →
    tree.get? location = some (.file content access) → access.read = true → access.write = true

end FileTree

/-! ## Texts that regenerating changes -/

/-- Regenerating accepts a text and changes it. -/
structure Protocol.Outdates (protocol : Protocol) (text : String) (result : Regenerated) : Prop where
  accepts : regenerate protocol text = .ok (.annotated result)
  differs : result.text ≠ text

/-- The flag of a pass says whether the text is outdated. -/
theorem changed_iff_of_regenerate {protocol : Protocol} {text : String} {result : Regenerated}
    (h : regenerate protocol text = .ok (.annotated result)) :
    result.changed = true ↔ result.text ≠ text := by
  obtain ⟨layout, hlayout, hlines, rfl⟩ := regenerate_eq_annotated_iff.mp h
  exact layout.changed_result_iff hlayout hlines

/-- What regenerating gives is not outdated. -/
theorem not_outdates_of_regenerate {protocol : Protocol} {text : String} {first : Regenerated}
    (h : regenerate protocol text = .ok (.annotated first)) (second : Regenerated) :
    ¬ protocol.Outdates first.text second := by
  rintro ⟨haccepts, hdiffers⟩
  rw [regenerate_again h] at haccepts
  cases haccepts
  exact hdiffers rfl

/-! ## What is found and done -/

namespace Validator

variable {validator : Validator} {tree after : FileTree} {path : Path} {verdict : Verdict}

/-- A validation has all it takes to bring the file at a location up to date. -/
structure Updates (validator : Validator) (tree : FileTree) (path : Path) (location : Location)
    (access : Access) (text : String) (result : Regenerated) : Prop where
  wanted : validator.protocol.matchesExtension path = true
  reads : tree.Reads path location access text
  outdated : validator.protocol.Outdates text result
  wet : validator.dryRun = false
  writable : access.write = true

/-- What a validation finds, and the tree afterwards. -/
inductive Examined (validator : Validator) (tree : FileTree) (path : Path) :
    Verdict → FileTree → Prop where
  | otherExtension (hother : validator.protocol.matchesExtension path = false) :
      Examined validator tree path .otherExtension tree
  | unreadable (error : IoError) (hwanted : validator.protocol.matchesExtension path = true)
      (hfails : tree.readText path = .error error) :
      Examined validator tree path (.unreadable error) tree
  | faulty (text : String) (fault : Fault)
      (hwanted : validator.protocol.matchesExtension path = true)
      (hreads : tree.readText path = .ok text)
      (hrefuses : regenerate validator.protocol text = .error fault) :
      Examined validator tree path (.faulty fault) tree
  | notAnnotated (text : String) (hwanted : validator.protocol.matchesExtension path = true)
      (hreads : tree.readText path = .ok text)
      (hpasses : regenerate validator.protocol text = .ok .notAnnotated) :
      Examined validator tree path .notAnnotated tree
  | upToDate (text : String) (result : Regenerated)
      (hwanted : validator.protocol.matchesExtension path = true)
      (hreads : tree.readText path = .ok text)
      (haccepts : regenerate validator.protocol text = .ok (.annotated result))
      (hsame : result.text = text) :
      Examined validator tree path (.upToDate result) tree
  | stale (text : String) (result : Regenerated)
      (hwanted : validator.protocol.matchesExtension path = true)
      (hreads : tree.readText path = .ok text)
      (houtdated : validator.protocol.Outdates text result) (hdry : validator.dryRun = true) :
      Examined validator tree path (.stale result) tree
  | updated (text : String) (result : Regenerated) (location : Location) (access : Access)
      (hupdates : validator.Updates tree path location access text result) :
      Examined validator tree path (.updated result)
        (tree.set location (.file (Text.encode result.text) access))
  | unwritable (text : String) (result : Regenerated) (location : Location) (access : Access)
      (hwanted : validator.protocol.matchesExtension path = true)
      (hreads : tree.Reads path location access text)
      (houtdated : validator.protocol.Outdates text result) (hwet : validator.dryRun = false)
      (hclosed : access.write = false) :
      Examined validator tree path (.unwritable result .denied) tree

theorem examined_examine (validator : Validator) (tree : FileTree) (path : Path) :
    validator.Examined tree path (validator.examine tree path).1 (validator.examine tree path).2 := by
  unfold examine
  split
  case isTrue hother => exact .otherExtension (by simpa using hother)
  case isFalse hmatched =>
      have hwanted : validator.protocol.matchesExtension path = true := by simpa using hmatched
      split
      case h_1 error hfails => exact .unreadable error hwanted hfails
      case h_2 text hreads =>
          split
          case h_1 fault hrefuses => exact .faulty text fault hwanted hreads hrefuses
          case h_2 hpasses => exact .notAnnotated text hwanted hreads hpasses
          case h_3 result haccepts =>
              have hchanged := changed_iff_of_regenerate haccepts
              split
              case isTrue hunchanged =>
                  refine .upToDate text result hwanted hreads haccepts ?_
                  by_contra hdiffers
                  simp [hchanged.mpr hdiffers] at hunchanged
              case isFalse hflagged =>
                  have houtdated : validator.protocol.Outdates text result :=
                    ⟨haccepts, hchanged.mp (by simpa using hflagged)⟩
                  split
                  case isTrue hdry => exact .stale text result hwanted hreads houtdated hdry
                  case isFalse hrunning =>
                      have hwet : validator.dryRun = false := Bool.eq_false_iff.mpr hrunning
                      obtain ⟨location, access, hfile⟩ := FileTree.readText_eq_ok_iff.mp hreads
                      rw [hfile.write_eq]
                      cases hwritable : access.write with
                      | true =>
                          exact .updated text result location access
                            ⟨hwanted, hfile, houtdated, hwet, hwritable⟩
                      | false =>
                          exact .unwritable text result location access hwanted hfile houtdated
                            hwet hwritable

/-- `Examined` is the graph of `examine`. -/
theorem examine_eq_iff :
    validator.examine tree path = (verdict, after) ↔ validator.Examined tree path verdict after := by
  constructor
  · intro h
    have hexamined := validator.examined_examine tree path
    rwa [h] at hexamined
  · intro hexamined
    have hflag {text : String} {result : Regenerated}
        (houtdated : validator.protocol.Outdates text result) : result.changed = true :=
      (changed_iff_of_regenerate houtdated.accepts).mpr houtdated.differs
    have htext_of {location : Location} {access : Access} {text : String}
        (hreads : tree.Reads path location access text) : tree.readText path = .ok text :=
      FileTree.readText_eq_ok_iff.mpr ⟨location, access, hreads⟩
    cases hexamined with
    | otherExtension hother => simp [examine, hother]
    | unreadable error hwanted hfails => simp [examine, hwanted, hfails]
    | faulty text fault hwanted hreads hrefuses => simp [examine, hwanted, hreads, hrefuses]
    | notAnnotated text hwanted hreads hpasses => simp [examine, hwanted, hreads, hpasses]
    | upToDate text result hwanted hreads haccepts hsame =>
        have hunchanged : result.changed = false := by
          rw [Bool.eq_false_iff]
          exact fun hchanged => (changed_iff_of_regenerate haccepts).mp hchanged hsame
        simp [examine, hwanted, hreads, haccepts, hunchanged]
    | stale text result hwanted hreads houtdated hdry =>
        simp [examine, hwanted, hreads, houtdated.accepts, hflag houtdated, hdry]
    | updated text result location access hupdates =>
        obtain ⟨hwanted, hreads, houtdated, hwet, hwritable⟩ := hupdates
        simp [examine, hwanted, htext_of hreads, houtdated.accepts, hflag houtdated, hwet,
          hreads.write_eq, hwritable]
    | unwritable text result location access hwanted hreads houtdated hwet hclosed =>
        simp [examine, hwanted, htext_of hreads, houtdated.accepts, hflag houtdated, hwet,
          hreads.write_eq, hclosed]

/-! ## The contract -/

/-- A visit gives the verdict on its path. -/
theorem visit_eq_iff {visit : Visit} :
    validator.visit tree path = (visit, after) ↔
      visit.path = path ∧ validator.Examined tree path visit.verdict after := by
  rw [← examine_eq_iff]
  obtain ⟨visited, verdict⟩ := visit
  constructor
  · intro h
    cases h
    exact ⟨rfl, rfl⟩
  · rintro ⟨rfl, h⟩
    simp only [Validator.visit, h]

/-- A visit that updates the file says so, and the tree holds the new text. -/
theorem Updates.visit_eq {location : Location} {access : Access} {text : String}
    {result : Regenerated} (hupdates : validator.Updates tree path location access text result) :
    validator.visit tree path =
      (⟨path, .updated result⟩, tree.set location (.file (Text.encode result.text) access)) :=
  visit_eq_iff.mpr ⟨rfl, .updated text result location access hupdates⟩

/-- A visit that says that it updated the file had all it takes. -/
theorem exists_updates_of_visit {visit : Visit} (h : validator.visit tree path = (visit, after))
    (hupdated : visit.result = .ok .updated) :
    ∃ location access text result, validator.Updates tree path location access text result := by
  obtain ⟨rfl, hexamined⟩ := visit_eq_iff.mp h
  unfold Visit.result at hupdated
  generalize visit.verdict = verdict at hexamined hupdated
  cases hexamined with
  | updated text result location access hupdates => exact ⟨location, access, text, result, hupdates⟩
  | _ => cases hupdated

/-- Every other visit leaves the tree as it is. -/
theorem tree_eq_of_visit {visit : Visit} (h : validator.visit tree path = (visit, after))
    (hother : visit.result ≠ .ok .updated) : after = tree := by
  obtain ⟨rfl, hexamined⟩ := visit_eq_iff.mp h
  unfold Visit.result at hother
  generalize visit.verdict = verdict at hexamined hother
  cases hexamined with
  | updated text result location access hupdates => exact absurd rfl hother
  | _ => rfl

theorem visit_cases (validator : Validator) (tree : FileTree) (path : Path) :
    ((validator.visit tree path).1.result ≠ .ok .updated ∧ (validator.visit tree path).2 = tree)
      ∨ ∃ location access text result,
          validator.Updates tree path location access text result := by
  by_cases hupdated : (validator.visit tree path).1.result = .ok .updated
  · exact .inr (exists_updates_of_visit rfl hupdated)
  · exact .inl ⟨hupdated, tree_eq_of_visit rfl hupdated⟩

/-- A validation moves no place that a path leads to. -/
theorem sameWays_visit (validator : Validator) (tree : FileTree) (path : Path) :
    tree.SameWays (validator.visit tree path).2 := by
  rcases validator.visit_cases tree path with
    ⟨-, hsame⟩ | ⟨location, access, text, result, hupdates⟩
  · rw [hsame]
    exact .refl tree
  · rw [hupdates.visit_eq]
    exact (hupdates.reads.edited _).sameWays

/-- The path has the extension of annotated files and leads to a readable text, which regenerating
accepts and changes. -/
def NeedsUpdate (validator : Validator) (tree : FileTree) (path : Path) : Prop :=
  validator.protocol.matchesExtension path = true ∧
    ∃ text result, tree.readText path = .ok text ∧
      regenerate validator.protocol text = .ok (.annotated result) ∧ result.text ≠ text

theorem result_eq_stale_iff {visit : Visit} (h : validator.visit tree path = (visit, after)) :
    visit.result = .ok .stale ↔ validator.dryRun = true ∧ validator.NeedsUpdate tree path := by
  constructor
  · intro hstale
    obtain ⟨rfl, hexamined⟩ := visit_eq_iff.mp h
    unfold Visit.result at hstale
    generalize visit.verdict = verdict at hexamined hstale
    cases hexamined with
    | stale text result hwanted hreads houtdated hdry =>
        exact ⟨hdry, hwanted, text, result, hreads, houtdated.accepts, houtdated.differs⟩
    | _ => cases hstale
  · rintro ⟨hdry, hwanted, text, result, hreads, haccepts, hdiffers⟩
    have hvisited : validator.visit tree path = (⟨path, .stale result⟩, tree) :=
      visit_eq_iff.mpr ⟨rfl, .stale text result hwanted hreads ⟨haccepts, hdiffers⟩ hdry⟩
    rw [hvisited] at h
    cases h
    rfl

theorem result_eq_updated_iff {visit : Visit} (h : validator.visit tree path = (visit, after))
    (hwritable : tree.WritableIfReadable path) :
    visit.result = .ok .updated ↔ validator.dryRun = false ∧ validator.NeedsUpdate tree path := by
  constructor
  · intro hupdated
    obtain ⟨location, access, text, result, hupdates⟩ := exists_updates_of_visit h hupdated
    exact ⟨hupdates.wet, hupdates.wanted, text, result,
      FileTree.readText_eq_ok_iff.mpr ⟨location, access, hupdates.reads⟩,
      hupdates.outdated.accepts, hupdates.outdated.differs⟩
  · rintro ⟨hwet, hwanted, text, result, hread, haccepts, hdiffers⟩
    obtain ⟨location, access, hreads⟩ := FileTree.readText_eq_ok_iff.mp hread
    have hupdates : validator.Updates tree path location access text result :=
      ⟨hwanted, hreads, ⟨haccepts, hdiffers⟩, hwet,
        hwritable location _ access hreads.leads hreads.holds hreads.readable⟩
    rw [hupdates.visit_eq] at h
    cases h
    rfl

/-- The bytes of the file that is updated are other bytes afterwards. -/
theorem Updates.content?_ne {location : Location} {access : Access} {text : String}
    {result : Regenerated} (hupdates : validator.Updates tree path location access text result) :
    (tree.set location (.file (Text.encode result.text) access)).content? location
      ≠ tree.content? location := by
  have hnamed := FileTree.ne_nil_of_waymark?_eq_none hupdates.reads.waymark?_eq_none
  simp only [FileTree.content?, FileTree.get?_set_self tree location _ hnamed, hupdates.reads.holds]
  intro hsame
  exact hupdates.outdated.differs (Text.encode_inj.mp (Option.some.inj hsame))

/-- **Write-back.** For every tree, every path and every validator:

* only the entry that the path leads to can be another one afterwards;
* the bytes of that file change exactly if the outcome is that it was updated;
* then it holds what regenerating its text gives, with the access that it had;
* if files that can be read can be written, the file is updated exactly if it needs an update and
  the run is not dry;
* it is found stale exactly if it needs an update and the run is dry;
* with every other outcome and with every failure, the tree is as before. -/
theorem visit_writes_back {visit : Visit} (h : validator.visit tree path = (visit, after)) :
    (∀ location, after.get? location ≠ tree.get? location → tree.resolve path = .ok location)
      ∧ after.workingDir = tree.workingDir
      ∧ (∀ location, tree.resolve path = .ok location →
          (after.content? location ≠ tree.content? location ↔ visit.result = .ok .updated))
      ∧ (visit.result = .ok .updated → ∃ location access text result,
          tree.resolve path = .ok location
            ∧ tree.get? location = some (.file (Text.encode text) access)
            ∧ regenerate validator.protocol text = .ok (.annotated result)
            ∧ after.get? location = some (.file (Text.encode result.text) access))
      ∧ (tree.WritableIfReadable path → (visit.result = .ok .updated
          ↔ validator.dryRun = false ∧ validator.NeedsUpdate tree path))
      ∧ (visit.result = .ok .stale
          ↔ validator.dryRun = true ∧ validator.NeedsUpdate tree path)
      ∧ (visit.result ≠ .ok .updated → after = tree) := by
  by_cases hupdated : visit.result = .ok .updated
  · obtain ⟨location, access, text, result, hupdates⟩ := exists_updates_of_visit h hupdated
    obtain rfl : after = tree.set location (.file (Text.encode result.text) access) := by
      rw [hupdates.visit_eq] at h
      exact (Prod.mk.inj h).2.symm
    have hreads := hupdates.reads
    have hedited := hreads.edited (Text.encode result.text)
    have hnamed := FileTree.ne_nil_of_waymark?_eq_none hreads.waymark?_eq_none
    refine ⟨?_, rfl, ?_, fun _ => ?_, result_eq_updated_iff h, result_eq_stale_iff h,
      fun hother => absurd hupdated hother⟩
    · intro other hdiffers
      by_contra helsewhere
      refine hdiffers (hedited.elsewhere other ?_)
      rintro rfl
      exact helsewhere hreads.leads
    · intro other hleads
      obtain rfl : location = other := Except.ok.inj (hreads.leads.symm.trans hleads)
      exact ⟨fun _ => hupdated, fun _ => hupdates.content?_ne⟩
    · exact ⟨location, access, text, result, hreads.leads, hreads.holds, hupdates.outdated.accepts,
        FileTree.get?_set_self tree location _ hnamed⟩
  · obtain rfl := tree_eq_of_visit h hupdated
    exact ⟨fun _ hdiffers => absurd rfl hdiffers, rfl,
      fun _ _ => ⟨fun hdiffers => absurd rfl hdiffers, fun houtcome => absurd houtcome hupdated⟩,
      fun houtcome => absurd houtcome hupdated, result_eq_updated_iff h, result_eq_stale_iff h,
      fun _ => rfl⟩

end Validator

/-- A tree with one file, which is not up to date. -/
def sampleTree : FileTree where
  entries := [([.text "a.cs"], .file (Text.encode sampleText) {})]
  workingDir := []

theorem reads_sampleTree : sampleTree.Reads ⟨"a.cs"⟩ [.text "a.cs"] {} sampleText :=
  ⟨by decide +kernel, rfl, rfl⟩

theorem updates_sampleTree :
    Validator.Updates { protocol := sampleProtocol } sampleTree ⟨"a.cs"⟩ [.text "a.cs"] {}
      sampleText sampleResult where
  wanted := by decide +kernel
  reads := reads_sampleTree
  outdated := ⟨regenerate_sampleText, by decide +kernel⟩
  wet := rfl
  writable := rfl

/-- The sample tree once its file is up to date. -/
def updatedTree : FileTree :=
  sampleTree.set [.text "a.cs"] (.file (Text.encode sampleResult.text) {})

theorem visit_writes_back_sampleTree :
    Validator.visit { protocol := sampleProtocol } sampleTree ⟨"a.cs"⟩
        = (⟨⟨"a.cs"⟩, .updated sampleResult⟩, updatedTree)
      ∧ (∀ location, updatedTree.get? location ≠ sampleTree.get? location →
          sampleTree.resolve ⟨"a.cs"⟩ = .ok location)
      ∧ updatedTree.content? [.text "a.cs"] ≠ sampleTree.content? [.text "a.cs"]
      ∧ Validator.NeedsUpdate { protocol := sampleProtocol } sampleTree ⟨"a.cs"⟩ := by
  have hvisited := updates_sampleTree.visit_eq
  have hwritable : sampleTree.WritableIfReadable ⟨"a.cs"⟩ := by
    intro location content access hleads hholds _
    cases reads_sampleTree.leads.symm.trans hleads
    cases reads_sampleTree.holds.symm.trans hholds
    rfl
  obtain ⟨helsewhere, -, hbytes, -, houtcome, -, -⟩ := Validator.visit_writes_back hvisited
  exact ⟨hvisited, helsewhere, (hbytes _ reads_sampleTree.leads).mpr rfl,
    ((houtcome hwritable).mp rfl).2⟩

end RegionSync
