import RegionSync.FileTree.Resolve
import Mathlib.Tactic

set_option autoImplicit false

/-! # Changes of one file

Following a path reads the directories and links on the way and nothing else. A change that gives
one file another content or another access, makes it or takes it away (`FileTree.Edited`)
therefore leaves every path where it leads: a path leads to a location afterwards exactly if it
did before (`SameWays.resolve_eq_ok_iff`). Only the reason why a path leads nowhere may be
another.
-/

namespace RegionSync

/-! ## Ways through a tree -/

/-- The part of an entry that the way to another place depends on: a directory with its access, or a
link with its target. -/
def Entry.waymark? : Entry → Option Entry
  | file _ _ => none
  | directory access => some (directory access)
  | link target => some (link target)

namespace FileTree

variable {tree after : FileTree} {location : Location}

/-- The directory or the link at a location. -/
def waymark? (tree : FileTree) (location : Location) : Option Entry :=
  (tree.get? location).bind Entry.waymark?

theorem waymark?_eq_none_iff :
    tree.waymark? location = none ↔
      tree.get? location = none ∨
        ∃ content access, tree.get? location = some (.file content access) := by
  unfold waymark?
  cases tree.get? location with
  | none => simp
  | some entry => cases entry <;> simp [Entry.waymark?]

theorem waymark?_eq_some_iff {mark : Entry} :
    tree.waymark? location = some mark ↔
      tree.get? location = some mark ∧ mark.waymark? = some mark := by
  unfold waymark?
  cases tree.get? location with
  | none => simp
  | some entry =>
      cases entry <;> cases mark <;> simp [Entry.waymark?]

/-- Nothing but a directory stands at the root. -/
theorem ne_nil_of_waymark?_eq_none (hfree : tree.waymark? location = none) : location ≠ [] := by
  rintro rfl
  simp [waymark?, Entry.waymark?] at hfree

/-- Two trees have the same ways when their directories and links are the same. -/
structure SameWays (tree after : FileTree) : Prop where
  workingDir : after.workingDir = tree.workingDir
  waymark? : ∀ location, after.waymark? location = tree.waymark? location

theorem SameWays.refl (tree : FileTree) : tree.SameWays tree := ⟨rfl, fun _ => rfl⟩

theorem SameWays.symm (hways : tree.SameWays after) : after.SameWays tree :=
  ⟨hways.workingDir.symm, fun location => (hways.waymark? location).symm⟩

theorem SameWays.trans {last : FileTree} (hfirst : tree.SameWays after)
    (hsecond : after.SameWays last) : tree.SameWays last :=
  ⟨hsecond.workingDir.trans hfirst.workingDir,
    fun location => (hsecond.waymark? location).trans (hfirst.waymark? location)⟩

theorem SameWays.get?_eq_some (hways : tree.SameWays after) {mark : Entry}
    (hfound : tree.get? location = some mark) (hmarked : mark.waymark? = some mark) :
    after.get? location = some mark := by
  have hsame := (hways.waymark? location).trans (waymark?_eq_some_iff.mpr ⟨hfound, hmarked⟩)
  exact (waymark?_eq_some_iff.mp hsame).1

/-! ## Following a path -/

section Follow

variable {followLast : Bool} {here : Location} {access : Access} {name : EntryName}

/-- Where neither a directory nor a link stands, a path can end but not go on. -/
theorem walk_enter_of_waymark?_eq_none (followLast : Bool)
    (hdir : tree.get? here = some (.directory access))
    (hsearch : access.search = true) (hshort : ¬ maxName < name.size)
    (hfree : tree.waymark? (here ++ [name]) = none) :
    tree.walk followLast here [.enter name] = .arrived (here ++ [name]) ∧
      ∀ step rest, ∃ error,
        tree.walk followLast here (.enter name :: step :: rest) = .failed error := by
  rcases waymark?_eq_none_iff.mp hfree with hmissing | ⟨content, access', hfile⟩
  · exact ⟨by simp [walk, hdir, hsearch, hshort, hmissing],
      fun step rest => ⟨.notFound, by simp [walk, hdir, hsearch, hshort, hmissing]⟩⟩
  · exact ⟨by simp [walk, hdir, hsearch, hshort, hfile],
      fun step rest => ⟨.notADirectory, by simp [walk, hdir, hsearch, hshort, hfile]⟩⟩

/-- Only a directory can be left, and it must be open to searching unless nothing but a slash
follows. -/
theorem exists_directory_of_walk_cons {step : PathStep} {rest : List PathStep}
    (hsucceeds : ∀ error, tree.walk followLast here (step :: rest) ≠ .failed error) :
    ∃ access, tree.get? here = some (.directory access) ∧
      ¬ (step ≠ .slash ∧ (!access.search) = true) := by
  unfold walk at hsucceeds
  split at hsucceeds
  case h_1 => exact absurd rfl (hsucceeds .notFound)
  case h_2 access hdir =>
      refine ⟨access, hdir, fun hclosed => ?_⟩
      rw [if_pos hclosed] at hsucceeds
      exact hsucceeds .denied rfl
  case h_3 => exact absurd rfl (hsucceeds .notADirectory)

/-- Steps that end, or come to a link, do the same in both trees. The induction is along the steps: a
place can be left only if it is a directory, and it is one in both trees. -/
theorem SameWays.walk_eq (hways : tree.SameWays after) {steps : List PathStep}
    (hsucceeds : ∀ error, tree.walk followLast here steps ≠ .failed error) :
    after.walk followLast here steps = tree.walk followLast here steps := by
  induction steps generalizing here with
  | nil => rfl
  | cons step rest ih =>
      obtain ⟨access, hdir, hopened⟩ := exists_directory_of_walk_cons hsucceeds
      have hdir' := hways.get?_eq_some hdir rfl
      cases step with
      | stay =>
          simp only [walk, hdir, hdir', if_neg hopened] at hsucceeds ⊢
          exact ih hsucceeds
      | slash =>
          simp only [walk, hdir, hdir', if_neg hopened] at hsucceeds ⊢
          exact ih hsucceeds
      | up =>
          simp only [walk, hdir, hdir', if_neg hopened] at hsucceeds ⊢
          exact ih hsucceeds
      | enter name =>
          have hsearch : access.search = true := by simpa using hopened
          have hshort : ¬ maxName < name.size := by
            intro hlong
            exact hsucceeds .nameTooLong (by simp [walk, hdir, hsearch, hlong])
          cases hmark : tree.waymark? (here ++ [name]) with
          | none =>
              -- here the path ends, whether or not there is a file
              have hmark' := (hways.waymark? _).trans hmark
              obtain ⟨hends, hstuck⟩ :=
                walk_enter_of_waymark?_eq_none followLast hdir hsearch hshort hmark
              obtain ⟨hends', -⟩ :=
                walk_enter_of_waymark?_eq_none followLast hdir' hsearch hshort hmark'
              cases rest with
              | nil => rw [hends, hends']
              | cons next more =>
                  obtain ⟨error, hfailed⟩ := hstuck next more
                  exact absurd hfailed (hsucceeds error)
          | some entry =>
              obtain ⟨hfound, hmarked⟩ := waymark?_eq_some_iff.mp hmark
              have hfound' := hways.get?_eq_some hfound hmarked
              simp only [walk, hdir, hdir', hsearch, hshort, hfound, hfound'] at hsucceeds ⊢
              cases entry with
              | file content access => cases hmarked
              | link target => rfl
              | directory access => exact ih hsucceeds

theorem walk_ne_failed_of_follow {links : Nat} {steps : List PathStep}
    (hleads : tree.follow followLast links here steps = .ok location) (error : IoError) :
    tree.walk followLast here steps ≠ .failed error := by
  intro hfailed
  unfold follow at hleads
  rw [hfailed] at hleads
  cases hleads

theorem SameWays.follow_eq_ok (hways : tree.SameWays after) {links : Nat} {steps : List PathStep}
    (hleads : tree.follow followLast links here steps = .ok location) :
    after.follow followLast links here steps = .ok location := by
  induction links generalizing here steps with
  | zero =>
      have hsame := hways.walk_eq (walk_ne_failed_of_follow hleads)
      unfold follow at hleads ⊢
      rw [hsame]
      exact hleads
  | succ links ih =>
      have hsame := hways.walk_eq (walk_ne_failed_of_follow hleads)
      unfold follow at hleads ⊢
      rw [hsame]
      cases hstretch : tree.walk followLast here steps with
      | arrived place => rwa [hstretch] at hleads
      | failed error => rwa [hstretch] at hleads
      | link dir target rest =>
          simp only [hstretch] at hleads ⊢
          exact ih hleads

end Follow

theorem SameWays.locate_eq_ok (hways : tree.SameWays after) {path : Path} {followLast : Bool}
    (hleads : tree.locate path followLast = .ok location) :
    after.locate path followLast = .ok location := by
  unfold locate at hleads ⊢
  split at hleads
  case isTrue => cases hleads
  case isFalse hnamed =>
      split at hleads
      case isTrue => cases hleads
      case isFalse hspelled =>
          split at hleads
          case isTrue => cases hleads
          case isFalse hshort =>
              rw [if_neg hnamed, if_neg hspelled, if_neg hshort, hways.workingDir]
              exact hways.follow_eq_ok hleads

/-- **A path leads to the same location in both trees,** if it leads anywhere. -/
theorem SameWays.resolve_eq_ok_iff (hways : tree.SameWays after) (path : Path)
    (location : Location) :
    after.resolve path = .ok location ↔ tree.resolve path = .ok location :=
  ⟨hways.symm.locate_eq_ok, hways.locate_eq_ok⟩

/-! ## Changing one file -/

/-- A change of one file: afterwards there is another file at the location, or none. Everything else
is as before. -/
structure Edited (tree : FileTree) (location : Location) (after : FileTree) : Prop where
  workingDir : after.workingDir = tree.workingDir
  elsewhere : ∀ other, other ≠ location → after.get? other = tree.get? other
  /-- Neither a directory nor a link was there. -/
  free_before : tree.waymark? location = none
  /-- Neither a directory nor a link is there. -/
  free_after : after.waymark? location = none

theorem Edited.sameWays (hedited : tree.Edited location after) : tree.SameWays after := by
  refine ⟨hedited.workingDir, fun other => ?_⟩
  by_cases hsame : other = location
  · rw [hsame, hedited.free_before, hedited.free_after]
  · simp only [FileTree.waymark?, hedited.elsewhere other hsame]

/-- The tree with another file at a location, or with none there. -/
def withFile (tree : FileTree) (location : Location) : Option (ByteArray × Access) → FileTree
  | some (content, access) => tree.set location (.file content access)
  | none => { tree with entries := tree.entries.filter fun item => item.1 ≠ location }

/-- Taking away all entries for one location changes what is found there and nowhere else. -/
theorem lookup_filter_ne (entries : List (Location × Entry)) (location other : Location) :
    (entries.filter fun item => item.1 ≠ location).lookup other =
      if other = location then none else entries.lookup other := by
  induction entries with
  | nil => simp
  | cons item entries ih =>
      obtain ⟨place, entry⟩ := item
      by_cases hremoved : place = location
      · rw [List.filter_cons_of_neg (by simp [hremoved]), ih, hremoved, List.lookup_cons]
        by_cases hsame : other = location
        · simp [hsame]
        · simp [hsame, beq_false_of_ne hsame]
      · rw [List.filter_cons_of_pos (by simp [hremoved]), List.lookup_cons, List.lookup_cons, ih]
        by_cases hfound : other = place
        · simp [hfound, hremoved]
        · simp [beq_false_of_ne hfound]

theorem edited_withFile (hfree : tree.waymark? location = none)
    (file : Option (ByteArray × Access)) :
    tree.Edited location (tree.withFile location file) := by
  have hnamed := ne_nil_of_waymark?_eq_none hfree
  cases file with
  | some file =>
      obtain ⟨content, access⟩ := file
      refine ⟨rfl, fun other hdiffers => get?_set_of_ne _ _ hdiffers, hfree, ?_⟩
      exact waymark?_eq_none_iff.mpr (.inr ⟨content, access, get?_set_self _ _ _ hnamed⟩)
  | none =>
      refine ⟨rfl, fun other hdiffers => ?_, hfree, waymark?_eq_none_iff.mpr (.inl ?_)⟩
      · simp only [get?, withFile, lookup_filter_ne, if_neg hdiffers]
      · simp only [get?, withFile, lookup_filter_ne, if_neg hnamed, if_true]

end FileTree

end RegionSync
