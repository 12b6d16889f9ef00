import RegionSync.Proofs.FileTree.Edit

set_option autoImplicit false

/-! # Trees that differ in the contents of files only

Writing to a file that is there changes its content and nothing else: every directory, every link
and every access stays, and so does every place where there is a file at all. Two such trees have
the same *outline*. A path leads to the same location in both, and where it leads nowhere it does
so for the same reason (`SameOutline.resolve_eq`). This is more than trees with the same ways have
in common, where a file may come and go.
-/

namespace RegionSync

/-- An entry without the content of a file. -/
def Entry.outline : Entry → Entry
  | file _ access => file .empty access
  | directory access => directory access
  | link target => link target

namespace FileTree

variable {tree after last : FileTree} {location : Location} {path : Path}

/-- Two trees have the same outline when only the contents of their files differ. -/
structure SameOutline (tree after : FileTree) : Prop where
  workingDir : after.workingDir = tree.workingDir
  outline : ∀ location,
    (after.get? location).map Entry.outline = (tree.get? location).map Entry.outline

theorem SameOutline.refl (tree : FileTree) : tree.SameOutline tree := ⟨rfl, fun _ => rfl⟩

theorem SameOutline.symm (hsame : tree.SameOutline after) : after.SameOutline tree :=
  ⟨hsame.workingDir.symm, fun location => (hsame.outline location).symm⟩

theorem SameOutline.trans (hfirst : tree.SameOutline after) (hsecond : after.SameOutline last) :
    tree.SameOutline last :=
  ⟨hsecond.workingDir.trans hfirst.workingDir,
    fun location => (hsecond.outline location).trans (hfirst.outline location)⟩

/-- Where a directory stands, the same directory stands in the other tree. -/
theorem SameOutline.get?_directory (hsame : tree.SameOutline after) {access : Access}
    (hfound : tree.get? location = some (.directory access)) :
    after.get? location = some (.directory access) := by
  have houtline := hsame.outline location
  rw [hfound, Option.map_some, Option.map_eq_some_iff] at houtline
  obtain ⟨entry, hnow, hshape⟩ := houtline
  cases entry with
  | directory other =>
      cases hshape
      exact hnow
  | file content other => cases hshape
  | link target => cases hshape

/-- Where a file stands, a file with the same access stands in the other tree. -/
theorem SameOutline.get?_file (hsame : tree.SameOutline after) {content : ByteArray}
    {access : Access} (hfound : tree.get? location = some (.file content access)) :
    ∃ content', after.get? location = some (.file content' access) := by
  have houtline := hsame.outline location
  rw [hfound, Option.map_some, Option.map_eq_some_iff] at houtline
  obtain ⟨entry, hnow, hshape⟩ := houtline
  cases entry with
  | file content' other =>
      cases hshape
      exact ⟨content', hnow⟩
  | directory other => cases hshape
  | link target => cases hshape

/-- Where a link stands, the same link stands in the other tree. -/
theorem SameOutline.get?_link (hsame : tree.SameOutline after) {target : String}
    (hfound : tree.get? location = some (.link target)) :
    after.get? location = some (.link target) := by
  have houtline := hsame.outline location
  rw [hfound, Option.map_some, Option.map_eq_some_iff] at houtline
  obtain ⟨entry, hnow, hshape⟩ := houtline
  cases entry with
  | link other =>
      cases hshape
      exact hnow
  | file content access => cases hshape
  | directory access => cases hshape

theorem SameOutline.get?_none (hsame : tree.SameOutline after)
    (hfound : tree.get? location = none) :
    after.get? location = none := by
  have houtline := hsame.outline location
  rwa [hfound, Option.map_none, Option.map_eq_none_iff] at houtline

/-- A file that is there is given another content. -/
theorem sameOutline_set {old : ByteArray} {access : Access}
    (hholds : tree.get? location = some (.file old access)) (content : ByteArray) :
    tree.SameOutline (tree.set location (.file content access)) := by
  have hnamed : location ≠ [] := by
    rintro rfl
    rw [get?_nil] at hholds
    cases hholds
  refine ⟨rfl, fun other => ?_⟩
  by_cases hhere : other = location
  · rw [hhere, get?_set_self _ _ _ hnamed, hholds]
    rfl
  · rw [get?_set_of_ne _ _ hhere]

/-! ## Following a path -/

/-- Steps go the same way in both trees. The induction is along the steps; at each of them it is
asked what stands here, and for a name what stands there. -/
theorem SameOutline.walk_eq (hsame : tree.SameOutline after) (followLast : Bool) (here : Location)
    (steps : List PathStep) :
    after.walk followLast here steps = tree.walk followLast here steps := by
  induction steps generalizing here with
  | nil => rfl
  | cons step rest ih =>
      cases hfound : tree.get? here with
      | none => simp only [walk, hfound, hsame.get?_none hfound]
      | some entry =>
          cases entry with
          | file content access =>
              obtain ⟨content', hnow⟩ := hsame.get?_file hfound
              simp only [walk, hfound, hnow]
          | link target => simp only [walk, hfound, hsame.get?_link hfound]
          | directory access =>
              have hnow := hsame.get?_directory hfound
              cases step with
              | stay => simp only [walk, hfound, hnow, ih]
              | slash => simp only [walk, hfound, hnow, ih]
              | up => simp only [walk, hfound, hnow, ih]
              | enter name =>
                  cases hthere : tree.get? (here ++ [name]) with
                  | none => simp only [walk, hfound, hnow, hthere, hsame.get?_none hthere]
                  | some entry =>
                      cases entry with
                      | file content access' =>
                          obtain ⟨content', hthere'⟩ := hsame.get?_file hthere
                          simp only [walk, hfound, hnow, hthere, hthere', ih]
                      | link target =>
                          simp only [walk, hfound, hnow, hthere, hsame.get?_link hthere]
                      | directory access' =>
                          simp only [walk, hfound, hnow, hthere, hsame.get?_directory hthere, ih]

theorem SameOutline.follow_eq (hsame : tree.SameOutline after) (followLast : Bool) (links : Nat)
    (here : Location) (steps : List PathStep) :
    after.follow followLast links here steps = tree.follow followLast links here steps := by
  induction links generalizing here steps with
  | zero =>
      unfold follow
      rw [hsame.walk_eq]
  | succ links ih =>
      unfold follow
      rw [hsame.walk_eq]
      simp only [ih]

/-- **A path leads to the same place in both trees,** or fails for the same reason. -/
theorem SameOutline.resolve_eq (hsame : tree.SameOutline after) (path : Path) :
    after.resolve path = tree.resolve path := by
  simp only [resolve, locate, hsame.workingDir, hsame.follow_eq]

/-! ## One file in two trees -/

/-- Two trees with the same outline that agree on the file that a path leads to. -/
structure AgreesOn (tree : FileTree) (path : Path) (after : FileTree) : Prop where
  outline : tree.SameOutline after
  file : ∀ location, tree.resolve path = .ok location → after.get? location = tree.get? location

theorem AgreesOn.read_eq (hagrees : tree.AgreesOn path after) :
    after.read path = tree.read path := by
  unfold read
  rw [hagrees.outline.resolve_eq]
  cases hleads : tree.resolve path with
  | error error => rfl
  | ok location => simp only [hagrees.file location hleads]

theorem AgreesOn.readText_eq (hagrees : tree.AgreesOn path after) :
    after.readText path = tree.readText path := by
  unfold readText
  rw [hagrees.read_eq]

end FileTree

end RegionSync
