import RegionSync.Listing
import RegionSync.Proofs.FileTree.Outline
import Mathlib.Data.List.Lex
import Mathlib.Data.List.Sort
import Mathlib.Data.Prod.Lex
import Mathlib.Data.String.Basic

set_option autoImplicit false

/-! # What a listing holds

The entries of a directory are enumerated in any order and listed in path order. Paths are ordered
by their components, so two paths that are ordered both ways are spellings of one path
(`Path.same_of_le`), and a listing in which no two paths are the same does not depend on the order
of enumeration (`collect_eq_of_perm`). Membership in a listing is a matter of the outline of the
tree (`FileTree.mem_list_iff`), so writing to files leaves the listing as it is
(`SameOutline.list_eq`).
-/

namespace RegionSync

/-! ## The order of paths -/

/-- What components are ordered by: their kind, and names by their characters. -/
def Component.key : Component → ℕ ×ₗ String
  | .name text => toLex (3, text)
  | other => toLex (other.rank, "")

theorem Component.key_injective : Function.Injective Component.key := by
  intro a b h
  cases a <;> cases b <;> simp_all [key, rank]

instance : LinearOrder Component := LinearOrder.lift' Component.key Component.key_injective

theorem Component.lt_eq_true_iff {a b : Component} : Component.lt a b = true ↔ a < b := by
  show Component.lt a b = true ↔ a.key < b.key
  cases a <;> cases b <;> simp [lt, key, rank, Prod.Lex.toLex_lt_toLex]

namespace Path

variable {path other third : Path}

theorem le_iff : path.le other = true ↔ path.components ≤ other.components := by
  have hlex : other.components.lex path.components Component.lt = true ↔
      other.components < path.components := by
    rw [List.lex_eq_true_iff_lex, ← List.lex_lt]
    simp only [Component.lt_eq_true_iff]
  rw [le, Bool.not_eq_true', ← Bool.not_eq_true, hlex, not_lt]

theorem le_trans (hfirst : path.le other = true) (hsecond : other.le third = true) :
    path.le third = true := by
  rw [le_iff] at hfirst hsecond ⊢
  exact hfirst.trans hsecond

theorem le_total (path other : Path) : (path.le other || other.le path) = true := by
  rw [Bool.or_eq_true, le_iff, le_iff]
  exact Std.le_total

/-- Paths that are ordered both ways are spellings of one path. -/
theorem same_of_le (hfirst : path.le other = true) (hsecond : other.le path = true) :
    path.same other = true := by
  rw [le_iff] at hfirst hsecond
  rw [same, beq_iff_eq]
  exact le_antisymm hfirst hsecond

theorem child_injective {root : Path} {label label' : String}
    (h : root.child label = root.child label') : label = label' := by
  unfold child at h
  split_ifs at h
  · simpa using congrArg Path.text h
  · simpa using congrArg Path.text h

end Path

theorem pairwise_le_collect (root : Path) (found : List Found) :
    (collect root found).Pairwise fun path other => path.le other = true := by
  unfold collect
  apply List.pairwise_mergeSort
  · intro path other third
    exact Path.le_trans
  · exact Path.le_total

theorem perm_collect (root : Path) (found : List Found) :
    (collect root found).Perm (found.filterMap (Found.path? root)) :=
  List.mergeSort_perm _ _

/-- Different members of a list in which no two paths are the same are not the same path, whichever
of them comes first. -/
theorem Path.same_eq_false_of_mem {paths : List Path}
    (hapart : paths.Pairwise fun path other => path.same other = false) {path other : Path}
    (hmem : path ∈ paths) (hmem' : other ∈ paths) (hdiffer : path ≠ other) :
    path.same other = false := by
  have hsymm : Std.Symm fun path other : Path => path.same other = false := by
    refine ⟨fun first second h => ?_⟩
    rw [Path.same, beq_eq_false_iff_ne] at h ⊢
    exact h.symm
  exact hapart.forall hmem hmem' hdiffer

/-- A listing does not depend on the order of enumeration, if no two of its paths are the same. -/
theorem collect_eq_of_perm {root : Path} {found found' : List Found}
    (hperm : (found'.filterMap (Found.path? root)).Perm (found.filterMap (Found.path? root)))
    (hapart : (collect root found).Pairwise fun path other => path.same other = false) :
    collect root found' = collect root found := by
  have hcollect : (collect root found').Perm (collect root found) :=
    (perm_collect root found').trans (hperm.trans (perm_collect root found).symm)
  refine List.Perm.eq_of_pairwise ?_ (pairwise_le_collect root found')
    (pairwise_le_collect root found) hcollect
  intro path other hmem hmem' hfirst hsecond
  by_contra hdiffer
  have hfalse := Path.same_eq_false_of_mem hapart (hcollect.mem_iff.mp hmem) hmem' hdiffer
  rw [Path.same_of_le hfirst hsecond] at hfalse
  cases hfalse

/-! ## The entries of a directory -/

theorem nodup_eraseDups {α : Type} [BEq α] [LawfulBEq α] (list : List α) :
    list.eraseDups.Nodup := by
  cases list with
  | nil => simp
  | cons head tail =>
      rw [List.eraseDups_cons, List.nodup_cons]
      constructor
      · simp [List.mem_eraseDups]
      · exact nodup_eraseDups _
termination_by list.length
decreasing_by
  have hle := List.length_filter_le (fun other => !other == head) tail
  simp only [List.length_cons]
  omega

namespace FileTree

variable {tree after : FileTree} {dir : Location} {root path : Path}

theorem childName?_eq_some_iff {location : Location} {name : EntryName} :
    childName? dir location = some name ↔ location = dir ++ [name] := by
  unfold childName?
  constructor
  · intro h
    split at h
    · split_ifs at h with hlocation
      cases h
      exact hlocation
    · cases h
  · rintro rfl
    simp

/-- The names of the entries directly in a directory, each once. -/
theorem mem_names_iff {name : EntryName} :
    name ∈ (tree.entries.filterMap fun item => childName? dir item.1).eraseDups ↔
      ∃ entry, tree.get? (dir ++ [name]) = some entry := by
  rw [List.mem_eraseDups, List.mem_filterMap]
  simp only [childName?_eq_some_iff, get?, List.append_eq_nil_iff, List.cons_ne_nil, and_false,
    if_false]
  constructor
  · rintro ⟨⟨location, entry⟩, hmem, rfl⟩
    cases hfound : tree.entries.lookup (dir ++ [name]) with
    | some first => exact ⟨first, rfl⟩
    | none =>
        have habsent := List.lookup_eq_none_iff.mp hfound _ hmem
        simp at habsent
  · rintro ⟨entry, hfound⟩
    obtain ⟨front, back, hsplit, -⟩ := List.lookup_eq_some_iff.mp hfound
    exact ⟨(dir ++ [name], entry), by simp [hsplit], rfl⟩

/-! ## The listing of a root -/

/-- The path of an entry that belongs into the listing, as a matter of what stands in the directory
under the name. -/
def listed? (tree : FileTree) (root : Path) (dir : Location) (name : EntryName) : Option Path :=
  (tree.get? (dir ++ [name])).bind fun entry => Found.path? root (.entry name entry)

theorem listed?_eq_some_iff {name : EntryName} :
    tree.listed? root dir name = some path ↔
      ∃ label content access, name = .text label
        ∧ tree.get? (dir ++ [.text label]) = some (.file content access)
        ∧ (root.child label).isEditorScratch = false ∧ path = root.child label := by
  unfold listed?
  rw [Option.bind_eq_some_iff]
  constructor
  · rintro ⟨entry, hfound, hpath⟩
    cases name with
    | raw bytes => cases hpath
    | text label =>
        cases entry with
        | file content access =>
            simp only [Found.path?] at hpath
            split_ifs at hpath with hscratch
            cases hpath
            exact ⟨label, content, access, rfl, hfound, by simpa using hscratch, rfl⟩
        | directory access => cases hpath
        | link target => cases hpath
  · rintro ⟨label, content, access, rfl, hfound, hplain, rfl⟩
    exact ⟨_, hfound, by simp [Found.path?, hplain]⟩

/-- Where a root that can be listed leads to. -/
def ListsFrom (tree : FileTree) (root : Path) (dir : Location) : Prop :=
  root.same ⟨"-"⟩ = false ∧ tree.resolve root = .ok dir ∧
    ∃ access, tree.get? dir = some (.directory access) ∧ access.read = true

theorem ListsFrom.filterMap_enumerate (hlists : tree.ListsFrom root dir) :
    (tree.enumerate root).filterMap (Found.path? root) =
      ((tree.entries.filterMap fun item => childName? dir item.1).eraseDups).filterMap
        (tree.listed? root dir) := by
  obtain ⟨hnamed, hleads, access, hfound, hreadable⟩ := hlists
  rw [enumerate, List.filterMap_cons_none rfl]
  simp only [hnamed, hleads, hfound, hreadable, if_true, Bool.false_eq_true, if_false,
    children, List.filterMap_map, List.filterMap_filterMap]
  congr 1
  funext name
  unfold listed?
  cases tree.get? (dir ++ [name]) with
  | none => rfl
  | some entry => rfl

/-- A root that cannot be listed has no listed files. -/
theorem filterMap_enumerate_eq_nil (h : ∀ dir, ¬ tree.ListsFrom root dir) :
    (tree.enumerate root).filterMap (Found.path? root) = [] := by
  rw [enumerate, List.filterMap_cons_none rfl]
  split
  case isTrue => rfl
  case isFalse hnamed =>
      split
      case h_1 => rfl
      case h_2 dir hleads =>
          split
          case h_1 access hfound =>
              split
              case isTrue hreadable =>
                  exact absurd ⟨by simpa using hnamed, hleads, access, hfound, hreadable⟩ (h dir)
              case isFalse => rfl
          case h_2 => rfl

theorem nodup_filterMap_enumerate (tree : FileTree) (root : Path) :
    ((tree.enumerate root).filterMap (Found.path? root)).Nodup := by
  by_cases h : ∃ dir, tree.ListsFrom root dir
  · obtain ⟨dir, hlists⟩ := h
    rw [hlists.filterMap_enumerate]
    refine List.Nodup.filterMap ?_ (nodup_eraseDups _)
    intro name name' path hmem hmem'
    obtain ⟨label, _, _, rfl, -, -, hpath⟩ := listed?_eq_some_iff.mp hmem
    obtain ⟨label', _, _, rfl, -, -, hpath'⟩ := listed?_eq_some_iff.mp hmem'
    rw [Path.child_injective (hpath.symm.trans hpath')]
  · rw [filterMap_enumerate_eq_nil (not_exists.mp h)]
    exact List.nodup_nil

theorem mem_filterMap_enumerate_iff :
    path ∈ (tree.enumerate root).filterMap (Found.path? root) ↔
      ∃ dir label content access, tree.ListsFrom root dir
        ∧ tree.get? (dir ++ [.text label]) = some (.file content access)
        ∧ (root.child label).isEditorScratch = false ∧ path = root.child label := by
  by_cases h : ∃ dir, tree.ListsFrom root dir
  · obtain ⟨dir, hlists⟩ := h
    rw [hlists.filterMap_enumerate, List.mem_filterMap]
    constructor
    · rintro ⟨name, -, hlisted⟩
      obtain ⟨label, content, access, -, hfound, hplain, hpath⟩ := listed?_eq_some_iff.mp hlisted
      exact ⟨dir, label, content, access, hlists, hfound, hplain, hpath⟩
    · rintro ⟨dir', label, content, access, ⟨-, hleads, -⟩, hfound, hplain, hpath⟩
      obtain rfl : dir = dir' := Except.ok.inj (hlists.2.1.symm.trans hleads)
      exact ⟨.text label, mem_names_iff.mpr ⟨_, hfound⟩,
        listed?_eq_some_iff.mpr ⟨label, content, access, rfl, hfound, hplain, hpath⟩⟩
  · rw [filterMap_enumerate_eq_nil (not_exists.mp h)]
    constructor
    · intro hmem
      cases hmem
    · rintro ⟨dir, -, -, -, hlists, -⟩
      exact absurd ⟨dir, hlists⟩ h

/-- **What a listing holds**: the regular files directly in the directory that the root leads to, if
they have a text for a name and are no scratch files. -/
theorem mem_list_iff :
    path ∈ tree.list root ↔
      ∃ dir label content access, tree.ListsFrom root dir
        ∧ tree.get? (dir ++ [.text label]) = some (.file content access)
        ∧ (root.child label).isEditorScratch = false ∧ path = root.child label :=
  (perm_collect root _).mem_iff.trans mem_filterMap_enumerate_iff

theorem nodup_list (tree : FileTree) (root : Path) : (tree.list root).Nodup :=
  (perm_collect root _).nodup_iff.mpr (nodup_filterMap_enumerate tree root)

/-- Files that are enumerated in path order are listed as they are enumerated. -/
theorem list_eq_of_pairwise {paths : List Path}
    (hfound : (tree.enumerate root).filterMap (Found.path? root) = paths)
    (hsorted : paths.Pairwise fun path other => path.le other = true) : tree.list root = paths := by
  rw [list, collect, hfound]
  exact List.mergeSort_of_pairwise hsorted

/-- A root can be listed exactly if it leads to a directory. -/
theorem checkScan_eq_ok_iff : tree.checkScan root = .ok () ↔ tree.isDirectory root = true := by
  unfold checkScan pathExists isDirectory
  cases tree.entry? root with
  | none => simp
  | some entry => simp

/-! ## The listing of a tree with the same outline -/

theorem SameOutline.listsFrom (hsame : tree.SameOutline after) (hlists : tree.ListsFrom root dir) :
    after.ListsFrom root dir := by
  obtain ⟨hnamed, hleads, access, hfound, hreadable⟩ := hlists
  refine ⟨hnamed, ?_, access, hsame.get?_directory hfound, hreadable⟩
  rw [hsame.resolve_eq]
  exact hleads

theorem SameOutline.mem_filterMap_enumerate (hsame : tree.SameOutline after)
    (hmem : path ∈ (tree.enumerate root).filterMap (Found.path? root)) :
    path ∈ (after.enumerate root).filterMap (Found.path? root) := by
  obtain ⟨dir, label, content, access, hlists, hfound, hplain, hpath⟩ :=
    mem_filterMap_enumerate_iff.mp hmem
  obtain ⟨content', hfound'⟩ := hsame.get?_file hfound
  exact mem_filterMap_enumerate_iff.mpr
    ⟨dir, label, content', access, hsame.listsFrom hlists, hfound', hplain, hpath⟩

/-- **Writing to files leaves a listing as it is**, although the entries may be enumerated in another
order afterwards. -/
theorem SameOutline.list_eq (hsame : tree.SameOutline after)
    (hapart : (tree.list root).Pairwise fun path other => path.same other = false) :
    after.list root = tree.list root := by
  refine collect_eq_of_perm ?_ hapart
  rw [List.perm_ext_iff_of_nodup (nodup_filterMap_enumerate after root)
    (nodup_filterMap_enumerate tree root)]
  intro path
  exact ⟨hsame.symm.mem_filterMap_enumerate, hsame.mem_filterMap_enumerate⟩

theorem SameOutline.checkScan_eq (hsame : tree.SameOutline after) (root : Path) :
    after.checkScan root = tree.checkScan root := by
  have hexists : after.pathExists root = tree.pathExists root ∧
      after.isDirectory root = tree.isDirectory root := by
    unfold pathExists isDirectory entry?
    rw [hsame.resolve_eq]
    cases tree.resolve root with
    | error error => exact ⟨rfl, rfl⟩
    | ok location =>
        cases hfound : tree.get? location with
        | none => simp [hfound, hsame.get?_none hfound]
        | some entry =>
            cases entry with
            | file content access =>
                obtain ⟨content', hnow⟩ := hsame.get?_file hfound
                simp [hfound, hnow, Entry.isDirectory]
            | directory access => simp [hfound, hsame.get?_directory hfound]
            | link target => simp [hfound, hsame.get?_link hfound]
  rw [checkScan, checkScan, hexists.1, hexists.2]

end FileTree

end RegionSync
