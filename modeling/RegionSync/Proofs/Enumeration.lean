import RegionSync.Proofs.FileTree.Names

set_option autoImplicit false

/-! # Enumerating a directory

A directory may yield what stands in it in any order, with itself and with entries that cannot be
looked at anywhere in between (`DirectoryContent.YieldedAs`). The listing that is made of this is a
matter of the content alone: an entry is listed exactly if it is a regular file whose name is a text
and not that of a scratch file. Different names give paths with different last components, so the
listing is strictly increasing, and there is one such list only
(`listing_is_complete_and_canonical`).
-/

namespace RegionSync

/-- What stands in a directory: entries under different names, all of which can stand there. -/
structure DirectoryContent where
  entries : List (EntryName × Entry)
  distinct : (entries.map Prod.fst).Nodup
  proper : ∀ item ∈ entries, item.1.IsProper

/-- The entry that was found, if it could be looked at. -/
def Found.entry? : Found → Option (EntryName × Entry)
  | .entry name item => some (name, item)
  | itself | unreadable _ => none

/-- Whether a directory with this content may be enumerated as `found`: every entry that can be
looked at is yielded once. -/
def DirectoryContent.YieldedAs (content : DirectoryContent) (found : List Found) : Prop :=
  (found.filterMap Found.entry?).Perm content.entries

/-! ## The paths of entries -/

namespace Path

variable {root : Path} {name : String}

/-- The last component of the path of an entry is its name, whatever the root. -/
theorem fileName?_child_of_isProper (root : Path) (hproper : (EntryName.text name).IsProper) :
    (root.child name).fileName? = some name := by
  by_cases hnamed : root.text = ""
  · have hplain : root.child name = ⟨name⟩ := by simp [child, hnamed]
    rw [hplain, fileName?, components, segments_of_not_mem hproper.2.2.2]
    simp [hproper.component?]
  · exact fileName?_child hnamed hproper

theorem isEditorScratch_child (root : Path) (hproper : (EntryName.text name).IsProper) :
    (root.child name).isEditorScratch = false ↔
      ¬ ['.', '#'] <+: name.toList ∧ ¬ ['#'] <+: name.toList := by
  rw [isEditorScratch, fileName?_child_of_isProper root hproper, Bool.or_eq_false_iff]
  simp only [Text.startsWith, ← List.isPrefixOf_iff_prefix, Bool.not_eq_true]

end Path

namespace Found

variable {root path : Path}

/-- Whether something is listed depends on the entry only. -/
theorem path?_eq_bind (root : Path) (found : Found) :
    found.path? root = found.entry?.bind fun item => path? root (entry item.1 item.2) := by
  cases found with
  | itself => rfl
  | entry name item => rfl
  | unreadable reason => rfl

theorem path?_entry_eq_some_iff {item : EntryName × Entry} (hproper : item.1.IsProper) :
    path? root (entry item.1 item.2) = some path ↔
      ∃ label bytes access, item = (.text label, .file bytes access)
        ∧ (¬ ['.', '#'] <+: label.toList ∧ ¬ ['#'] <+: label.toList)
        ∧ path = root.child label := by
  constructor
  · intro hlisted
    obtain ⟨name, item⟩ := item
    cases name with
    | raw bytes => cases hlisted
    | text label =>
        cases item with
        | directory access => cases hlisted
        | link target => cases hlisted
        | file bytes access =>
            simp only [path?] at hlisted
            split_ifs at hlisted with hscratch
            have hplain := (Path.isEditorScratch_child root hproper).mp (by simpa using hscratch)
            exact ⟨label, bytes, access, rfl, hplain, (Option.some.inj hlisted).symm⟩
  · rintro ⟨label, bytes, access, rfl, hplain, rfl⟩
    simp [path?, (Path.isEditorScratch_child root hproper).mpr hplain]

end Found

namespace DirectoryContent

variable {content : DirectoryContent} {found found' : List Found} {root path : Path}

/-- The paths of the entries that belong into the listing, in the order of the content. -/
def paths (content : DirectoryContent) (root : Path) : List Path :=
  content.entries.filterMap fun item => Found.path? root (.entry item.1 item.2)

/-- The listing holds the paths of the entries, however they are yielded. -/
theorem YieldedAs.perm (hyielded : content.YieldedAs found) (root : Path) :
    (collect root found).Perm (content.paths root) := by
  refine (perm_collect root found).trans ?_
  have hsplit : found.filterMap (Found.path? root) =
      (found.filterMap Found.entry?).filterMap fun item =>
        Found.path? root (.entry item.1 item.2) := by
    rw [List.filterMap_filterMap]
    exact List.filterMap_congr fun item _ => item.path?_eq_bind root
  rw [hsplit]
  exact hyielded.filterMap _

theorem mem_paths_iff :
    path ∈ content.paths root ↔
      ∃ label bytes access, (.text label, .file bytes access) ∈ content.entries
        ∧ (¬ ['.', '#'] <+: label.toList ∧ ¬ ['#'] <+: label.toList)
        ∧ path = root.child label := by
  rw [paths, List.mem_filterMap]
  constructor
  · rintro ⟨item, hmem, hlisted⟩
    obtain ⟨label, bytes, access, rfl, hplain, hpath⟩ :=
      (Found.path?_entry_eq_some_iff (content.proper item hmem)).mp hlisted
    exact ⟨label, bytes, access, hmem, hplain, hpath⟩
  · rintro ⟨label, bytes, access, hmem, hplain, hpath⟩
    exact ⟨_, hmem, (Found.path?_entry_eq_some_iff (content.proper _ hmem)).mpr
      ⟨label, bytes, access, rfl, hplain, hpath⟩⟩

/-- No two listed entries have the same path: their last components are their names. -/
theorem pairwise_paths (content : DirectoryContent) (root : Path) :
    (content.paths root).Pairwise fun path other => path.components ≠ other.components := by
  have hapart : content.entries.Pairwise fun item other => item.1 ≠ other.1 :=
    List.pairwise_map.mp content.distinct
  refine List.Pairwise.filterMap _ ?_ (List.Pairwise.and_mem.mp hapart)
  rintro item other ⟨hmem, hmem', hdiffer⟩ path hlisted path' hlisted' hsame
  obtain ⟨label, _, _, rfl, -, rfl⟩ :=
    (Found.path?_entry_eq_some_iff (content.proper item hmem)).mp hlisted
  obtain ⟨label', _, _, rfl, -, rfl⟩ :=
    (Found.path?_entry_eq_some_iff (content.proper other hmem')).mp hlisted'
  have hnames : (root.child label).fileName? = (root.child label').fileName? := by
    simp only [Path.fileName?, hsame]
  rw [Path.fileName?_child_of_isProper root (content.proper _ hmem),
    Path.fileName?_child_of_isProper root (content.proper _ hmem')] at hnames
  exact hdiffer (congrArg EntryName.text (Option.some.inj hnames))

/-- The listing is strictly increasing: it is in path order, and no path comes twice. -/
theorem YieldedAs.pairwise_lt (hyielded : content.YieldedAs found) (root : Path) :
    (collect root found).Pairwise fun path other => path.components < other.components := by
  have hapart := (hyielded.perm root).symm.pairwise (content.pairwise_paths root) Ne.symm
  refine (pairwise_le_collect root found).imp₂ ?_ hapart
  intro path other hordered hdiffer
  exact lt_of_le_of_ne (Path.le_iff.mp hordered) hdiffer

/-- There is one strictly increasing list of the same paths. -/
theorem YieldedAs.collect_eq (hyielded : content.YieldedAs found)
    (hyielded' : content.YieldedAs found') (root : Path) :
    collect root found' = collect root found := by
  have hperm := (hyielded'.perm root).trans (hyielded.perm root).symm
  refine List.Perm.eq_of_pairwise ?_ (hyielded'.pairwise_lt root) (hyielded.pairwise_lt root) hperm
  intro path other _ _ hbefore hafter
  exact absurd (hbefore.trans hafter) (lt_irrefl _)

/-- A file tree yields the entries of the directory that a root leads to. -/
theorem yieldedAs_enumerate {tree : FileTree} {dir : Location} (hlists : tree.ListsFrom root dir)
    (hchildren : (tree.children dir).Perm content.entries) :
    content.YieldedAs (tree.enumerate root) := by
  obtain ⟨hnamed, hleads, access, hdirectory, hreadable⟩ := hlists
  have hentries : (tree.enumerate root).filterMap Found.entry? = tree.children dir := by
    rw [FileTree.enumerate, List.filterMap_cons_none rfl]
    simp only [hnamed, hleads, hdirectory, hreadable, if_true, Bool.false_eq_true, if_false]
    rw [List.filterMap_map]
    exact List.filterMap_some
  rw [YieldedAs, hentries]
  exact hchildren

end DirectoryContent

/-- **A listing is complete, and does not depend on the order of enumeration.** For every root and
every content of a directory, in whichever order it is yielded and whatever cannot be looked at in
between:

* the listing is strictly increasing in path order;
* it holds exactly the paths of the regular files whose name is a text that does not start with `.#`
  or `#`;
* every other enumeration of the content gives the same listing, and so does every file tree in
  which the root leads to a directory with this content. -/
theorem listing_is_complete_and_canonical (root : Path) (content : DirectoryContent)
    {found : List Found} (hyielded : content.YieldedAs found) :
    (collect root found).Pairwise (fun path other => path.components < other.components)
      ∧ (∀ path, path ∈ collect root found ↔
        ∃ label bytes access, (.text label, .file bytes access) ∈ content.entries
          ∧ (¬ ['.', '#'] <+: label.toList ∧ ¬ ['#'] <+: label.toList)
          ∧ path = root.child label)
      ∧ (∀ found', content.YieldedAs found' → collect root found' = collect root found)
      ∧ ∀ (tree : FileTree) (dir : Location), tree.ListsFrom root dir →
        (tree.children dir).Perm content.entries → tree.list root = collect root found := by
  refine ⟨hyielded.pairwise_lt root, ?_, ?_, ?_⟩
  · intro path
    rw [(hyielded.perm root).mem_iff]
    exact DirectoryContent.mem_paths_iff
  · intro found' hyielded'
    exact hyielded.collect_eq hyielded' root
  · intro tree dir hlists hchildren
    exact hyielded.collect_eq (DirectoryContent.yieldedAs_enumerate hlists hchildren) root

/-- Three files that are listed, and an entry for every reason not to be. -/
def motleyContent : DirectoryContent where
  entries :=
    [(.text "b.cs", .file .empty {}), (.text ".#a.cs", .file .empty {}),
      (.raw ⟨#[0xFF]⟩, .file .empty {}), (.text "a.cs", .file .empty {}),
      (.text "nested", .directory {}), (.text "#a.cs#", .file .empty {}),
      (.text ".hidden.cs", .file .empty {}), (.text "link.cs", .link "a.cs")]
  distinct := by decide +kernel
  proper := by decide +kernel

/-- The motley directory in another order, with entries that cannot be looked at. -/
def motleyFound : List Found :=
  .unreadable "first" :: .itself ::
    motleyContent.entries.reverse.map (fun item => .entry item.1 item.2) ++ [.unreadable "last"]

/-- However the motley directory is enumerated, its three files are listed in path order. -/
theorem listing_of_motleyContent_is_complete_and_canonical :
    motleyContent.YieldedAs motleyFound ∧ ∀ found, motleyContent.YieldedAs found →
      collect ⟨"scenes"⟩ found = [⟨"scenes/.hidden.cs"⟩, ⟨"scenes/a.cs"⟩, ⟨"scenes/b.cs"⟩] := by
  have hyielded : motleyContent.YieldedAs motleyFound := by
    unfold DirectoryContent.YieldedAs
    decide +kernel
  refine ⟨hyielded, ?_⟩
  intro found hother
  obtain ⟨-, -, hcanonical, -⟩ :=
    listing_is_complete_and_canonical ⟨"scenes"⟩ motleyContent hyielded
  have hlisted : motleyFound.filterMap (Found.path? ⟨"scenes"⟩) =
      [⟨"scenes/.hidden.cs"⟩, ⟨"scenes/a.cs"⟩, ⟨"scenes/b.cs"⟩] := by decide +kernel
  rw [hcanonical found hother, collect, hlisted]
  exact List.mergeSort_of_pairwise (by decide +kernel)

end RegionSync
