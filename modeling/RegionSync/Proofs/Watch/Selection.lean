import RegionSync.Config
import RegionSync.Watch.Filter
import RegionSync.Proofs.FileTree.Names
import RegionSync.Proofs.Trimming
import RegionSync.Proofs.WriteBack

set_option autoImplicit false

/-! # The files of the watch and the files of a batch

A batch leaves out the scratch files of editors when it lists a directory, and the validator skips
what does not have the extension of annotated files. The watch asks a filter for the same two
things. Both compare the trimmed extension of the path, but the filter trims the configured
extension too, and the validator takes it as it stands.

So they agree on a trimmed extension; they agree also if the extension holds a dot or a slash, since
then no path has it (`hasExtension_eq_false_of_mem`). With any other extension the watch reports
files that the validator skips: `watch_agrees_with_batch_iff`.
-/

namespace RegionSync

/-! ## The characters of an extension -/

/-- Only the letters change their case. -/
theorem Text.eq_of_toLower_eq {c d : Char} (h : c.toLower = d) (hd : d.toNat < 'a'.toNat) :
    c = d := by
  unfold Char.toLower at h
  split at h
  case isTrue hcapital =>
      -- a capital letter becomes one behind `d`
      have hlow : 65 ≤ c.val.toNat := hcapital.1
      have hhigh : c.val.toNat ≤ 90 := hcapital.2
      have hsum : (c.val + ('a'.val - 'A'.val)).toNat = c.val.toNat + 32 := by
        rw [UInt32.toNat_add]
        apply Nat.mod_eq_of_lt
        show c.val.toNat + 32 < 2 ^ 32
        omega
      have hval : (c.val + ('a'.val - 'A'.val)).toNat = d.toNat := congrArg Char.toNat h
      have hbound : d.toNat < 97 := hd
      omega
  case isFalse => exact h

theorem Text.mem_foldCase_iff {c : Char} (hc : c.toLower = c) (hlow : c.toNat < 'a'.toNat)
    (text : List Char) : c ∈ foldCase text ↔ c ∈ text := by
  rw [foldCase, List.mem_map]
  constructor
  · rintro ⟨d, hd, hsame⟩
    rwa [← eq_of_toLower_eq hsame hlow]
  · intro hmem
    exact ⟨c, hmem, hc⟩

namespace Path

variable {path : Path}

theorem not_mem_of_mem_segmentsFrom {segment text : List Char} (h : '/' ∉ segment) :
    ∀ found ∈ segmentsFrom segment text, '/' ∉ found := by
  induction text generalizing segment with
  | nil =>
      intro found hfound
      rw [List.mem_singleton.mp hfound, List.mem_reverse]
      exact h
  | cons c text ih =>
      intro found hfound
      by_cases hc : c = '/'
      · rw [segmentsFrom, if_pos hc] at hfound
        rcases List.mem_cons.mp hfound with rfl | hfound
        · rw [List.mem_reverse]
          exact h
        · exact ih (by simp) found hfound
      · rw [segmentsFrom, if_neg hc] at hfound
        exact ih (by simp [h, Ne.symm hc]) found hfound

/-- A file name holds no slash. -/
theorem not_mem_of_fileName? {name : String} (h : path.fileName? = some name) :
    '/' ∉ name.toList := by
  have hlast : path.components.getLast? = some (.name name) := by
    unfold fileName? at h
    split at h
    case h_1 found hfound => rw [hfound, Option.some.inj h]
    case h_2 => cases h
  have hmem : Component.name name ∈ path.components := List.mem_of_getLast? hlast
  rw [components, List.mem_append] at hmem
  rcases hmem with hanchor | hpart
  · -- what stands in front of the names is no name
    unfold anchor at hanchor
    split at hanchor <;> simp at hanchor
  · obtain ⟨segment, hsegment, hname⟩ := List.mem_filterMap.mp hpart
    have hslash := not_mem_of_mem_segmentsFrom (by simp) segment hsegment
    unfold component? at hname
    split_ifs at hname
    · cases hname
    · obtain rfl : String.ofList segment = name := by simpa using hname
      rwa [String.toList_ofList]

/-- An extension holds neither a dot nor a slash. -/
theorem not_mem_of_extension? {found : String} (h : path.extension? = some found) :
    '.' ∉ found.toList ∧ '/' ∉ found.toList := by
  obtain ⟨name, hname, hfound⟩ := Option.bind_eq_some_iff.mp h
  unfold extensionOf? at hfound
  simp only at hfound
  split_ifs at hfound
  rw [← Option.some.inj hfound, String.toList_ofList, List.mem_reverse, List.mem_reverse]
  constructor
  · intro hdot
    have := List.mem_takeWhile_imp hdot
    simp at this
  · intro hslash
    have hback := (List.takeWhile_prefix _).mem hslash
    exact not_mem_of_fileName? hname (List.mem_reverse.mp hback)

/-- No path has an extension with a dot or a slash in it. -/
theorem hasExtension_eq_false_of_mem {wanted : List Char} (h : '.' ∈ wanted ∨ '/' ∈ wanted)
    (path : Path) : path.hasExtension wanted = false := by
  unfold hasExtension
  split
  case h_1 found hfound =>
      obtain ⟨hdot, hslash⟩ := not_mem_of_extension? hfound
      rw [beq_eq_false_iff_ne]
      intro hsame
      have hapart {c : Char} (hc : c.toLower = c) (hlow : c.toNat < 'a'.toNat)
          (hnot : c ∉ found.toList) (hmem : c ∈ wanted) : False := by
        rw [← Text.mem_foldCase_iff hc hlow, ← hsame, Text.mem_foldCase_iff hc hlow] at hmem
        exact hnot ((Text.isInfix_trim _).mem hmem)
      rcases h with h | h
      · exact hapart (by decide) (by decide) hdot h
      · exact hapart (by decide) (by decide) hslash h
  case h_2 => rfl

/-- A path with a given extension. -/
def dotted (extension : List Char) : Path := ⟨String.ofList ('a' :: '.' :: extension)⟩

theorem fileName?_dotted {extension : List Char} (h : '/' ∉ extension) :
    (dotted extension).fileName? = some (dotted extension).text := by
  have hslash : '/' ∉ 'a' :: '.' :: extension := by simp [h]
  simp [fileName?, components, dotted, segments_of_not_mem hslash, component?]

theorem extension?_dotted {extension : List Char} (hdot : '.' ∉ extension)
    (hslash : '/' ∉ extension) :
    (dotted extension).extension? = some (String.ofList extension) := by
  rw [extension?, fileName?_dotted hslash, Option.bind_some]
  have hplain : ∀ c ∈ extension.reverse, (c != '.') = true := by
    intro c hc
    rw [bne_iff_ne]
    rintro rfl
    exact hdot (List.mem_reverse.mp hc)
  have hback : (dotted extension).text.toList.reverse = extension.reverse ++ ['.', 'a'] := by
    simp [dotted]
  simp [extensionOf?, hback, List.dropWhile_append_of_pos hplain, List.takeWhile_append_of_pos hplain]

theorem isEditorScratch_dotted {extension : List Char} (h : '/' ∉ extension) :
    (dotted extension).isEditorScratch = false := by
  rw [isEditorScratch, fileName?_dotted h]
  simp [dotted, Text.startsWith, List.isPrefixOf]

theorem hasExtension_dotted {extension : List Char} (hdot : '.' ∉ extension)
    (hslash : '/' ∉ extension) (wanted : List Char) :
    (dotted extension).hasExtension wanted =
      (Text.foldCase (Text.trim extension) == Text.foldCase wanted) := by
  rw [hasExtension, extension?_dotted hdot hslash]
  simp only [String.toList_ofList]

end Path

/-! ## The filter and the validator -/

/-- What the watch takes: no scratch files, and of the others those that have the configured extension
once it is trimmed. -/
theorem CompositeFilter.accepts_watched_iff (protocol : Protocol) (path : Path) :
    (watched protocol).accepts path = true ↔
      path.isEditorScratch = false ∧
        path.hasExtension (Text.trim protocol.fileExtension.toList) = true := by
  simp [watched, accepts, CompositeFilter.and, PathFilter.ofProtocol, PathFilter.extensions,
    PathFilter.notScratch, and_comm]

/-- A validation skips a file for its extension exactly if the extension is not the configured one. -/
theorem Validator.result_eq_skipped_extension_iff (validator : Validator) (tree : FileTree)
    (path : Path) :
    (validator.visit tree path).1.result = .ok (.skipped .extension) ↔
      validator.protocol.matchesExtension path = false := by
  constructor
  · intro hskipped
    have hexamined := validator.examined_examine tree path
    change (validator.examine tree path).1.result path = _ at hskipped
    generalize (validator.examine tree path).1 = verdict at hexamined hskipped
    generalize (validator.examine tree path).2 = after at hexamined
    cases hexamined with
    | otherExtension hother => exact hother
    | _ => cases hskipped
  · intro hother
    have hvisited : validator.visit tree path = (⟨path, .otherExtension⟩, tree) :=
      visit_eq_iff.mpr ⟨rfl, .otherExtension hother⟩
    rw [hvisited]
    rfl

/-- A regular file of a directory is listed, and not skipped for its extension, exactly if it is no
scratch file and has the configured extension. -/
theorem FileTree.listed_and_not_skipped_iff {tree : FileTree} {root : Path} {dir : Location}
    {name : String} {content : ByteArray} {access : Access} (hlists : tree.ListsFrom root dir)
    (hfile : tree.get? (dir ++ [.text name]) = some (.file content access))
    (validator : Validator) :
    (root.child name ∈ tree.list root ∧
        (validator.visit tree (root.child name)).1.result ≠ .ok (.skipped .extension)) ↔
      (root.child name).isEditorScratch = false ∧
        validator.protocol.matchesExtension (root.child name) = true := by
  have hlisted : root.child name ∈ tree.list root ↔ (root.child name).isEditorScratch = false := by
    rw [mem_list_iff]
    constructor
    · rintro ⟨-, label, -, -, -, -, hplain, hsame⟩
      rwa [Path.child_injective hsame]
    · intro hplain
      exact ⟨dir, name, content, access, hlists, hfile, hplain, rfl⟩
  rw [hlisted, ne_eq, Validator.result_eq_skipped_extension_iff, Bool.not_eq_false]

/-! ## Agreement -/

/-- Trimming a configured extension makes no difference exactly if there is nothing to trim, or if no
path has the extension anyway. -/
theorem Path.hasExtension_trim_iff (extension : List Char) :
    (∀ path : Path, path.isEditorScratch = false →
        path.hasExtension (Text.trim extension) = path.hasExtension extension) ↔
      Text.trim extension = extension ∨ '.' ∈ extension ∨ '/' ∈ extension := by
  constructor
  · intro hagree
    by_contra hnot
    obtain ⟨hblank, hdot, hslash⟩ := not_or.mp hnot |>.imp_right not_or.mp
    have hkept {c : Char} (hc : c ∉ extension) : c ∉ Text.trim extension :=
      fun hmem => hc ((Text.isInfix_trim _).mem hmem)
    -- the path with the trimmed extension is told apart by the length of the configured one
    have hsame := hagree (dotted (Text.trim extension)) (isEditorScratch_dotted (hkept hslash))
    rw [hasExtension_dotted (hkept hdot) (hkept hslash),
      hasExtension_dotted (hkept hdot) (hkept hslash), Text.trim_trim, beq_self_eq_true, eq_comm,
      beq_iff_eq] at hsame
    have hlength := congrArg List.length hsame
    rw [Text.foldCase, Text.foldCase, List.length_map, List.length_map] at hlength
    have hshorter := Text.length_trim_lt hblank
    omega
  · rintro (htrim | hnever) path -
    · rw [htrim]
    · have hnever' : '.' ∈ Text.trim extension ∨ '/' ∈ Text.trim extension :=
        hnever.imp (fun h => Text.mem_trim h (by decide)) fun h => Text.mem_trim h (by decide)
      rw [hasExtension_eq_false_of_mem hnever, hasExtension_eq_false_of_mem hnever']

/-- **When the watch and a batch select the same files.** For every configuration:

* the filter of the watch takes exactly the paths that are no scratch files and have the configured
  extension if and only if the extension has no blank characters around it, or holds a dot or a slash;
* the two conditions are those of a batch: of the regular files of a directory, they pick the ones
  that are listed and are not skipped for their extension. -/
theorem watch_agrees_with_batch_iff (config : Config) :
    ((∀ path, (CompositeFilter.watched config.protocol).accepts path = true ↔
        path.isEditorScratch = false ∧ config.protocol.matchesExtension path = true) ↔
      Text.trim config.protocol.fileExtension.toList = config.protocol.fileExtension.toList ∨
        '.' ∈ config.protocol.fileExtension.toList ∨ '/' ∈ config.protocol.fileExtension.toList) ∧
    ∀ (tree : FileTree) (root : Path) (dir : Location) (name : String) (content : ByteArray)
        (access : Access) (dryRun : Bool),
      tree.ListsFrom root dir → tree.get? (dir ++ [.text name]) = some (.file content access) →
      ((root.child name).isEditorScratch = false ∧
          config.protocol.matchesExtension (root.child name) = true ↔
        root.child name ∈ tree.list root ∧
          ((Validator.mk config.protocol dryRun).visit tree (root.child name)).1.result ≠
            .ok (.skipped .extension)) := by
  constructor
  · rw [← Path.hasExtension_trim_iff]
    refine forall_congr' fun path => ?_
    rw [CompositeFilter.accepts_watched_iff, Protocol.matchesExtension, and_congr_right_iff]
    exact imp_congr_right fun _ => Bool.eq_iff_iff.symm
  · intro tree root dir name content access dryRun hlists hfile
    exact (FileTree.listed_and_not_skipped_iff hlists hfile ⟨config.protocol, dryRun⟩).symm

/-- A configuration with a blank in front of its extension. -/
def blankConfig : Config := { protocol := { fileExtension := " cs" } }

/-- The configuration is usable, the watch takes a file with the extension, and a batch skips it. -/
theorem watch_takes_file_that_batch_skips :
    blankConfig.check = .ok () ∧
      (CompositeFilter.watched blankConfig.protocol).accepts ⟨"a.cs"⟩ = true ∧
      Path.isEditorScratch ⟨"a.cs"⟩ = false ∧
      blankConfig.protocol.matchesExtension ⟨"a.cs"⟩ = false := by
  decide

end RegionSync
