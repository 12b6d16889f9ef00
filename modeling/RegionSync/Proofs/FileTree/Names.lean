import RegionSync.Proofs.Listing

set_option autoImplicit false

/-! # The names in a directory lead to different files

A listed path is the root with a name behind it. Following it means following the root and then
entering the directory under the name (`eq_of_resolve_child`), so different names lead to different
locations. This takes that names are names: not empty, without a slash, and neither `.` nor `..`.
-/

namespace RegionSync

/-- Whether a name can stand in a directory. -/
def EntryName.IsProper : EntryName → Prop
  | text name => name ≠ "" ∧ name ≠ "." ∧ name ≠ ".." ∧ '/' ∉ name.toList
  | raw _ => True

instance : DecidablePred EntryName.IsProper
  | .text name =>
    inferInstanceAs (Decidable (name ≠ "" ∧ name ≠ "." ∧ name ≠ ".." ∧ '/' ∉ name.toList))
  | .raw _ => inferInstanceAs (Decidable True)

namespace EntryName.IsProper

variable {name : String}

theorem toList_ne (hproper : (EntryName.text name).IsProper) :
    name.toList ≠ [] ∧ name.toList ≠ ['.'] ∧ name.toList ≠ ['.', '.'] := by
  obtain ⟨hnonempty, hdot, hdots, -⟩ := hproper
  refine ⟨?_, ?_, ?_⟩
  · intro hname
    exact hnonempty (String.toList_eq_nil_iff.mp hname)
  · intro hname
    exact hdot (String.toList_inj.mp hname)
  · intro hname
    exact hdots (String.toList_inj.mp hname)

theorem ofSegment? (hproper : (EntryName.text name).IsProper) :
    PathStep.ofSegment? name.toList = some (.enter (.text name)) := by
  obtain ⟨hnonempty, hdot, hdots⟩ := hproper.toList_ne
  rw [PathStep.ofSegment?, if_neg hnonempty, if_neg hdot, if_neg hdots, String.ofList_toList]

theorem component? (hproper : (EntryName.text name).IsProper) :
    Path.component? name.toList = some (.name name) := by
  obtain ⟨hnonempty, hdot, hdots⟩ := hproper.toList_ne
  rw [Path.component?, if_neg (by simp [hnonempty, hdot]), if_neg hdots, String.ofList_toList]

end EntryName.IsProper

/-! ## The path of an entry -/

namespace Path

theorem segmentsFrom_append_slash (segment front back : List Char) :
    segmentsFrom segment (front ++ '/' :: back) = segmentsFrom segment front ++ segments back := by
  induction front generalizing segment with
  | nil => simp [segmentsFrom, segments]
  | cons c front ih =>
      rw [List.cons_append, segmentsFrom, segmentsFrom]
      by_cases hc : c = '/'
      · rw [if_pos hc, if_pos hc, ih, List.cons_append]
      · rw [if_neg hc, if_neg hc, ih]

theorem segments_append_slash (front back : List Char) :
    segments (front ++ '/' :: back) = segments front ++ segments back :=
  segmentsFrom_append_slash [] front back

theorem segmentsFrom_of_not_mem {text : List Char} (h : '/' ∉ text) (segment : List Char) :
    segmentsFrom segment text = [segment.reverse ++ text] := by
  induction text generalizing segment with
  | nil => simp [segmentsFrom]
  | cons c text ih =>
      have hc : c ≠ '/' := fun hc => h (by simp [hc])
      have htext : '/' ∉ text := fun hm => h (by simp [hm])
      rw [segmentsFrom, if_neg hc, ih htext]
      simp

theorem segments_of_not_mem {text : List Char} (h : '/' ∉ text) : segments text = [text] :=
  segmentsFrom_of_not_mem h []

variable {root : Path} {name : String}

/-- A root that is not empty is followed by a slash and the name; a slash that it ends in is not
doubled. -/
theorem exists_base_child (root : Path) (h : root.text ≠ "") (name : String) :
    ∃ base : List Char, (root.child name).text.toList = base ++ '/' :: name.toList ∧
      ((root.text.toList = base ∧ Text.endsWith ['/'] base = false ∧ base ≠ []) ∨
        root.text.toList = base ++ ['/']) := by
  have hempty : root.text.isEmpty = false := by simpa using h
  cases hslash : Text.endsWith ['/'] root.text.toList with
  | true =>
      obtain ⟨base, hbase⟩ := List.isSuffixOf_iff_suffix.mp hslash
      refine ⟨base, ?_, .inr hbase.symm⟩
      rw [child, hempty, hslash]
      simp [← hbase]
  | false =>
      refine ⟨root.text.toList, ?_, .inl ⟨rfl, hslash, ?_⟩⟩
      · simp [child, hempty, hslash]
      · simpa using h

theorem isAbsolute_child (h : root.text ≠ "") (name : String) :
    (root.child name).isAbsolute = root.isAbsolute := by
  obtain ⟨base, hchild, ⟨hroot, -, hne⟩ | hroot⟩ := exists_base_child root h name
  · unfold isAbsolute
    rw [hchild, hroot]
    cases base with
    | nil => exact absurd rfl hne
    | cons c base => simp [Text.startsWith, List.isPrefixOf]
  · unfold isAbsolute
    rw [hchild, hroot]
    cases base with
    | nil => simp [Text.startsWith]
    | cons c base => simp [Text.startsWith, List.isPrefixOf]

/-- The steps to an entry are those to the directory, less a slash at the end, and then one step into
the entry. -/
theorem exists_steps_child (h : root.text ≠ "") (hproper : (EntryName.text name).IsProper) :
    ∃ steps, (root.child name).steps = steps ++ [.enter (.text name)] ∧
      (root.steps = steps ∨ root.steps = steps ++ [.slash]) := by
  obtain ⟨base, hchild, hroot⟩ := exists_base_child root h name
  have hend : Text.endsWith ['/'] (base ++ '/' :: name.toList) = false := by
    rw [Bool.eq_false_iff]
    intro hslash
    obtain ⟨front, hfront⟩ := List.isSuffixOf_iff_suffix.mp hslash
    rcases List.eq_nil_or_concat name.toList with hnil | ⟨init, c, hname⟩
    · exact hproper.1 (String.toList_eq_nil_iff.mp hnil)
    · -- the last character of the name would be a slash
      rw [hname, List.concat_eq_append, ← List.cons_append, ← List.append_assoc] at hfront
      obtain ⟨-, hc⟩ := List.append_inj' hfront rfl
      apply hproper.2.2.2
      rw [hname, ← List.singleton_inj.mp hc]
      simp
  refine ⟨(segments base).filterMap PathStep.ofSegment?, ?_, ?_⟩
  · rw [steps]
    simp [hchild, hend, segments_append_slash, segments_of_not_mem hproper.2.2.2,
      hproper.ofSegment?]
  · rcases hroot with ⟨hroot, hplain, -⟩ | hroot
    · left
      simp [steps, hroot, hplain]
    · right
      have hslash : Text.endsWith ['/'] (base ++ ['/']) = true :=
        List.isSuffixOf_iff_suffix.mpr (List.suffix_append _ _)
      have hsegments : segments (base ++ ['/']) = segments base ++ [[]] :=
        segments_append_slash base []
      simp [steps, hroot, hslash, hsegments, PathStep.ofSegment?]

/-- The last component of the path of an entry is its name. -/
theorem fileName?_child (h : root.text ≠ "") (hproper : (EntryName.text name).IsProper) :
    (root.child name).fileName? = some name := by
  obtain ⟨base, hchild, -⟩ := exists_base_child root h name
  have hparts : segments (root.child name).text.toList = segments base ++ [name.toList] := by
    rw [hchild, segments_append_slash, segments_of_not_mem hproper.2.2.2]
  simp [fileName?, components, hparts, hproper.component?]

end Path

namespace FileTree

/-! ## Following a root and then a name -/

variable {tree : FileTree} {here dir location : Location} {steps : List PathStep} {links : Nat}
variable {root : Path} {name : EntryName}

/-- Steps that are followed one after the other: the second part starts where the first part ends,
or stays behind what a link leads to. -/
theorem walk_append (tree : FileTree) (here : Location) (front back : List PathStep) :
    tree.walk true here (front ++ back) =
      match tree.walk true here front with
      | .arrived location => tree.walk true location back
      | .link dir target rest => .link dir target (rest ++ back)
      | .failed error => .failed error := by
  induction front generalizing here with
  | nil => rfl
  | cons step front ih =>
      rw [List.cons_append]
      cases hfound : tree.get? here with
      | none => simp only [walk, hfound]
      | some entry =>
          cases entry with
          | file content access => simp only [walk, hfound]
          | link target => simp only [walk, hfound]
          | directory access =>
              by_cases hclosed : step ≠ .slash ∧ (!access.search) = true
              · simp only [walk, hfound, if_pos hclosed]
              · cases step with
                | stay => simp only [walk, hfound, if_neg hclosed, ih]
                | slash => simp only [walk, hfound, if_neg hclosed, ih]
                | up => simp only [walk, hfound, if_neg hclosed, ih]
                | enter name =>
                    have hsearch : access.search = true := by simpa using hclosed
                    by_cases hlong : maxName < name.size
                    · simp [walk, hfound, hsearch, hlong]
                    · cases hthere : tree.get? (here ++ [name]) with
                      | some entry =>
                          cases entry with
                          | file content access' => simp [walk, hfound, hsearch, hlong, hthere, ih]
                          | directory access' => simp [walk, hfound, hsearch, hlong, hthere, ih]
                          | link target => simp [walk, hfound, hsearch, hlong, hthere]
                      | none =>
                          -- nothing is there: the steps may end here but not go on
                          cases front with
                          | nil =>
                              cases back with
                              | nil => simp [walk, hfound, hsearch, hlong, hthere]
                              | cons next back => simp [walk, hfound, hsearch, hlong, hthere]
                          | cons next front => simp [walk, hfound, hsearch, hlong, hthere]

/-- Whoever arrives by two stretches has arrived by the first, and goes on by the second with the
links that are left. -/
theorem exists_follow_of_append {back : List PathStep}
    (hleads : tree.follow true links here (steps ++ back) = .ok location) :
    ∃ dir left, tree.follow true links here steps = .ok dir ∧
      tree.follow true left dir back = .ok location := by
  induction links generalizing here steps with
  | zero =>
      unfold follow at hleads
      rw [walk_append] at hleads
      cases hstretch : tree.walk true here steps with
      | arrived dir =>
          rw [hstretch] at hleads
          exact ⟨dir, 0, by simp only [follow, hstretch], by unfold follow; exact hleads⟩
      | link dir target rest =>
          rw [hstretch] at hleads
          cases hleads
      | failed error =>
          rw [hstretch] at hleads
          cases hleads
  | succ links ih =>
      unfold follow at hleads
      rw [walk_append] at hleads
      cases hstretch : tree.walk true here steps with
      | arrived dir =>
          rw [hstretch] at hleads
          exact ⟨dir, links + 1, by simp only [follow, hstretch], by unfold follow; exact hleads⟩
      | link dir target rest =>
          simp only [hstretch, ← List.append_assoc] at hleads
          obtain ⟨dir', left, hfirst, hsecond⟩ := ih hleads
          refine ⟨dir', left, ?_, hsecond⟩
          unfold follow
          simp only [hstretch]
          exact hfirst
      | failed error =>
          rw [hstretch] at hleads
          cases hleads

/-- A slash at the end leads no further. -/
theorem eq_of_follow_slash (hleads : tree.follow true links dir [.slash] = .ok location) :
    location = dir := by
  unfold follow at hleads
  cases hfound : tree.get? dir with
  | none => simp [walk, hfound] at hleads
  | some entry =>
      cases entry with
      | file content access => simp [walk, hfound] at hleads
      | link target => simp [walk, hfound] at hleads
      | directory access =>
          simp only [walk, hfound, ne_eq, not_true_eq_false, false_and, if_false] at hleads
          exact (Except.ok.inj hleads).symm

/-- The name of a file leads to the file. -/
theorem eq_of_follow_enter (hleads : tree.follow true links dir [.enter name] = .ok location)
    {content : ByteArray} {access : Access}
    (hfile : tree.get? (dir ++ [name]) = some (.file content access)) :
    location = dir ++ [name] := by
  obtain ⟨access', hfound, hopened⟩ :=
    exists_directory_of_walk_cons (walk_ne_failed_of_follow hleads)
  have hsearch : access'.search = true := by simpa using hopened
  have hshort : ¬ maxName < name.size := by
    intro hlong
    exact walk_ne_failed_of_follow hleads .nameTooLong (by simp [walk, hfound, hsearch, hlong])
  unfold follow at hleads
  simp only [walk, hfound, hsearch, hshort, hfile] at hleads
  exact (Except.ok.inj hleads).symm

theorem follow_of_resolve {path : Path} (hleads : tree.resolve path = .ok location) :
    path.text ≠ "" ∧
      tree.follow true maxLinks (origin tree.workingDir path) path.steps = .ok location := by
  unfold resolve locate at hleads
  split_ifs at hleads with hempty
  exact ⟨hempty, hleads⟩

/-- **The path of a listed file leads to the entry of that name,** if it leads anywhere. -/
theorem eq_of_resolve_child {label : String} (hproper : (EntryName.text label).IsProper)
    (hleads : tree.resolve root = .ok dir) {content : ByteArray} {access : Access}
    (hfile : tree.get? (dir ++ [.text label]) = some (.file content access))
    (harrives : tree.resolve (root.child label) = .ok location) :
    location = dir ++ [.text label] := by
  obtain ⟨hnamed, htoRoot⟩ := follow_of_resolve hleads
  obtain ⟨-, htoChild⟩ := follow_of_resolve harrives
  obtain ⟨steps, hchild, hroot⟩ := Path.exists_steps_child hnamed hproper
  have horigin : origin tree.workingDir (root.child label) = origin tree.workingDir root := by
    simp only [origin, Path.isAbsolute_child hnamed]
  rw [hchild, horigin] at htoChild
  obtain ⟨dir', left, hfirst, hsecond⟩ := exists_follow_of_append htoChild
  obtain rfl : dir = dir' := by
    rcases hroot with hroot | hroot
    · rw [hroot] at htoRoot
      exact Except.ok.inj (htoRoot.symm.trans hfirst)
    · rw [hroot] at htoRoot
      obtain ⟨dir'', left', hfirst', hsecond'⟩ := exists_follow_of_append htoRoot
      rw [eq_of_follow_slash hsecond']
      exact Except.ok.inj (hfirst'.symm.trans hfirst)
  exact eq_of_follow_enter hsecond hfile

/-! ## Listings -/

/-- Every name in a tree is one that can stand in a directory. -/
def ProperlyNamed (tree : FileTree) : Prop :=
  ∀ location entry, tree.get? location = some entry → ∀ name ∈ location, name.IsProper

theorem properlyNamed_of_entries
    (hproper : ∀ item ∈ tree.entries, ∀ name ∈ item.1, name.IsProper) : tree.ProperlyNamed := by
  intro location entry hfound name hmem
  unfold get? at hfound
  split_ifs at hfound with htop
  · rw [htop] at hmem
    cases hmem
  · obtain ⟨front, back, hsplit, -⟩ := List.lookup_eq_some_iff.mp hfound
    exact hproper (location, entry) (by simp [hsplit]) name hmem

/-- No two files of a listing are one: their paths are not spellings of one path, and they do not
lead to one location. -/
def ListsApart (tree : FileTree) (root : Path) : Prop :=
  (tree.list root).Pairwise fun path other => path.same other = false ∧
    ∀ location, tree.resolve path = .ok location → tree.resolve other ≠ .ok location

/-- **No two listed names denote the same file.** -/
theorem ProperlyNamed.listsApart (hnamed : tree.ProperlyNamed) (root : Path) :
    tree.ListsApart root := by
  refine (tree.nodup_list root).imp_of_mem ?_
  intro path other hmem hmem' hdiffer
  obtain ⟨dir, label, content, access, hlists, hfile, -, rfl⟩ := mem_list_iff.mp hmem
  obtain ⟨dir', label', content', access', hlists', hfile', -, rfl⟩ := mem_list_iff.mp hmem'
  obtain rfl : dir = dir' := Except.ok.inj (hlists.2.1.symm.trans hlists'.2.1)
  have hproper : (EntryName.text label).IsProper := hnamed _ _ hfile _ (by simp)
  have hproper' : (EntryName.text label').IsProper := hnamed _ _ hfile' _ (by simp)
  have hnonempty := (follow_of_resolve hlists.2.1).1
  have hlabels : label ≠ label' := fun hsame => hdiffer (by rw [hsame])
  refine ⟨?_, ?_⟩
  · rw [Bool.eq_false_iff]
    intro hsame
    have hcomponents : (root.child label).components = (root.child label').components := by
      simpa [Path.same] using hsame
    have hnames : (root.child label).fileName? = (root.child label').fileName? := by
      simp only [Path.fileName?, hcomponents]
    rw [Path.fileName?_child hnonempty hproper, Path.fileName?_child hnonempty hproper'] at hnames
    exact hlabels (Option.some.inj hnames)
  · intro location hleads hleads'
    have hfirst := eq_of_resolve_child hproper hlists.2.1 hfile hleads
    have hsecond := eq_of_resolve_child hproper' hlists.2.1 hfile' hleads'
    have hnames := List.append_cancel_left (hfirst.symm.trans hsecond)
    simp only [List.cons.injEq, EntryName.text.injEq, and_true] at hnames
    exact hlabels hnames

end FileTree

end RegionSync
