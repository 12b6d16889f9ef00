import RegionSync.Text.Affix
import RegionSync.Text.Blank

set_option autoImplicit false

/-! # Paths

A path is a text; what it names is given by its *components*. It is cut at slashes, a leading
slash is the root, empty segments and every `.` but a leading one vanish, and `..` stays. Two
spellings with equal components are the same path (`Path.same`), and the queue of the watcher
identifies paths that way.
-/

namespace RegionSync

/-! ## Components -/

/-- One step of a path. -/
inductive Component where
  /-- The root directory, at the front of an absolute path. -/
  | root
  /-- The directory itself, at the front of a path such as `./a`. -/
  | here
  /-- The parent directory. -/
  | up
  /-- An entry of a directory. -/
  | name (text : String)
deriving DecidableEq

/-- A path as it is spelled. -/
structure Path where
  text : String
deriving DecidableEq

namespace Path

/-- The segments of `segment.reverse ++ text` between slashes, where `segment` is the segment being
read, its newest character first. -/
def segmentsFrom : List Char → List Char → List (List Char)
  | segment, [] => [segment.reverse]
  | segment, c :: text =>
    if c = '/' then segment.reverse :: segmentsFrom [] text else segmentsFrom (c :: segment) text

/-- The segments of a text between slashes; there is always one. -/
def segments (text : List Char) : List (List Char) := segmentsFrom [] text

/-- The component that a segment stands for, if it is not one that vanishes. -/
def component? (segment : List Char) : Option Component :=
  if segment = [] ∨ segment = ['.'] then none
  else if segment = ['.', '.'] then some .up
  else some (.name (String.ofList segment))

/-- What the front of a path contributes besides its names: the root, or a leading `.`. -/
def anchor : List (List Char) → List Component
  | [] :: _ :: _ => [.root]
  | ['.'] :: _ => [.here]
  | _ => []

/-- The components of a path. -/
def components (path : Path) : List Component :=
  let parts := segments path.text.toList
  anchor parts ++ parts.filterMap component?

/-- Whether a path starts at the root directory. -/
def isAbsolute (path : Path) : Bool := Text.startsWith ['/'] path.text.toList

/-- Whether two spellings name the same path. -/
def same (path other : Path) : Bool := path.components == other.components

/-! ## Names -/

/-- The last component, if it is a name. -/
def fileName? (path : Path) : Option String :=
  match path.components.getLast? with
  | some (.name text) => some text
  | _ => none

/-- What follows the last dot of a file name; there is none if nothing precedes that dot. -/
def extensionOf? (name : String) : Option String :=
  let back := name.toList.reverse
  if ((back.dropWhile (· != '.')).drop 1).isEmpty then none
  else some (String.ofList (back.takeWhile (· != '.')).reverse)

/-- The extension of the file that a path names. -/
def extension? (path : Path) : Option String := path.fileName?.bind extensionOf?

/-- Whether the path's extension, trimmed, is `wanted` up to the case of ASCII letters. -/
def hasExtension (wanted : List Char) (path : Path) : Bool :=
  match path.extension? with
  | some found => Text.foldCase (Text.trim found.toList) == Text.foldCase wanted
  | none => false

/-- Whether an editor made the file for its own use while another one is being edited: such names
start with `#` or `.#`. -/
def isEditorScratch (path : Path) : Bool :=
  match path.fileName? with
  | some name => Text.startsWith ['.', '#'] name.toList || Text.startsWith ['#'] name.toList
  | none => false

/-- The path of the entry `name` of the directory `dir`. -/
def child (dir : Path) (name : String) : Path :=
  if dir.text.isEmpty || Text.endsWith ['/'] dir.text.toList then ⟨dir.text ++ name⟩
  else ⟨dir.text ++ "/" ++ name⟩

example : components ⟨"./a//b/../."⟩ = [.here, .name "a", .name "b", .up] := by decide

example : components ⟨"//"⟩ = [.root] ∧ components ⟨""⟩ = [] ∧ components ⟨"a/"⟩ = [.name "a"] := by
  decide

example : extension? ⟨"a.b.cs"⟩ = some "cs" ∧ extension? ⟨".cs"⟩ = none ∧ extension? ⟨"a."⟩ = some "" := by
  decide

end Path

end RegionSync
