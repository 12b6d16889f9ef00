import RegionSync.FileTree.Resolve
import RegionSync.Log

set_option autoImplicit false

/-! # Listing the files of a directory

A batch works on the regular files directly in its root, in path order. Links, directories,
files with a name that is not text and scratch files of editors are left out; hidden files are
not.
-/

namespace RegionSync

/-! ## The order of paths -/

/-- The position of a kind of component. -/
def Component.rank : Component → Nat
  | root => 0
  | here => 1
  | up => 2
  | name _ => 3

/-- Components are ordered by their kind, and names by their characters. -/
def Component.lt : Component → Component → Bool
  | name a, name b => decide (a < b)
  | a, b => a.rank < b.rank

/-- Paths are ordered by their components. -/
def Path.le (path other : Path) : Bool :=
  !other.components.lex path.components Component.lt

/-! ## The listing -/

/-- What a directory yields when its entries are enumerated. -/
inductive Found where
  /-- The directory itself. -/
  | itself
  | entry (name : EntryName) (entry : Entry)
  /-- An entry that cannot be looked at. -/
  | unreadable (reason : String)

namespace Found

/-- The path of a file that belongs into the listing of `root`. -/
def path? (root : Path) : Found → Option Path
  | entry (.text name) (.file _ _) =>
    let path := root.child name
    if path.isEditorScratch then none else some path
  | _ => none

/-- What is told about an entry that is left out. -/
def notice? (root : Path) : Found → Option LogLine
  | entry (.text name) (.file _ _) =>
    let path := root.child name
    if path.isEditorScratch then
      some ⟨.debug, .listing, "Skipping editor scratch file", [("path", some path.text)]⟩
    else none
  | entry (.raw bytes) (.file _ _) =>
    let path := root.child (EntryName.raw bytes).display
    some ⟨.warn, .listing, "Skipping file with a non-UTF-8 name", [("path", some path.text)]⟩
  | itself | entry _ _ => none
  | unreadable reason =>
    some ⟨.warn, .listing, "Skipping unreadable entry",
      [("root", some root.text), ("error", some reason)]⟩

end Found

/-- The listing of what a root yields. -/
def collect (root : Path) (found : List Found) : List Path :=
  (found.filterMap (Found.path? root)).mergeSort Path.le

/-- Why a directory cannot be listed. -/
inductive ScanError where
  | rootMissing (root : Path)
  | rootNotDirectory (root : Path)
  | other (reason : String)
deriving DecidableEq

/-- The wording of an error. -/
def ScanError.message (error : ScanError) : String :=
  "invalid configuration: " ++ match error with
    | rootMissing root => "root path does not exist: " ++ root.text
    | rootNotDirectory root => "root path is not a directory: " ++ root.text
    | other reason => reason

namespace FileTree

/-- Checks that a root can be listed. -/
def checkScan (tree : FileTree) (root : Path) : Except ScanError Unit :=
  if !tree.pathExists root then .error (.rootMissing root)
  else if !tree.isDirectory root then .error (.rootNotDirectory root)
  else .ok ()

/-- Why the entries of a root cannot be enumerated. -/
def closedReason (root : Path) : String :=
  root.text ++ ": IO error for operation on " ++ root.text ++ ": " ++ IoError.denied.message

/-- What a root yields: itself first, and then its entries. The root `-`, however it is spelled,
stands for the standard input, which has no entries. -/
def enumerate (tree : FileTree) (root : Path) : List Found :=
  .itself ::
    if root.same ⟨"-"⟩ then []
    else
      match tree.resolve root with
      | .error _ => []
      | .ok location =>
        match tree.get? location with
        | some (.directory access) =>
          if access.read then (tree.children location).map fun child => .entry child.1 child.2
          else [.unreadable (closedReason root)]
        | _ => []

/-- The files of a root that can be listed. -/
def list (tree : FileTree) (root : Path) : List Path := collect root (tree.enumerate root)

end FileTree

end RegionSync
