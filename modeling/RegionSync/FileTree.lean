import RegionSync.Path
import RegionSync.Text.Utf8

set_option autoImplicit false

/-! # File trees

The state of a file system: an entry for each location, a location being the names from the root
down. A name is a text, or bytes that are not UTF-8. The root is always a directory. Files and
directories can be closed to reading, writing and searching. A tree also knows the working
directory, where relative paths start.
-/

namespace RegionSync

/-- Bytes are compared one by one. -/
instance (priority := high) decidableEqBytes : DecidableEq ByteArray := ByteArray.instDecidableEq

/-- The name of a directory entry. -/
inductive EntryName where
  | text (name : String)
  /-- A name that is not UTF-8. -/
  | raw (bytes : ByteArray)
deriving DecidableEq

/-- The name that bytes spell. -/
def EntryName.ofBytes (bytes : ByteArray) : EntryName :=
  match Text.decode? bytes with
  | some name => .text name
  | none => .raw bytes

/-- The name as it is shown. -/
def EntryName.display : EntryName → String
  | text name => name
  | raw bytes => Text.display bytes

/-- How many bytes a name has. -/
def EntryName.size : EntryName → Nat
  | text name => name.utf8ByteSize
  | raw bytes => bytes.size

/-- The name as a text, if it is one. -/
def EntryName.text? : EntryName → Option String
  | text name => some name
  | raw _ => none

/-- A place in a file tree: the names from the root down. -/
abbrev Location := List EntryName

namespace Location

/-- The path of a location, if all its names are text. -/
def path? (location : Location) : Option Path :=
  match location.mapM EntryName.text? with
  | some names => some ⟨"/" ++ "/".intercalate names⟩
  | none => none

/-- The path of a location as it is shown, without the slash in front. -/
def display (location : Location) : String := "/".intercalate (location.map EntryName.display)

end Location

/-- What may be done with a file or a directory. -/
structure Access where
  /-- Reading a file, or listing a directory. -/
  read : Bool := true
  /-- Writing a file, or adding and removing the entries of a directory. -/
  write : Bool := true
  /-- Going through a directory. -/
  search : Bool := true
deriving DecidableEq

/-- What stands at a location. -/
inductive Entry where
  | file (content : ByteArray) (access : Access)
  | directory (access : Access)
  /-- A link to the path `target`, which starts at the directory that holds the link. -/
  | link (target : String)
deriving DecidableEq

/-- Whether an entry is a directory. -/
def Entry.isDirectory : Entry → Bool
  | directory _ => true
  | _ => false

/-- The state of a file system. -/
structure FileTree where
  /-- The entries below the root. -/
  entries : List (Location × Entry)
  /-- Where relative paths start. -/
  workingDir : Location

namespace FileTree

/-- The entry at a location. -/
def get? (tree : FileTree) (location : Location) : Option Entry :=
  if location = [] then some (.directory {}) else tree.entries.lookup location

/-- Whether a directory stands at a location. -/
def hasDirectory (tree : FileTree) (location : Location) : Bool :=
  (tree.get? location).any Entry.isDirectory

/-- Whether entries may be added to the directory at a location, and removed from it. -/
def mayChange (tree : FileTree) (location : Location) : Bool :=
  match tree.get? location with
  | some (.directory access) => access.write && access.search
  | _ => false

/-- The tree with `entry` at a location. -/
def set (tree : FileTree) (location : Location) (entry : Entry) : FileTree :=
  { tree with entries := (location, entry) :: tree.entries }

/-- The tree without a location and everything below it. -/
def erase (tree : FileTree) (location : Location) : FileTree :=
  { tree with entries := tree.entries.filter fun item => !location.isPrefixOf item.1 }

@[simp] theorem get?_nil (tree : FileTree) : tree.get? [] = some (.directory {}) := by
  simp [get?]

theorem get?_set_self (tree : FileTree) (location : Location) (entry : Entry)
    (h : location ≠ []) : (tree.set location entry).get? location = some entry := by
  simp [get?, set, h]

theorem get?_set_of_ne (tree : FileTree) {location other : Location} (entry : Entry)
    (h : other ≠ location) : (tree.set location entry).get? other = tree.get? other := by
  have hb : (other == location) = false := by simpa using h
  simp [get?, set, List.lookup_cons, hb]

/-- The locations of a tree, each once. -/
def locations (tree : FileTree) : List Location := (tree.entries.map (·.1)).eraseDups

/-- The name of an entry directly in a directory, given its location. -/
def childName? (dir location : Location) : Option EntryName :=
  match location.getLast? with
  | some name => if location = dir ++ [name] then some name else none
  | none => none

/-- The entries directly in a directory, by name. -/
def children (tree : FileTree) (dir : Location) : List (EntryName × Entry) :=
  (tree.entries.filterMap fun item => childName? dir item.1).eraseDups.filterMap fun name =>
    (tree.get? (dir ++ [name])).map (name, ·)

/-- The files below a directory, each with the names that lead to it from there. -/
def filesBelow (tree : FileTree) (dir : Location) : List (Location × ByteArray) :=
  tree.locations.filterMap fun location =>
    if dir.isPrefixOf location then
      match tree.get? location with
      | some (.file content _) => some (location.drop dir.length, content)
      | _ => none
    else none

/-- The content of the file at a location. -/
def content? (tree : FileTree) (location : Location) : Option ByteArray :=
  match tree.get? location with
  | some (.file content _) => some content
  | _ => none

/-- Whether everything at and below a location can be read. -/
def readableBelow (tree : FileTree) (location : Location) : Bool :=
  tree.locations.all fun place =>
    !location.isPrefixOf place || match tree.get? place with
      | some (.file _ access) => access.read
      | some (.directory access) => access.read && access.search
      | _ => true

/-- A tree that holds nothing but its working directory. -/
def empty (workingDir : Location) : FileTree where
  entries := (List.range workingDir.length).map fun n => (workingDir.take (n + 1), .directory {})
  workingDir := workingDir

end FileTree

end RegionSync
