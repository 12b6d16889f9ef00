import RegionSync.FileTree
import RegionSync.IoError

set_option autoImplicit false

/-! # Finding the location of a path

A path is followed step by step from the working directory or the root. Every place it goes
through must be a directory that may be searched; a link is replaced by the steps of its target,
at most forty times. The last step may lead to a location where nothing stands yet. A name has
255 bytes at most and a path has less than 4096. The steps keep every `.`, and a path that ends
in a slash leads to a directory only.
-/

namespace RegionSync

/-- One step of a path that is followed. -/
inductive PathStep where
  | stay
  | up
  | enter (name : EntryName)
  /-- A slash at the end. -/
  | slash
deriving DecidableEq

/-- The step that a segment of a path stands for, if it is not empty. -/
def PathStep.ofSegment? (segment : List Char) : Option PathStep :=
  if segment = [] then none
  else if segment = ['.'] then some .stay
  else if segment = ['.', '.'] then some .up
  else some (.enter (.text (String.ofList segment)))

/-- The steps of a path, after the root if it starts there. -/
def Path.steps (path : Path) : List PathStep :=
  let chars := path.text.toList
  (Path.segments chars).filterMap PathStep.ofSegment? ++
    if Text.endsWith ['/'] chars then [.slash] else []

namespace FileTree

/-- How far a path can be followed without following a link. -/
inductive Stretch where
  /-- To its end. -/
  | arrived (location : Location)
  /-- To a link in `dir`, with `rest` to go after it. -/
  | link (dir : Location) (target : String) (rest : List PathStep)
  | failed (error : IoError)

/-- The number of bytes that a name may have. -/
def maxName : Nat := 255

/-- Follows steps from a place up to their end or to a link. A link at the very end is followed
only if `followLast` says so. -/
def walk (tree : FileTree) (followLast : Bool) : Location → List PathStep → Stretch
  | here, [] => .arrived here
  | here, step :: rest =>
    match tree.get? here with
    | none => .failed .notFound
    | some (.directory access) =>
      if step ≠ .slash ∧ !access.search then .failed .denied
      else match step with
      | .stay | .slash => walk tree followLast here rest
      | .up => walk tree followLast here.dropLast rest
      | .enter name =>
        if maxName < name.size then .failed .nameTooLong
        else match tree.get? (here ++ [name]) with
        | none => if rest.isEmpty then .arrived (here ++ [name]) else .failed .notFound
        | some (.link target) =>
          if rest.isEmpty && !followLast then .arrived (here ++ [name])
          else .link here target rest
        | some _ => walk tree followLast (here ++ [name]) rest
    | some _ => .failed .notADirectory

/-- Where the steps of a path start. -/
def origin (here : Location) (path : Path) : Location := if path.isAbsolute then [] else here

/-- Follows steps from a place, with a number of links that may be followed. -/
def follow (tree : FileTree) (followLast : Bool) :
    Nat → Location → List PathStep → Except IoError Location
  | links, here, steps =>
    match tree.walk followLast here steps with
    | .arrived location => .ok location
    | .failed error => .error error
    | .link dir target rest =>
      match links with
      | 0 => .error .tooManyLinks
      | links + 1 =>
        follow tree followLast links (origin dir ⟨target⟩) (Path.steps ⟨target⟩ ++ rest)

/-- How many links may be followed on the way to one location. -/
def maxLinks : Nat := 40

/-- The number of bytes that no path reaches. -/
def pathLimit : Nat := 4096

/-- The location that a path leads to. -/
def locate (tree : FileTree) (path : Path) (followLast : Bool) : Except IoError Location :=
  if path.text = "" then .error .notFound
  else if path.text.toList.contains '\x00' then .error .badName
  else if pathLimit ≤ path.text.utf8ByteSize then .error .nameTooLong
  else tree.follow followLast maxLinks (origin tree.workingDir path) path.steps

/-- The location that a path leads to, links followed. -/
def resolve (tree : FileTree) (path : Path) : Except IoError Location := tree.locate path true

/-! ## Reading and writing -/

/-- The entry that a path leads to. -/
def entry? (tree : FileTree) (path : Path) : Option Entry :=
  match tree.resolve path with
  | .ok location => tree.get? location
  | .error _ => none

/-- Whether a path leads to anything. -/
def pathExists (tree : FileTree) (path : Path) : Bool := (tree.entry? path).isSome

/-- Whether a path leads to a directory. -/
def isDirectory (tree : FileTree) (path : Path) : Bool := (tree.entry? path).any Entry.isDirectory

/-- The bytes of the file that a path leads to. -/
def read (tree : FileTree) (path : Path) : Except IoError ByteArray :=
  match tree.resolve path with
  | .error error => .error error
  | .ok location =>
    match tree.get? location with
    | some (.file content access) => if access.read then .ok content else .error .denied
    | some (.directory access) => .error (if access.read then .isADirectory else .denied)
    | some (.link _) => .error .tooManyLinks
    | none => .error .notFound

/-- The text of the file that a path leads to. -/
def readText (tree : FileTree) (path : Path) : Except IoError String :=
  match tree.read path with
  | .error error => .error error
  | .ok bytes =>
    match Text.decode? bytes with
    | some text => .ok text
    | none => .error .notText

/-- Gives the file at a location a content that may depend on the old one. A file that is not there is
made. -/
def store (tree : FileTree) (location : Location) (content : Option ByteArray → ByteArray) :
    Except IoError FileTree :=
  match tree.get? location with
  | some (.file old access) =>
    if access.write then .ok (tree.set location (.file (content (some old)) access))
    else .error .denied
  | some (.directory _) => .error .isADirectory
  | some (.link _) => .error .tooManyLinks
  | none =>
    if tree.mayChange location.dropLast then .ok (tree.set location (.file (content none) {}))
    else .error .denied

/-- Gives the file that a path leads to a new content. -/
def write (tree : FileTree) (path : Path) (content : ByteArray) : Except IoError FileTree :=
  match tree.resolve path with
  | .error error => .error error
  | .ok location => tree.store location fun _ => content

end FileTree

end RegionSync
