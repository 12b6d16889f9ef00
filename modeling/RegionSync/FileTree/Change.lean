import RegionSync.FileTree.Resolve

set_option autoImplicit false

/-! # Changes made by others

What editors and other programs do to a file tree while it is watched. A change that names a
place below missing directories makes these first. A change that cannot be made leaves the tree
alone. Of all changes only some modify the content of a file: giving an existing file a content,
giving a new one a content that is not empty, and adding something to a file.
-/

namespace RegionSync

/-- A change to a file tree. A place is given by steps from the working directory. -/
inductive Change where
  /-- Gives a file a content. -/
  | write (place : List PathStep) (content : ByteArray)
  /-- Adds to the content of a file. -/
  | append (place : List PathStep) (content : ByteArray)
  /-- Makes a directory. -/
  | makeDirectory (place : List PathStep)
  /-- Makes a link. -/
  | link (place : List PathStep) (target : String)
  /-- Removes a file, or a directory with everything in it. -/
  | remove (place : List PathStep)
  /-- Moves a file or a directory. -/
  | rename (place destination : List PathStep)
  /-- Says what may be done with a file or a directory. -/
  | permit (place : List PathStep) (access : Access)

namespace Change

/-- The segments of `segment.reverse ++ bytes` between slashes, where `segment` is the segment being
read, its newest byte first. -/
def segmentsFrom : List UInt8 → List UInt8 → List (List UInt8)
  | segment, [] => [segment.reverse]
  | segment, byte :: bytes =>
    if byte = 47 then segment.reverse :: segmentsFrom [] bytes
    else segmentsFrom (byte :: segment) bytes

/-- The steps of a path that is given as bytes. -/
def placeOfBytes (bytes : ByteArray) : List PathStep :=
  let steps := (segmentsFrom [] bytes.toList).filterMap fun segment =>
    match EntryName.ofBytes ⟨segment.toArray⟩ with
    | .text name => PathStep.ofSegment? name.toList
    | .raw bytes => some (.enter (.raw bytes))
  if !steps.isEmpty && bytes.toList.getLast? = some 47 then steps ++ [.slash] else steps

/-- Whether a place ends in a slash. -/
def endsInSlash (place : List PathStep) : Bool := place.getLast? == some .slash

/-- A place without the slash at its end. -/
def bare (place : List PathStep) : List PathStep :=
  if endsInSlash place then place.dropLast else place

/-- Whether a place can be spelled: no name holds the character that ends a path. -/
def isSpelled (place : List PathStep) : Bool :=
  place.all fun step => match step with
    | .enter (.text name) => !name.toList.contains '\x00'
    | .enter (.raw bytes) => !bytes.toList.contains 0
    | _ => true

end Change

namespace FileTree

/-- The location that steps from the working directory lead to. -/
def locateSteps (tree : FileTree) (followLast : Bool) (place : List PathStep) :
    Except IoError Location :=
  tree.follow followLast maxLinks tree.workingDir place

/-- Puts a new entry at a location. -/
def add (tree : FileTree) (location : Location) (entry : Entry) : Except IoError FileTree :=
  if (tree.get? location).isSome then .error .alreadyExists
  else if tree.mayChange location.dropLast then .ok (tree.set location entry)
  else .error .denied

/-- Makes the directory at a place, if there is none. The directories above it are there. -/
def makeDirectory (tree : FileTree) (place : List PathStep) : Except IoError FileTree := do
  let location ← tree.locateSteps false place
  match tree.add location (.directory {}) with
  | .error .alreadyExists =>
    let target ← tree.locateSteps true place
    if tree.hasDirectory target then .ok tree else .error .alreadyExists
  | made => made

/-- Whether anything stands at the end of a place. -/
def leadsSomewhere (tree : FileTree) (place : List PathStep) : Bool :=
  match tree.locateSteps true place with
  | .ok location => (tree.get? location).isSome
  | .error _ => false

/-- Makes the directory at a place and those above it, as far as they are missing. -/
def makeDirectories (tree : FileTree) (place : List PathStep) : Except IoError FileTree :=
  (List.range place.length).foldlM
    (fun tree n =>
      let part := place.take (n + 1)
      match tree.makeDirectory part with
      | .error .alreadyExists =>
        .error (if n + 1 < place.length && tree.leadsSomewhere part then .notADirectory
          else .alreadyExists)
      | made => made)
    tree

/-- Gives the file at a place a content that may depend on the old one. -/
def modify (tree : FileTree) (place : List PathStep) (content : Option ByteArray → ByteArray) :
    Except IoError FileTree := do
  let tree ← tree.makeDirectories (Change.bare place).dropLast
  if Change.endsInSlash place then .error .isADirectory
  else
    let location ← tree.locateSteps true place
    tree.store location content

/-- Whether a directory can be removed with everything in it. -/
def mayEmpty (tree : FileTree) (location : Location) : Bool :=
  tree.locations.all fun place =>
    !location.isPrefixOf place || match tree.get? place with
      | some (.directory access) =>
        access.read && ((tree.children place).isEmpty || tree.mayChange place)
      | _ => true

/-- Moves everything at or below a location. -/
def move (tree : FileTree) (source destination : Location) : FileTree :=
  let moved := tree.entries.filterMap fun item =>
    if source.isPrefixOf item.1 then some (destination ++ item.1.drop source.length, item.2)
    else none
  let rest := (tree.erase source).erase destination
  { rest with entries := moved ++ rest.entries }

/-- Moves what stands at a location. A directory takes the place of an empty directory only, and
anything else that of anything but a directory. A directory knows the one around it, so it must
be writable to get into another one. -/
def rename (tree : FileTree) (source destination : Location) : Except IoError FileTree :=
  match tree.get? source with
  | none => .error .notFound
  | some entry =>
    if source = destination then .ok tree
    else if source.isPrefixOf destination then .error .invalid
    else if destination.isPrefixOf source then .error .notEmpty
    else if !(tree.mayChange source.dropLast && tree.mayChange destination.dropLast) then
      .error .denied
    else
      let stays := source.dropLast = destination.dropLast
      let moved : Except IoError FileTree := match entry with
        | .directory access =>
          if stays || access.write then .ok (tree.move source destination) else .error .denied
        | _ => .ok (tree.move source destination)
      match entry.isDirectory, tree.get? destination with
      | _, none => moved
      | true, some target =>
        if !target.isDirectory then .error .notADirectory
        else if (tree.children destination).isEmpty then moved
        else .error .notEmpty
      | false, some target => if target.isDirectory then .error .isADirectory else moved

end FileTree

namespace Change

/-- The places that a change names. -/
def places : Change → List (List PathStep)
  | write place _ | append place _ | makeDirectory place | link place _ | remove place
  | permit place _ => [place]
  | rename place destination => [place, destination]

/-- Makes a change whose places can be spelled. -/
def performSpelled (tree : FileTree) : Change → Except IoError FileTree
  | write place content => tree.modify place fun _ => content
  | append place content => tree.modify place fun old => old.getD ByteArray.empty ++ content
  | makeDirectory place => tree.makeDirectories (bare place)
  | link place target => do
    let tree ← tree.makeDirectories (bare place).dropLast
    let location ← tree.locateSteps false (bare place)
    if target = "" || (tree.get? location).isNone && endsInSlash place then .error .notFound
    else tree.add location (.link target)
  | remove place => do
    let location ← tree.locateSteps false place
    if (tree.get? location).isNone then .error .notFound
    else if tree.mayChange location.dropLast && tree.mayEmpty location then
      .ok (tree.erase location)
    else .error .denied
  | rename place destination => do
    let source ← tree.locateSteps false place
    let target ← tree.locateSteps false (bare destination)
    if endsInSlash destination && (tree.get? source).any (!·.isDirectory) then
      .error .notADirectory
    else tree.rename source target
  | permit place access => do
    let location ← tree.locateSteps true place
    match tree.get? location with
    | none => .error .notFound
    | some (.file content _) => .ok (tree.set location (.file content access))
    | some (.directory _) => .ok (tree.set location (.directory access))
    | some (.link _) => .ok tree

/-- Makes a change. -/
def perform (tree : FileTree) (change : Change) : Except IoError FileTree :=
  if change.places.all isSpelled then change.performSpelled tree else .error .badName

/-- The tree after a change. -/
def apply (tree : FileTree) (change : Change) : FileTree :=
  match change.perform tree with
  | .ok after => after
  | .error _ => tree

/-- The location whose content a change modifies, if it modifies one. The change has been made when
its location is looked up, since it may make directories. -/
def modified? (tree : FileTree) (change : Change) : Option Location :=
  match change.perform tree with
  | .error _ => none
  | .ok after =>
    let located (place : List PathStep) : Option Location :=
      (after.locateSteps true place).toOption
    match change with
    | write place content =>
      (located place).filter fun location => (tree.get? location).isSome || !content.isEmpty
    | append place content => (located place).filter fun _ => !content.isEmpty
    | _ => none

end Change

end RegionSync
