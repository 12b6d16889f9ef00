import RegionSync.Path

set_option autoImplicit false

/-! # The annotation protocol

The strings by which a source file takes part: the extension of annotated files, the marker at
the front of their first line, the marker above each generated region, and the two attributes
that announce a declaration.
-/

namespace RegionSync

/-- The strings that mark an annotated file and its parts. -/
structure Protocol where
  /-- The extension of annotated files, without its dot. -/
  fileExtension : String := "cs"
  /-- What the first line of an annotated file starts with. -/
  headerMarker : String := "// META_PROGRAM: react.godot script."
  /-- What the line above a generated region starts with. -/
  generatedMarker : String := "// Don't edit! Generated by meta programming."
  /-- The line above the declaration of a state. -/
  stateAttribute : String := "[ReactState]"
  /-- The line above the declaration of a prop. -/
  propAttribute : String := "[ReactProp]"
deriving DecidableEq

/-- Whether the path has the extension of annotated files. The configured extension is compared as
it stands, the path's extension trimmed. -/
def Protocol.matchesExtension (protocol : Protocol) (path : Path) : Bool :=
  path.hasExtension protocol.fileExtension.toList

end RegionSync
