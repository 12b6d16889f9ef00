import RegionSync.Protocol

set_option autoImplicit false

/-! # Filters on paths

A filter says which files are of interest to the watcher. Filters are combined by asking all of
them.
-/

namespace RegionSync

/-- Says whether a path is of interest. -/
abbrev PathFilter := Path → Bool

namespace PathFilter

/-- Takes every path. -/
def acceptAll : PathFilter := fun _ => true

/-- Takes every path but scratch files of editors. -/
def notScratch : PathFilter := fun path => !path.isEditorScratch

/-- Takes the paths with one of the given extensions, which are trimmed first. -/
def extensions (wanted : List String) : PathFilter := fun path =>
  wanted.any fun wanted => path.hasExtension (Text.trim wanted.toList)

/-- Takes the paths with the extension of annotated files. -/
def ofProtocol (protocol : Protocol) : PathFilter := extensions [protocol.fileExtension]

end PathFilter

/-- Filters that are asked together. -/
structure CompositeFilter where
  filters : List PathFilter := []

namespace CompositeFilter

/-- Asks one more filter. -/
def and (composite : CompositeFilter) (filter : PathFilter) : CompositeFilter :=
  ⟨composite.filters ++ [filter]⟩

/-- Whether every filter takes the path. -/
def accepts (composite : CompositeFilter) : PathFilter := fun path =>
  composite.filters.all fun filter => filter path

/-- The composite as it is shown. -/
def describe (composite : CompositeFilter) : String :=
  "CompositeFilter \x7b filters: " ++ toString composite.filters.length ++ " \x7d"

/-- The files that are watched: those with the extension of annotated files, scratch files left
out. -/
def watched (protocol : Protocol) : CompositeFilter :=
  (({} : CompositeFilter).and (.ofProtocol protocol)).and .notScratch

end CompositeFilter

end RegionSync
