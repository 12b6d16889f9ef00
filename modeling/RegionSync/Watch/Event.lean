import RegionSync.Path

set_option autoImplicit false

/-! # Kinds of file events

What the system says has happened to a file. Only a change of content is of interest; a backend
that cannot tell what was modified is taken to mean the content.
-/

namespace RegionSync

/-- What was modified. -/
inductive ModifyKind where
  | any
  | data
  | metadata
  | name
  | other
deriving DecidableEq

/-- What happened to a file. -/
inductive EventKind where
  | any
  | access
  | create
  | modify (kind : ModifyKind)
  | remove
  | other
deriving DecidableEq

namespace EventKind

/-- Whether the event may have changed the content of a file. -/
def isContentModification : EventKind → Bool
  | modify .data => true
  | modify .any => true
  | modify .other => true
  | _ => false

/-- The kind of event that a label such as `modify/data/content` names; details that make no
difference are not kept. -/
def ofLabel? (label : String) : Option EventKind :=
  match (Path.segments label.toList).map String.ofList with
  | "any" :: _ => some .any
  | "access" :: _ => some .access
  | "create" :: _ => some .create
  | "remove" :: _ => some .remove
  | "other" :: _ => some .other
  | "modify" :: "any" :: _ => some (.modify .any)
  | "modify" :: "data" :: _ => some (.modify .data)
  | "modify" :: "metadata" :: _ => some (.modify .metadata)
  | "modify" :: "name" :: _ => some (.modify .name)
  | "modify" :: "other" :: _ => some (.modify .other)
  | _ => none

end EventKind

end RegionSync
