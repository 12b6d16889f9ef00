set_option autoImplicit false

/-! # File system errors -/

namespace RegionSync

/-- Why a file or directory cannot be used. -/
inductive IoError where
  | notFound
  /-- The access to a file or a directory does not allow it. -/
  | denied
  | alreadyExists
  | notADirectory
  | isADirectory
  /-- A directory cannot be moved into itself. -/
  | invalid
  /-- A name or a path has too many bytes. -/
  | nameTooLong
  | notEmpty
  /-- Too many links had to be followed. -/
  | tooManyLinks
  /-- The content is not UTF-8. -/
  | notText
  /-- The path holds a character that no name can hold. -/
  | badName
  /-- Any other cause, in the words of the system. -/
  | other (text : String)
deriving DecidableEq

/-- The wording of an error. -/
def IoError.message : IoError → String
  | notFound => "No such file or directory (os error 2)"
  | denied => "Permission denied (os error 13)"
  | alreadyExists => "File exists (os error 17)"
  | notADirectory => "Not a directory (os error 20)"
  | isADirectory => "Is a directory (os error 21)"
  | invalid => "Invalid argument (os error 22)"
  | nameTooLong => "File name too long (os error 36)"
  | notEmpty => "Directory not empty (os error 39)"
  | tooManyLinks => "Too many levels of symbolic links (os error 40)"
  | notText => "stream did not contain valid UTF-8"
  | badName => "file name contained an unexpected NUL byte"
  | other text => text

end RegionSync
