import RegionSync.Declaration
import RegionSync.IoError
import RegionSync.Path

set_option autoImplicit false

/-! # Outcomes and failures of validating a file -/

namespace RegionSync

/-- Why a file is left alone. -/
inductive SkipReason where
  /-- It does not have the extension of annotated files. -/
  | extension
  /-- Its first line does not carry the header marker. -/
  | notAnnotated
deriving DecidableEq

/-- What came of validating a file. -/
inductive Outcome where
  | skipped (reason : SkipReason)
  /-- The regions were up to date. -/
  | unchanged
  /-- A region was brought up to date and the file written. -/
  | updated
  /-- A region is not up to date, and the file was not to be written. -/
  | stale
deriving DecidableEq

/-- How a reason is called. -/
def SkipReason.label : SkipReason → String
  | extension => "extension"
  | notAnnotated => "not annotated"

/-- How an outcome is called. -/
def Outcome.label : Outcome → String
  | skipped reason => "skipped (" ++ reason.label ++ ")"
  | unchanged => "unchanged"
  | updated => "rewritten"
  | stale => "stale"

/-- Why a file could not be validated. -/
inductive Failure where
  | unreadable (path : Path) (error : IoError)
  | unwritable (path : Path) (error : IoError)
  /-- The file is annotated but faulty. -/
  | faulty (path : Path) (fault : Fault)
deriving DecidableEq

namespace Failure

/-- The file that failed. -/
def path : Failure → Path
  | unreadable path _ => path
  | unwritable path _ => path
  | faulty path _ => path

/-- The line that the failure is about. -/
def line? : Failure → Option Nat
  | faulty _ fault => fault.line?
  | _ => none

/-- The wording of the cause. -/
def cause : Failure → String
  | unreadable _ error => error.message
  | unwritable _ error => error.message
  | faulty _ fault => fault.message

/-- The wording of a failure. -/
def message (failure : Failure) : String :=
  let intro := match failure with
    | unreadable _ _ => "failed to read file "
    | unwritable _ _ => "failed to write file "
    | faulty _ _ => "malformed annotated file "
  intro ++ failure.path.text ++ ": " ++ failure.cause

end Failure

end RegionSync
