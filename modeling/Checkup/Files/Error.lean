/-!
# Errors of file access
-/

namespace Checkup.Files

/-- Why a file or directory could not be read or written. -/
inductive FileError where
  /-- There is no such entry. -/
  | missing
  /-- The entry is a directory where a file is wanted. -/
  | isDirectory
  /-- The entry, or one on the way to it, is a file where a directory is wanted. -/
  | notDirectory
  /-- There is such an entry already. -/
  | exists
  /-- The content is no text. -/
  | notText
  /-- The entry, or one on the way to it, may not be used. -/
  | denied
  /-- The device fails. -/
  | failing
  deriving DecidableEq, Repr

/-- The wording of an error. -/
def FileError.message : FileError → String
  | .missing => "No such file or directory (os error 2)"
  | .isDirectory => "Is a directory (os error 21)"
  | .notDirectory => "Not a directory (os error 20)"
  | .exists => "File exists (os error 17)"
  | .notText => "stream did not contain valid UTF-8"
  | .denied => "Permission denied (os error 13)"
  | .failing => "Input/output error (os error 5)"

end Checkup.Files
