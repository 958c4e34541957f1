/-!
# Failures of file operations

* `IoFailure`: why an operation on a file or directory failed.
* `IoFailure.message`: the text shown for it.
-/

namespace KernelArchive
set_option autoImplicit false

/-- Why an operation on a file or directory failed. -/
inductive IoFailure
  /-- Something on the way to the place does not exist. -/
  | notFound
  /-- The place is taken. -/
  | alreadyExists
  /-- Something that is not a directory is used as one. -/
  | notADirectory
  /-- A directory is used as a file. -/
  | isADirectory
  /-- A name or the whole path has too many bytes. -/
  | nameTooLong
  /-- The path holds the character NUL. -/
  | nulInPath
  /-- The bytes of the file are not UTF-8. -/
  | notUtf8
  /-- A failure reported from outside, with its own text. -/
  | other (message : String)
deriving DecidableEq

/-- The text shown for a failure. -/
def IoFailure.message : IoFailure → String
  | notFound => "No such file or directory (os error 2)"
  | alreadyExists => "File exists (os error 17)"
  | notADirectory => "Not a directory (os error 20)"
  | isADirectory => "Is a directory (os error 21)"
  | nameTooLong => "File name too long (os error 36)"
  | nulInPath => "file name contained an unexpected NUL byte"
  | notUtf8 => "stream did not contain valid UTF-8"
  | other message => message

end KernelArchive
