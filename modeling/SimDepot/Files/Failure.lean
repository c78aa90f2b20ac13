/-!
# Failures of file operations

Why a file could not be read or a directory not be made, with the numbers of the operating system.
-/

namespace SimDepot

/-- Why an operation on files failed. -/
inductive FileFailure
  /-- Nothing has this name. -/
  | notFound
  /-- Something else has this name. -/
  | occupied
  /-- The name leads through something that is no directory. -/
  | notADirectory
  /-- A directory was found where a file was wanted. -/
  | isADirectory
  /-- A part of the name is too long. -/
  | nameTooLong
  /-- The name holds the zero character. -/
  | zeroInName
  /-- The file holds bytes that are no text. -/
  | notText
  /-- A failure known by its text only. -/
  | stated (text : String)
  deriving DecidableEq, Repr

namespace FileFailure

/-- The text of a failure. -/
def message : FileFailure → String
  | notFound => "No such file or directory (os error 2)"
  | occupied => "File exists (os error 17)"
  | notADirectory => "Not a directory (os error 20)"
  | isADirectory => "Is a directory (os error 21)"
  | nameTooLong => "File name too long (os error 36)"
  | zeroInName => "file name contained an unexpected NUL byte"
  | notText => "stream did not contain valid UTF-8"
  | stated text => text

end FileFailure

end SimDepot
