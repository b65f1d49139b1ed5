/-!
# Failures of the file system
-/

namespace FaultBench

/-- Why the system refuses to read, write or start a file. -/
inductive IoError
  | notFound
  | permissionDenied
  | alreadyExists
  | notDirectory
  | isDirectory
  | nameTooLong
  | tooManyLinks
  /-- A name holds a character that ends names. -/
  | zeroInName
  /-- An argument or a variable of a process holds such a character. -/
  | zeroInArgument
  /-- A text that was read is not UTF-8. -/
  | notUtf8
  deriving DecidableEq, Repr

def IoError.message : IoError → String
  | .notFound => "No such file or directory (os error 2)"
  | .permissionDenied => "Permission denied (os error 13)"
  | .alreadyExists => "File exists (os error 17)"
  | .notDirectory => "Not a directory (os error 20)"
  | .isDirectory => "Is a directory (os error 21)"
  | .nameTooLong => "File name too long (os error 36)"
  | .tooManyLinks => "Too many levels of symbolic links (os error 40)"
  | .zeroInName => "file name contained an unexpected NUL byte"
  | .zeroInArgument => "nul byte found in provided data"
  | .notUtf8 => "stream did not contain valid UTF-8"

end FaultBench
