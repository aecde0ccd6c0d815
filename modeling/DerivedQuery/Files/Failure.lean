/-!
# Why a text cannot be read

The reasons for which a file, or the input, gives no text, with the messages that tell them.
-/

namespace DerivedQuery

/-- Why a text cannot be read. -/
inductive ReadFailure
  /-- Nothing has the name. -/
  | missing
  | denied
  /-- The path goes on behind a file. -/
  | notDirectory
  /-- The path leads to a directory. -/
  | isDirectory
  /-- The path, or a name in it, is too long. -/
  | nameTooLong
  /-- The path contains the character NUL. -/
  | nulInName
  /-- The bytes are not those of a text. -/
  | notText
  | other (reason : String)
deriving DecidableEq, Repr

/-- The message of a failure. -/
def ReadFailure.message : ReadFailure → String
  | .missing => "No such file or directory (os error 2)"
  | .denied => "Permission denied (os error 13)"
  | .notDirectory => "Not a directory (os error 20)"
  | .isDirectory => "Is a directory (os error 21)"
  | .nameTooLong => "File name too long (os error 36)"
  | .nulInName => "file name contained an unexpected NUL byte"
  | .notText => "stream did not contain valid UTF-8"
  | .other reason => reason

end DerivedQuery
