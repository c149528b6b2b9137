/-!
# File errors

## Main definitions

* `FileError` — why an operation on files fails
* `FileError.message` — its text, with the number that the system gives it
-/

namespace WireHeaders

/-- **Why an operation on files fails.**  What the library tells apart, and what can happen in a
file tree, has a case of its own; the rest is kept as text. -/
inductive FileError where
  | missing
  | alreadyExists
  | notDirectory
  | isDirectory
  | nameTooLong
  /-- The path holds a character that no file name can hold. -/
  | nulInPath
  /-- Any other reason, by its text. -/
  | other (text : String)
  deriving DecidableEq, Repr

def FileError.message : FileError → String
  | missing => "No such file or directory (os error 2)"
  | alreadyExists => "File exists (os error 17)"
  | notDirectory => "Not a directory (os error 20)"
  | isDirectory => "Is a directory (os error 21)"
  | nameTooLong => "File name too long (os error 36)"
  | nulInPath => "file name contained an unexpected NUL byte"
  | other text => text

end WireHeaders
