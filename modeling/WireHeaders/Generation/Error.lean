import WireHeaders.Files.Error
import WireHeaders.Path

/-!
# Why a pass fails

## Main definitions

* `GenerationError` and `GenerationError.message`
-/

namespace WireHeaders

/-- **Why a pass fails.**  Each case holds what its message names.  All of them but the last one
are found before any file is touched. -/
inductive GenerationError where
  /-- A tagged declaration names a source unit that the table does not have. -/
  | unresolvedSource (source declaration : String)
  /-- A source unit has no name to make an output name of. -/
  | invalidSourcePath (path : Path)
  /-- Two source units have the same output. -/
  | outputCollision (path first second : Path)
  /-- A file could not be compared or stored. -/
  | commit (path : Path) (error : FileError)
  deriving DecidableEq, Repr

def GenerationError.message : GenerationError → String
  | unresolvedSource source declaration =>
    "declaration '" ++ declaration ++ "' references unknown source unit '" ++ source ++ "'"
  | invalidSourcePath path => "source unit '" ++ path.text ++ "' has no usable base name"
  | outputCollision path first second =>
    "source units '" ++ first.text ++ "' and '" ++ second.text ++ "' both map to output '" ++
      path.text ++ "'"
  | commit path error => "failed to commit '" ++ path.text ++ "': " ++ error.message

end WireHeaders
