import WireHeaders.Files.Bytes
import WireHeaders.Files.Error
import WireHeaders.Path

/-!
# Operations on files

What the library asks of the place that it reads from and writes to.

## Main definitions

* `FileSystem` — the four operations, in any monad
* `makeDirectories` — a directory with all directories above it
* `readText` — a file as text
-/

namespace WireHeaders

/-- **The operations on files**, as far as the library asks for any.  A program is written once for
every place that has them, so what is proved of it on a file tree in memory is proved of the code
that runs on the machine. -/
class FileSystem (m : Type → Type) where
  /-- The content of a file. -/
  read : Path → m (Except FileError Bytes)
  /-- Whether a path leads to a directory. -/
  isDirectory : Path → m Bool
  /-- Makes one directory. -/
  makeDirectory : Path → m (Except FileError Unit)
  /-- Replaces the content of a file, which is made if it is missing. -/
  write : Path → Bytes → m (Except FileError Unit)

namespace FileSystem

variable {m : Type → Type} [Monad m] [FileSystem m]

/-- Makes one directory unless it is there. -/
def ensureDirectory (path : Path) : m (Except FileError Unit) := do
  match ← makeDirectory path with
  | .ok () => return .ok ()
  | .error e => return if ← isDirectory path then .ok () else .error e

/-- Makes the first of a row of directories, each of which lies in the next one.  Those above
it are made only if it cannot be made without them, so nothing above a directory that is there
is looked at. -/
def ensureAll : List Path → m (Except FileError Unit)
  | [] => return .ok ()
  | path :: above => do
    -- The empty path is the place where relative paths start, which is there.
    if path.components = [] then return .ok ()
    match ← makeDirectory path with
    | .ok () => return .ok ()
    | .error .missing =>
      match ← ensureAll above with
      | .ok () => ensureDirectory path
      | .error e => return .error e
    | .error e => return if ← isDirectory path then .ok () else .error e

/-- **Makes a directory and all directories above it** that are missing. -/
def makeDirectories (path : Path) : m (Except FileError Unit) := ensureAll path.ancestors

/-- **The content of a file as text.**  Bytes that are no text count as a file that
cannot be read. -/
def readText (path : Path) : m (Except FileError String) := do
  match ← read path with
  | .error e => return .error e
  | .ok bytes =>
    match bytes.text? with
    | some text => return .ok text
    | none => return .error (.other "stream did not contain valid UTF-8")

end FileSystem

end WireHeaders
