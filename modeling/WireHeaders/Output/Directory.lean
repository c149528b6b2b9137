import WireHeaders.Files.System
import WireHeaders.Output.Commit

/-!
# Headers in a directory

## Main definitions

* `DirectoryOutput` — a directory for headers, and whether it may be changed
* `DirectoryOutput.commit` — compares a header with the file at its place and stores it
-/

namespace WireHeaders

/-- **A directory for headers.**  One that only compares reports the files that differ
and changes nothing. -/
structure DirectoryOutput where
  root : Path
  /-- Whether files are only compared. -/
  checkOnly : Bool
  deriving DecidableEq, Repr

namespace DirectoryOutput

variable {m : Type → Type} [Monad m] [FileSystem m]

open FileSystem (read write makeDirectories)

def report (status : CommitStatus) (event : Event) : CommitOutcome := ⟨[event], .ok status⟩

def failAt (path : Path) (e : FileError) : CommitOutcome := Logged.fail (.commit path e)

/-- **Stores a file**, after the directories above it.  These stay even if the file
cannot be written. -/
def store (path : Path) (bytes : Bytes) : m CommitOutcome := do
  let made ← match path.parent? with
    | some parent => makeDirectories parent
    | none => pure (.ok ())
  match made with
  | .error e => return failAt path e
  | .ok () =>
    match ← write path bytes with
    | .error e => return failAt path e
    | .ok () => return report .written (.fileWritten path bytes.length)

/-- **Commits one file.**  It is written only if what is read at its place differs, and a missing
file is one that differs.  Any other failure to read it is the end, also for a check. -/
def commit (output : DirectoryOutput) : Output m := fun file => do
  let path := output.root.join file.path
  let bytes := Bytes.ofString file.content
  let differs : m CommitOutcome :=
    if output.checkOnly then return report .outdated (.fileOutdated path)
    else store path bytes
  match ← read path with
  | .ok existing =>
    if existing = bytes then return report .unchanged (.fileUnchanged path)
    else differs
  | .error .missing => differs
  | .error e => return failAt path e

end DirectoryOutput

end WireHeaders
