import WireHeaders.Command.Run

/-!
# The program

Files, arguments and output of the machine around `Command.main`.
-/

namespace WireHeaders

/-- The number that the system gives to the reason of a failed call. -/
def systemNumber? : IO.Error → Option UInt32
  | .noFileOrDirectory _ code _ => some code
  | .alreadyExists _ code _ | .inappropriateType _ code _ | .invalidArgument _ code _ => some code
  | .otherError code _ | .unsupportedOperation code _ | .illegalOperation code _ => some code
  | _ => none

/-- The number without its sign, which some calls turn round. -/
def unsignedNumber (code : UInt32) : UInt32 := if code < 0x80000000 then code else 0 - code

/-- The reason of a failed system call. -/
def FileError.ofSystem (e : IO.Error) : FileError :=
  match (systemNumber? e).map unsignedNumber with
  | some 2 => .missing
  | some 17 => .alreadyExists
  | some 20 => .notDirectory
  | some 21 => .isDirectory
  | some 36 => .nameTooLong
  | _ => .other (toString e)

/-- The outcome of a system call on a path. -/
def trySystem {α : Type} (path : Path) (action : IO α) : IO (Except FileError α) := do
  if '\x00' ∈ path.text.toList then return .error .nulInPath
  match ← action.toBaseIO with
  | .ok a => return .ok a
  | .error e => return .error (.ofSystem e)

instance : FileSystem IO where
  read path := trySystem path (do return (← IO.FS.readBinFile path.text).data.toList)
  -- the dot of a directory is there already, and that of anything else cannot be made
  isDirectory path := do
    match ← trySystem path (IO.FS.createDir (path.text ++ "/.")) with
    | .error .alreadyExists => return true
    | _ => return false
  makeDirectory path := trySystem path (IO.FS.createDir path.text)
  write path bytes := trySystem path (IO.FS.writeBinFile path.text ⟨bytes.toArray⟩)

end WireHeaders

/-- Runs the command on the machine. -/
def main (arguments : List String) : IO UInt32 := do
  let outcome ← WireHeaders.Command.main (← IO.getEnv "RUST_LOG") arguments
  for line in outcome.output do
    IO.println line
  IO.eprint outcome.error
  return outcome.exitCode.toUInt32
