import WireHeaders.Command.Arguments
import WireHeaders.Command.Config
import WireHeaders.Log.Filter
import WireHeaders.Log.Line
import WireHeaders.Output.Directory
import WireHeaders.Tree.Decode

/-!
# The command

From arguments and files to headers, log lines and an exit status.

## Main definitions

* `Failure` — why the command fails
* `Command.generate` — what is done for understood arguments
* `Command.checked` — out-of-date files make a check fail
* `Outcome` and `Command.main` — what the user sees
-/

namespace WireHeaders

/-- **Why the command fails**: a message of its own, and the message of what made it fail, if that
is something else. -/
structure Failure where
  message : String
  cause : Option String
  deriving DecidableEq, Repr

namespace Failure

/-- The failure of a pass.  Only a file that could not be compared or stored has a cause below the
message; the other errors say all there is in the message itself. -/
def ofError (e : GenerationError) : Failure :=
  ⟨e.message, match e with
    | .commit _ cause => some cause.message
    | _ => none⟩

/-- A text whose further lines are set in like its first one. -/
def indented (text : String) : String :=
  String.ofList (text.toList.flatMap fun c =>
    if c = '\n' then ['\n', ' ', ' ', ' ', ' '] else [c])

def text (f : Failure) : String :=
  "Error: " ++ f.message ++ "\n" ++
    match f.cause with
    | none => ""
    | some cause => "\nCaused by:\n    " ++ indented cause ++ "\n"

end Failure

namespace Command

variable {m : Type → Type} [Monad m] [FileSystem m]

abbrev Result (α : Type) := Logged Failure α

def failWith {α : Type} (message : String) (cause : Option String) : Result α :=
  Logged.fail ⟨message, cause⟩

/-- **The configuration**, from a file if there is one.  Without a configuration file nothing is
read and nothing can fail here. -/
def loadConfig : Option Path → m (Result Config)
  | none => return pure .standard
  | some path => do
    match ← FileSystem.readText path with
    | .error e => return failWith ("failed to read config " ++ path.text) (some e.message)
    | .ok text =>
      match Config.parse text with
      | .ok config => return pure config
      | .error (.mismatched mismatch) =>
        return failWith ("invalid config " ++ path.text) (some mismatch.message)
      | .error .malformed =>
        return failWith ("invalid config " ++ path.text) (some "malformed text")

/-- **The declaration tree** of a file.  That the file is going to be read is told first, so it is
told also where there is no such file. -/
def loadTree (path : Path) : m (Result DeclarationTree) :=
  (Logged.log (.reading path) : Result Unit).andThen fun () => do
    match ← FileSystem.readText path with
    | .error e => return failWith ("failed to read " ++ path.text) (some e.message)
    | .ok text =>
      match DeclarationTree.decoder.run (Json.readText text) with
      | .ok tree => return pure tree
      | .error fault =>
        return failWith ("invalid declaration tree " ++ path.text) (some fault.message)

def search (config : Config) (tree : DeclarationTree) : Logged GenerationError Units :=
  if config.includeExternal then tree.discoverAll else tree.discover

def headers (config : Config) (tree : DeclarationTree) : Result (List GeneratedFile) :=
  (headersOf .command config.options tree (search config)).mapError Failure.ofError

def commitTo (arguments : Arguments) (files : List GeneratedFile) : m (Result CommitSummary) :=
  (Logged.log (.committing files.length arguments.output) : Result Unit).andThen fun () => do
    let output : DirectoryOutput := ⟨arguments.output, arguments.check⟩
    return (← commitAll output.commit files).mapError Failure.ofError

/-- **What is done for understood arguments.**  The configuration and the tree are loaded and all
headers are made before the first one is committed, so a command that fails at any of these leaves
all files as they were. -/
def generate (arguments : Arguments) : m (Result CommitSummary) := do
  let config ← loadConfig arguments.config
  config.andThen fun config => do
    let tree ← loadTree arguments.input
    tree.andThen fun tree => (headers config tree).andThen (commitTo arguments)

/-- **Out-of-date files make a check fail**, but only when all of them were compared.  A run that
stores what is out of date leaves none. -/
def checked (arguments : Arguments) (summary : CommitSummary) : Result CommitSummary :=
  if arguments.check ∧ 0 < summary.outdated then
    failWith (toString summary.outdated ++ " generated file(s) are out of date") none
  else pure summary

end Command

/-- **What the user sees**: the exit code and the text on both streams.  The log goes to standard
output, so standard error holds nothing but the reason of a failure. -/
structure Outcome where
  exitCode : UInt8
  /-- The lines on standard output. -/
  output : List String
  /-- The text on standard error. -/
  error : String
  deriving DecidableEq, Repr

namespace Outcome

def usageText (e : UsageError) : String :=
  String.join ((["error: " ++ e.message] ++ e.details ++
    ["", usageLine, "", "For more information, try '--help'."]).map (· ++ "\n"))

def ofUsageError (e : UsageError) : Outcome := ⟨2, [], usageText e⟩

def help : Outcome := ⟨0, helpLines, ""⟩

/-- The outcome of a command that its log setting stops before it starts. -/
def interrupted : Outcome := ⟨101, [], "\nthe log setting is cut inside a character\n"⟩

/-- The outcome of a run.  What happened before a failure is shown as well, as far as the filter
lets it through. -/
def ofResult {α : Type} (filter : LogFilter) (result : Command.Result α) : Outcome :=
  let lines := (result.events.filter filter.shows).map Event.line
  match result.result with
  | .ok _ => ⟨0, lines, ""⟩
  | .error f => ⟨1, lines, f.text⟩

end Outcome

/-- **The command**, with the setting of its log and its arguments.  A setting that stops the
command does so before the arguments are looked at. -/
def Command.main {m : Type → Type} [Monad m] [FileSystem m] (logSetting : Option String)
    (arguments : List String) : m Outcome :=
  match LogFilter.ofSetting logSetting with
  | none => return .interrupted
  | some filter =>
    match Arguments.parse arguments with
    | .error e => return .ofUsageError e
    | .ok .help => return .help
    | .ok (.run arguments) => do
      let result ← Command.generate arguments
      return .ofResult filter (result.bind (Command.checked arguments))

end WireHeaders
