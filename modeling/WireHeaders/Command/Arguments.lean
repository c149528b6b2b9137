import WireHeaders.Path
import WireHeaders.Text.ControlSequence

/-!
# Arguments of the command

## Main definitions

* `Arguments` — what the command is to do
* `UsageError` and `UsageError.message` — why a row of arguments is refused
* `ParsedArguments` and `Arguments.parse` — a row of arguments understood

## Design notes

**Pending options.**  An option is stored when the next one begins or the row ends, not when its
value is met.  So a fault of its value is not reported if a stray argument follows.

**Messages.**  What a message repeats of the arguments must not reach into the terminal, so control
sequences are left out of it.
-/

namespace WireHeaders

/-- **What the command is to do**, once its arguments are understood: where the tree is read from,
where headers go, and whether they are stored or only compared with what is there. -/
structure Arguments where
  input : Path
  output : Path
  config : Option Path
  /-- Whether files are only compared. -/
  check : Bool
  deriving DecidableEq, Repr

inductive ValueOption where
  | input
  | output
  | config
  deriving DecidableEq, Repr

namespace ValueOption

def all : List ValueOption := [input, output, config]

def longName : ValueOption → String
  | input => "input"
  | output => "output"
  | config => "config"

def shortName : ValueOption → Char
  | input => 'i'
  | output => 'o'
  | config => 'c'

/-- The option in messages. -/
def shown (o : ValueOption) : String :=
  "--" ++ o.longName ++ " <" ++ o.longName.map Char.toUpper ++ ">"

end ValueOption

/-- **Why a row of arguments is refused.**  Parsing stops at the first reason that it meets;
only options that are missing are all named together, since they are looked for when the row is
at its end. -/
inductive UsageError where
  /-- Options without which nothing can be done are missing. -/
  | missingRequired (options : List String)
  | unexpectedArgument (argument : String)
  /-- A value for an option that takes none. -/
  | unexpectedValue (value option : String)
  | repeated (option : String)
  /-- No value for an option that takes one, or an empty one. -/
  | valueRequired (option : String)
  deriving DecidableEq, Repr

/-- The first line of a refusal. -/
def UsageError.message : UsageError → String
  | missingRequired _ => "the following required arguments were not provided:"
  | unexpectedArgument argument =>
    "unexpected argument '" ++ ControlSequence.strip argument ++ "' found"
  | unexpectedValue value option =>
    "unexpected value '" ++ ControlSequence.strip value ++ "' for '" ++ option ++
      "' found; no more were expected"
  | repeated option => "the argument '" ++ option ++ "' cannot be used multiple times"
  | valueRequired option =>
    "a value is required for '" ++ option ++ "' but none was supplied"

/-- The lines that go with the first line of a refusal. -/
def UsageError.details : UsageError → List String
  | missingRequired options => options.map ("  " ++ ·)
  | _ => []

/-- **A row of arguments understood.**  A call for help ends the row, so what stands behind it is
never looked at. -/
inductive ParsedArguments where
  /-- The user asks for help. -/
  | help
  | run (arguments : Arguments)
  deriving DecidableEq, Repr

def usageLine : String := "Usage: genjson-codegen [OPTIONS] --input <INPUT> --output <OUTPUT>"

def helpLines : List String :=
  ["Generate JSON serializer headers from a declaration tree",
    "",
    usageLine,
    "",
    "Options:",
    "  -i, --input <INPUT>    Declaration tree (JSON) exported by the host tool",
    "  -o, --output <OUTPUT>  Output directory",
    "  -c, --config <CONFIG>  Optional genjson.toml",
    "      --check            Only report files that would change; fail if any would",
    "  -h, --help             Print help"]

namespace Arguments

/-- **What is known while arguments are taken.**  An option waits in `pending` until the
next one begins, so what is wrong with its value is reported only if nothing else is found
wrong before that. -/
structure Draft where
  values : List (ValueOption × String)
  check : Bool
  /-- The latest option with a value, and its value unless that is still to come. -/
  pending : Option (ValueOption × Option String)
  /-- Whether no more options are to come. -/
  trailing : Bool
  deriving DecidableEq, Repr

namespace Draft

def initial : Draft := ⟨[], false, none, false⟩

def value? (d : Draft) (o : ValueOption) : Option String :=
  (d.values.find? (fun e => e.1 == o)).map Prod.snd

/-- Stores a value.  That the option was given before counts more than that the value is empty. -/
def store (d : Draft) (o : ValueOption) (value : String) : Except UsageError Draft :=
  if (d.value? o).isSome then .error (.repeated o.shown)
  else if value.isEmpty then .error (.valueRequired o.shown)
  else .ok { d with values := d.values ++ [(o, value)] }

/-- **Stores the latest option** with the value that came for it.  Every option and the end of the
row begin with this step, so no value is lost and none is stored twice. -/
def settle (d : Draft) : Except UsageError Draft :=
  match d.pending with
  | none => .ok d
  | some (o, none) => .error (.valueRequired o.shown)
  | some (o, some value) => { d with pending := none }.store o value

def option (d : Draft) (o : ValueOption) : Option String → Except UsageError Draft
  | some value => do (← d.settle).store o value
  | none => do return { ← d.settle with pending := some (o, none) }

def setCheck (d : Draft) : Except UsageError Draft := do
  let d ← d.settle
  if d.check then throw (.repeated "--check")
  return { d with check := true }

end Draft

abbrev Step := Except UsageError (Option Draft)

/-- A long option, behind its two hyphens.  A value may be attached to it by an equals sign, and an
option that takes none refuses even an empty one. -/
def longOption (d : Draft) (text : List Char) : Step := do
  let name := String.ofList (text.takeWhile (· ≠ '='))
  let attached := match text.dropWhile (· ≠ '=') with
    | [] => none
    | _ :: value => some (String.ofList value)
  match ValueOption.all.find? (fun o => o.longName == name) with
  | some o => return some (← d.option o attached)
  | none =>
    if name = "check" ∨ name = "help" then
      match attached with
      | some value => throw (.unexpectedValue value ("--" ++ name))
      | none =>
        if name = "check" then return some (← d.setCheck)
        -- Help is given only if the option before it is in order.
        let _ ← d.settle
        return none
    else throw (.unexpectedArgument ("--" ++ name))

/-- A short option, behind its hyphen.  Whatever follows its letter is its value, with or without
an equals sign, so short options cannot be put together. -/
def shortOption (d : Draft) (c : Char) (rest : List Char) : Step := do
  match ValueOption.all.find? (fun o => o.shortName == c) with
  | some o =>
    let attached := match rest with
      | [] => none
      | '=' :: value => some (String.ofList value)
      | value => some (String.ofList value)
    return some (← d.option o attached)
  | none =>
    if c = 'h' then
      let _ ← d.settle
      return none
    else throw (.unexpectedArgument (String.ofList ['-', c]))

/-- An argument that is no option.  It is the value of an option that still waits for one; anything
else is refused, and so is everything behind a lone pair of hyphens. -/
def plain (d : Draft) (text : String) : Step :=
  match d.pending, d.trailing with
  | some (o, none), false => return some { d with pending := some (o, some text) }
  | _, _ => throw (.unexpectedArgument text)

/-- **One argument.**  Two hyphens alone end the options, two hyphens with a name and one hyphen
with a letter begin an option, and whatever is left is taken as a value. -/
def step (d : Draft) (argument : String) : Step :=
  if d.trailing then plain d argument
  else
    match argument.toList with
    | ['-', '-'] => return some { d with trailing := true }
    | '-' :: '-' :: text => longOption d text
    | '-' :: c :: rest => shortOption d c rest
    | _ => plain d argument

def finish (d : Draft) : Except UsageError ParsedArguments := do
  let d ← d.settle
  match d.value? .input, d.value? .output with
  | some input, some output =>
    return .run ⟨⟨input⟩, ⟨output⟩, (d.value? .config).map Path.mk, d.check⟩
  | _, _ =>
    throw (.missingRequired (([.input, .output].filter fun o => (d.value? o).isNone).map
      ValueOption.shown))

def parseFrom (d : Draft) : List String → Except UsageError ParsedArguments
  | [] => finish d
  | argument :: rest => do
    match ← step d argument with
    | none => return .help
    | some d => parseFrom d rest

/-- **A row of arguments understood.**  Arguments are taken from left to right; the first one that
cannot be taken ends the row, and so does a call for help. -/
def parse (arguments : List String) : Except UsageError ParsedArguments :=
  parseFrom .initial arguments

end Arguments

end WireHeaders
