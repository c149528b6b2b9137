import WireHeaders.Output.Status
import WireHeaders.Tree.TypeDecl

/-!
# Log events

What a generation pass tells about itself.

## Main definitions

* `Event` — one thing that happened
* `Event.level`, `Event.target`, `Event.message`, `Event.fields` — how it is reported
-/

namespace WireHeaders

inductive Level where
  | error
  | warn
  | info
  | debug
  | trace
  deriving DecidableEq, Repr

/-- The place of a level, most important first. -/
def Level.rank : Level → Nat
  | error => 1
  | warn => 2
  | info => 3
  | debug => 4
  | trace => 5

def Level.word : Level → String
  | error => "ERROR"
  | warn => "WARN"
  | info => "INFO"
  | debug => "DEBUG"
  | trace => "TRACE"

/-- The value of a field of an event, by how it is shown. -/
inductive FieldValue where
  /-- Text that is shown as it is. -/
  | plain (text : String)
  /-- Text that is shown between quotes. -/
  | quoted (text : String)
  | bool (b : Bool)
  | count (n : Nat)
  deriving DecidableEq, Repr

/-- Who begins a pass: the command, or a caller of the library that has a tree already. -/
inductive Origin where
  | command
  | library
  deriving DecidableEq, Repr

/-- The part of the program that reports the beginning of a pass. -/
def Origin.target : Origin → String
  | command => "genjson_codegen"
  | library => "genjson_codegen_lib"

/-- **One thing that happened**, with the data that its report shows and no more.  Level,
target, message and fields are functions of the event, so a log is compared event by event and
not as text. -/
inductive Event where
  /-- The command starts to read its input. -/
  | reading (input : Path)
  /-- A pass begins. -/
  | started (origin : Origin)
  /-- A scope of the platform is left out. -/
  | scopeSkipped (name : String)
  /-- A scope is searched. -/
  | scopeEntered (name root : String)
  /-- A type asks for a convention that there is none of. -/
  | conventionUnknown (declaration value : String)
  /-- A type was found. -/
  | discovered (kind : DeclKind) (name : String) (source : Path) (serialize deserialize : Bool)
  /-- The file of a source unit was generated, with so many structs and enums. -/
  | generated (source output : Path) (direction : Direction) (structs enums : Nat)
  /-- The command begins to commit its files. -/
  | committing (files : Nat) (root : Path)
  | fileUnchanged (path : Path)
  | fileOutdated (path : Path)
  | fileWritten (path : Path) (bytes : Nat)
  /-- All files were committed. -/
  | committed (summary : CommitSummary)
  deriving DecidableEq, Repr

namespace Event

def level : Event → Level
  | reading _ | started _ | scopeEntered _ _ | committing _ _ | committed _ => .info
  | conventionUnknown _ _ => .warn
  | scopeSkipped _ | discovered .. | generated .. => .debug
  | fileUnchanged _ | fileOutdated _ | fileWritten _ _ => .debug

/-- The part of the program that an event is reported under, which is what log rules choose events
by.  Only the beginning of a pass can be reported by two parts. -/
def target : Event → String
  | reading _ | committing _ _ => Origin.command.target
  | started origin => origin.target
  | scopeSkipped _ | scopeEntered _ _ | conventionUnknown _ _ | discovered .. =>
    "genjson_codegen_lib::walker"
  | generated .. => "genjson_codegen_lib::serializer"
  | fileUnchanged _ | fileOutdated _ | fileWritten _ _ | committed _ =>
    "genjson_codegen_lib::commit"

def message : Event → String
  | reading input => "Reading declaration tree from " ++ input.text
  | started _ => "GenJson code generation started."
  | scopeSkipped name => "Skipping external scope " ++ name
  | scopeEntered name root => "Processing scope " ++ name ++ " (" ++ root ++ ")"
  | conventionUnknown _ _ => "unrecognized RenameAll value, using source names"
  | discovered .. => "discovered"
  | generated .. => "generated unit"
  | committing files root => "Committing " ++ toString files ++ " file(s) to " ++ root.text
  | fileUnchanged _ => "unchanged"
  | fileOutdated _ => "outdated"
  | fileWritten _ _ => "written"
  | committed _ => "committed generated files"

def fields : Event → List (String × FieldValue)
  | conventionUnknown declaration value =>
    [("declaration", .quoted declaration), ("value", .quoted value)]
  | discovered kind name source serialize deserialize =>
    [("kind", .quoted kind.word), ("name", .quoted name), ("source", .plain source.text),
      ("serialize", .bool serialize), ("deserialize", .bool deserialize)]
  | generated source output direction structs enums =>
    [("source", .plain source.text), ("path", .plain output.text),
      ("kind", .quoted direction.tag), ("structs", .count structs), ("enums", .count enums)]
  | fileUnchanged path | fileOutdated path => [("path", .plain path.text)]
  | fileWritten path bytes => [("path", .plain path.text), ("bytes", .count bytes)]
  | committed summary =>
    [("files", .count summary.total), ("written", .count summary.written),
      ("unchanged", .count summary.unchanged), ("outdated", .count summary.outdated)]
  | _ => []

end Event

end WireHeaders
