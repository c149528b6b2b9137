import WireHeaders.Header.Options
import WireHeaders.Toml.Document

/-!
# Configuration of the command

## Main definitions

* `Config` — the options of headers, and whether platform scopes are searched
* `Config.ofValue` — the configuration of a table
* `Config.parse` — the configuration of a text
-/

namespace WireHeaders

/-- **The configuration of the command.**  Every part of it has a usual value, so a configuration
file may say anything between nothing and all of it. -/
structure Config where
  options : HeaderOptions
  /-- Whether the scopes of the platform are searched too. -/
  includeExternal : Bool
  deriving DecidableEq, Repr

/-- Why a text is no configuration. -/
inductive ConfigError where
  /-- The text breaks the grammar. -/
  | malformed
  | mismatched (mismatch : Mismatch)
  deriving DecidableEq, Repr

namespace Config

open Toml (Value)

def standard : Config := ⟨.standard, false⟩

instance : Inhabited Config := ⟨standard⟩

def string : Value → Except Mismatch String
  | .string s => .ok s
  | v => .error (v.unexpected "a string")

def boolean : Value → Except Mismatch Bool
  | .bool b => .ok b
  | v => .error (v.unexpected "a boolean")

/-- What a value changes.  A setting acts on the configuration so far, so the order of a table
decides which of two faulty values is reported. -/
abbrev Setting (σ : Type) := Value → σ → Except Mismatch σ

/-- The settings of a table, in the order of its entries.  Entries of other names are passed over,
and their values may be of any type. -/
def applyEntries {σ : Type} (settings : List (String × Setting σ)) :
    List (String × Value) → σ → Except Mismatch σ
  | [], s => .ok s
  | (name, v) :: rest, s =>
    match settings.find? (fun setting => setting.1 == name) with
    | some setting => do applyEntries settings rest (← setting.2 v s)
    | none => applyEntries settings rest s

/-- The settings of an array, in their order; surplus items do not count. -/
def applyItems {σ : Type} : List (String × Setting σ) → List Value → σ → Except Mismatch σ
  | setting :: settings, v :: rest, s => do applyItems settings rest (← setting.2 v s)
  | _, _, s => .ok s

/-- **A group of settings**, as a table or as an array.  A moment is a table without settings. -/
def group {σ : Type} (title : String) (settings : List (String × Setting σ)) : Setting σ
  | .table entries, s => applyEntries settings entries s
  | .array items, s => applyItems settings items s
  | .moment, s => .ok s
  | v, _ => .error (v.unexpected title)

def outputSettings : List (String × Setting Config) :=
  [("suffix", fun v c => do
      let s ← string v
      return { c with options := { c.options with suffix := s } }),
    ("macro_name", fun v c => do
      let s ← string v
      return { c with options := { c.options with macroName := s } }),
    ("runtime_header", fun v c => do
      let s ← string v
      return { c with options := { c.options with runtimeHeader := s } })]

def scanSettings : List (String × Setting Config) :=
  [("include_external", fun v c => do
      let b ← boolean v
      return { c with includeExternal := b })]

def settings : List (String × Setting Config) :=
  [("output", group "struct OutputConfig" outputSettings),
    ("scan", group "struct ScanConfig" scanSettings)]

/-- **The configuration of a table.**  What is not set keeps its usual value. -/
def ofValue (v : Value) : Except Mismatch Config := group "struct GenConfig" settings v standard

/-- **The configuration of a text.**  A text that breaks the grammar is refused as a whole; one
with a value of the wrong type is refused with the first such value. -/
def parse (text : String) : Except ConfigError Config :=
  match Toml.read? text with
  | none => .error .malformed
  | some v => (ofValue v).mapError .mismatched

end Config

end WireHeaders
