import WireHeaders.Data.Mismatch
import WireHeaders.Number.Shortest

/-!
# Configuration values

## Main definitions

* `Toml.Real`, `Toml.Value` — the values that a configuration text can hold
* `Toml.Value.found` — a value in the words of a message
-/

namespace WireHeaders.Toml

/-- **A floating-point number**, which may be no number. -/
inductive Real where
  | finite (x : Double)
  | infinite (negative : Bool)
  | notANumber
  deriving DecidableEq, Repr

/-- **A configuration value.**  A moment is kept without its content, which nothing asks for. -/
inductive Value where
  | string (s : String)
  | integer (n : Int)
  | real (x : Real)
  | bool (b : Bool)
  /-- A date, a time or both. -/
  | moment
  | array (items : List Value)
  | table (entries : List (String × Value))
  deriving Repr

instance : Inhabited Value := ⟨.table []⟩

/-- Numbers are shown without exponents. -/
def realFormat : Double.Format := ⟨fun _ => true⟩

def Real.text : Real → String
  | finite x => x.text realFormat
  | infinite negative => if negative then "-inf" else "inf"
  | notANumber => "NaN"

/-- **A value in the words of a message.**  Moments count as maps. -/
def Value.found : Value → Found
  | string s => .string s
  | integer n => .integer (toString n)
  | real x => .floating x.text
  | bool b => .bool b
  | moment => .map
  | array _ => .sequence
  | table _ => .map

/-- The mismatch of a value of another type than the expected one. -/
def Value.unexpected (v : Value) (expected : String) : Mismatch := .invalidType v.found expected

end WireHeaders.Toml
