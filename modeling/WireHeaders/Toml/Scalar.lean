import WireHeaders.Toml.Spelling
import WireHeaders.Toml.Value

/-!
# Numbers, dates and times of configuration texts

## Main definitions

* `Toml.integer`, `Toml.real` — numbers
* `Toml.moment` — dates and times
* `Toml.scalar` — any value that holds no other ones
-/

namespace WireHeaders.Toml

/-- Digits with single underscores between them. -/
def digits (p : Char → Bool) : Parser (List Char) := do
  let first ← one p
  let rest ← many do
    let _ ← optional (sign '_')
    one p
  return first :: rest

/-- A sign; whether it is a minus. -/
def plusMinus : Parser Bool := do
  match ← optional (one fun c => c = '+' || c = '-') with
  | some '-' => return true
  | _ => return false

/-- The digits of a whole number, without leading zeros. -/
def wholeDigits : Parser (List Char) := fun cs =>
  match cs with
  | '0' :: rest => some (['0'], rest)
  | _ => digits Char.isDigit cs

def valueOf (base : Nat) (ds : List Char) : Nat := ds.foldl (fun n c => base * n + hexValue c) 0

/-- A number to another base than ten. -/
def based (letter : Char) (base : Nat) (p : Char → Bool) : Parser Int := do
  word ['0', letter]
  let ds ← digits p
  return valueOf base ds

def decimal : Parser Int := do
  let negative ← plusMinus
  let n := valueOf 10 (← wholeDigits)
  return if negative then -(n : Int) else n

/-- **An integer of 64 bits.**  Only the decimal form has a sign.  A value beyond the range is
refused while the text is read and never reaches a setting. -/
def integer : Parser Value := do
  let n ← based 'x' 16 isHex <|> based 'o' 8 (fun c => '0' ≤ c && c ≤ '7') <|>
    based 'b' 2 (fun c => c = '0' || c = '1') <|> decimal
  if -(Nat.pow 2 63 : Int) ≤ n ∧ n < (Nat.pow 2 63 : Int) then return .integer n else failure

def fraction : Parser (List Char) := do
  sign '.'
  digits Char.isDigit

def exponent : Parser Int := do
  let _ ← one fun c => c = 'e' || c = 'E'
  let negative ← plusMinus
  let n := valueOf 10 (← digits Char.isDigit)
  return if negative then -(n : Int) else n

/-- The number that a decimal is nearest to.  The sign is read before the number, so only a
negative one may be too large: it is infinite then, and a positive one is refused. -/
def nearest (negative : Bool) (digits : List Char) (power : Int) : Parser Value :=
  match Double.ofDecimal? (valueOf 10 digits) power with
  | some x => return .real (.finite (x.withSign negative))
  | none => if negative then return .real (.infinite true) else failure

/-- A number with a fraction, an exponent, or both. -/
def decimalReal : Parser Value := do
  let negative ← plusMinus
  let whole ← wholeDigits
  match ← optional fraction with
  | some places =>
    let power := (← optional exponent).getD 0
    nearest negative (whole ++ places) (power - places.length)
  | none => nearest negative whole (← exponent)

/-- The values beyond numbers. -/
def specialReal : Parser Value := do
  let negative ← plusMinus
  (do word ['i', 'n', 'f']; return .real (.infinite negative)) <|>
    (do word ['n', 'a', 'n']; return .real .notANumber)

/-- **A floating-point number.**  No setting takes one, but a message about a wrong type
shows its value. -/
def real : Parser Value := decimalReal <|> specialReal

/-- A number of exactly `n` digits within bounds. -/
def field (n low high : Nat) : Parser Nat := do
  let value := valueOf 10 (← exactly n Char.isDigit)
  if low ≤ value ∧ value ≤ high then return value else failure

def daysIn (year month : Nat) : Nat :=
  if month = 2 then if year % 4 = 0 ∧ (year % 100 ≠ 0 ∨ year % 400 = 0) then 29 else 28
  else if month = 4 ∨ month = 6 ∨ month = 9 ∨ month = 11 then 30
  else 31

def date : Parser Unit := do
  let year ← field 4 0 9999
  sign '-'
  let month ← field 2 1 12
  sign '-'
  let _ ← field 2 1 (daysIn year month)

/-- A time of the day; a minute may have a leap second. -/
def time : Parser Unit := do
  let _ ← field 2 0 23
  sign ':'
  let _ ← field 2 0 59
  sign ':'
  let _ ← field 2 0 60
  let _ ← optional do
    sign '.'
    let _ ← one Char.isDigit
    span Char.isDigit

def zone : Parser Unit :=
  (do let _ ← one fun c => c = 'Z' || c = 'z') <|> do
    let _ ← one fun c => c = '+' || c = '-'
    let _ ← field 2 0 23
    sign ':'
    let _ ← field 2 0 59

/-- The time behind a day. -/
def timeOfDay : Parser Unit := do
  let _ ← one fun c => c = 'T' || c = 't' || c = ' '
  time
  let _ ← optional zone

/-- **A day, a time, or both.**  Its digits are checked but not kept, since a moment counts as a
map whatever it stands for. -/
def moment : Parser Value := do
  (do date; let _ ← optional timeOfDay) <|> time
  return .moment

def bool : Parser Value :=
  (do word ['t', 'r', 'u', 'e']; return .bool true) <|>
    (do word ['f', 'a', 'l', 's', 'e']; return .bool false)

/-- **A value that holds no other ones.**  A day and a number begin alike, and so do the two kinds
of number, so the longer form is tried first. -/
def scalar : Parser Value :=
  (do return .string (← anyString)) <|> moment <|> real <|> integer <|> bool

end WireHeaders.Toml
