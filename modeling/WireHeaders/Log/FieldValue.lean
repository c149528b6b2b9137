import WireHeaders.Text.Pattern.Reader

/-!
# Values that log rules ask for

Behind the name of a field a rule may ask for a value: for a number, or for one that a pattern
matches.

## Main definitions

* `FieldValue.isNumber` — whether a text is a number
* `FieldValue.isRequest` — whether a text asks for a value
* `FieldValue.ofField?` — the value that a field with its name asks for

## Design notes

Truth values and whole numbers are patterns too, so they need no case of their own.  Of the other
numbers only those with a plus sign are none.
-/

namespace WireHeaders.FieldValue

def withoutSign : List Char → List Char
  | '+' :: rest => rest
  | '-' :: rest => rest
  | text => text

/-- Whether a text is empty or an exponent. -/
def isExponent : List Char → Bool
  | [] => true
  | c :: rest =>
    let digits := withoutSign rest
    (c = 'e' || c = 'E') && !digits.isEmpty && digits.all Char.isDigit

/-- The digits behind the point, if there is one, and what follows them. -/
def fraction : List Char → List Char × List Char
  | '.' :: rest => (rest.takeWhile Char.isDigit, rest.dropWhile Char.isDigit)
  | text => ([], text)

/-- **Whether a text is a number.**  There may be digits before the point, behind it or both, and
the names of numbers may be in any case. -/
def isNumber (text : List Char) : Bool :=
  let text := withoutSign text
  let whole := text.takeWhile Char.isDigit
  let (digits, rest) := fraction (text.dropWhile Char.isDigit)
  String.ofList (text.map Char.toLower) ∈ ["inf", "infinity", "nan"] ||
    (!whole.isEmpty || !digits.isEmpty) && isExponent rest

/-- **Whether a text asks for a value.**  Whatever is no number must be a pattern, for what is
shown of a value. -/
def isRequest (text : List Char) : Bool := isNumber text || Pattern.isPattern text

/-- The value that a field asks for: what stands between its first equals sign and the second one,
or the end. -/
def ofField? (field : List Char) : Option (List Char) :=
  match field.dropWhile (· ≠ '=') with
  | [] => none
  | _ :: value => some (value.takeWhile (· ≠ '='))

end WireHeaders.FieldValue
