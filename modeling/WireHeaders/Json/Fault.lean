import WireHeaders.Data.Mismatch

/-!
# Why a JSON text is refused

## Main definitions

* `Json.TextFault` — what is wrong with a text that is not JSON
* `Json.Fault` — a fault of the text or a value of the wrong shape, with its `message` and its
  `category`
-/

namespace WireHeaders.Json

/-- **What is wrong with a text that is not JSON.**  A reader and one that only skips may report
different faults of the same text, so these name what is reported and not what is there. -/
inductive TextFault where
  | endInList
  | endInObject
  | endInString
  | endInValue
  | expectedColon
  | expectedListEnd
  | expectedObjectEnd
  | expectedWord
  | expectedValue
  | invalidEscape
  | invalidNumber
  | numberOutOfRange
  | controlCharacter
  | keyNotString
  | loneSurrogate
  | unfinishedSurrogate
  | trailingComma
  | trailingCharacters
  | tooDeep
  deriving DecidableEq, Repr

def TextFault.message : TextFault → String
  | endInList => "EOF while parsing a list"
  | endInObject => "EOF while parsing an object"
  | endInString => "EOF while parsing a string"
  | endInValue => "EOF while parsing a value"
  | expectedColon => "expected `:`"
  | expectedListEnd => "expected `,` or `]`"
  | expectedObjectEnd => "expected `,` or `\x7d`"
  | expectedWord => "expected ident"
  | expectedValue => "expected value"
  | invalidEscape => "invalid escape"
  | invalidNumber => "invalid number"
  | numberOutOfRange => "number out of range"
  | controlCharacter => "control character (\\u0000-\\u001F) found while parsing a string"
  | keyNotString => "key must be a string"
  | loneSurrogate => "lone leading surrogate in hex escape"
  | unfinishedSurrogate => "unexpected end of hex escape"
  | trailingComma => "trailing comma"
  | trailingCharacters => "trailing characters"
  | tooDeep => "recursion limit exceeded"

/-- The three kinds of fault. -/
inductive Category where
  /-- The text breaks the grammar. -/
  | malformed
  /-- The text ends too early. -/
  | truncated
  /-- The text is JSON, but for a value of another type. -/
  | mismatched
  deriving DecidableEq, Repr

/-- **Why a JSON text is refused**: it is no JSON, or it stands for a value of another shape.  The
place in the text is not kept. -/
inductive Fault where
  | text (fault : TextFault)
  | shape (mismatch : Mismatch)
  deriving DecidableEq, Repr

def Fault.message : Fault → String
  | text fault => fault.message
  | shape mismatch => mismatch.message

def Fault.category : Fault → Category
  | text .endInList | text .endInObject | text .endInString | text .endInValue => .truncated
  | text _ => .malformed
  | shape _ => .mismatched

end WireHeaders.Json
