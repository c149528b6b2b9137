import WireHeaders.Log.Event
import WireHeaders.Text.Quoted

/-!
# Log lines

## Main definitions

* `Event.line` — an event as text
-/

namespace WireHeaders

namespace LogText

/-- A character of a message.  Those that could steer a terminal are written by their numbers. -/
def escape (c : Char) : List Char :=
  if c = '\x07' then ['\\', 'x', '0', '7']
  else if c = '\x08' then ['\\', 'x', '0', '8']
  else if c = '\x0c' then ['\\', 'x', '0', 'c']
  else if c = '\x1b' then ['\\', 'x', '1', 'b']
  else if c = '\x7f' then ['\\', 'x', '7', 'f']
  else if 0x80 ≤ c.toNat ∧ c.toNat ≤ 0x9F then Quoted.byCodePoint c
  else [c]

def message (text : String) : String := String.ofList (text.toList.flatMap escape)

def value : FieldValue → String
  | .plain text => text
  | .quoted text => quoted text
  | .bool b => toString b
  | .count n => toString n

def field (f : String × FieldValue) : String := " " ++ f.1 ++ "=" ++ value f.2

end LogText

/-- **An event as text**: level, target, message and fields. -/
def Event.line (event : Event) : String :=
  event.level.word ++ " " ++ event.target ++ ": " ++ LogText.message event.message ++
    String.join (event.fields.map LogText.field)

end WireHeaders
