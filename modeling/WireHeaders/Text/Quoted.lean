import WireHeaders.Text.Quoted.Table
import WireHeaders.Text.Cluster.Table

/-!
# Quoted text

A text between double quotes in which everything is visible: quotes and backslashes carry a
backslash, and a character that would not show is written by its code point.

## Main definitions

* `Quoted.isMark`, `Quoted.isHidden` — characters that are written by their code point
* `Quoted.escape` — one character inside quotes
* `quoted` — a text between quotes
-/

namespace WireHeaders

namespace Quoted

/-- Marks, which would attach to the character before them.  Skin tones and the halfwidth sound
marks show on their own. -/
def isMark (c : Char) : Bool :=
  Cluster.extendRanges.contains c &&
    !(0x1F3FB ≤ c.toNat && c.toNat ≤ 0x1F3FF) && !(0xFF9E ≤ c.toNat && c.toNat ≤ 0xFF9F)

/-- Characters that would not show. -/
def isHidden (c : Char) : Bool :=
  c.toNat < 0x20 || c.toNat = 0x7F || hiddenRanges.contains c

/-- A character by its code point, in hexadecimal between braces. -/
def byCodePoint (c : Char) : List Char :=
  ['\\', 'u', '\x7b'] ++ Nat.toDigits 16 c.toNat ++ ['\x7d']

/-- **One character inside quotes.** -/
def escape (c : Char) : List Char :=
  if c = '\x00' then ['\\', '0']
  else if c = '\t' then ['\\', 't']
  else if c = '\r' then ['\\', 'r']
  else if c = '\n' then ['\\', 'n']
  else if c = '\\' then ['\\', '\\']
  else if c = '"' then ['\\', '"']
  else if isMark c || isHidden c then byCodePoint c
  else [c]

end Quoted

/-- **A text between quotes, with everything in it visible.**  A quote and a backslash of the text
are escaped as well, so the text can be told from what is shown. -/
def quoted (text : String) : String :=
  String.ofList (['"'] ++ text.toList.flatMap Quoted.escape ++ ['"'])

end WireHeaders
