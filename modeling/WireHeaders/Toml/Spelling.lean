import WireHeaders.Toml.Parser

/-!
# Strings and keys of configuration texts

## Main definitions

* `Toml.basicString`, `Toml.literalString` — strings within a line, with and without escapes
* `Toml.longBasicString`, `Toml.longLiteralString` — strings over several lines
* `Toml.key` — a row of names with dots between them
-/

namespace WireHeaders.Toml

def hexValue (c : Char) : Nat :=
  if c.isDigit then c.toNat - '0'.toNat
  else if c.isLower then c.toNat - 'a'.toNat + 10
  else c.toNat - 'A'.toNat + 10

def isHex (c : Char) : Bool :=
  c.isDigit || ('a' ≤ c && c ≤ 'f') || ('A' ≤ c && c ≤ 'F')

/-- Exactly `n` characters of a class. -/
def exactly (n : Nat) (p : Char → Bool) : Parser (List Char) := (List.replicate n p).mapM one

/-- The character of a code point of `n` hexadecimal digits. -/
def codePoint (n : Nat) : Parser Char := do
  let digits ← exactly n isHex
  let value := digits.foldl (fun v c => 16 * v + hexValue c) 0
  if value.isValidChar then return Char.ofNat value else failure

/-- **An escape sequence.**  A code point must be that of a character, so halves of surrogate
pairs are refused. -/
def escape : Parser Char := do
  sign '\\'
  let c ← one fun _ => true
  match c with
  | 'b' => return '\x08'
  | 'f' => return '\x0c'
  | 'n' => return '\n'
  | 'r' => return '\r'
  | 't' => return '\t'
  | '"' => return '"'
  | '\\' => return '\\'
  | 'u' => codePoint 4
  | 'U' => codePoint 8
  | _ => failure

/-- Characters that stand for themselves in a string with escapes. -/
def isBasicPlain (c : Char) : Bool := isPrintable c && c ≠ '"' && c ≠ '\\'

/-- **A string with escapes** within a line. -/
def basicString : Parser String := do
  sign '"'
  let cs ← many (one isBasicPlain <|> escape)
  sign '"'
  return String.ofList cs

/-- Characters that stand for themselves in a string without escapes. -/
def isLiteralPlain (c : Char) : Bool := isPrintable c && c ≠ '\''

/-- **A string without escapes** within a line. -/
def literalString : Parser String := do
  sign '\''
  let cs ← span isLiteralPlain
  sign '\''
  return String.ofList cs

/-- One or two quotes inside a long string, where three would end it. -/
def innerQuotes (quote : Char) : Parser (List Char) := fun cs =>
  let quotes := cs.takeWhile (· = quote)
  if quotes.length = 1 ∨ quotes.length = 2 then some (quotes, cs.drop quotes.length) else none

/-- The end of a long string.  Of five quotes the first two still belong to it. -/
def closingQuotes (quote : Char) : Parser (List Char) := fun cs =>
  let quotes := (cs.takeWhile (· = quote)).take 5
  if 3 ≤ quotes.length then some (quotes.drop 3, cs.drop quotes.length) else none

/-- A line end inside a long string. -/
def innerNewline : Parser (List Char) := do
  newline
  return ['\n']

/-- A backslash at the end of a line, which takes all blanks and line ends behind it away. -/
def joinedLines : Parser (List Char) := do
  sign '\\'
  blanks
  newline
  let _ ← many ((do let _ ← one isBlank) <|> newline)
  return []

/-- **A long string**, made of `part`s.  A line end at its very start does not count. -/
def longString (quote : Char) (part : Parser (List Char)) : Parser String := do
  word [quote, quote, quote]
  let _ ← optional newline
  let parts ← many (part <|> innerNewline <|> innerQuotes quote)
  let last ← closingQuotes quote
  return String.ofList (parts.flatten ++ last)

def single (p : Parser Char) : Parser (List Char) := do return [← p]

/-- **A long string with escapes.** -/
def longBasicString : Parser String :=
  longString '"' (single (one isBasicPlain) <|> joinedLines <|> single escape)

def longLiteralString : Parser String := longString '\'' (single (one isLiteralPlain))

def anyString : Parser String :=
  longBasicString <|> basicString <|> longLiteralString <|> literalString

def isBare (c : Char) : Bool := c.isAlphanum || c = '_' || c = '-'

def bareName : Parser String := do
  let c ← one isBare
  let cs ← span isBare
  return String.ofList (c :: cs)

/-- One name of a key, with the blanks around it. -/
def name : Parser String := do
  blanks
  let s ← basicString <|> literalString <|> bareName
  blanks
  return s

/-- The greatest number of nested values, and of names in a key. -/
def maxNesting : Nat := 79

/-- **A key**: names with dots between them.  Each dot leads one table deeper, so their number is
bounded like the depth of a value. -/
def key : Parser (List String) := do
  let first ← name
  let rest ← many do
    sign '.'
    name
  if rest.length < maxNesting then return first :: rest else failure

end WireHeaders.Toml
