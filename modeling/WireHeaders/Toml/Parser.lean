/-!
# Parsers for configuration texts

A parser takes characters from the front of a text or refuses.

## Main definitions

* `Toml.Parser` — what a parser is
* `Toml.one`, `Toml.word`, `Toml.span` — a character, a word, and a row of characters
* `Toml.many`, `Toml.separated` — repetition
* `Toml.blanks`, `Toml.newline`, `Toml.comment`, `Toml.gap` — what stands between the parts

## Design notes

Nothing is said about why a text is refused, so a parser that refuses leaves no trace and another
one may be tried.
-/

namespace WireHeaders.Toml

/-- **A parser**: characters taken from the front of a text, or nothing.  One that refuses has
taken nothing, so the next one is tried on the same text. -/
abbrev Parser := StateT (List Char) Option

def one (p : Char → Bool) : Parser Char
  | [] => none
  | c :: rest => if p c then some (c, rest) else none

/-- The characters of a class at the front. -/
def span (p : Char → Bool) : Parser (List Char) := fun cs => some (cs.takeWhile p, cs.dropWhile p)

/-- Exactly these characters. -/
def word (w : List Char) : Parser Unit := fun cs =>
  if w.isPrefixOf cs then some ((), cs.drop w.length) else none

def sign (c : Char) : Parser Unit := word [c]

def done : Parser Unit := fun cs => if cs = [] then some ((), cs) else none

/-- Everything that `p` takes one after the other, with what it leaves. -/
def manyFrom {α : Type} (p : Parser α) (cs : List Char) : List α × List Char :=
  match p cs with
  | none => ([], cs)
  | some (x, rest) =>
    if _h : rest.length < cs.length then
      let (xs, rest) := manyFrom p rest
      (x :: xs, rest)
    else ([], cs)
termination_by cs.length

/-- **`p` as often as it takes something.**  A parser that takes no character is not tried again,
so this comes to an end on every text. -/
def many {α : Type} (p : Parser α) : Parser (List α) := fun cs => some (manyFrom p cs)

/-- **A row of items with a comma between each two.** -/
def separated {α : Type} (item : Parser α) : Parser (List α) := do
  match ← optional item with
  | none => return []
  | some x =>
    let xs ← many do
      sign ','
      item
    return x :: xs

def isBlank (c : Char) : Bool := c = ' ' || c = '\t'

/-- Blanks inside a line, as many as there are. -/
def blanks : Parser Unit := do let _ ← span isBlank

def newline : Parser Unit := word ['\n'] <|> word ['\r', '\n']

/-- A character that may stand in a line: no control character but the tab. -/
def isPrintable (c : Char) : Bool :=
  c = '\t' || (0x20 ≤ c.toNat && c.toNat ≤ 0x7E) || 0x80 ≤ c.toNat

/-- A comment, which goes on to the end of its line. -/
def comment : Parser Unit := do
  sign '#'
  let _ ← span isPrintable

/-- Blanks, line ends and commented lines between the items of an array. -/
def gap : Parser Unit := do
  let _ ← many ((do let _ ← one isBlank) <|> newline <|> do comment; newline)

end WireHeaders.Toml
