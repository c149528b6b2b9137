import WireHeaders.Naming.Words

/-!
# Naming conventions

The four ways in which a type may ask for its names to be spelled on the wire.

## Main definitions

* `Convention` — camel, kebab, Pascal and snake case
* `Convention.spelling` and `Convention.ofSpelling?` — the metadata value that names a convention
* `Convention.joinWords` — words written under a convention
* `Convention.apply` — an identifier written under a convention

## Main statements

* `Convention.ofSpelling?_eq_some_iff` — a convention is named by its spelling and nothing else
-/

namespace WireHeaders

/-- **How the names of a type are spelled on the wire.**  A convention acts on words, so the words
of a name must be found first; how they were joined there does not matter. -/
inductive Convention where
  /-- `myFieldName` -/
  | camel
  /-- `my-field-name` -/
  | kebab
  /-- `MyFieldName` -/
  | pascal
  /-- `my_field_name` -/
  | snake
  deriving DecidableEq, Repr

namespace Convention

def all : List Convention := [.camel, .kebab, .pascal, .snake]

/-- The metadata value that names a convention: its own name, written under itself. -/
def spelling : Convention → String
  | camel => "camelCase"
  | kebab => "kebab-case"
  | pascal => "PascalCase"
  | snake => "snake_case"

/-- The convention that a metadata value names. -/
def ofSpelling? (value : String) : Option Convention :=
  all.find? (fun c => c.spelling == value)

/-- Each convention is found by its spelling. -/
@[simp]
theorem ofSpelling?_spelling (c : Convention) : ofSpelling? c.spelling = some c := by
  cases c <;> decide

/-- **A convention is named by its spelling and nothing else.** -/
theorem ofSpelling?_eq_some_iff {value : String} {c : Convention} :
    ofSpelling? value = some c ↔ value = c.spelling := by
  constructor
  · intro h
    unfold ofSpelling? at h
    have hc := List.find?_some h
    exact (eq_of_beq hc).symm
  · rintro rfl
    exact ofSpelling?_spelling c

/-- **Words written under a convention.**  Each word is put in lower case or capitalized as
a whole; two of the conventions then have a separator, and the other two let the words
follow each other. -/
def joinWords : Convention → List (List Char) → List Char
  | kebab, ws => ['-'].intercalate (ws.map Casing.lowercase)
  | snake, ws => ['_'].intercalate (ws.map Casing.lowercase)
  | pascal, ws => (ws.map Casing.capitalize).flatten
  | camel, [] => []
  | camel, w :: ws => Casing.lowercase w ++ (ws.map Casing.capitalize).flatten

/-- **An identifier written under a convention.**  It is cut into words first, so two identifiers
with the same words get the same name. -/
def apply (c : Convention) (name : String) : String :=
  String.ofList (c.joinWords (words name.toList))

end Convention

end WireHeaders
