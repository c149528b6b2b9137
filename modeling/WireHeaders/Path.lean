/-!
# File paths

Paths as text, and what they denote: a row of components.

## Main definitions

* `Component` — the root, a leading dot, a step to the parent, or a name
* `Path` and `Path.components` — a path as it is spelled, and its components
* `Path.fileName?`, `Path.baseName?` — the last name, and what of it stands before its last dot
* `Path.join`, `Path.parent?`, `Path.ancestors` — walking down and up

## Main statements

* `Path.compare_eq_iff` — two paths compare equal iff they have the same components

## Design notes

Repeated and trailing slashes and dots behind the first segment do not count, so `a//b`, `a/./b`
and `a/b/` are one path with three spellings.  Paths are ordered and looked up by their components
but keep the spelling that they came with.
-/

namespace WireHeaders

/-- **A component of a path.**  What the spelling of a path has besides, such as doubled slashes
and dots inside it, has no component and does not count in comparisons. -/
inductive Component where
  /-- The slash that an absolute path begins with. -/
  | root
  /-- A dot that a relative path begins with. -/
  | here
  /-- Two dots. -/
  | parent
  | name (text : String)
  deriving DecidableEq, Repr

namespace Component

/-- Components of different kinds are ordered by kind. -/
def rank : Component → Nat
  | root => 0
  | here => 1
  | parent => 2
  | name _ => 3

/-- The text of a name; names are ordered by it. -/
def nameText : Component → String
  | name text => text
  | _ => ""

instance : Ord Component := ⟨compareLex (compareOn rank) (compareOn nameText)⟩

instance : Std.TransOrd Component :=
  inferInstanceAs (Std.TransCmp (compareLex (compareOn rank) (compareOn nameText)))

instance : Std.LawfulEqOrd Component where
  eq_of_compare {a b} h := by
    have h : (compare a.rank b.rank).then (compare a.nameText b.nameText) = .eq := h
    rw [Ordering.then_eq_eq] at h
    have hr := Std.LawfulEqOrd.eq_of_compare h.1
    have hn := Std.LawfulEqOrd.eq_of_compare h.2
    cases a <;> cases b <;> simp_all [rank, nameText]

end Component

/-- **A path as it is spelled.**  Equality is that of the spelling, while the order is
that of the components: a map finds an entry under every spelling and shows the one that
it was stored under. -/
structure Path where
  text : String
  deriving DecidableEq, Repr

/-- Text cut at every slash. -/
def slashSegments : List Char → List (List Char)
  | [] => [[]]
  | c :: rest =>
    if c = '/' then [] :: slashSegments rest
    else
      match slashSegments rest with
      | [] => [[c]]
      | segment :: segments => (c :: segment) :: segments

namespace Path

instance : Inhabited Path := ⟨⟨""⟩⟩

/-- The segments between slashes, empty ones included. -/
def segments (p : Path) : List (List Char) := slashSegments p.text.toList

def isAbsolute (p : Path) : Bool := p.text.toList.head? == some '/'

/-- Whether a segment behind the first one counts for nothing. -/
def isVoid (segment : List Char) : Bool := segment = [] || segment = ['.']

/-- The component of a segment that counts. -/
def componentOf (segment : List Char) : Component :=
  if segment = ['.', '.'] then .parent else .name (String.ofList segment)

/-- The components of the segments behind the first one. -/
def laterComponents (segments : List (List Char)) : List Component :=
  (segments.filter (fun s => !isVoid s)).map componentOf

/-- The component of the first segment: an empty one is that of an absolute path or of no path at
all. -/
def firstComponent (p : Path) (segment : List Char) : List Component :=
  if segment = [] then if p.isAbsolute then [.root] else []
  else if segment = ['.'] then [.here]
  else [componentOf segment]

/-- **The components of a path.**  Only the first segment may be empty or a dot and still count;
such segments behind it leave no component. -/
def components (p : Path) : List Component :=
  match p.segments with
  | [] => []
  | first :: rest => p.firstComponent first ++ laterComponents rest

instance : Ord Path := ⟨compareOn components⟩

instance : Std.TransOrd Path := inferInstanceAs (Std.TransCmp (compareOn components))

/-- **Two paths compare equal iff they have the same components.** -/
theorem compare_eq_iff {p q : Path} : compare p q = .eq ↔ p.components = q.components :=
  ⟨fun h => Std.LawfulEqOrd.eq_of_compare (α := List Component) h,
    fun h => (show compare p.components q.components = .eq from h ▸ Std.ReflOrd.compare_self)⟩

/-- The last component if it is a name. -/
def fileName? (p : Path) : Option String :=
  match p.components.getLast? with
  | some (.name text) => some text
  | _ => none

/-- **A file name up to its last dot.**  A dot that the name begins with does not count, so a
hidden file without another dot keeps all of its name. -/
def stem (name : List Char) : List Char :=
  -- What stands before the last dot, backwards; nothing if there is no dot or nothing before it.
  match (name.reverse.dropWhile (· ≠ '.')).drop 1 with
  | [] => name
  | before => before.reverse

/-- **The file name without its last extension.**  It names the header of a file.  A path that ends
in two dots or names nothing has none. -/
def baseName? (p : Path) : Option String :=
  p.fileName?.map fun name => String.ofList (stem name.toList)

/-- **A path below another one.**  An absolute path stays as it is.  Dots are kept, so a step up
leads out of `p` when the path is walked. -/
def join (p q : Path) : Path :=
  if q.isAbsolute then q
  else if p.text.isEmpty || p.text.toList.getLast? == some '/' then ⟨p.text ++ q.text⟩
  else ⟨p.text ++ "/" ++ q.text⟩

/-- Segments behind the first one, without the void ones at the end. -/
def trimVoid (segments : List (List Char)) : List (List Char) :=
  (segments.reverse.dropWhile isVoid).reverse

/-- Segments put together again. -/
def spell (segments : List (List Char)) : Path := ⟨String.ofList (['/'].intercalate segments)⟩

/-- **The path without its last component**, or nothing for the root and the empty path.  What is
left keeps its spelling. -/
def parent? (p : Path) : Option Path :=
  match p.segments with
  | [] => none
  | first :: rest =>
    match (trimVoid rest).dropLast with
    -- Without the void ones at the end at most one segment is left behind the first.
    | [] =>
      if trimVoid rest ≠ [] then some (if p.isAbsolute then ⟨"/"⟩ else spell [first])
      else if first = [] then none
      else some ⟨""⟩
    | kept =>
      let kept := trimVoid kept
      some (if kept = [] ∧ p.isAbsolute then ⟨"/"⟩ else spell (first :: kept))

/-- The path and the paths above it, nearest first, `fuel` of them at most. -/
def ancestorsUpTo : Nat → Path → List Path
  | 0, _ => []
  | fuel + 1, p =>
    p :: (match p.parent? with
      | some q => ancestorsUpTo fuel q
      | none => [])

/-- **The path and all paths above it**, nearest first.  Going up takes a component away, so the
fuel is enough for all of them. -/
def ancestors (p : Path) : List Path := ancestorsUpTo (p.components.length + 1) p

end Path

end WireHeaders
