import WireHeaders.Text.Cluster.Table

/-!
# Grapheme clusters

Text cut into what a reader sees as one character: a letter with its marks, a syllable, a flag.

## Main definitions

* `Cluster.BreakClass` and `Cluster.classify` — the break class of a character
* `Cluster.Conjunct` — how far a conjunct of consonants has come
* `Cluster.State` — what the characters of an open cluster say about the next boundary
* `Cluster.splits` — whether a boundary lies before the next character
* `Cluster.clusters` — a text as the list of its clusters

## Design notes

**Rules.**  They are those of extended clusters.  Each looks at two neighbours only, except for
three that look further back: flags are pairs of regional indicators, a joiner ties pictographs,
and a linking mark ties consonants.  `State` holds what these three ask for.

**Conjuncts.**  Their consonants have no case and are no separators, but a mark among them may
have one, so whether the cluster goes on behind it can be seen in the words of a name.
-/

namespace WireHeaders.Cluster

/-- The break classes of characters. -/
inductive BreakClass where
  | carriageReturn
  | lineFeed
  | control
  | extend
  /-- A mark that links consonants. -/
  | linker
  /-- The zero-width non-joiner: a mark that ends a conjunct. -/
  | nonJoiner
  | joiner
  | spacing
  | leading
  | regional
  | hangulLead
  | hangulVowel
  | hangulTail
  | hangulOpen
  | hangulClosed
  | pictograph
  /-- A consonant that linking marks join to others. -/
  | consonant
  | other
  deriving DecidableEq, Repr

/-- The marks that continue any character before them. -/
def BreakClass.isMark : BreakClass → Bool
  | extend | linker | nonJoiner => true
  | _ => false

/-- The break class of a character outside ASCII. -/
def classifyWide (c : Char) : BreakClass :=
  let n := c.toNat
  if n = 0x200D then .joiner
  else if n = 0x200C then .nonJoiner
  else if 0x1F1E6 ≤ n ∧ n ≤ 0x1F1FF then .regional
  else if 0xAC00 ≤ n ∧ n ≤ 0xD7A3 then
    if (n - 0xAC00) % 28 = 0 then .hangulOpen else .hangulClosed
  else if controlRanges.contains c then .control
  else if linkerRanges.contains c then .linker
  else if extendRanges.contains c then .extend
  else if spacingRanges.contains c then .spacing
  else if leadingRanges.contains c then .leading
  else if hangulLeads.contains c then .hangulLead
  else if hangulVowels.contains c then .hangulVowel
  else if hangulTails.contains c then .hangulTail
  else if pictographRanges.contains c then .pictograph
  else if consonantRanges.contains c then .consonant
  else .other

def classify (c : Char) : BreakClass :=
  if c = '\r' then .carriageReturn
  else if c = '\n' then .lineFeed
  else if c.toNat < 0x20 ∨ c.toNat = 0x7F then .control
  else if c.toNat < 0x80 then .other
  else classifyWide c

/-- **How far a conjunct has come** at the end of a cluster. -/
inductive Conjunct where
  /-- There is none. -/
  | absent
  /-- Its last consonant has no linking mark yet. -/
  | unlinked
  /-- A linking mark waits for another consonant. -/
  | linked
  deriving DecidableEq, Repr

/-- A conjunct after one more character of the given class. -/
def Conjunct.advance (conjunct : Conjunct) : BreakClass → Conjunct
  | .consonant => .unlinked
  | .linker => if conjunct = .absent then .absent else .linked
  | .extend | .joiner => conjunct
  | _ => .absent

/-- **What an open cluster says about the next boundary.**  Mostly that is its last character.  The
other fields are for what may reach further back: flags, pictographs and conjuncts. -/
structure State where
  /-- The class of the last character. -/
  last : BreakClass
  /-- Whether an odd number of regional indicators ends the cluster. -/
  oddRegional : Bool
  /-- Whether the cluster ends with a pictograph and marks on it. -/
  afterPictograph : Bool
  /-- Whether the cluster ends with a joiner behind a pictograph and its marks. -/
  afterPictographJoiner : Bool
  conjunct : Conjunct
  deriving DecidableEq, Repr

/-- The state of the cluster that a character of the given class opens. -/
def State.opening (cls : BreakClass) : State where
  last := cls
  oddRegional := cls = .regional
  afterPictograph := cls = .pictograph
  afterPictographJoiner := false
  conjunct := Conjunct.absent.advance cls

/-- The state of a cluster after one more character of the given class. -/
def State.advance (s : State) (cls : BreakClass) : State where
  last := cls
  oddRegional := cls = .regional && !s.oddRegional
  afterPictograph := cls = .pictograph || (s.afterPictograph && cls.isMark)
  afterPictographJoiner := s.afterPictograph && cls = .joiner
  conjunct := s.conjunct.advance cls

/-- **Whether a boundary lies between a cluster and a following character.**  The rules overlap,
and the first one that speaks of the two decides. -/
def splits (s : State) (next : BreakClass) : Bool :=
  match s.last, next with
  | .carriageReturn, .lineFeed => false
  | .carriageReturn, _ | .lineFeed, _ | .control, _ => true
  | _, .carriageReturn | _, .lineFeed | _, .control => true
  -- The parts of a Hangul syllable hold together in their order.
  | .hangulLead, .hangulLead | .hangulLead, .hangulVowel
  | .hangulLead, .hangulOpen | .hangulLead, .hangulClosed => false
  | .hangulOpen, .hangulVowel | .hangulOpen, .hangulTail
  | .hangulVowel, .hangulVowel | .hangulVowel, .hangulTail => false
  | .hangulClosed, .hangulTail | .hangulTail, .hangulTail => false
  | _, .extend | _, .linker | _, .nonJoiner | _, .joiner | _, .spacing => false
  | .leading, _ => false
  -- What follows looks further back than the last character.
  | .joiner, .pictograph => !s.afterPictographJoiner
  | .regional, .regional => !s.oddRegional
  | _, .consonant => s.conjunct ≠ .linked
  | _, _ => true

/-- The rest of an open cluster, and the clusters after it. -/
def clustersFrom (s : State) : List Char → List Char × List (List Char)
  | [] => ([], [])
  | c :: rest =>
    let cls := classify c
    if splits s cls then
      let (inside, later) := clustersFrom (.opening cls) rest
      ([], (c :: inside) :: later)
    else
      let (inside, later) := clustersFrom (s.advance cls) rest
      (c :: inside, later)

/-- **The clusters of a text, in order.**  A break depends on nothing before the open cluster, so
one pass with a small state finds them all. -/
def clusters : List Char → List (List Char)
  | [] => []
  | c :: rest =>
    let (inside, later) := clustersFrom (.opening (classify c)) rest
    (c :: inside) :: later

end WireHeaders.Cluster
