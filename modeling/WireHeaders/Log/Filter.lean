import WireHeaders.Log.Rule

/-!
# Which events are shown

## Main definitions

* `LogFilter` — levels for targets
* `LogFilter.ofText` — a filter from its text
* `LogFilter.ofSetting` — the filter that a user asks for
* `LogFilter.shows` — whether an event is shown

## Design notes

Of the rules that hold for an event the one with the longest target counts, and of two rules that
ask for the same the later one.  An event that no rule holds for is not shown.
-/

namespace WireHeaders

/-- **Levels for targets.**  Of several rules for one event a single one decides, so a rule may
also show less than an earlier one. -/
abbrev LogFilter := List LogRule

namespace LogFilter

/-- The filter that is used unless another one is asked for. -/
def standard : LogFilter := [⟨none, none, false, Level.info.rank⟩]

def cutAtCommas : List Char → List (List Char)
  | [] => [[]]
  | c :: rest =>
    if c = ',' then [] :: cutAtCommas rest
    else
      match cutAtCommas rest with
      | [] => [[c]]
      | part :: parts => (c :: part) :: parts

/-- **A filter from its text**: rules with commas between them.  Empty rules are passed over, and
the first one that is wrong makes the whole text wrong. -/
def ofText (text : String) : Except RuleFault LogFilter :=
  ((cutAtCommas text.toList).filter (fun part => !part.isEmpty)).mapM LogRule.ofText

/-- **The filter that a user asks for.**  A malformed setting asks for none; a setting that cannot
be cut into rules stops the command. -/
def ofSetting : Option String → Option LogFilter
  | none => some standard
  | some text =>
    match ofText text with
    | .ok filter => some filter
    | .error .malformed => some standard
    | .error .cutsCharacter => none

/-- The rule that counts for an event. -/
def ruleFor (filter : LogFilter) (event : Event) : Option LogRule :=
  (filter.filter fun rule => rule.holdsFor event).foldl
    (fun best rule =>
      match best with
      | none => some rule
      | some earlier => if rule.outweighs earlier then some rule else best)
    none

/-- **Whether an event is shown.**  An event that no rule holds for is not shown, whatever
its level is. -/
def shows (filter : LogFilter) (event : Event) : Bool :=
  match filter.ruleFor event with
  | none => false
  | some rule => event.level.rank ≤ rule.rank

end LogFilter

end WireHeaders
