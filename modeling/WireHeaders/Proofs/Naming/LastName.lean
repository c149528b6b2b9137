import Mathlib.Data.List.Infix
import WireHeaders.Naming.WireName

/-!
# Unqualified names

An enumerator is written under the part of its identifier behind the last `::`.  Three colons in a row
hold two separators, of which the later one counts.

## Main definitions

* `IsLastName` — **what follows the last `::` of an identifier**
* `IsQualified` — an identifier with a `::` in it

## Main statements

* `isLastName_stripScope` — **dropping the qualifier** leaves what follows the last `::`
* `IsLastName.unique` — an identifier has one last name
* `IsLastName.qualify` — a further qualifier in front changes nothing
* `stripScope_exact` — **an identifier is cut at its last `::`**, however deeply it is qualified

## Design notes

Cutting an identifier is a function and what it should leave is a relation.  As only one name is related
to an identifier, what is true of cutting is read off the relation.
-/

namespace WireHeaders

/-- **What follows the last `::` of an identifier**, or all of it if there is none.  No later `::`
means that there is none behind the first colon of the last one. -/
def IsLastName (raw name : List Char) : Prop :=
  (name = raw ∧ ¬[':', ':'] <:+: raw) ∨
    ∃ scope, raw = scope ++ ':' :: ':' :: name ∧ ¬[':', ':'] <:+: ':' :: name

/-- A separator begins at two colons in front, or it stands further behind. -/
theorem separator_infix_cons_iff {c : Char} {cs : List Char} :
    [':', ':'] <:+: c :: cs ↔ (c = ':' ∧ cs.head? = some ':') ∨ [':', ':'] <:+: cs := by
  rw [List.infix_cons_iff, List.cons_prefix_cons]
  cases cs with
  | nil => simp
  | cons d ds => simp [List.cons_prefix_cons, eq_comm]

/-- A separator is found if there is one. -/
theorem not_infix_of_afterLastScope {raw : List Char} (absent : afterLastScope raw = none) :
    ¬[':', ':'] <:+: raw := by
  fun_induction afterLastScope raw with
  | case1 => simp
  | case2 => cases absent
  | case3 => cases absent
  | case4 c rest noneLater notHere ih =>
      rw [separator_infix_cons_iff, not_or]
      refine ⟨?_, ih noneLater⟩
      rintro ⟨colon, next⟩
      obtain ⟨name, spelled⟩ := List.head?_eq_some_iff.mp next
      exact notHere name colon spelled

/-- **The separator that is found is the last one.** -/
theorem of_afterLastScope {raw name : List Char} (found : afterLastScope raw = some name) :
    ∃ scope, raw = scope ++ ':' :: ':' :: name ∧ ¬[':', ':'] <:+: ':' :: name := by
  fun_induction afterLastScope raw with
  | case1 => cases found
  | case2 c rest later foundLater ih =>
      obtain ⟨scope, split, last⟩ := ih (foundLater.trans found)
      exact ⟨c :: scope, by rw [split]; rfl, last⟩
  | case3 later noneLater =>
      cases found
      exact ⟨[], rfl, not_infix_of_afterLastScope noneLater⟩
  | case4 => cases found

/-- **Dropping the qualifier** leaves what follows the last separator. -/
theorem isLastName_stripScope (raw : String) : IsLastName raw.toList (stripScope raw).toList := by
  unfold stripScope
  split
  · next name found =>
    rw [String.toList_ofList]
    exact Or.inr (of_afterLastScope found)
  · next unseparated => exact Or.inl ⟨rfl, not_infix_of_afterLastScope unseparated⟩

example : stripScope "EColor::Red" = "Red" := by decide

/-! ## One last name -/

/-- What follows a separator reaches as far back as what follows the last one only if they are the
same. -/
theorem eq_of_separator_suffix {name last : List Char}
    (suffix : ':' :: ':' :: name <:+ ':' :: ':' :: last) (unseparated : ¬[':', ':'] <:+: ':' :: last) :
    name = last := by
  rcases List.suffix_cons_iff.mp suffix with same | later
  · cases same
    rfl
  · have separator : [':', ':'] <:+: ':' :: ':' :: name := ⟨[], name, rfl⟩
    exact absurd (separator.trans later.isInfix) unseparated

namespace IsLastName

variable {raw name name' : List Char}

/-- There is no separator in a last name. -/
theorem no_separator (isLast : IsLastName raw name) : ¬[':', ':'] <:+: name := by
  rcases isLast with ⟨rfl, unseparated⟩ | ⟨scope, -, unseparated⟩
  · exact unseparated
  · exact fun separator => unseparated (separator.trans (List.suffix_cons ':' name).isInfix)

/-- An identifier with a separator has a qualifier in front of its last name. -/
theorem exists_scope (isLast : IsLastName raw name) (separated : [':', ':'] <:+: raw) :
    ∃ scope, raw = scope ++ ':' :: ':' :: name ∧ ¬[':', ':'] <:+: ':' :: name :=
  isLast.resolve_left fun whole => whole.2 separated

/-- An identifier without a separator is its own last name. -/
theorem eq_of_no_separator (isLast : IsLastName raw name) (unseparated : ¬[':', ':'] <:+: raw) :
    name = raw := by
  rcases isLast with ⟨same, -⟩ | ⟨scope, split, -⟩
  · exact same
  · exact absurd ⟨scope, name, by simp [split]⟩ unseparated

/-- **An identifier has one last name.** -/
theorem unique (first : IsLastName raw name) (second : IsLastName raw name') : name = name' := by
  by_cases separated : [':', ':'] <:+: raw
  · obtain ⟨scope, split, unseparated⟩ := first.exists_scope separated
    obtain ⟨scope', split', unseparated'⟩ := second.exists_scope separated
    -- Of two ends of one identifier, the shorter one is an end of the longer one.
    rcases List.suffix_or_suffix_of_suffix ⟨scope, split.symm⟩ ⟨scope', split'.symm⟩ with
      suffix | suffix
    · exact eq_of_separator_suffix suffix unseparated'
    · exact (eq_of_separator_suffix suffix unseparated).symm
  · rw [first.eq_of_no_separator separated, second.eq_of_no_separator separated]

/-- **A further qualifier in front changes nothing.**  An identifier that begins with a colon would make a
later separator with the one that is put in front of it. -/
theorem qualify (isLast : IsLastName raw name) (scope : List Char) (apart : raw.head? ≠ some ':') :
    IsLastName (scope ++ ':' :: ':' :: raw) name := by
  rcases isLast with ⟨rfl, unseparated⟩ | ⟨inner, rfl, unseparated⟩
  · refine Or.inr ⟨scope, rfl, ?_⟩
    rw [separator_infix_cons_iff, not_or]
    exact ⟨fun colon => apart colon.2, unseparated⟩
  · exact Or.inr ⟨scope ++ ':' :: ':' :: inner, by simp, unseparated⟩

end IsLastName

/-! ## Identifiers -/

/-- **An identifier with a `::` in it**, anywhere. -/
def IsQualified (raw : String) : Prop := ∃ scope name, raw = scope ++ "::" ++ name

theorem isQualified_iff {raw : String} : IsQualified raw ↔ [':', ':'] <:+: raw.toList := by
  constructor
  · rintro ⟨scope, name, rfl⟩
    exact ⟨scope.toList, name.toList, by simp⟩
  · rintro ⟨scope, name, split⟩
    refine ⟨String.ofList scope, String.ofList name, String.toList_inj.mp ?_⟩
    simp [← split]

instance (raw : String) : Decidable (IsQualified raw) :=
  decidable_of_iff _ isQualified_iff.symm

theorem stripScope_eq_iff {raw name : String} :
    stripScope raw = name ↔ IsLastName raw.toList name.toList := by
  constructor
  · rintro rfl
    exact isLastName_stripScope raw
  · intro isLast
    exact String.toList_inj.mp ((isLastName_stripScope raw).unique isLast)

theorem not_isQualified_stripScope (raw : String) : ¬IsQualified (stripScope raw) := by
  rw [isQualified_iff]
  exact (isLastName_stripScope raw).no_separator

theorem stripScope_eq_self_iff {raw : String} : stripScope raw = raw ↔ ¬IsQualified raw := by
  constructor
  · intro same
    rw [← same]
    exact not_isQualified_stripScope raw
  · intro unseparated
    rw [isQualified_iff] at unseparated
    exact stripScope_eq_iff.mpr (Or.inl ⟨rfl, unseparated⟩)

/-- What is cut off from a qualified identifier ends with its last separator. -/
theorem exists_scope_of_isQualified {raw : String} (qualified : IsQualified raw) :
    ∃ scope, raw = scope ++ "::" ++ stripScope raw ∧
      (stripScope raw).toList.head? ≠ some ':' := by
  obtain ⟨scope, split, unseparated⟩ :=
    (isLastName_stripScope raw).exists_scope (isQualified_iff.mp qualified)
  rw [separator_infix_cons_iff, not_or] at unseparated
  refine ⟨String.ofList scope, String.toList_inj.mp ?_, fun colon => unseparated.1 ⟨rfl, colon⟩⟩
  simpa using split

theorem stripScope_qualify (scope : String) {raw : String} (apart : raw.toList.head? ≠ some ':') :
    stripScope (scope ++ "::" ++ raw) = stripScope raw := by
  refine stripScope_eq_iff.mpr ?_
  have further := (isLastName_stripScope raw).qualify scope.toList apart
  simpa using further

/-- **An identifier is cut at its last `::`.**  Nothing of a name without one is taken away.  A name that
is left has none and stays as it is when it is cut again.  An enumerator has the same wire name however
deeply it is qualified. -/
theorem stripScope_exact (raw : String) :
    ¬IsQualified (stripScope raw) ∧
    (stripScope raw = raw ↔ ¬IsQualified raw) ∧
    (IsQualified raw → ∃ scope, raw = scope ++ "::" ++ stripScope raw ∧
      (stripScope raw).toList.head? ≠ some ':') ∧
    stripScope (stripScope raw) = stripScope raw ∧
    (raw.toList.head? ≠ some ':' → ∀ scope : String,
      stripScope (scope ++ "::" ++ raw) = stripScope raw ∧
        ∀ convention, enumeratorName (scope ++ "::" ++ raw) none convention =
          enumeratorName raw none convention) := by
  refine ⟨not_isQualified_stripScope raw, stripScope_eq_self_iff, exists_scope_of_isQualified,
    stripScope_eq_self_iff.mpr (not_isQualified_stripScope raw), fun apart scope => ?_⟩
  have same := stripScope_qualify scope apart
  refine ⟨same, fun convention => ?_⟩
  unfold enumeratorName
  rw [same]

/-- A qualifier that ends with a colon of its own. -/
theorem stripScope_exact_threeColons :
    IsQualified "EColor::Red" ∧ "EColor::Red".toList.head? ≠ some ':' ∧
      (∃ scope, "EColor::Red" = scope ++ "::" ++ stripScope "EColor::Red") ∧
      stripScope "Game:::EColor::Red" = "Red" := by
  have qualified : IsQualified "EColor::Red" := by decide
  have apart : "EColor::Red".toList.head? ≠ some ':' := by decide
  obtain ⟨-, -, cut, -, deeper⟩ := stripScope_exact "EColor::Red"
  obtain ⟨scope, split, -⟩ := cut qualified
  exact ⟨qualified, apart, ⟨scope, split⟩, (deeper apart "Game:").1⟩

end WireHeaders
