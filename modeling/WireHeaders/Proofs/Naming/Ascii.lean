import Mathlib
import WireHeaders.Naming.Words

/-!
# ASCII texts

How texts of ASCII characters are mapped between the cases and cut into clusters.

## Main definitions

* `IsAscii` — a text of ASCII characters

## Main statements

* `Casing.lowercase_of_ascii`, `Casing.uppercase_of_ascii` — **each character is mapped on its own**
* `Casing.isUpper_singleton`, `Casing.isLower_singleton` — capitals and small letters are clusters with
  a case
* `Cluster.clusters_cons_of_ascii` — **each character is a cluster**, but for a carriage return with a
  line feed behind it
-/

namespace WireHeaders

/-- **A text of ASCII characters.** -/
def IsAscii (cs : List Char) : Prop := ∀ c ∈ cs, c.toNat < 0x80

instance (cs : List Char) : Decidable (IsAscii cs) := List.decidableBAll _ cs

namespace IsAscii

variable {c : Char} {cs ds : List Char}

theorem nil : IsAscii [] := nofun

theorem head (ascii : IsAscii (c :: cs)) : c.toNat < 0x80 := ascii c List.mem_cons_self

theorem tail (ascii : IsAscii (c :: cs)) : IsAscii cs :=
  fun d member => ascii d (List.mem_cons_of_mem c member)

theorem cons (here : c.toNat < 0x80) (later : IsAscii cs) : IsAscii (c :: cs) := by
  intro d member
  rcases List.mem_cons.mp member with rfl | member
  · exact here
  · exact later d member

theorem append (first : IsAscii cs) (second : IsAscii ds) : IsAscii (cs ++ ds) := by
  intro d member
  rcases List.mem_append.mp member with member | member
  · exact first d member
  · exact second d member

theorem toLower (here : c.toNat < 0x80) : c.toLower.toNat < 0x80 := by
  by_cases upper : c.isUpper
  · have capital : c.toNat ≤ 90 := by
      simp only [Char.isUpper, decide_eq_true_eq, UInt32.le_iff_toNat_le] at upper
      exact upper.2
    rw [Char.toLower_eq_of_isUpper upper, Char.toNat_ofNat]
    split <;> omega
  · rwa [Char.toLower_eq_of_not_isUpper upper]

theorem toUpper (here : c.toNat < 0x80) : c.toUpper.toNat < 0x80 := by
  by_cases lower : c.isLower
  · rw [Char.toUpper_eq_of_isLower lower, Char.toNat_ofNat]
    split <;> omega
  · rwa [Char.toUpper_eq_of_not_isLower lower]

theorem map_toLower (ascii : IsAscii cs) : IsAscii (cs.map Char.toLower) := by
  intro d member
  obtain ⟨c, listed, rfl⟩ := List.mem_map.mp member
  exact toLower (ascii c listed)

end IsAscii

/-! ## Letter case -/

namespace Casing

variable {c : Char} {cs : List Char}

/-- **An ASCII text in lower case** is the row of its characters in lower case. -/
theorem lowercase_of_ascii (ascii : IsAscii cs) : lowercase cs = cs.map Char.toLower := by
  have after (before : List Char) : lowercaseAfter before cs = cs.map Char.toLower := by
    induction cs generalizing before with
    | nil => rfl
    | cons c cs ih =>
        have plain : c ≠ 'Σ' := by
          rintro rfl
          exact absurd ascii.head (by decide)
        rw [lowercaseAfter, if_neg plain, lower_of_ascii ascii.head, ih ascii.tail]
        rfl
  exact after []

/-- **An ASCII text in upper case** is the row of its characters in upper case. -/
theorem uppercase_of_ascii (ascii : IsAscii cs) : uppercase cs = cs.map Char.toUpper := by
  induction cs with
  | nil => rfl
  | cons c cs ih =>
      rw [uppercase_cons, upper_of_ascii ascii.head, ih ascii.tail]
      rfl

theorem capitalize_of_ascii (ascii : IsAscii (c :: cs)) :
    capitalize (c :: cs) = c.toUpper :: cs.map Char.toLower := by
  rw [capitalize, upper_of_ascii ascii.head, lowercase_of_ascii ascii.tail]
  rfl

theorem map_toLower_lowercase (ascii : IsAscii cs) :
    (lowercase cs).map Char.toLower = cs.map Char.toLower := by
  rw [lowercase_of_ascii ascii, List.map_map]
  exact List.map_congr_left fun c _ => Char.toLower_toLower_eq_toLower c

theorem map_toLower_capitalize (ascii : IsAscii cs) :
    (capitalize cs).map Char.toLower = cs.map Char.toLower := by
  cases cs with
  | nil => rfl
  | cons c cs =>
      rw [capitalize_of_ascii ascii, List.map_cons, ← lowercase_of_ascii ascii.tail,
        map_toLower_lowercase ascii.tail, Char.toLower_toUpper_eq_toLower]
      rfl

/-- A capital is a character in upper case. -/
theorem isUpper_singleton (here : c.toNat < 0x80) : IsUpper [c] ↔ c.isUpper := by
  have ascii : IsAscii [c] := .cons here .nil
  rw [IsUpper, uppercase_of_ascii ascii, lowercase_of_ascii ascii]
  simp only [List.map_cons, List.map_nil, ne_eq, List.cons.injEq, and_true]
  constructor
  · rintro ⟨differ, capital⟩
    by_contra other
    rw [← capital, Char.toLower_eq_of_not_isUpper other] at differ
    exact differ rfl
  · intro upper
    have capital := Char.toUpper_eq_of_not_isLower (Char.not_isLower_of_isUpper upper)
    refine ⟨?_, capital.symm⟩
    rw [capital]
    intro same
    rw [same, Char.isUpper_toLower_eq_false] at upper
    cases upper

/-- A small letter is a character in lower case. -/
theorem isLower_singleton (here : c.toNat < 0x80) : IsLower [c] ↔ c.isLower := by
  have ascii : IsAscii [c] := .cons here .nil
  rw [IsLower, uppercase_of_ascii ascii, lowercase_of_ascii ascii]
  simp only [List.map_cons, List.map_nil, ne_eq, List.cons.injEq, and_true]
  constructor
  · rintro ⟨differ, small⟩
    by_contra other
    rw [← small, Char.toUpper_eq_of_not_isLower other] at differ
    exact differ rfl
  · intro lower
    have small := Char.toLower_eq_of_not_isUpper (Char.not_isUpper_of_isLower lower)
    refine ⟨?_, small.symm⟩
    rw [small]
    intro same
    rw [← same, Char.isLower_toUpper_eq_false] at lower
    cases lower

end Casing

/-! ## Clusters -/

namespace Cluster

variable {c d : Char} {rest : List Char}

/-- ASCII characters have four break classes. -/
theorem classify_of_ascii (here : c.toNat < 0x80) :
    (c = '\r' ∧ classify c = .carriageReturn) ∨ (c = '\n' ∧ classify c = .lineFeed) ∨
      classify c = .control ∨ classify c = .other := by
  unfold classify
  by_cases isReturn : c = '\r'
  · exact Or.inl ⟨isReturn, if_pos isReturn⟩
  by_cases feed : c = '\n'
  · refine Or.inr (Or.inl ⟨feed, ?_⟩)
    rw [if_neg isReturn, if_pos feed]
  rw [if_neg isReturn, if_neg feed]
  split
  · exact Or.inr (Or.inr (Or.inl rfl))
  · exact Or.inr (Or.inr (Or.inr rfl))

/-- A cluster that ends with an ASCII character ends before any other one, but for a carriage return
before a line feed. -/
theorem splits_of_ascii {s : State} (last : s.last = classify c) (here : c.toNat < 0x80)
    (next : d.toNat < 0x80) (apart : ¬(c = '\r' ∧ d = '\n')) : splits s (classify d) = true := by
  rcases classify_of_ascii here with ⟨rfl, first⟩ | ⟨-, first⟩ | first | first
  · rcases classify_of_ascii next with ⟨-, second⟩ | ⟨rfl, -⟩ | second | second
    · simp [splits, last, first, second]
    · exact absurd ⟨rfl, rfl⟩ apart
    · simp [splits, last, first, second]
    · simp [splits, last, first, second]
  all_goals
    rcases classify_of_ascii next with ⟨-, second⟩ | ⟨-, second⟩ | second | second <;>
      simp [splits, last, first, second]

/-- Where a cluster ends, the rest of the text is cut like a text of its own. -/
theorem clustersFrom_of_splits {s : State} (ends : splits s (classify d) = true) :
    clustersFrom s (d :: rest) = ([], clusters (d :: rest)) := by
  simp only [clustersFrom, clusters, ends, if_true]

/-- **An ASCII character is a cluster**, unless it is a carriage return before a line feed. -/
theorem clusters_cons_of_ascii (ascii : IsAscii (c :: rest))
    (apart : ¬(c = '\r' ∧ rest.head? = some '\n')) : clusters (c :: rest) = [c] :: clusters rest := by
  cases rest with
  | nil => rfl
  | cons d rest =>
      have ends : splits (.opening (classify c)) (classify d) = true :=
        splits_of_ascii rfl ascii.head ascii.tail.head (by simpa using apart)
      rw [clusters, clustersFrom_of_splits ends]

/-- A carriage return before a line feed is in one cluster with it. -/
theorem clusters_returnFeed (ascii : IsAscii rest) :
    clusters ('\r' :: '\n' :: rest) = ['\r', '\n'] :: clusters rest := by
  have joined : splits (.opening (classify '\r')) (classify '\n') = false := rfl
  have rejoined : clustersFrom ((State.opening (classify '\r')).advance (classify '\n')) rest =
      ([], clusters rest) := by
    cases rest with
    | nil => rfl
    | cons d rest =>
        exact clustersFrom_of_splits
          (@splits_of_ascii '\n' d _ rfl (by decide) ascii.head (by simp))
  simp only [clusters, clustersFrom, joined, rejoined, Bool.false_eq_true, if_false]

end Cluster

end WireHeaders
