import Mathlib.Algebra.Ring.Int.Defs
import WireHeaders.Json.Reader

/-!
# Integers read back

An integer is written in decimal digits, with a minus sign before them if it is negative.  Read
again, these digits give the same spelling, and the spelling denotes the integer.

## Main definitions

* `Json.Reader.OpensInt` — the characters that can open the text of an integer
* `Json.Reader.endPlace` — the place at which the digits of a number end

## Main statements

* `Json.ofDigits_digitsOf` — **the digits of a number denote it**
* `Json.toDigits_of_pos` — a positive number does not start with a zero
* `Json.Numeral.value_ofInt` — **an integer that fits 64 bits is read as itself**
* `Json.Reader.foldl_intChars` — **an integer is read digit by digit**
-/

namespace WireHeaders.Json

/-! ## The digits of a natural number -/

theorem ofDigits_concat (ds : List Nat) (d : Nat) :
    ofDigits (ds ++ [d]) = 10 * ofDigits ds + d := by
  unfold ofDigits
  rw [List.foldl_append]
  rfl

theorem digitsOf_of_lt {n : Nat} (small : n < 10) : digitsOf n = [n] := by
  unfold digitsOf
  rw [Nat.toDigits_of_lt_base small, List.map_singleton]
  exact congrArg (fun d => [d]) (Nat.toNat_digitChar_sub_48_of_lt_ten small)

theorem digitsOf_of_le {n : Nat} (large : 10 ≤ n) :
    digitsOf n = digitsOf (n / 10) ++ [n % 10] := by
  have small : n % 10 < 10 := Nat.mod_lt n (by decide)
  unfold digitsOf
  rw [Nat.toDigits_of_base_le (by decide) large, List.map_append, List.map_singleton]
  exact congrArg (fun d => _ ++ [d]) (Nat.toNat_digitChar_sub_48_of_lt_ten small)

/-- **The digits of a number denote it.** -/
theorem ofDigits_digitsOf (n : Nat) : ofDigits (digitsOf n) = n := by
  induction n using Nat.strongRecOn with
  | ind n ih =>
      by_cases small : n < 10
      · rw [digitsOf_of_lt small]
        show 10 * 0 + n = n
        omega
      · rw [digitsOf_of_le (by omega), ofDigits_concat, ih (n / 10) (by omega)]
        omega

/-- **A positive number does not start with a zero.** -/
theorem toDigits_of_pos {n : Nat} (positive : 0 < n) :
    ∃ d cs, Nat.toDigits 10 n = Nat.digitChar d :: cs ∧ 0 < d ∧ d < 10 := by
  induction n using Nat.strongRecOn with
  | ind n ih =>
      by_cases small : n < 10
      · exact ⟨n, [], Nat.toDigits_of_lt_base small, positive, small⟩
      · obtain ⟨d, cs, digits, dPositive, dSmall⟩ := ih (n / 10) (by omega) (by omega)
        refine ⟨d, cs ++ [Nat.digitChar (n % 10)], ?_, dPositive, dSmall⟩
        rw [Nat.toDigits_of_base_le (by decide) (by omega), digits]
        rfl

/-! ## The value of an integer -/

namespace Numeral

theorem value_ofInt_of_nonneg {n : Int} (nonneg : 0 ≤ n) (fits : n < 2 ^ 64) :
    (ofInt n).value = .ok (.natural n.natAbs) := by
  have sign : decide (n < 0) = false := by
    simp only [decide_eq_false_iff_not]
    omega
  have word : n.natAbs ≤ maxWord := by
    show n.natAbs ≤ 18446744073709551615
    omega
  simp [value, ofInt, ofDigits_digitsOf, sign, word]

theorem value_ofInt_of_neg {n : Int} (negative : n < 0) (fits : -2 ^ 63 ≤ n) :
    (ofInt n).value = .ok (.negative n.natAbs) := by
  have word : 0 < n.natAbs ∧ n.natAbs ≤ Nat.pow 2 63 := by
    show _ ∧ n.natAbs ≤ 9223372036854775808
    omega
  simp [value, ofInt, ofDigits_digitsOf, negative, word]

/-- **An integer that fits 64 bits is read as itself.** -/
theorem value_ofInt {n : Int} (lower : -2 ^ 63 ≤ n) (upper : n < 2 ^ 64) :
    (ofInt n).value = .ok (if n < 0 then .negative n.natAbs else .natural n.natAbs) := by
  split
  · next negative => exact value_ofInt_of_neg negative lower
  · next nonneg => exact value_ofInt_of_nonneg (Int.not_lt.mp nonneg) upper

end Numeral

namespace Reader

variable {stack : List Frame}

/-! ## Digits as they are read -/

/-- The characters that can open the text of an integer. -/
def OpensInt (c : Char) : Prop := c = '-' ∨ c.isDigit = true

theorem OpensInt.ne {c d : Char} (opens : OpensInt c) (noSign : d ≠ '-')
    (noDigit : d.isDigit = false) : c ≠ d := by
  rintro rfl
  rcases opens with sign | digit
  · exact noSign sign
  · rw [digit] at noDigit
    cases noDigit

theorem OpensInt.isBlank {c : Char} (opens : OpensInt c) : isBlank c = false := by
  simp only [Json.isBlank, Bool.or_eq_false_iff, decide_eq_false_iff_not]
  refine ⟨⟨⟨?_, ?_⟩, ?_⟩, ?_⟩
  all_goals exact opens.ne (by decide) (by decide)

theorem digit?_of_isDigit {c : Char} (digit : c.isDigit = true) :
    NumeralSpelling.digit? c = some (c.toNat - '0'.toNat) :=
  if_pos digit

/-- What can open an integer opens no other value. -/
theorem startValue_numeral {c : Char} {spelling : NumeralSpelling} (opens : OpensInt c)
    (opened : NumeralSpelling.open? c = some spelling) :
    startValue stack c = ⟨stack, .numeral spelling⟩ := by
  unfold startValue
  rw [if_neg (opens.ne (by decide) (by decide)), if_neg (opens.ne (by decide) (by decide)),
    if_neg (opens.ne (by decide) (by decide)), if_neg (opens.ne (by decide) (by decide)),
    if_neg (opens.ne (by decide) (by decide)), if_neg (opens.ne (by decide) (by decide)), opened]

/-- More digits before the point. -/
theorem foldl_digits {negative : Bool} {ds : List Nat} {cs : List Char}
    (digits : ∀ c ∈ cs, c.isDigit = true) :
    cs.foldl step ⟨stack, .numeral ⟨.whole, ⟨negative, ds, none, none⟩⟩⟩ =
      ⟨stack, .numeral ⟨.whole,
        ⟨negative, ds ++ cs.map (fun c => c.toNat - '0'.toNat), none, none⟩⟩⟩ := by
  induction cs generalizing ds with
  | nil => simp
  | cons c cs ih =>
      have digit := digit?_of_isDigit (digits c List.mem_cons_self)
      have stepped : step ⟨stack, .numeral ⟨.whole, ⟨negative, ds, none, none⟩⟩⟩ c =
          ⟨stack, .numeral ⟨.whole, ⟨negative, ds ++ [c.toNat - '0'.toNat], none, none⟩⟩⟩ := by
        simp [step, NumeralSpelling.step, digit, NumeralSpelling.pushWhole]
      rw [List.foldl_cons, stepped, ih fun d later => digits d (List.mem_cons_of_mem c later),
        List.map_cons, List.append_assoc, List.singleton_append]

/-- The place at which the digits of a number end. -/
def endPlace (n : Nat) : NumeralPlace := if n = 0 then .zero else .whole

/-- **The digits of a number**, behind a state that their first digit brings into a numeral. -/
theorem foldl_toDigits {r : Reader} {negative : Bool} {n : Nat}
    (zero : n = 0 → r.step '0' = ⟨stack, .numeral ⟨.zero, ⟨negative, [0], none, none⟩⟩⟩)
    (first : ∀ d, 0 < d → d < 10 → r.step (Nat.digitChar d) =
      ⟨stack, .numeral ⟨.whole, ⟨negative, [d], none, none⟩⟩⟩) :
    (Nat.toDigits 10 n).foldl step r =
      ⟨stack, .numeral ⟨endPlace n, ⟨negative, digitsOf n, none, none⟩⟩⟩ := by
  -- A zero ends the digits at once, since no digit may follow it; any other first digit does not.
  rcases Nat.eq_zero_or_pos n with rfl | positive
  · rw [Nat.toDigits_zero, List.foldl_cons, zero rfl]
    rfl
  · obtain ⟨d, cs, digits, dPositive, dSmall⟩ := toDigits_of_pos positive
    have later : ∀ c ∈ cs, c.isDigit = true := fun c member =>
      Nat.isDigit_of_mem_toDigits (b := 10) (n := n) (by decide) (by decide)
        (digits ▸ List.mem_cons_of_mem _ member)
    have value : (Nat.digitChar d).toNat - '0'.toNat = d :=
      Nat.toNat_digitChar_sub_48_of_lt_ten dSmall
    rw [digits, List.foldl_cons, first d dPositive dSmall, foldl_digits later, endPlace,
      if_neg (Nat.ne_of_gt positive), digitsOf, digits, List.map_cons, value]
    rfl

theorem isDigit_digitChar {d : Nat} (small : d < 10) : (Nat.digitChar d).isDigit = true := by
  rw [Nat.isDigit_digitChar]
  exact decide_eq_true small

theorem digit?_digitChar {d : Nat} (small : d < 10) :
    NumeralSpelling.digit? (Nat.digitChar d) = some d := by
  rw [digit?_of_isDigit (isDigit_digitChar small)]
  exact congrArg some (Nat.toNat_digitChar_sub_48_of_lt_ten small)

/-- **An integer is read digit by digit.** -/
theorem foldl_intChars (n : Int) :
    (intChars n).foldl step ⟨stack, .start⟩ =
      ⟨stack, .numeral ⟨endPlace n.natAbs, Numeral.ofInt n⟩⟩ := by
  unfold intChars
  split
  · next negative =>
    rw [List.foldl_cons]
    have opened : step ⟨stack, .start⟩ '-' =
        ⟨stack, .numeral ⟨.sign, ⟨true, [], none, none⟩⟩⟩ := rfl
    rw [opened, foldl_toDigits]
    · rw [Numeral.ofInt, decide_eq_true negative]
    · intro _
      rfl
    · intro d positive small
      simp [step, NumeralSpelling.step, digit?_digitChar small, NumeralSpelling.pushWhole,
        Nat.ne_of_gt positive]
  · next nonneg =>
    rw [foldl_toDigits]
    · rw [Numeral.ofInt, decide_eq_false nonneg]
    · intro _
      rfl
    · intro d positive small
      have opens : OpensInt (Nat.digitChar d) := Or.inr (isDigit_digitChar small)
      have opened : NumeralSpelling.open? (Nat.digitChar d) =
          some ⟨.whole, ⟨false, [d], none, none⟩⟩ := by
        have sign : Nat.digitChar d ≠ '-' := by
          intro equal
          have digit := isDigit_digitChar small
          rw [equal] at digit
          cases digit
        have zero : Nat.digitChar d ≠ '0' := by
          rw [Ne, Nat.digitChar_eq_zero]
          exact Nat.ne_of_gt positive
        rw [NumeralSpelling.open?, if_neg sign, if_neg zero, digit?_digitChar small]
        rfl
      -- A digit is no blank, so it is taken as the first character of a value.
      have settled : step ⟨stack, .start⟩ (Nat.digitChar d) =
          startValue stack (Nat.digitChar d) := by
        simp [step, stepSettled, opens.isBlank]
      rw [settled, startValue_numeral opens opened]

theorem exists_intChars_eq_cons (n : Int) : ∃ c cs, intChars n = c :: cs ∧ OpensInt c := by
  unfold intChars
  split
  · exact ⟨'-', _, rfl, Or.inl rfl⟩
  · cases digits : Nat.toDigits 10 n.natAbs with
    | nil => exact absurd digits Nat.toDigits_ne_nil
    | cons c cs =>
        have digit : c.isDigit = true :=
          Nat.isDigit_of_mem_toDigits (b := 10) (n := n.natAbs) (by decide) (by decide)
            (digits ▸ List.mem_cons_self)
        exact ⟨c, cs, rfl, Or.inr digit⟩

end Reader

end WireHeaders.Json
