import WireHeaders.Proofs.Json.Numerals

/-!
# How deep a text nests

The arrays and objects that are open at once can be counted on the text alone: a bracket opens or
closes one of them unless it stands inside a string.

## Main definitions

* `Json.Scan` and `Json.Scan.step` — a count of open brackets along a text
* `Json.nesting` — **how many arrays and objects of a text are open at once, at most**

## Main statements

* `Json.nesting_text` — **the text of a value nests as deep as the value**

## Design notes

The count looks at nothing but quotes, backslashes and brackets, so it is a measure of a text that
owes nothing to a reader or to the value that the text was written for.
-/

namespace WireHeaders.Json

/-- Where a scan stands. -/
inductive ScanPlace where
  | outside
  /-- Inside a string. -/
  | string
  /-- Inside a string and behind a backslash. -/
  | backslash
  deriving DecidableEq, Repr

/-- **A count of open brackets.** -/
structure Scan where
  place : ScanPlace
  /-- How many arrays and objects are open. -/
  opened : Nat
  /-- How many were open at once so far, at most. -/
  most : Nat
  deriving DecidableEq, Repr

namespace Scan

/-- **One character.** -/
def step (s : Scan) (c : Char) : Scan :=
  match s.place with
  | .outside =>
    if c = '"' then { s with place := .string }
    else if c = '[' ∨ c = '\x7b' then ⟨.outside, s.opened + 1, max s.most (s.opened + 1)⟩
    else if c = ']' ∨ c = '\x7d' then { s with opened := s.opened - 1 }
    else s
  | .string =>
    if c = '"' then { s with place := .outside }
    else if c = '\\' then { s with place := .backslash }
    else s
  | .backslash => { s with place := .string }

variable {opened most : Nat}

/-! ## Strings and integers -/

/-- A hexadecimal digit does not end a string. -/
theorem step_hexDigit {n : Nat} (small : n < 16) :
    step ⟨.string, opened, most⟩ (hexDigit n) = ⟨.string, opened, most⟩ := by
  have digit : ∀ n < 16, hexDigit n ≠ '"' ∧ hexDigit n ≠ '\\' := by decide
  obtain ⟨quote, backslash⟩ := digit n small
  simp [step, quote, backslash]

/-- **An escaped character stays inside its string.** -/
theorem foldl_escape (c : Char) :
    (escape c).foldl step ⟨.string, opened, most⟩ = ⟨.string, opened, most⟩ := by
  unfold escape
  -- A short escape is a backslash and one more character, which is taken whatever it is.
  split
  · rfl
  split
  · rfl
  split
  · rfl
  split
  · rfl
  split
  · rfl
  split
  · rfl
  split
  · rfl
  split
  · next control =>
    have first : c.toNat / 16 < 16 := by omega
    have second : c.toNat % 16 < 16 := Nat.mod_lt _ (by decide)
    have opening : ['\\', 'u', '0', '0'].foldl step ⟨.string, opened, most⟩ =
        ⟨.string, opened, most⟩ := rfl
    show ['\\', 'u', '0', '0', hexDigit (c.toNat / 16), hexDigit (c.toNat % 16)].foldl step _ = _
    rw [List.foldl_cons, List.foldl_cons, List.foldl_cons, List.foldl_cons] at opening ⊢
    rw [List.foldl_nil] at opening
    rw [opening, List.foldl_cons, step_hexDigit first, List.foldl_cons, step_hexDigit second,
      List.foldl_nil]
  · next quote backslash _ _ _ _ _ _ => simp [step, quote, backslash]

theorem foldl_flatMap_escape (cs : List Char) :
    (cs.flatMap escape).foldl step ⟨.string, opened, most⟩ = ⟨.string, opened, most⟩ := by
  induction cs with
  | nil => rfl
  | cons c cs ih => rw [List.flatMap_cons, List.foldl_append, foldl_escape, ih]

/-- **A quoted string opens nothing**, whatever brackets stand in it. -/
theorem foldl_quote (s : String) :
    (quote s).foldl step ⟨.outside, opened, most⟩ = ⟨.outside, opened, most⟩ := by
  show ('"' :: (s.toList.flatMap escape ++ ['"'])).foldl step _ = _
  have entered : step ⟨.outside, opened, most⟩ '"' = ⟨.string, opened, most⟩ := rfl
  rw [List.foldl_cons, entered, List.foldl_append, foldl_flatMap_escape]
  rfl

/-- The characters of an integer neither open nor close anything. -/
theorem foldl_opensInt {cs : List Char} (opens : ∀ c ∈ cs, Reader.OpensInt c) :
    cs.foldl step ⟨.outside, opened, most⟩ = ⟨.outside, opened, most⟩ := by
  induction cs with
  | nil => rfl
  | cons c cs ih =>
      have other := opens c List.mem_cons_self
      have quote : c ≠ '"' := other.ne (by decide) (by decide)
      have array : c ≠ '[' := other.ne (by decide) (by decide)
      have object : c ≠ '\x7b' := other.ne (by decide) (by decide)
      have arrayEnd : c ≠ ']' := other.ne (by decide) (by decide)
      have objectEnd : c ≠ '\x7d' := other.ne (by decide) (by decide)
      have stays : step ⟨.outside, opened, most⟩ c = ⟨.outside, opened, most⟩ := by
        simp [step, quote, array, object, arrayEnd, objectEnd]
      rw [List.foldl_cons, stays, ih fun d later => opens d (List.mem_cons_of_mem c later)]

theorem foldl_intChars (n : Int) :
    (intChars n).foldl step ⟨.outside, opened, most⟩ = ⟨.outside, opened, most⟩ := by
  refine foldl_opensInt ?_
  intro c member
  have digits : ∀ c ∈ Nat.toDigits 10 n.natAbs, Reader.OpensInt c := fun c member =>
    Or.inr (Nat.isDigit_of_mem_toDigits (by decide) (by decide) member)
  unfold intChars at member
  split at member
  · rcases List.mem_cons.mp member with sign | member
    · exact Or.inl sign
    · exact digits c member
  · exact digits c member

/-! ## Values -/

/-- What opens nothing leaves the count alone. -/
theorem counted_flat (counted : opened ≤ most) :
    (⟨.outside, opened, max most (opened + 0)⟩ : Scan) = ⟨.outside, opened, most⟩ := by
  rw [Nat.add_zero, Nat.max_eq_left counted]

mutual

/-- **A value is scanned to where it started**, and the count rises to its depth. -/
theorem foldl_chars {opened most : Nat} (counted : opened ≤ most) : (v : Value) →
    v.chars.foldl step ⟨.outside, opened, most⟩ = ⟨.outside, opened, max most (opened + v.depth)⟩
  | .null => by
    rw [Value.chars]
    exact (counted_flat counted).symm
  | .bool true => by
    rw [Value.chars]
    exact (counted_flat counted).symm
  | .bool false => by
    rw [Value.chars]
    exact (counted_flat counted).symm
  | .int n => by
    rw [Value.chars, foldl_intChars]
    exact (counted_flat counted).symm
  | .string s => by
    rw [Value.chars, foldl_quote]
    exact (counted_flat counted).symm
  | .array [] => by
    rw [Value.chars, Value.depth, Value.itemsDepth]
    rfl
  | .array (v :: vs) => by
    have entered : step ⟨.outside, opened, most⟩ '[' =
        ⟨.outside, opened + 1, max most (opened + 1)⟩ := rfl
    rw [Value.chars, Value.depth, Value.itemsDepth, List.cons_append, List.foldl_cons, entered,
      List.foldl_append, foldl_chars (by omega) v, foldl_laterItems (by omega) vs]
    congr 1
    omega
  | .object [] => by
    rw [Value.chars, Value.depth, Value.membersDepth]
    rfl
  | .object ((key, v) :: members) => by
    have entered : step ⟨.outside, opened, most⟩ '\x7b' =
        ⟨.outside, opened + 1, max most (opened + 1)⟩ := rfl
    -- The key opens nothing, so the value is met where the brace has led to.
    rw [Value.chars, Value.depth, Value.membersDepth, List.cons_append, List.cons_append,
      List.foldl_cons, entered, List.foldl_append, List.foldl_append, foldl_quote]
    rw [List.foldl_cons]
    show (Value.laterMembers members).foldl step
      (v.chars.foldl step ⟨.outside, opened + 1, max most (opened + 1)⟩) = _
    rw [foldl_chars (by omega) v, foldl_laterMembers (by omega) members]
    congr 1
    omega

/-- The rest of an array closes it. -/
theorem foldl_laterItems {opened most : Nat} (counted : opened + 1 ≤ most) :
    (vs : List Value) → (Value.laterItems vs).foldl step ⟨.outside, opened + 1, most⟩ =
      ⟨.outside, opened, max most (opened + 1 + Value.itemsDepth vs)⟩
  | [] => by
    rw [Value.laterItems, Value.itemsDepth, Nat.add_zero, Nat.max_eq_left counted]
    rfl
  | v :: vs => by
    have comma : step ⟨.outside, opened + 1, most⟩ ',' = ⟨.outside, opened + 1, most⟩ := rfl
    rw [Value.laterItems, Value.itemsDepth, List.cons_append, List.foldl_cons, comma,
      List.foldl_append, foldl_chars counted v, foldl_laterItems (by omega) vs]
    congr 1
    omega

/-- The rest of an object closes it. -/
theorem foldl_laterMembers {opened most : Nat} (counted : opened + 1 ≤ most) :
    (members : List (String × Value)) →
    (Value.laterMembers members).foldl step ⟨.outside, opened + 1, most⟩ =
      ⟨.outside, opened, max most (opened + 1 + Value.membersDepth members)⟩
  | [] => by
    rw [Value.laterMembers, Value.membersDepth, Nat.add_zero, Nat.max_eq_left counted]
    rfl
  | (key, v) :: members => by
    have comma : step ⟨.outside, opened + 1, most⟩ ',' = ⟨.outside, opened + 1, most⟩ := rfl
    have colon : step ⟨.outside, opened + 1, most⟩ ':' = ⟨.outside, opened + 1, most⟩ := rfl
    rw [Value.laterMembers, Value.membersDepth, List.cons_append, List.cons_append,
      List.foldl_cons, comma, List.foldl_append, List.foldl_append, foldl_quote, List.foldl_cons,
      colon, foldl_chars counted v, foldl_laterMembers (by omega) members]
    congr 1
    omega

end

end Scan

/-- **How many arrays and objects of a text are open at once, at most.** -/
def nesting (text : String) : Nat := (text.toList.foldl Scan.step ⟨.outside, 0, 0⟩).most

/-- **The text of a value nests as deep as the value.** -/
theorem nesting_text (v : Value) : nesting v.text = v.depth := by
  unfold nesting Value.text
  rw [String.toList_ofList, Scan.foldl_chars (Nat.le_refl 0)]
  show max 0 (0 + v.depth) = v.depth
  omega

end WireHeaders.Json
