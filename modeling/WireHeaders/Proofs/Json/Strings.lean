import WireHeaders.Json.Reader

/-!
# Strings read back

A string is written between quotes with some of its characters escaped.  Read again, each escape
gives the character that it stands for, and nothing but the closing quote ends the string.

## Main definitions

* `Json.Spelling.read?` — a string after some more characters that do not end it
* `Json.Spelling.holding` — a string of which some characters were read

## Main statements

* `Json.Spelling.read?_escape` — **an escaped character is read as itself**
* `Json.Reader.foldl_quote`, `Json.Reader.foldl_key` — a quoted string, as a value and as a key
-/

namespace WireHeaders.Json

/-! ## Digits of an escape -/

theorem hexValue?_hexDigit : ∀ n < 16, hexValue? (hexDigit n) = some n := by decide

theorem utf8Size_hexDigit : ∀ n < 16, (hexDigit n).utf8Size = 1 := by decide

namespace Spelling

/-! ## More characters of a string -/

/-- **A string after some more characters**, if none of them ends it or breaks it off. -/
def read? (s : Spelling) : List Char → Option Spelling
  | [] => some s
  | c :: cs =>
    match s.step c with
    | .more s => s.read? cs
    | .closed _ | .broken _ => none

/-- The string of which the given characters were read, last one first. -/
def holding (reversed : List Char) : Spelling := ⟨reversed, none, .none⟩

/-- The first of some more characters must not end the string either. -/
theorem read?_cons_eq_some {s t : Spelling} {c : Char} {cs : List Char}
    (more : s.read? (c :: cs) = some t) : ∃ next, s.step c = .more next ∧ next.read? cs = some t := by
  rw [read?] at more
  cases moved : s.step c with
  | more next =>
      rw [moved] at more
      exact ⟨next, rfl, more⟩
  | closed content =>
      rw [moved] at more
      cases more
  | broken b =>
      rw [moved] at more
      cases more

theorem read?_cons {s next : Spelling} {c : Char} (moved : s.step c = .more next)
    (cs : List Char) : s.read? (c :: cs) = next.read? cs := by
  rw [read?, moved]

theorem read?_append {s t : Spelling} {cs ds : List Char} (first : s.read? cs = some t) :
    s.read? (cs ++ ds) = t.read? ds := by
  induction cs generalizing s with
  | nil =>
      cases first
      rfl
  | cons c cs ih =>
      obtain ⟨next, moved, more⟩ := read?_cons_eq_some first
      rw [List.cons_append, read?_cons moved, ih more]

/-! ## One character -/

/-- A character that needs no escape. -/
theorem step_plain {reversed : List Char} {c : Char} (quote : c ≠ '"') (backslash : c ≠ '\\')
    (control : ¬c.toNat < 0x20) : (holding reversed).step c = .more (holding (c :: reversed)) := by
  simp [holding, step, plain, push, quote, backslash, control]

/-- One of the first three digits of an escape. -/
theorem step_digit {reversed : List Char} {bytes value d : Nat} (few : bytes < 3) (digit : d < 16) :
    step ⟨reversed, none, .hex bytes (some value) none⟩ (hexDigit d) =
      .more ⟨reversed, none, .hex (bytes + 1) (some (16 * value + d)) none⟩ := by
  have room : bytes + 1 < 4 := by omega
  simp [step, hexDigits, hexValue?_hexDigit d digit, utf8Size_hexDigit d digit, room]

/-- The last digit of an escape for a character that is no half of a pair. -/
theorem step_lastDigit {reversed : List Char} {value d : Nat} (digit : d < 16)
    (low : 16 * value + d < 0xD800) :
    step ⟨reversed, none, .hex 3 (some value) none⟩ (hexDigit d) =
      .more (holding (Char.ofNat (16 * value + d) :: reversed)) := by
  -- Control characters lie below the surrogates, so no half of a pair is ever waited for.
  have noTrail : isTrail (16 * value + d) = false := by
    simp only [isTrail, Bool.and_eq_false_iff, decide_eq_false_iff_not]
    omega
  have noLead : isLead (16 * value + d) = false := by
    simp only [isLead, Bool.and_eq_false_iff, decide_eq_false_iff_not]
    omega
  simp [step, hexDigits, hexValue?_hexDigit d digit, utf8Size_hexDigit d digit, codeUnit, noTrail,
    noLead, push, holding]

/-- **The numeric escape of a control character.** -/
theorem read?_numeric {reversed : List Char} {c : Char} (control : c.toNat < 0x20) :
    (holding reversed).read?
        ['\\', 'u', '0', '0', hexDigit (c.toNat / 16), hexDigit (c.toNat % 16)] =
      some (holding (c :: reversed)) := by
  have opened : (holding reversed).read? ['\\', 'u', '0', '0'] =
      some ⟨reversed, none, .hex 2 (some 0) none⟩ := rfl
  have third : step ⟨reversed, none, .hex 2 (some 0) none⟩ (hexDigit (c.toNat / 16)) =
      .more ⟨reversed, none, .hex 3 (some (16 * 0 + c.toNat / 16)) none⟩ :=
    step_digit (by decide) (by omega)
  have code : 16 * (16 * 0 + c.toNat / 16) + c.toNat % 16 = c.toNat := by omega
  have fourth : step ⟨reversed, none, .hex 3 (some (16 * 0 + c.toNat / 16)) none⟩
      (hexDigit (c.toNat % 16)) = .more (holding (c :: reversed)) := by
    rw [step_lastDigit (Nat.mod_lt _ (by decide)) (by omega), code, Char.ofNat_toNat]
  show (holding reversed).read?
    (['\\', 'u', '0', '0'] ++ [hexDigit (c.toNat / 16), hexDigit (c.toNat % 16)]) = _
  rw [read?_append opened, read?_cons third, read?_cons fourth]
  rfl

/-- **An escaped character is read as itself.** -/
theorem read?_escape (reversed : List Char) (c : Char) :
    (holding reversed).read? (Json.escape c) = some (holding (c :: reversed)) := by
  unfold Json.escape
  -- The short escapes are closed terms up to what was read before them.
  split
  · next equal => subst equal; rfl
  split
  · next equal => subst equal; rfl
  split
  · next equal => subst equal; rfl
  split
  · next equal => subst equal; rfl
  split
  · next equal => subst equal; rfl
  split
  · next equal => subst equal; rfl
  split
  · next equal => subst equal; rfl
  split
  · next control => exact read?_numeric control
  · next quote backslash _ _ _ _ _ control =>
    rw [read?_cons (step_plain quote backslash control)]
    rfl

/-- **Escaped characters are read as themselves**, one after the other. -/
theorem read?_flatMap_escape (reversed cs : List Char) :
    (holding reversed).read? (cs.flatMap Json.escape) = some (holding (cs.reverse ++ reversed)) := by
  induction cs generalizing reversed with
  | nil => rfl
  | cons c cs ih =>
      rw [List.flatMap_cons, read?_append (read?_escape reversed c), ih, List.reverse_cons,
        List.append_assoc]
      rfl

theorem content_holding (s : String) : (holding s.toList.reverse).content = .ok s := by
  simp [holding, content]

end Spelling

namespace Reader

open Spelling (holding)

variable {stack : List Frame}

/-! ## The machine inside a string -/

/-- **A string takes characters as long as its spelling does**, in each phase that hands every
character to the spelling. -/
theorem foldl_read? {phase : Spelling → Phase}
    (hands : ∀ s c next, s.step c = .more next → step ⟨stack, phase s⟩ c = ⟨stack, phase next⟩)
    {s t : Spelling} {cs : List Char} (more : s.read? cs = some t) :
    cs.foldl step ⟨stack, phase s⟩ = ⟨stack, phase t⟩ := by
  induction cs generalizing s with
  | nil =>
      cases more
      rfl
  | cons c cs ih =>
      obtain ⟨next, moved, later⟩ := Spelling.read?_cons_eq_some more
      rw [List.foldl_cons, hands s c next moved, ih later]

theorem step_string (s : Spelling) (c : Char) (next : Spelling) (moved : s.step c = .more next) :
    step ⟨stack, .string s⟩ c = ⟨stack, .string next⟩ := by
  simp [step, stepSettled, moved]

theorem step_key (done : List Member) (s : Spelling) (c : Char) (next : Spelling)
    (moved : s.step c = .more next) :
    step ⟨stack, .key done s⟩ c = ⟨stack, .key done next⟩ := by
  simp [step, stepSettled, moved]

/-- What stands between the quotes is held when the closing one is met. -/
theorem foldl_flatMap_escape {phase : Spelling → Phase}
    (hands : ∀ s c next, s.step c = .more next → step ⟨stack, phase s⟩ c = ⟨stack, phase next⟩)
    (cs : List Char) : (cs.flatMap escape).foldl step ⟨stack, phase (holding [])⟩ =
      ⟨stack, phase (holding cs.reverse)⟩ := by
  rw [foldl_read? hands (Spelling.read?_flatMap_escape [] cs), List.append_nil]

/-- **A quoted string is read as a value.** -/
theorem foldl_quote (s : String) :
    (quote s).foldl step ⟨stack, .start⟩ = complete stack (.string (.ok s)) := by
  have opened : step ⟨stack, .start⟩ '"' = ⟨stack, .string (holding [])⟩ := rfl
  have closed : step ⟨stack, .string (holding s.toList.reverse)⟩ '"' =
      complete stack (.string (holding s.toList.reverse).content) := rfl
  rw [Spelling.content_holding] at closed
  show ('"' :: (s.toList.flatMap escape ++ ['"'])).foldl step _ = _
  rw [List.foldl_cons, List.foldl_append, opened, foldl_flatMap_escape step_string,
    List.foldl_cons, closed]
  rfl

/-- **A quoted string and a colon are read as a key**, wherever a quote opens one. -/
theorem foldl_key {r : Reader} {done : List Member} (s : String)
    (opened : r.step '"' = ⟨stack, .key done (holding [])⟩) :
    (quote s ++ [':']).foldl step r = ⟨.members done (.ok s) :: stack, .start⟩ := by
  have closed : step ⟨stack, .key done (holding s.toList.reverse)⟩ '"' =
      ⟨stack, .colon done (holding s.toList.reverse).content⟩ := rfl
  rw [Spelling.content_holding] at closed
  have quoted : (quote s).foldl step r = ⟨stack, .colon done (.ok s)⟩ := by
    show ('"' :: (s.toList.flatMap escape ++ ['"'])).foldl step r = _
    rw [List.foldl_cons, List.foldl_append, opened, foldl_flatMap_escape (step_key done),
      List.foldl_cons, closed]
    rfl
  rw [List.foldl_append, quoted]
  rfl

end Reader

end WireHeaders.Json
