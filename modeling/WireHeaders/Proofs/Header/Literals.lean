import WireHeaders.Proofs.Header.Lines

/-!
# Literals read back

A compiler reads a string literal up to its closing quote and takes each escape sequence for the
character that it stands for.  A literal of a header is read as the string that it was written for.

## Main definitions

* `Literal.escapeSequence?` — **an escape sequence**, simple or octal
* `Literal.contents?` — **what is read between the quotes**
* `Literal.read?` — what is read of a whole literal
* `Literal.between?` — **the literal that a line holds** between its first and its last characters

## Main statements

* `Literal.contents?_escape` — **an escaped character is read as itself**, whatever follows it
* `Literal.read?_textLiteral` — **a literal is read as its string**
* `oneLine_textLiteral` — a literal fits on a line

## Design notes

An octal escape ends before the first character that is no octal digit, and after its third digit at
the latest.  Hexadecimal escapes and universal names are refused, as a header has none.
-/

namespace WireHeaders

namespace Literal

/-! ## Escape sequences -/

/-- The value of an octal digit. -/
def octalDigit? (c : Char) : Option Nat :=
  if '0' ≤ c ∧ c ≤ '7' then some (c.toNat - '0'.toNat) else none

/-- The number that goes on with octal digits, `most` of them at most, and what follows. -/
def octalNumber : Nat → Nat → List Char → Nat × List Char
  | value, 0, rest => (value, rest)
  | value, _ + 1, [] => (value, [])
  | value, most + 1, c :: rest =>
    match octalDigit? c with
    | some digit => octalNumber (8 * value + digit) most rest
    | none => (value, c :: rest)

/-- The character that a single character behind a backslash stands for. -/
def simpleEscape? (c : Char) : Option Char :=
  match c with
  | '\'' => some '\''
  | '"' => some '"'
  | '?' => some '?'
  | '\\' => some '\\'
  | 'a' => some '\x07'
  | 'b' => some '\x08'
  | 'f' => some '\x0c'
  | 'n' => some '\n'
  | 'r' => some '\r'
  | 't' => some '\t'
  | 'v' => some '\x0b'
  | _ => none

/-- **An escape sequence** behind its backslash, as the character that it stands for, and what
follows. -/
def escapeSequence? : List Char → Option (Char × List Char)
  | [] => none
  | c :: rest =>
    match simpleEscape? c with
    | some value => some (value, rest)
    | none =>
      (octalDigit? c).map fun digit =>
        let (number, rest) := octalNumber digit 2 rest
        (Char.ofNat number, rest)

theorem length_octalNumber_le (value most : Nat) (text : List Char) :
    (octalNumber value most text).2.length ≤ text.length := by
  fun_induction octalNumber value most text with
  | case1 => exact Nat.le_refl _
  | case2 => exact Nat.le_refl _
  | case3 _ _ _ rest _ _ ih => exact Nat.le_succ_of_le ih
  | case4 => exact Nat.le_refl _

theorem length_lt_of_escapeSequence? {text rest : List Char} {c : Char}
    (read : escapeSequence? text = some (c, rest)) : rest.length < text.length := by
  cases text with
  | nil => cases read
  | cons first later =>
      rw [escapeSequence?] at read
      split at read
      · cases read
        exact Nat.lt_succ_self _
      · obtain ⟨digit, -, split⟩ := Option.map_eq_some_iff.mp read
        have shorter := length_octalNumber_le digit 2 later
        rw [(Prod.mk.inj split).2] at shorter
        exact Nat.lt_succ_of_le shorter

/-! ## Literals -/

/-- **What is read between the quotes** of a literal, and what follows the closing one. -/
def contents? : List Char → Option (List Char × List Char)
  | [] => none
  | c :: rest =>
    if c = '"' then some ([], rest)
    else if c = '\n' then none
    else if c = '\\' then
      match _read : escapeSequence? rest with
      | some (value, later) => (contents? later).map fun (cs, after) => (value :: cs, after)
      | none => none
    else (contents? rest).map fun (cs, after) => (c :: cs, after)
termination_by text => text.length
decreasing_by
  · exact Nat.lt_succ_of_lt (length_lt_of_escapeSequence? ‹_›)
  · exact Nat.lt_succ_self _

/-- **What is read of a literal**, and what follows it. -/
def read? (text : List Char) : Option (String × List Char) := do
  let opened ← text.dropPrefix? "TEXT(\"".toList
  let (cs, closed) ← contents? opened
  let rest ← closed.dropPrefix? [')']
  return (String.ofList cs, rest)

/-- The digits of an escape are no letters of a simple one. -/
theorem simpleEscape?_digit : ∀ d < 8, simpleEscape? (Char.ofNat ('0'.toNat + d)) = none := by
  decide

theorem octalDigit?_digit : ∀ d < 8, octalDigit? (Char.ofNat ('0'.toNat + d)) = some d := by decide

/-- **Three octal digits are one escape sequence**, also before another digit. -/
theorem escapeSequence?_octal {n : Nat} (small : n < 512) (rest : List Char) :
    escapeSequence? (octal n ++ rest) = some (Char.ofNat n, rest) := by
  have first : n / 64 % 8 < 8 := Nat.mod_lt _ (by decide)
  have second : n / 8 % 8 < 8 := Nat.mod_lt _ (by decide)
  have third : n % 8 < 8 := Nat.mod_lt _ (by decide)
  have number : 8 * (8 * (n / 64 % 8) + n / 8 % 8) + n % 8 = n := by omega
  simp only [octal, List.map_cons, List.map_nil, List.cons_append, List.nil_append, escapeSequence?,
    simpleEscape?_digit _ first, octalDigit?_digit _ first, Option.map_some, octalNumber,
    octalDigit?_digit _ second, octalDigit?_digit _ third, number]

/-- A backslash opens an escape sequence. -/
theorem contents?_backslash {text later : List Char} {value : Char}
    (read : escapeSequence? text = some (value, later)) :
    contents? ('\\' :: text) =
      (contents? later).map fun (cs, after) => (value :: cs, after) := by
  rw [contents?, if_neg (by decide), if_neg (by decide), if_pos rfl]
  split
  · next found =>
    rw [found] at read
    cases read
    rfl
  · next none =>
    rw [none] at read
    cases read

/-- **An escaped character is read as itself**, whatever follows it. -/
theorem contents?_escape (c : Char) (rest : List Char) :
    contents? (escape c ++ rest) = (contents? rest).map fun (cs, after) => (c :: cs, after) := by
  unfold escape
  split
  · next equal =>
    subst equal
    exact contents?_backslash rfl
  split
  · next equal =>
    subst equal
    exact contents?_backslash rfl
  split
  · next equal =>
    subst equal
    exact contents?_backslash rfl
  split
  · next equal =>
    subst equal
    exact contents?_backslash rfl
  split
  · next equal =>
    subst equal
    exact contents?_backslash rfl
  split
  · next control =>
    have small : c.toNat < 512 := by
      simp only [isControl, Bool.or_eq_true, Bool.and_eq_true, decide_eq_true_eq] at control
      omega
    have read := contents?_backslash (escapeSequence?_octal small rest)
    rw [Char.ofNat_toNat] at read
    exact read
  · next backslash quote feed _ _ _ =>
    rw [List.singleton_append, contents?, if_neg quote, if_neg feed, if_neg backslash]

theorem contents?_flatMap_escape (cs rest : List Char) :
    contents? (cs.flatMap escape ++ '"' :: rest) = some (cs, rest) := by
  induction cs with
  | nil => rw [List.flatMap_nil, List.nil_append, contents?, if_pos rfl]
  | cons c cs ih => rw [List.flatMap_cons, List.append_assoc, contents?_escape, ih, Option.map_some]

/-- **A literal is read as its string.** -/
theorem read?_textLiteral (value : String) (rest : List Char) :
    read? ((textLiteral value).toList ++ rest) = some (value, rest) := by
  have spelled : (textLiteral value).toList ++ rest =
      "TEXT(\"".toList ++ (value.toList.flatMap escape ++ '"' :: ([')'] ++ rest)) := by
    rw [textLiteral, String.toList_ofList, body, List.append_assoc, List.append_assoc]
    rfl
  have opened : ("TEXT(\"".toList ++ (value.toList.flatMap escape ++ '"' :: ([')'] ++ rest))).dropPrefix?
      "TEXT(\"".toList = some (value.toList.flatMap escape ++ '"' :: ([')'] ++ rest)) :=
    List.dropPrefix?_append_of_beq _ (beq_self_eq_true _)
  have closed : ([')'] ++ rest).dropPrefix? [')'] = some rest :=
    List.dropPrefix?_append_of_beq _ (beq_self_eq_true _)
  simp only [read?, spelled, opened, contents?_flatMap_escape, closed, Option.bind_eq_bind,
    Option.bind_some, String.ofList_toList]
  rfl

example : read? "TEXT(\"a\\n\\0011\\\"\")x".toList = some ("a\n\x011\"", ['x']) := by
  decide +kernel

/-! ## Literals on a line -/

/-- **The literal that a line holds** between its first and its last characters, as it is read. -/
def between? (start stop line : String) : Option String := do
  let literal ← line.toList.dropPrefix? start.toList
  let (value, rest) ← read? literal
  if rest = stop.toList then some value else none

theorem between?_append (start value stop : String) :
    between? start stop (start ++ textLiteral value ++ stop) = some value := by
  have opened := List.dropPrefix?_append_of_beq ((textLiteral value).toList ++ stop.toList)
    (beq_self_eq_true start.toList)
  rw [between?, String.toList_append, String.toList_append, List.append_assoc, opened]
  simp only [Option.bind_eq_bind, Option.bind_some, read?_textLiteral, if_true]

theorem lineFeed_not_mem_octal (n : Nat) : '\n' ∉ octal n := by
  have digit : ∀ d < 8, '\n' ≠ Char.ofNat ('0'.toNat + d) := by decide
  intro member
  obtain ⟨d, listed, equal⟩ := List.mem_map.mp member
  refine digit d ?_ equal.symm
  simp only [List.mem_cons, List.not_mem_nil, or_false] at listed
  omega

/-- A line feed is escaped. -/
theorem lineFeed_not_mem_escape (c : Char) : '\n' ∉ escape c := by
  unfold escape
  split_ifs with _ _ feed
  · decide
  · decide
  · decide
  · decide
  · decide
  · exact List.not_mem_cons_of_ne_of_not_mem (by decide) (lineFeed_not_mem_octal _)
  · exact fun member => feed (List.mem_singleton.mp member).symm

end Literal

/-- **A literal fits on a line.** -/
@[simp]
theorem oneLine_textLiteral (value : String) : OneLine (textLiteral value) := by
  unfold OneLine textLiteral
  rw [String.toList_ofList, List.mem_append, List.mem_append, not_or, not_or]
  refine ⟨⟨by decide, ?_⟩, by decide⟩
  intro member
  obtain ⟨c, -, inside⟩ := List.mem_flatMap.mp member
  exact Literal.lineFeed_not_mem_escape c inside

end WireHeaders
