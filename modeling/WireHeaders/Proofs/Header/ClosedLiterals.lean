import WireHeaders.Proofs.Header.Literals

/-!
# Literals end at their last quote

What stands between the quotes of a literal never closes it and never breaks its line, so a literal
ends where it was meant to end.

## Main definitions

* `Literal.escapesNext` — **a text behind which a character is escaped**, found from left to right

## Main statements

* `Literal.not_isControl_of_mem_body` — no control character stands between the quotes
* `Literal.escapesNext_of_body` — **each quote between the quotes is escaped**
* `textLiteral_exact` — **a literal is read as its string and as nothing else**

## Design notes

A backslash escapes the character behind it unless it is itself escaped.  So whether a quote is
escaped depends on everything before it, and the scan has to know that the escape of a character is
complete when the next one begins.
-/

namespace WireHeaders

namespace Literal

/-! ## Control characters -/

theorem not_isControl_of_mem_octal {n : Nat} {c : Char} (member : c ∈ octal n) :
    isControl c = false := by
  have digit : ∀ d < 8, isControl (Char.ofNat ('0'.toNat + d)) = false := by decide
  obtain ⟨d, listed, rfl⟩ := List.mem_map.mp member
  refine digit d ?_
  simp only [List.mem_cons, List.not_mem_nil, or_false] at listed
  omega

/-- An escaped character is written without control characters. -/
theorem not_isControl_of_mem_escape {c d : Char} (member : d ∈ escape c) : isControl d = false := by
  have short {second : Char} (plain : isControl second = false) (inside : d ∈ ['\\', second]) :
      isControl d = false := by
    rcases List.mem_pair.mp inside with rfl | rfl
    · decide
    · exact plain
  unfold escape at member
  split_ifs at member with _ _ _ _ _ control
  · exact short (by decide) member
  · exact short (by decide) member
  · exact short (by decide) member
  · exact short (by decide) member
  · exact short (by decide) member
  · rcases List.mem_cons.mp member with rfl | digit
    · decide
    · exact not_isControl_of_mem_octal digit
  · rw [List.mem_singleton.mp member]
    exact Bool.eq_false_iff.mpr control

/-- **No control character stands between the quotes.** -/
theorem not_isControl_of_mem_body {value : String} {c : Char} (member : c ∈ body value) :
    isControl c = false := by
  obtain ⟨d, -, inside⟩ := List.mem_flatMap.mp member
  exact not_isControl_of_mem_escape inside

/-! ## Escaped quotes -/

/-- Whether a character escapes the next one. -/
def escapesAfter (escaped : Bool) (c : Char) : Bool := !escaped && c = '\\'

/-- **Whether the character behind a text is escaped**: the text ends with a backslash that is not
escaped itself. -/
def escapesNext (text : List Char) : Bool := text.foldl escapesAfter false

theorem foldl_escapesAfter_octal (n : Nat) : (octal n).foldl escapesAfter true = false := by
  have digit : ∀ d < 8, ∀ escaped, escapesAfter escaped (Char.ofNat ('0'.toNat + d)) = false := by
    decide
  rw [octal, List.map_cons, List.foldl_cons, digit _ (Nat.mod_lt _ (by decide)), List.map_cons,
    List.foldl_cons, digit _ (Nat.mod_lt _ (by decide)), List.map_cons, List.foldl_cons,
    digit _ (Nat.mod_lt _ (by decide))]
  rfl

/-- **The escape of a character is complete**: nothing behind it belongs to it. -/
theorem escapesNext_escape (c : Char) : escapesNext (escape c) = false := by
  unfold escape
  split_ifs with backslash
  · rfl
  · rfl
  · rfl
  · rfl
  · rfl
  · exact foldl_escapesAfter_octal c.toNat
  · simp [escapesNext, escapesAfter, backslash]

theorem escapesNext_escape_append (c : Char) (text : List Char) :
    escapesNext (escape c ++ text) = escapesNext text := by
  have complete := escapesNext_escape c
  unfold escapesNext at complete ⊢
  rw [List.foldl_append, complete]

/-- A quote is written for a quote only. -/
theorem eq_of_quote_mem_escape {c : Char} (member : '"' ∈ escape c) : c = '"' := by
  have digit : ∀ d < 8, '"' ≠ Char.ofNat ('0'.toNat + d) := by decide
  unfold escape at member
  split_ifs at member with _ quote
  · simp at member
  · exact quote
  · simp at member
  · simp at member
  · simp at member
  · simp only [octal, List.map_cons, List.map_nil, List.mem_cons, List.not_mem_nil, or_false] at member
    rcases member with wrong | first | second | third
    · cases wrong
    · exact absurd first (digit _ (Nat.mod_lt _ (by decide)))
    · exact absurd second (digit _ (Nat.mod_lt _ (by decide)))
    · exact absurd third (digit _ (Nat.mod_lt _ (by decide)))
  · exact (List.mem_singleton.mp member).symm

/-- The quote in the escape of a quote is escaped. -/
theorem escapesNext_of_escape {c : Char} {before after : List Char}
    (split : escape c = before ++ '"' :: after) : escapesNext before = true := by
  obtain rfl := eq_of_quote_mem_escape (c := c) (by rw [split]; simp)
  have spelled : ['\\', '"'] = before ++ '"' :: after := split
  match before with
  | [] => cases spelled
  | [c] =>
      cases spelled
      rfl
  | c :: d :: before => simp at spelled

theorem escapesNext_of_flatMap_escape {cs before after : List Char}
    (split : cs.flatMap escape = before ++ '"' :: after) : escapesNext before = true := by
  induction cs generalizing before with
  | nil => simp at split
  | cons c cs ih =>
      rw [List.flatMap_cons] at split
      -- The quote stands behind the escape of the first character, or inside it.
      rcases List.append_eq_append_iff.mp split with ⟨between, rfl, later⟩ | ⟨between, inside, later⟩
      · rw [escapesNext_escape_append]
        exact ih later
      · cases between with
        | nil =>
            rw [List.append_nil] at inside
            rw [← inside, ← List.append_nil (escape c), escapesNext_escape_append]
            exact @ih [] later.symm
        | cons first between =>
            obtain ⟨rfl, -⟩ := List.cons.inj later
            exact escapesNext_of_escape inside

/-- **Each quote between the quotes is escaped**, by a backslash that is not escaped itself. -/
theorem escapesNext_of_body {value : String} {before after : List Char}
    (split : body value = before ++ '"' :: after) : escapesNext before = true :=
  escapesNext_of_flatMap_escape split

end Literal

/-- **A literal is exact and closed.**  Between its quotes stands no control character and no quote
that is not escaped, and what a compiler reads there, up to the first quote that is not escaped, is
the string.  So different strings have different literals, a literal stays on its line, and what
follows it is not taken for a part of it. -/
theorem textLiteral_exact (value : String) :
    (∃ inside, (textLiteral value).toList = "TEXT(\"".toList ++ inside ++ "\")".toList ∧
      (∀ c ∈ inside, Literal.isControl c = false) ∧
      (∀ before after, inside = before ++ '"' :: after → Literal.escapesNext before = true) ∧
      ∀ rest, Literal.contents? (inside ++ '"' :: rest) = some (value.toList, rest)) ∧
    (∀ other, textLiteral other = textLiteral value → other = value) ∧
    (∀ c ∈ (textLiteral value).toList, Literal.isControl c = false) ∧
    ∀ rest, Literal.read? ((textLiteral value).toList ++ rest) = some (value, rest) := by
  have spelled : (textLiteral value).toList =
      "TEXT(\"".toList ++ Literal.body value ++ "\")".toList := String.toList_ofList
  refine ⟨⟨Literal.body value, spelled, ?_, ?_, ?_⟩, ?_, ?_, Literal.read?_textLiteral value⟩
  · intro c member
    exact Literal.not_isControl_of_mem_body member
  · intro before after split
    exact Literal.escapesNext_of_body split
  · intro rest
    exact Literal.contents?_flatMap_escape value.toList rest
  · intro other same
    have here := Literal.read?_textLiteral value []
    rw [← same, Literal.read?_textLiteral, Option.some.injEq, Prod.mk.injEq] at here
    exact here.1
  · have frame : ("TEXT(\"".toList ++ "\")".toList).all (fun c => !Literal.isControl c) = true := by
      decide
    have plain {c : Char} (outside : c ∈ "TEXT(\"".toList ++ "\")".toList) :
        Literal.isControl c = false := by
      simpa using List.all_eq_true.mp frame c outside
    intro c member
    rw [spelled] at member
    rcases List.mem_append.mp member with opened | closing
    · rcases List.mem_append.mp opened with opening | inside
      · exact plain (List.mem_append_left _ opening)
      · exact Literal.not_isControl_of_mem_body inside
    · exact plain (List.mem_append_right _ closing)

end WireHeaders
