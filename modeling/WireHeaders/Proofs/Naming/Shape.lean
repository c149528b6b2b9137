import WireHeaders.Naming.Convention
import WireHeaders.Proofs.Naming.Joints

/-!
# The shape of converted names

What a name looks like under each convention, and what no convention changes.

## Main definitions

* `letters` — **what no convention changes**: a text without gaps and case
* `IsSnake` — the shape of names in snake case

## Main statements

* `Convention.letters_joinWords` — no letter is lost or added
* `isSnake_intercalate` — words with underscores between them are in snake case
* `Convention.apply_shape` — **the letters and the shape of converted ASCII names**
-/

namespace WireHeaders

open Words (isGap)

variable {c s : Char} {cs ds w : List Char} {ws : List (List Char)}

/-! ## Letters -/

/-- **The letters of a text**: all its characters but the gaps, in lower case. -/
def letters (cs : List Char) : List Char := (cs.filter fun c => !isGap c).map Char.toLower

theorem letters_append (cs ds : List Char) : letters (cs ++ ds) = letters cs ++ letters ds := by
  rw [letters, List.filter_append, List.map_append]
  rfl

theorem letters_cons (c : Char) (cs : List Char) :
    letters (c :: cs) = if isGap c then letters cs else c.toLower :: letters cs := by
  rw [letters, List.filter_cons]
  cases isGap c <;> rfl

/-- Only gaps have no letters. -/
theorem letters_eq_nil_iff : letters cs = [] ↔ ∀ c ∈ cs, isGap c = true := by
  rw [letters, List.map_eq_nil_iff, List.filter_eq_nil_iff]
  simp

theorem letters_map_toLower (cs : List Char) : letters (cs.map Char.toLower) = letters cs := by
  induction cs with
  | nil => rfl
  | cons c cs ih =>
      rw [List.map_cons, letters_cons, letters_cons, Words.isGap_toLower,
        Char.toLower_toLower_eq_toLower, ih]

namespace Casing

theorem letters_lowercase (ascii : IsAscii cs) : letters (lowercase cs) = letters cs := by
  rw [← letters_map_toLower, map_toLower_lowercase ascii, letters_map_toLower]

theorem letters_capitalize (ascii : IsAscii cs) : letters (capitalize cs) = letters cs := by
  rw [← letters_map_toLower, map_toLower_capitalize ascii, letters_map_toLower]

end Casing

/-- Gaps between words add no letters. -/
theorem letters_intercalate (gap : isGap s = true) (ws : List (List Char)) :
    letters ([s].intercalate ws) = (ws.map letters).flatten := by
  induction ws with
  | nil => rfl
  | cons w ws ih =>
      cases ws with
      | nil => rw [List.intercalate_singleton, List.map_singleton, List.flatten_singleton]
      | cons v ws =>
          rw [List.intercalate_cons_cons, letters_append, letters_append, ih, letters_cons,
            if_pos gap, List.map_cons, List.flatten_cons]
          simp [letters]

theorem letters_flatten (ws : List (List Char)) : letters ws.flatten = (ws.map letters).flatten := by
  induction ws with
  | nil => rfl
  | cons w ws ih => rw [List.flatten_cons, letters_append, ih, List.map_cons, List.flatten_cons]

/-- **No convention loses or adds a letter.** -/
theorem Convention.letters_joinWords (convention : Convention) (ascii : ∀ w ∈ ws, IsAscii w) :
    letters (convention.joinWords ws) = letters ws.flatten := by
  have lower {ws : List (List Char)} (ascii : ∀ w ∈ ws, IsAscii w) :
      (ws.map Casing.lowercase).map letters = ws.map letters := by
    rw [List.map_map]
    exact List.map_congr_left fun w member => Casing.letters_lowercase (ascii w member)
  have capital {ws : List (List Char)} (ascii : ∀ w ∈ ws, IsAscii w) :
      (ws.map Casing.capitalize).map letters = ws.map letters := by
    rw [List.map_map]
    exact List.map_congr_left fun w member => Casing.letters_capitalize (ascii w member)
  rw [letters_flatten]
  cases convention with
  | kebab => rw [joinWords, letters_intercalate (by decide), lower ascii]
  | snake => rw [joinWords, letters_intercalate (by decide), lower ascii]
  | pascal => rw [joinWords, letters_flatten, capital ascii]
  | camel =>
      cases ws with
      | nil => rfl
      | cons w ws =>
          rw [joinWords, letters_append, letters_flatten,
            Casing.letters_lowercase (ascii w List.mem_cons_self),
            capital fun v member => ascii v (List.mem_cons_of_mem w member)]
          rfl

/-! ## Snake case -/

/-- **The shape of a name in snake case.** -/
structure IsSnake (cs : List Char) : Prop where
  small : ∀ c ∈ cs, c.isUpper = false
  plain : ∀ c ∈ cs, c ≠ '-' ∧ c ≠ ' '
  first : cs.head? ≠ some '_'
  last : cs.getLast? ≠ some '_'
  single : cs.IsChain fun a b => ¬(a = '_' ∧ b = '_')

theorem mem_intercalate (member : c ∈ [s].intercalate ws) : c = s ∨ ∃ w ∈ ws, c ∈ w := by
  induction ws with
  | nil => exact absurd member List.not_mem_nil
  | cons w ws ih =>
      cases ws with
      | nil => exact Or.inr ⟨w, List.mem_cons_self, by simpa using member⟩
      | cons v ws =>
          rw [List.intercalate_cons_cons, List.mem_append, List.mem_append] at member
          rcases member with (here | here) | later
          · exact Or.inr ⟨w, List.mem_cons_self, here⟩
          · exact Or.inl (List.mem_singleton.mp here)
          · rcases ih later with same | ⟨u, listed, inside⟩
            · exact Or.inl same
            · exact Or.inr ⟨u, List.mem_cons_of_mem w listed, inside⟩

/-- Behind a text without the character `s`, no two of it are adjacent unless they were before. -/
theorem isChain_append_of_not_mem (absent : s ∉ w)
    (later : cs.IsChain fun a b => ¬(a = s ∧ b = s)) :
    (w ++ cs).IsChain fun a b => ¬(a = s ∧ b = s) := by
  induction w with
  | nil => exact later
  | cons c w ih =>
      rw [List.mem_cons, not_or] at absent
      exact (ih absent.2).cons fun _ _ both => absent.1 both.1.symm

/-- **Between nonempty words one separator stands**, also behind another one. -/
theorem isChain_intercalate (nonempty : ∀ w ∈ ws, w ≠ []) (absent : ∀ w ∈ ws, s ∉ w) :
    (s :: [s].intercalate ws).IsChain fun a b => ¬(a = s ∧ b = s) := by
  induction ws with
  | nil => exact .singleton s
  | cons w ws ih =>
      have later := ih (fun v member => nonempty v (List.mem_cons_of_mem w member))
        (fun v member => absent v (List.mem_cons_of_mem w member))
      have here := absent w List.mem_cons_self
      -- The first word has a character, which is no separator.
      obtain ⟨c, rest, rfl⟩ := List.exists_cons_of_ne_nil (nonempty w List.mem_cons_self)
      have front (cs : List Char) (joined : cs.IsChain fun a b => ¬(a = s ∧ b = s)) :
          (s :: (c :: rest ++ cs)).IsChain fun a b => ¬(a = s ∧ b = s) :=
        .cons_cons (fun both => here (both.2 ▸ List.mem_cons_self))
          (isChain_append_of_not_mem here joined)
      cases ws with
      | nil => simpa using front [] .nil
      | cons v ws =>
          rw [List.intercalate_cons_cons, List.append_assoc]
          exact front _ later

/-- A row of words ends with the end of its last word. -/
theorem exists_getLast?_intercalate (nonempty : ∀ v ∈ w :: ws, v ≠ []) :
    ∃ v ∈ w :: ws, ∃ c ∈ v, ([s].intercalate (w :: ws)).getLast? = some c := by
  induction ws generalizing w with
  | nil =>
      have here := nonempty w List.mem_cons_self
      exact ⟨w, List.mem_cons_self, w.getLast here, List.getLast_mem here,
        by rw [List.intercalate_singleton, List.getLast?_eq_some_getLast here]⟩
  | cons v ws ih =>
      obtain ⟨u, member, c, inside, last⟩ := ih fun u member => nonempty u (List.mem_cons_of_mem w member)
      refine ⟨u, List.mem_cons_of_mem w member, c, inside, ?_⟩
      rw [List.intercalate_cons_cons, List.getLast?_append, last]
      rfl

/-- **Small words with underscores between them are in snake case.** -/
theorem isSnake_intercalate (nonempty : ∀ w ∈ ws, w ≠ []) (plain : ∀ w ∈ ws, ∀ c ∈ w, isGap c = false)
    (small : ∀ w ∈ ws, ∀ c ∈ w, c.isUpper = false) : IsSnake (['_'].intercalate ws) := by
  have absent (w : List Char) (member : w ∈ ws) : '_' ∉ w := fun inside =>
    absurd (plain w member '_' inside) (by decide)
  have joined := isChain_intercalate nonempty absent
  constructor
  · intro c member
    rcases mem_intercalate member with rfl | ⟨w, listed, inside⟩
    · decide
    · exact small w listed c inside
  · intro c member
    rcases mem_intercalate member with rfl | ⟨w, listed, inside⟩
    · decide
    · have solid := plain w listed c inside
      constructor <;> rintro rfl <;> exact absurd solid (by decide)
  · intro first
    exact joined.rel_head? first ⟨rfl, rfl⟩
  · intro last
    cases ws with
    | nil => cases last
    | cons w ws =>
        obtain ⟨v, listed, c, inside, last'⟩ := @exists_getLast?_intercalate '_' w ws nonempty
        rw [last', Option.some.injEq] at last
        exact absent v listed (last ▸ inside)
  · exact joined.tail

/-- Another separator between words takes the place of the first one. -/
theorem map_intercalate {f : Char → Char} (same : ∀ w ∈ ws, ∀ c ∈ w, f c = c) :
    ([s].intercalate ws).map f = [f s].intercalate ws := by
  induction ws with
  | nil => rfl
  | cons w ws ih =>
      have here : w.map f = w :=
        (List.map_congr_left (same w List.mem_cons_self)).trans (List.map_id w)
      cases ws with
      | nil => rw [List.intercalate_singleton, here, List.intercalate_singleton]
      | cons v ws =>
          rw [List.intercalate_cons_cons, List.map_append, List.map_append, here,
            ih fun u member => same u (List.mem_cons_of_mem w member), List.intercalate_cons_cons]
          rfl

/-! ## Converted names -/

section Words

variable {name : List Char}

theorem isAscii_of_mem_words (ascii : IsAscii name) : ∀ w ∈ words name, IsAscii w :=
  fun _ member => (piece_of_mem_words ascii member).ascii

/-- Words in lower case have neither capitals nor gaps. -/
theorem small_of_mem_words (ascii : IsAscii name) :
    ∀ w ∈ (words name).map Casing.lowercase,
      w ≠ [] ∧ ∀ c ∈ w, isGap c = false ∧ c.isUpper = false := by
  intro w member
  obtain ⟨v, listed, rfl⟩ := List.mem_map.mp member
  have piece := piece_of_mem_words ascii listed
  refine ⟨piece.solid_lowercase.nonempty, fun c inside => ⟨piece.solid_lowercase.plain c inside, ?_⟩⟩
  rw [Casing.lowercase_of_ascii piece.ascii] at inside
  obtain ⟨d, -, rfl⟩ := List.mem_map.mp inside
  exact Char.isUpper_toLower_eq_false d

/-- Capitalized words have no gaps. -/
theorem plain_of_mem_words (ascii : IsAscii name) :
    ∀ c ∈ ((words name).map Casing.capitalize).flatten, isGap c = false := by
  intro c member
  obtain ⟨w, listed, inside⟩ := List.mem_flatten.mp member
  obtain ⟨v, here, rfl⟩ := List.mem_map.mp listed
  exact (piece_of_mem_words ascii here).solid_capitalize.plain c inside

end Words

namespace Convention

variable {name : String}

theorem toList_apply (convention : Convention) (name : String) :
    (convention.apply name).toList = convention.joinWords (words name.toList) :=
  String.toList_ofList

theorem letters_apply (ascii : IsAscii name.toList) (convention : Convention) :
    letters (convention.apply name).toList = letters name.toList := by
  rw [toList_apply, letters_joinWords convention (isAscii_of_mem_words ascii), flatten_words ascii,
    letters, List.filter_filter]
  simp [letters]

theorem isSnake_apply (ascii : IsAscii name.toList) : IsSnake (snake.apply name).toList := by
  have small := small_of_mem_words ascii
  rw [toList_apply]
  exact isSnake_intercalate (fun w member => (small w member).1)
    (fun w member c inside => ((small w member).2 c inside).1)
    (fun w member c inside => ((small w member).2 c inside).2)

/-- **Kebab case is snake case with hyphens.** -/
theorem toList_kebab_apply (ascii : IsAscii name.toList) :
    (kebab.apply name).toList =
      (snake.apply name).toList.map fun c => if c = '_' then '-' else c := by
  rw [toList_apply, toList_apply, joinWords, joinWords, map_intercalate]
  · rfl
  · intro w member c inside
    refine if_neg ?_
    rintro rfl
    exact absurd ((small_of_mem_words ascii w member).2 '_' inside).1 (by decide)

theorem isGap_of_mem_pascal_apply (ascii : IsAscii name.toList) :
    ∀ c ∈ (pascal.apply name).toList, isGap c = false := by
  rw [toList_apply]
  exact plain_of_mem_words ascii

/-- **Camel case is Pascal case with a small letter at the start.** -/
theorem toList_camel_apply (ascii : IsAscii name.toList) :
    (camel.apply name).toList = (pascal.apply name).toList.modifyHead Char.toLower := by
  rw [toList_apply, toList_apply]
  cases split : words name.toList with
  | nil => rfl
  | cons w ws =>
      have piece := piece_of_mem_words ascii (split ▸ List.mem_cons_self : w ∈ words name.toList)
      obtain ⟨c, rest, rfl⟩ := List.exists_cons_of_ne_nil piece.nonempty
      rw [joinWords, joinWords, List.map_cons, List.flatten_cons,
        Casing.capitalize_of_ascii piece.ascii, Casing.lowercase_of_ascii piece.ascii,
        List.cons_append, List.modifyHead_cons, Char.toLower_toUpper_eq_toLower]
      rfl

theorem isGap_of_mem_camel_apply (ascii : IsAscii name.toList) :
    ∀ c ∈ (camel.apply name).toList, isGap c = false := by
  have plain := isGap_of_mem_pascal_apply ascii
  rw [toList_camel_apply ascii]
  cases text : (pascal.apply name).toList with
  | nil => exact nofun
  | cons d rest =>
      rw [text] at plain
      intro c member
      rcases List.mem_cons.mp member with rfl | later
      · rw [Words.isGap_toLower, plain d List.mem_cons_self]
      · exact plain c (List.mem_cons_of_mem d later)

/-- **A name becomes empty only if it is made of gaps.** -/
theorem apply_eq_empty_iff (ascii : IsAscii name.toList) (convention : Convention) :
    convention.apply name = "" ↔ ∀ c ∈ name.toList, isGap c = true := by
  rw [← letters_eq_nil_iff, ← letters_apply ascii convention]
  constructor
  · intro none
    rw [none]
    rfl
  · intro none
    have gaps : letters name.toList = [] := letters_apply ascii convention ▸ none
    rw [apply, (words_eq_nil_iff ascii).mpr (letters_eq_nil_iff.mp gaps)]
    cases convention <;> rfl

/-- **The letters and the shape of converted names.**  An ASCII name keeps its letters under each
convention, so it becomes empty only if it has none.  In snake case it has the shape of such names,
kebab case has hyphens for underscores, Pascal case has no gaps, and camel case is Pascal case with a
small letter at the start. -/
theorem apply_shape (ascii : IsAscii name.toList) :
    (∀ convention : Convention, letters (convention.apply name).toList = letters name.toList) ∧
    IsSnake (snake.apply name).toList ∧
    (kebab.apply name).toList =
      (snake.apply name).toList.map (fun c => if c = '_' then '-' else c) ∧
    (∀ c ∈ (pascal.apply name).toList, isGap c = false) ∧
    (∀ c ∈ (camel.apply name).toList, isGap c = false) ∧
    (camel.apply name).toList = (pascal.apply name).toList.modifyHead Char.toLower ∧
    ∀ convention : Convention, convention.apply name = "" ↔ ∀ c ∈ name.toList, isGap c = true := by
  exact ⟨letters_apply ascii, isSnake_apply ascii, toList_kebab_apply ascii,
    isGap_of_mem_pascal_apply ascii, isGap_of_mem_camel_apply ascii, toList_camel_apply ascii,
    apply_eq_empty_iff ascii⟩

/-- A name with gaps of all kinds, also at its ends. -/
theorem apply_shape_mixed :
    IsAscii "_XMLId--2 b ".toList ∧ IsSnake (snake.apply "_XMLId--2 b ").toList ∧
      ∀ convention : Convention, convention.apply "_XMLId--2 b " ≠ "" := by
  have ascii : IsAscii "_XMLId--2 b ".toList := by decide
  obtain ⟨-, shape, -, -, -, -, empty⟩ := apply_shape ascii
  refine ⟨ascii, shape, ?_⟩
  intro convention none
  exact absurd ((empty convention).mp none 'X' (by simp)) (by decide)

end Convention

end WireHeaders
