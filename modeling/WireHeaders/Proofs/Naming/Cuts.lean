import WireHeaders.Proofs.Naming.Ascii

/-!
# Names cut into words

The words of an ASCII name are found by looking at its characters, each with the one before it and the
one behind it.

## Main definitions

* `Words.isGap`, `Words.Turns` — the characters between words, and where a word begins without one
* `Words.cut` — a text cut at both
* `Words.Piece` — what the words of an ASCII name are
* `Words.Solid` — **a word in which nothing is cut**, wherever it stands
* `Words.Parted` — words that are cut apart although they stand side by side

## Main statements

* `words_eq_cut` — **the words of an ASCII name are the pieces of the cut that are not empty**
* `flatten_words` — no character but the gaps is lost
* `Words.cut_append` — a solid word stays whole
* `Words.cut_intercalate` — **solid words with gaps between them are found again**
* `Words.words_flatten_of_parted`, `Words.parted_of_length_words` — solid words side by side are found
  again **iff they are parted**

## Design notes

A cut is opened from the left, so a statement on it is one on all texts that begin in the same way.  The
first character of a name is cut as if it stood behind a gap.
-/

namespace WireHeaders

namespace Words

open Casing (IsUpper IsLower)

/-- **The characters between words.** -/
def isGap (c : Char) : Bool := c = '_' || c = '-' || c = ' '

theorem isGap_iff {c : Char} : isGap c = true ↔ c = '_' ∨ c = '-' ∨ c = ' ' := by
  simp [isGap, or_assoc]

/-- **Whether a word begins at a character**, between the one before it and the one behind it. -/
def Turns (before c : Char) (after : Option Char) : Prop :=
  (before.isLower ∧ c.isUpper) ∨
  (before.isUpper ∧ c.isDigit) ∨
  (before.isDigit ∧ c.isUpper) ∨
  (before.isDigit ∧ c.isLower) ∨
  (before.isLower ∧ c.isDigit) ∨
  (before.isUpper ∧ c.isUpper ∧ ∃ d ∈ after, d.isLower)

instance (before c : Char) (after : Option Char) : Decidable (Turns before c after) :=
  let _ : Decidable (∃ d ∈ after, d.isLower) := Option.decidableExistsMem after
  inferInstanceAs (Decidable (_ ∨ _ ∨ _ ∨ _ ∨ _ ∨ (_ ∧ _ ∧ _)))

/-- **A text cut into words** behind the character `before`.  The first piece is what is left of the
word before the text, and pieces between gaps are empty. -/
def cut (before : Char) : List Char → List (List Char)
  | [] => [[]]
  | c :: rest =>
    if isGap c then [] :: cut c rest
    else if Turns before c rest.head? then [] :: (cut c rest).modifyHead (c :: ·)
    else (cut c rest).modifyHead (c :: ·)

/-! ## The words of a name -/

variable {before c : Char} {word rest : List Char}

theorem isSeparator_singleton (c : Char) : IsSeparator [c] ↔ isGap c = true := by
  simp [IsSeparator, isGap_iff]

theorem isNumeric_singleton (c : Char) : IsNumeric [c] ↔ c.isDigit := by
  simp [IsNumeric]

/-- A word begins at an ASCII character as it does at its cluster. -/
theorem begins_singleton {after : Option Cluster} {next : Option Char} (there : before.toNat < 0x80)
    (here : c.toNat < 0x80) (small : (∃ h ∈ after, IsLower h) ↔ ∃ d ∈ next, d.isLower) :
    Begins [before] [c] after ↔ Turns before c next := by
  rw [Begins, Turns, small, Casing.isLower_singleton there, Casing.isLower_singleton here,
    Casing.isUpper_singleton there, Casing.isUpper_singleton here, isNumeric_singleton,
    isNumeric_singleton]

/-- Clusters of the same kind are the same to what follows them. -/
theorem collect_congr {g h : Cluster} (lower : IsLower g ↔ IsLower h) (upper : IsUpper g ↔ IsUpper h)
    (numeric : IsNumeric g ↔ IsNumeric h) (word : List Char) (gs : List Cluster) :
    collect g word gs = collect h word gs := by
  cases gs with
  | nil => rfl
  | cons next gs =>
      have begins : Begins g next gs.head? ↔ Begins h next gs.head? := by
        rw [Begins, Begins, lower, upper, numeric]
      simp only [collect, begins]

/-- A small letter behind a character is seen in the next cluster. -/
theorem exists_isLower_head? (ascii : IsAscii rest) :
    (∃ h ∈ (Cluster.clusters rest).head?, IsLower h) ↔ ∃ d ∈ rest.head?, d.isLower := by
  cases rest with
  | nil => simp [Cluster.clusters]
  | cons d rest =>
      by_cases returnFeed : d = '\r' ∧ rest.head? = some '\n'
      · obtain ⟨rfl, feed⟩ := returnFeed
        obtain ⟨later, rfl⟩ := List.head?_eq_some_iff.mp feed
        rw [Cluster.clusters_returnFeed ascii.tail.tail]
        simp only [List.head?_cons, Option.mem_some_iff, exists_eq_left']
        decide
      · rw [Cluster.clusters_cons_of_ascii ascii returnFeed]
        simp only [List.head?_cons, Option.mem_some_iff, exists_eq_left']
        exact Casing.isLower_singleton ascii.head

theorem modifyHead_nil_append (pieces : List (List Char)) : pieces.modifyHead ([] ++ ·) = pieces := by
  cases pieces <;> rfl

/-- **Clusters of an ASCII text are collected** as its characters are cut. -/
theorem collect_clusters (before : Char) (word : List Char) :
    ∀ cs : List Char, IsAscii (before :: cs) →
      collect [before] word (Cluster.clusters cs) = (cut before cs).modifyHead (word ++ ·)
  | [], _ => by simp [Cluster.clusters, collect, cut]
  | c :: rest, ascii => by
      by_cases returnFeed : c = '\r' ∧ rest.head? = some '\n'
      · -- Neither of the two characters has a case, so no word begins at them or behind them.
        obtain ⟨rfl, feed⟩ := returnFeed
        obtain ⟨later, rfl⟩ := List.head?_eq_some_iff.mp feed
        have tail : IsAscii ('\n' :: later) := ascii.tail.tail
        have whole : ¬Begins [before] ['\r', '\n'] (Cluster.clusters later).head? := by
          have plain : ¬IsUpper ['\r', '\n'] ∧ ¬IsLower ['\r', '\n'] ∧ ¬IsNumeric ['\r', '\n'] := by
            decide
          unfold Begins
          tauto
        have notThere : ¬Turns before '\r' (some '\n') := by simp [Turns]
        have notHere : ¬Turns '\r' '\n' later.head? := by simp [Turns]
        have alike : collect ['\r', '\n'] (word ++ ['\r', '\n']) (Cluster.clusters later) =
            collect ['\n'] (word ++ ['\r', '\n']) (Cluster.clusters later) :=
          collect_congr (by decide) (by decide) (by decide) _ _
        rw [Cluster.clusters_returnFeed tail.tail, collect, if_neg (by decide), if_neg whole, alike,
          collect_clusters '\n' _ later tail, cut, if_neg (by decide), List.head?_cons,
          if_neg notThere, cut, if_neg (by decide), if_neg notHere, List.modifyHead_modifyHead,
          List.modifyHead_modifyHead]
        simp [Function.comp_def]
      · have small := exists_isLower_head? ascii.tail.tail
        rw [Cluster.clusters_cons_of_ascii ascii.tail returnFeed]
        simp only [collect, cut, isSeparator_singleton,
          begins_singleton ascii.head ascii.tail.head small, collect_clusters c _ rest ascii.tail]
        split
        · rw [modifyHead_nil_append, List.modifyHead_cons, List.append_nil]
        · split <;> simp [List.modifyHead_modifyHead, Function.comp_def]

/-- The first cluster of a name is collected as if it stood behind a gap. -/
theorem filter_ofClusters (gs : List Cluster) :
    (ofClusters gs).filter (fun w => !w.isEmpty) =
      (collect [' '] [] gs).filter fun w => !w.isEmpty := by
  cases gs with
  | nil => rfl
  | cons g gs =>
      have none : ¬Begins [' '] g gs.head? := by
        have plain : ¬IsUpper [' '] ∧ ¬IsLower [' '] ∧ ¬IsNumeric [' '] := by decide
        unfold Begins
        tauto
      rw [ofClusters, collect, if_neg none]
      split
      · rfl
      · rfl

end Words

/-- **The words of an ASCII name** are the pieces of the cut that are not empty. -/
theorem words_eq_cut {name : List Char} (ascii : IsAscii name) :
    words name = (Words.cut ' ' name).filter fun w => !w.isEmpty := by
  have ascii' : IsAscii (' ' :: name) := .cons (by decide) ascii
  rw [words, Words.filter_ofClusters, Words.collect_clusters ' ' [] name ascii',
    Words.modifyHead_nil_append]

namespace Words

variable {before c g s : Char} {word cs rest : List Char} {ws : List (List Char)}

/-! ## What the pieces are -/

/-- No word begins behind a gap. -/
theorem not_turns_of_isGap (gap : isGap g = true) (c : Char) (after : Option Char) :
    ¬Turns g c after := by
  have plain : g.isLower = false ∧ g.isUpper = false ∧ g.isDigit = false := by
    rcases isGap_iff.mp gap with rfl | rfl | rfl <;> decide
  simp [Turns, plain]

/-- **Each piece is a row of characters at which no word begins**, and the first of them goes on from
the character before the text. -/
theorem exists_cut_eq (before : Char) (cs : List Char) :
    ∃ first later, cut before cs = first :: later ∧
      (before :: first).IsChain (fun a b => ∃ after, ¬Turns a b after) ∧
      ∀ w ∈ later, w.IsChain fun a b => ∃ after, ¬Turns a b after := by
  induction cs generalizing before with
  | nil => exact ⟨[], [], rfl, .singleton before, nofun⟩
  | cons c rest ih =>
      obtain ⟨first, later, pieces, front, chains⟩ := ih c
      rw [cut, pieces]
      split
      · refine ⟨[], first :: later, rfl, .singleton before, ?_⟩
        intro w member
        rcases List.mem_cons.mp member with rfl | member
        · exact front.tail
        · exact chains w member
      · split
        · refine ⟨[], (c :: first) :: later, rfl, .singleton before, ?_⟩
          intro w member
          rcases List.mem_cons.mp member with rfl | member
          · exact front
          · exact chains w member
        · next onward =>
          exact ⟨c :: first, later, rfl, .cons_cons ⟨_, onward⟩ front, chains⟩

theorem flatten_modifyHead_cons {pieces : List (List Char)} (nonempty : pieces ≠ []) (c : Char) :
    (pieces.modifyHead (c :: ·)).flatten = c :: pieces.flatten := by
  cases pieces with
  | nil => exact absurd rfl nonempty
  | cons first later => rfl

theorem cut_ne_nil (before : Char) (cs : List Char) : cut before cs ≠ [] := by
  obtain ⟨first, later, pieces, -⟩ := exists_cut_eq before cs
  rw [pieces]
  exact List.cons_ne_nil first later

/-- **The pieces have all characters but the gaps**, in their order. -/
theorem flatten_cut (before : Char) (cs : List Char) :
    (cut before cs).flatten = cs.filter fun c => !isGap c := by
  induction cs generalizing before with
  | nil => rfl
  | cons c rest ih =>
      rw [cut]
      split
      · next gap =>
        rw [List.flatten_cons, List.nil_append, ih, List.filter_cons_of_neg (by simp [gap])]
      · next solid =>
        rw [List.filter_cons_of_pos (by simpa using solid), ← ih c]
        split
        · exact flatten_modifyHead_cons (cut_ne_nil c rest) c
        · exact flatten_modifyHead_cons (cut_ne_nil c rest) c

/-- No gap is a letter. -/
theorem isAlpha_of_isGap (gap : isGap g = true) : g.isAlpha = false := by
  rcases isGap_iff.mp gap with rfl | rfl | rfl <;> decide

@[simp]
theorem isGap_toLower (c : Char) : isGap c.toLower = isGap c := by
  by_cases upper : c.isUpper
  · have letter : c.isAlpha = true := by simp [Char.isAlpha, upper]
    have here : isGap c = false :=
      Bool.eq_false_iff.mpr fun gap => by simp [isAlpha_of_isGap gap] at letter
    have there : isGap c.toLower = false :=
      Bool.eq_false_iff.mpr fun gap => by
        have other := isAlpha_of_isGap gap
        simp [letter] at other
    rw [here, there]
  · rw [Char.toLower_eq_of_not_isUpper upper]

@[simp]
theorem isGap_toUpper (c : Char) : isGap c.toUpper = isGap c := by
  rw [← isGap_toLower, Char.toLower_toUpper_eq_toLower, isGap_toLower]

/-- **A piece of an ASCII text**, as the words of a name are pieces of it. -/
structure Piece (w : List Char) : Prop where
  nonempty : w ≠ []
  ascii : IsAscii w
  plain : ∀ c ∈ w, isGap c = false
  row : w.IsChain fun a b => ∃ after, ¬Turns a b after

end Words

section Names

variable {name w : List Char}

/-- **No character but the gaps is lost** when a name is cut into words. -/
theorem flatten_words (ascii : IsAscii name) :
    (words name).flatten = name.filter fun c => !Words.isGap c := by
  rw [words_eq_cut ascii, List.flatten_filter_not_isEmpty, Words.flatten_cut]

/-- Words are made of the characters of a name that are no gaps. -/
theorem mem_of_mem_words (ascii : IsAscii name) (member : w ∈ words name) :
    ∀ c ∈ w, c ∈ name ∧ Words.isGap c = false := by
  intro c inside
  have flat : c ∈ (words name).flatten := List.mem_flatten.mpr ⟨w, member, inside⟩
  rw [flatten_words ascii, List.mem_filter] at flat
  exact ⟨flat.1, by simpa using flat.2⟩

/-- **The words of an ASCII name are pieces of it.** -/
theorem piece_of_mem_words (ascii : IsAscii name) (member : w ∈ words name) : Words.Piece w := by
  have listed := mem_of_mem_words ascii member
  refine ⟨ne_nil_of_mem_words member, fun c inside => ascii c (listed c inside).1,
    fun c inside => (listed c inside).2, ?_⟩
  obtain ⟨first, later, pieces, front, chains⟩ := Words.exists_cut_eq ' ' name
  rw [words_eq_cut ascii, pieces] at member
  rcases List.mem_cons.mp (List.mem_of_mem_filter member) with rfl | member
  · exact front.tail
  · exact chains w member

/-- Only gaps have no words. -/
theorem words_eq_nil_iff (ascii : IsAscii name) :
    words name = [] ↔ ∀ c ∈ name, Words.isGap c = true := by
  have flat := flatten_words ascii
  constructor
  · intro none
    rw [none, List.flatten_nil, eq_comm, List.filter_eq_nil_iff] at flat
    simpa using flat
  · intro gaps
    rw [List.filter_eq_nil_iff.mpr (by simpa using gaps), List.flatten_eq_nil_iff] at flat
    apply List.eq_nil_iff_forall_not_mem.mpr
    intro w member
    exact ne_nil_of_mem_words member (flat w member)

end Names

namespace Words

variable {before c g s : Char} {word cs rest : List Char} {ws : List (List Char)}

/-! ## Solid words -/

/-- **A word in which nothing is cut**, whatever follows it. -/
structure Solid (w : List Char) : Prop where
  nonempty : w ≠ []
  plain : ∀ c ∈ w, isGap c = false
  joined : w.IsChain fun a b => ∀ after, ¬Turns a b after

/-- The characters of a row at which no word begins go to the piece that is open. -/
theorem cut_append_of_joined (plain : ∀ d ∈ word, isGap d = false)
    (joined : (c :: word).IsChain fun a b => ∀ after, ¬Turns a b after) (rest : List Char) :
    cut c (word ++ rest) = (cut (word.getLastD c) rest).modifyHead (word ++ ·) := by
  induction word generalizing c with
  | nil => exact (modifyHead_nil_append _).symm
  | cons d word ih =>
      obtain ⟨onward, joined⟩ := List.isChain_cons_cons.mp joined
      have solid : ¬isGap d = true := by simp [plain d List.mem_cons_self]
      have later := ih (fun e member => plain e (List.mem_cons_of_mem d member)) joined
      rw [List.cons_append, cut, if_neg solid, if_neg (onward _), later, List.modifyHead_modifyHead,
        List.getLastD_cons]
      rfl

/-- Whether a word begins where a text begins. -/
def Opens (before : Char) (cs : List Char) : Prop :=
  match cs with
  | [] => False
  | c :: rest => Turns before c rest.head?

instance (before : Char) (cs : List Char) : Decidable (Opens before cs) :=
  match cs with
  | [] => inferInstanceAs (Decidable False)
  | c :: rest => inferInstanceAs (Decidable (Turns before c rest.head?))

theorem not_opens_of_isGap (gap : isGap g = true) (cs : List Char) : ¬Opens g cs := by
  cases cs with
  | nil => exact id
  | cons c rest => exact not_turns_of_isGap gap c _

/-- **A solid word stays whole.**  It is a word of its own if one begins with it. -/
theorem cut_append (solid : Solid word) (before : Char) (rest : List Char) :
    cut before (word ++ rest) =
      if Opens before (word ++ rest) then
        [] :: (cut (word.getLastD before) rest).modifyHead (word ++ ·)
      else (cut (word.getLastD before) rest).modifyHead (word ++ ·) := by
  obtain ⟨nonempty, plain, joined⟩ := solid
  cases word with
  | nil => exact absurd rfl nonempty
  | cons c word =>
      have solid : ¬isGap c = true := by simp [plain c List.mem_cons_self]
      have inner := cut_append_of_joined
        (fun d member => plain d (List.mem_cons_of_mem c member)) joined rest
      rw [List.cons_append, cut, if_neg solid, inner, List.modifyHead_modifyHead, List.getLastD_cons]
      rfl

/-- **Solid words with gaps between them are found again.** -/
theorem cut_intercalate (solid : ∀ w ∈ ws, Solid w) (gap : isGap s = true) (first : isGap g = true) :
    (cut g ([s].intercalate ws)).filter (fun w => !w.isEmpty) = ws := by
  induction ws generalizing g with
  | nil => rfl
  | cons w ws ih =>
      have here := solid w List.mem_cons_self
      have later := ih (fun v member => solid v (List.mem_cons_of_mem w member)) gap
      have kept : (!w.isEmpty) = true := by simp [here.nonempty]
      cases ws with
      | nil =>
          have whole := cut_append here g []
          rw [List.append_nil, if_neg (not_opens_of_isGap first w)] at whole
          rw [List.intercalate_singleton, whole]
          simp [cut, kept]
      | cons v ws =>
          rw [List.intercalate_cons_cons, List.append_assoc, cut_append here,
            if_neg (not_opens_of_isGap first _),
            List.singleton_append, cut, if_pos gap, List.modifyHead_cons, List.append_nil,
            List.filter_cons, if_pos kept, later]

/-! ## Words side by side -/

/-- **Words that are cut apart** although they stand side by side behind the character `before`. -/
def Parted (before : Char) : List (List Char) → Prop
  | [] => True
  | w :: ws => Opens before (w ++ ws.flatten) ∧ Parted (w.getLastD before) ws

/-- Solid words side by side are found again if they are parted. -/
theorem cut_flatten (solid : ∀ w ∈ ws, Solid w) (parted : Parted before ws) :
    cut before ws.flatten = [] :: ws := by
  induction ws generalizing before with
  | nil => rfl
  | cons w ws ih =>
      obtain ⟨opens, parted⟩ := parted
      have later := ih (fun v member => solid v (List.mem_cons_of_mem w member)) parted
      rw [List.flatten_cons, cut_append (solid w List.mem_cons_self), if_pos opens, later]
      simp

theorem length_cut_flatten_le (solid : ∀ w ∈ ws, Solid w) (before : Char) :
    (cut before ws.flatten).length ≤ ws.length + 1 := by
  induction ws generalizing before with
  | nil => exact Nat.le_refl 1
  | cons w ws ih =>
      have later := ih (fun v member => solid v (List.mem_cons_of_mem w member)) (w.getLastD before)
      rw [List.flatten_cons, cut_append (solid w List.mem_cons_self)]
      split
      · simpa using later
      · simp only [List.length_modifyHead, List.length_cons]
        omega

/-- **Solid words that are not parted lose a word** when they stand side by side. -/
theorem parted_of_length (solid : ∀ w ∈ ws, Solid w)
    (all : (cut before ws.flatten).length = ws.length + 1) : Parted before ws := by
  induction ws generalizing before with
  | nil => exact trivial
  | cons w ws ih =>
      have solidLater : ∀ v ∈ ws, Solid v := fun v member => solid v (List.mem_cons_of_mem w member)
      have most := length_cut_flatten_le solidLater (w.getLastD before)
      rw [List.flatten_cons, cut_append (solid w List.mem_cons_self)] at all
      split at all
      · next opens =>
        refine ⟨opens, ih solidLater ?_⟩
        simpa using all
      · simp only [List.length_modifyHead, List.length_cons] at all
        omega

/-- **Solid words side by side are the words of their text** if they are parted behind the first. -/
theorem words_flatten_of_parted (ascii : IsAscii (word :: ws).flatten)
    (solid : ∀ w ∈ word :: ws, Solid w) (parted : Parted (word.getLastD ' ') ws) :
    words (word :: ws).flatten = word :: ws := by
  have later := cut_flatten (fun w member => solid w (List.mem_cons_of_mem word member)) parted
  rw [words_eq_cut ascii, List.flatten_cons, cut_append (solid word List.mem_cons_self),
    if_neg (not_opens_of_isGap (by decide) _), later, List.modifyHead_cons, List.append_nil,
    List.filter_eq_self]
  intro w member
  simpa using (solid w member).nonempty

/-- **Solid words whose text has as many words are parted** behind the first. -/
theorem parted_of_length_words (ascii : IsAscii (word :: ws).flatten)
    (solid : ∀ w ∈ word :: ws, Solid w) (all : ws.length < (words (word :: ws).flatten).length) :
    Parted (word.getLastD ' ') ws := by
  have solidLater : ∀ w ∈ ws, Solid w := fun w member => solid w (List.mem_cons_of_mem word member)
  have most := length_cut_flatten_le solidLater (word.getLastD ' ')
  have pieces : (cut ' ' (word :: ws).flatten).length = (cut (word.getLastD ' ') ws.flatten).length := by
    rw [List.flatten_cons, cut_append (solid word List.mem_cons_self),
      if_neg (not_opens_of_isGap (by decide) _), List.length_modifyHead]
  have kept := List.length_filter_le (fun w => !w.isEmpty) (cut ' ' (word :: ws).flatten)
  rw [← words_eq_cut ascii] at kept
  exact parted_of_length solidLater (by omega)

end Words

end WireHeaders
