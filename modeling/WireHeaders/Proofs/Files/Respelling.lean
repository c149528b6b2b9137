import Mathlib.Data.List.Basic
import Mathlib.Logic.Relation
import WireHeaders.Proofs.Files.Segments

/-!
# Spellings of a path

Which texts are spellings of one path, told by their characters: repeated slashes, slashes at the end
and dots between slashes may come and go.

## Main definitions

* `Path.Trims` — **one slash or one dot that counts for nothing is taken out** of a text
* `Path.Respelled` — two paths that become each other by such steps, forth and back
* `Path.plainText` — the shortest spelling of a row of components
* `Path.EndsWith` — a text whose last part that counts is a name

## Main statements

* `Path.trims_plainText` — each path can be trimmed to the shortest spelling of its components
* `Path.components_eq_iff_respelled` — **two paths have the same components iff they are respelled**
* `Path.fileName?_eq_some_iff` — the name of a file can be read off the end of the text

## Design notes

Components are found from the front of a text and a file name at its end.  That both agree is what
the last statement says: nothing that is left out at the end hides a name or makes one.
-/

namespace WireHeaders

namespace Path

/-- **A slash or a dot that counts for nothing is taken out.** -/
inductive Trims : List Char → List Char → Prop
  /-- One of two slashes. -/
  | slash (before after : List Char) :
      Trims (before ++ '/' :: '/' :: after) (before ++ '/' :: after)
  /-- A dot between slashes. -/
  | dot (before after : List Char) :
      Trims (before ++ '/' :: '.' :: '/' :: after) (before ++ '/' :: after)
  /-- A dot behind the last slash. -/
  | lastDot (before : List Char) : Trims (before ++ ['/', '.']) (before ++ ['/'])
  /-- The last slash, unless it is the whole path. -/
  | lastSlash {before : List Char} (nonempty : before ≠ []) : Trims (before ++ ['/']) before

/-- **Two spellings of one path.** -/
def Respelled (p q : Path) : Prop := Relation.EqvGen Trims p.text.toList q.text.toList

variable {p q : Path}

/-! ## Trimming keeps the components -/

/-- The segments behind the first one matter up to void ones. -/
theorem components_congr (absolute : p.isAbsolute = q.isAbsolute)
    (first : p.segments.head? = q.segments.head?)
    (rest : p.segments.tail.filter (fun s => !isVoid s) =
      q.segments.tail.filter (fun s => !isVoid s)) : p.components = q.components := by
  unfold components
  cases cut : p.segments with
  | nil => exact absurd cut (slashSegments_ne_nil _)
  | cons s ss =>
      cases cut' : q.segments with
      | nil => exact absurd cut' (slashSegments_ne_nil _)
      | cons t ts =>
          rw [cut, cut'] at first rest
          obtain rfl : s = t := Option.some.inj first
          have later : laterComponents ss = laterComponents ts :=
            congrArg (List.map componentOf) rest
          have opening : p.firstComponent s = q.firstComponent s := by
            unfold firstComponent
            rw [absolute]
          show p.firstComponent s ++ laterComponents ss = q.firstComponent s ++ laterComponents ts
          rw [opening, later]

/-- The components of a text. -/
def componentsOf (text : List Char) : List Component := (⟨String.ofList text⟩ : Path).components

/-- Void segments behind another segment do not count. -/
theorem componentsOf_congr (before : List Char) {text text' : List Char} {rest rest' : List (List Char)}
    (cut : slashSegments text = slashSegments before ++ rest)
    (cut' : slashSegments text' = slashSegments before ++ rest')
    (same : rest.filter (fun s => !isVoid s) = rest'.filter (fun s => !isVoid s))
    (head : text.head? = text'.head?) : componentsOf text = componentsOf text' := by
  obtain ⟨first, others, split⟩ := List.exists_cons_of_ne_nil (slashSegments_ne_nil before)
  rw [split, List.cons_append, ← String.toList_ofList (l := text)] at cut
  rw [split, List.cons_append, ← String.toList_ofList (l := text')] at cut'
  refine components_congr ?_ ?_ ?_
  · rw [isAbsolute, isAbsolute, String.toList_ofList, String.toList_ofList, head]
  · rw [segments, segments, cut, cut', List.head?_cons, List.head?_cons]
  · rw [segments, segments, cut, cut', List.tail_cons, List.tail_cons, List.filter_append,
      List.filter_append, same]

/-- **Trimming keeps the components.** -/
theorem componentsOf_trims {text text' : List Char} (trims : Trims text text') :
    componentsOf text = componentsOf text' := by
  cases trims with
  | slash before after =>
      refine componentsOf_congr before (slashSegments_append before ('/' :: after))
        (slashSegments_append before after) rfl ?_
      cases before <;> rfl
  | dot before after =>
      refine componentsOf_congr before
        (slashSegments_append before ('.' :: '/' :: after)) (slashSegments_append before after) rfl ?_
      cases before <;> rfl
  | lastDot before =>
      refine componentsOf_congr before (slashSegments_append before ['.'])
        (slashSegments_append before []) rfl ?_
      cases before <;> rfl
  | lastSlash nonempty =>
      refine componentsOf_congr text' (slashSegments_append text' []) (List.append_nil _).symm rfl ?_
      exact List.head?_append_of_ne_nil _ nonempty

/-- Spellings of one path have the same components. -/
theorem componentsOf_eqvGen {text text' : List Char} (respelled : Relation.EqvGen Trims text text') :
    componentsOf text = componentsOf text' := by
  induction respelled with
  | rel text text' trims => exact componentsOf_trims trims
  | refl text => rfl
  | symm text text' _ ih => exact ih.symm
  | trans text between text' _ _ first second => exact first.trans second

/-! ## The shortest spelling -/

/-- The characters of a component; the root stands before its slash. -/
def componentText : Component → List Char
  | .root => []
  | .here => ['.']
  | .parent => ['.', '.']
  | .name text => text.toList

/-- Segments, each behind a slash. -/
def spellBehind (segments : List (List Char)) : List Char := segments.flatMap ('/' :: ·)

/-- **The shortest spelling of components.** -/
def plainText : List Component → List Char
  | [] => []
  | [.root] => ['/']
  | c :: later => componentText c ++ spellBehind (later.map componentText)

theorem componentText_componentOf (segment : List Char) :
    componentText (componentOf segment) = segment := by
  unfold componentOf
  split
  · next up => exact up.symm
  · exact String.toList_ofList

/-- The later components are spelled by the segments that count. -/
theorem map_componentText_laterComponents (segments : List (List Char)) :
    (laterComponents segments).map componentText = segments.filter fun s => !isVoid s := by
  rw [laterComponents, List.map_map]
  refine (List.map_congr_left fun s _ => ?_).trans (List.map_id _)
  exact componentText_componentOf s

/-- A text is its segments with slashes between them. -/
theorem spell_slashSegments (cs : List Char) :
    (slashSegments cs).headD [] ++ spellBehind (slashSegments cs).tail = cs := by
  induction cs with
  | nil => rfl
  | cons c cs ih =>
      rw [slashSegments]
      split
      · next slash =>
        subst slash
        cases cut : slashSegments cs with
        | nil => exact absurd cut (slashSegments_ne_nil cs)
        | cons first rest =>
            rw [cut] at ih
            exact congrArg ('/' :: ·) ih
      · cases cut : slashSegments cs with
        | nil => exact absurd cut (slashSegments_ne_nil cs)
        | cons first rest =>
            rw [cut] at ih
            exact congrArg (c :: ·) ih

/-- A void segment is empty or a dot. -/
theorem isVoid_iff {segment : List Char} : isVoid segment = true ↔ segment = [] ∨ segment = ['.'] := by
  simp [isVoid]

/-- A void segment before a slash is trimmed. -/
theorem trims_void {void : List Char} (skipped : isVoid void = true) (before after : List Char) :
    Trims (before ++ '/' :: (void ++ '/' :: after)) (before ++ '/' :: after) := by
  rcases isVoid_iff.mp skipped with rfl | rfl
  · exact .slash before after
  · exact .dot before after

/-- **Behind a text that is not empty all void segments are trimmed.** -/
theorem trims_spellBehind (segments : List (List Char)) {before : List Char} (nonempty : before ≠ []) :
    Relation.ReflTransGen Trims (before ++ spellBehind segments)
      (before ++ spellBehind (segments.filter fun s => !isVoid s)) := by
  induction segments generalizing before with
  | nil => exact .refl
  | cons s segments ih =>
      cases void : isVoid s with
      | false =>
          rw [List.filter_cons_of_pos (by rw [void]; rfl)]
          have longer := @ih (before ++ '/' :: s) (by simp)
          rw [List.append_assoc, List.append_assoc] at longer
          exact longer
      | true =>
          rw [List.filter_cons_of_neg (by rw [void]; decide)]
          cases segments with
          | nil =>
              -- The last segment is void, so the slash before it ends the text and goes as well.
              have slash : Relation.ReflTransGen Trims (before ++ ['/']) before :=
                .single (.lastSlash nonempty)
              show Relation.ReflTransGen Trims (before ++ ('/' :: s ++ [])) (before ++ [])
              rw [List.append_nil, List.append_nil]
              rcases isVoid_iff.mp void with rfl | rfl
              · exact slash
              · exact .head (.lastDot before) slash
          | cons t segments =>
              exact .head (trims_void void before (t ++ spellBehind segments)) (ih nonempty)

theorem laterComponents_of_void {segment : List Char} (void : isVoid segment = true)
    (segments : List (List Char)) :
    laterComponents (segment :: segments) = laterComponents segments := by
  rw [laterComponents, List.filter_cons_of_neg (by rw [void]; decide), laterComponents]

theorem laterComponents_of_counts {segment : List Char} (counts : isVoid segment = false)
    (segments : List (List Char)) :
    laterComponents (segment :: segments) = componentOf segment :: laterComponents segments := by
  rw [laterComponents, List.filter_cons_of_pos (by rw [counts]; rfl), List.map_cons, laterComponents]

/-- **Behind the root all void segments are trimmed**, and the slash of the root stays. -/
theorem trims_root (segment : List Char) (segments : List (List Char)) :
    Relation.ReflTransGen Trims (spellBehind (segment :: segments))
      (plainText (.root :: laterComponents (segment :: segments))) := by
  induction segments generalizing segment with
  | nil =>
      cases void : isVoid segment with
      | false =>
          rw [laterComponents_of_counts void, plainText, List.map_cons, componentText_componentOf]
          · exact .refl
          · exact nofun
      | true =>
          rw [laterComponents_of_void void]
          rcases isVoid_iff.mp void with rfl | rfl
          · exact .refl
          · exact .single (.lastDot [])
  | cons t segments ih =>
      cases void : isVoid segment with
      | false =>
          have trimmed := trims_spellBehind (t :: segments)
            (List.cons_ne_nil '/' segment)
          rw [← map_componentText_laterComponents] at trimmed
          rw [laterComponents_of_counts void, plainText, List.map_cons, componentText_componentOf]
          · exact trimmed
          · exact nofun
      | true =>
          rw [laterComponents_of_void void]
          exact .head (trims_void void [] (t ++ spellBehind segments)) (ih t)

/-- **Each path can be trimmed to the shortest spelling of its components.** -/
theorem trims_plainText (p : Path) :
    Relation.ReflTransGen Trims p.text.toList (plainText p.components) := by
  have spelled := spell_slashSegments p.text.toList
  unfold components
  cases cut : p.segments with
  | nil => exact absurd cut (slashSegments_ne_nil _)
  | cons first rest =>
      rw [← segments, cut] at spelled
      change first ++ spellBehind rest = p.text.toList at spelled
      show Relation.ReflTransGen Trims p.text.toList
        (plainText (p.firstComponent first ++ laterComponents rest))
      by_cases none : first = []
      · subst none
        cases rest with
        | nil =>
            have relative : p.isAbsolute = false := by rw [isAbsolute, ← spelled]; rfl
            rw [firstComponent, if_pos rfl, relative, ← spelled]
            exact .refl
        | cons s rest =>
            have absolute : p.isAbsolute = true := by rw [isAbsolute, ← spelled]; rfl
            rw [firstComponent, if_pos rfl, absolute, ← spelled]
            exact trims_root s rest
      · have trimmed := trims_spellBehind rest none
        rw [← map_componentText_laterComponents, spelled] at trimmed
        -- The first segment is the first component as it stands, and none of them is the root.
        have opening : plainText (p.firstComponent first ++ laterComponents rest) =
            first ++ spellBehind ((laterComponents rest).map componentText) := by
          rw [firstComponent, if_neg none]
          split
          · next here =>
            rw [here]
            rfl
          · rw [List.singleton_append, plainText, componentText_componentOf]
            intro root
            unfold componentOf at root
            split at root <;> cases root
        rw [opening]
        exact trimmed

/-- **Two paths have the same components iff they are spellings of one path.** -/
theorem components_eq_iff_respelled : p.components = q.components ↔ p.Respelled q := by
  constructor
  · intro same
    have first := Relation.EqvGen.reflTransGen_le_eqvGen Trims _ _ (trims_plainText p)
    have second := Relation.EqvGen.reflTransGen_le_eqvGen Trims _ _ (trims_plainText q)
    rw [← same] at second
    exact .trans _ _ _ first (.symm _ _ second)
  · intro respelled
    have same := componentsOf_eqvGen respelled
    unfold componentsOf at same
    rwa [String.ofList_toList, String.ofList_toList] at same

/-! ## File names at the end of a text -/

/-- **A text whose last part that counts is a name**: behind it stand only slashes, and dots behind
slashes, and before it stands nothing or a slash. -/
structure EndsWith (text name : List Char) : Prop where
  plain : '/' ∉ name
  counts : isVoid name = false
  named : name ≠ ['.', '.']
  split : ∃ before voids, text = before ++ name ++ spellBehind voids ∧
    (before = [] ∨ before.getLast? = some '/') ∧ ∀ s ∈ voids, isVoid s = true

theorem slashSegments_spellBehind {first : List Char} {rest : List (List Char)}
    (plain : '/' ∉ first) (others : ∀ s ∈ rest, '/' ∉ s) :
    slashSegments (first ++ spellBehind rest) = first :: rest := by
  induction rest generalizing first with
  | nil => exact (congrArg _ (List.append_nil _)).trans (slashSegments_of_not_mem plain)
  | cons s rest ih =>
      obtain ⟨here, later⟩ := List.forall_mem_cons.mp others
      show slashSegments (first ++ '/' :: (s ++ spellBehind rest)) = _
      rw [slashSegments_append, slashSegments_of_not_mem plain, ih here later]
      rfl

/-- Void segments hold no slash. -/
theorem slash_not_mem_of_isVoid {segment : List Char} (void : isVoid segment = true) :
    '/' ∉ segment := by
  rcases isVoid_iff.mp void with rfl | rfl
  · decide
  · decide

/-- Void segments have no components. -/
theorem laterComponents_eq_nil {segments : List (List Char)}
    (void : ∀ s ∈ segments, isVoid s = true) : laterComponents segments = [] := by
  have none : (segments.filter fun s => !isVoid s) = [] :=
    List.filter_eq_nil_iff.mpr fun s listed => by rw [void s listed]; decide
  rw [laterComponents, none, List.map_nil]

/-- A segment is a name unless it is a step up. -/
theorem componentOf_eq_name_iff {segment : List Char} {name : String} :
    componentOf segment = .name name ↔ segment ≠ ['.', '.'] ∧ segment = name.toList := by
  unfold componentOf
  split
  · next up => exact ⟨nofun, fun named => absurd up named.1⟩
  · next other =>
    rw [Component.name.injEq, ← String.toList_inj, String.toList_ofList]
    exact ⟨fun same => ⟨other, same⟩, fun named => named.2⟩

/-- Of a row of segments all are void, or there is a last one that counts. -/
theorem exists_last_of_counts (segments : List (List Char)) :
    (∀ s ∈ segments, isVoid s = true) ∨ ∃ kept s voids, segments = kept ++ s :: voids ∧
      isVoid s = false ∧ ∀ v ∈ voids, isVoid v = true := by
  induction segments with
  | nil => exact Or.inl nofun
  | cons t segments ih =>
      rcases ih with void | ⟨kept, s, voids, rfl, counts, void⟩
      · cases here : isVoid t with
        | true => exact Or.inl (List.forall_mem_cons.mpr ⟨here, void⟩)
        | false => exact Or.inr ⟨[], t, segments, rfl, here, void⟩
      · exact Or.inr ⟨t :: kept, s, voids, rfl, counts, void⟩

section Last

variable {first s : List Char} {kept voids : List (List Char)}

theorem components_of_voids (cut : p.segments = first :: voids)
    (void : ∀ v ∈ voids, isVoid v = true) : p.components = p.firstComponent first := by
  unfold components
  rw [cut]
  show p.firstComponent first ++ laterComponents voids = _
  rw [laterComponents_eq_nil void, List.append_nil]

/-- The last segment that counts is the last component. -/
theorem getLast?_components (cut : p.segments = first :: (kept ++ s :: voids))
    (counts : isVoid s = false) (void : ∀ v ∈ voids, isVoid v = true) :
    p.components.getLast? = some (componentOf s) := by
  have later : laterComponents (kept ++ s :: voids) = laterComponents kept ++ [componentOf s] := by
    rw [laterComponents, List.filter_append, List.map_append, ← laterComponents, ← laterComponents,
      laterComponents_of_counts counts, laterComponents_eq_nil void]
  unfold components
  rw [cut]
  show (p.firstComponent first ++ laterComponents (kept ++ s :: voids)).getLast? = _
  rw [later, ← List.append_assoc, List.getLast?_concat]

end Last

/-- The first segment of a path is a component that is a name only if it counts. -/
theorem getLast?_firstComponent_eq_name_iff {first : List Char} {name : String} :
    (p.firstComponent first).getLast? = some (.name name) ↔
      isVoid first = false ∧ first ≠ ['.', '.'] ∧ first = name.toList := by
  unfold firstComponent
  by_cases none : first = []
  · subst none
    rw [if_pos rfl]
    split <;> simp [isVoid]
  · rw [if_neg none]
    by_cases here : first = ['.']
    · subst here
      simp [isVoid]
    · rw [if_neg here, List.getLast?_singleton, Option.some.injEq, componentOf_eq_name_iff]
      simp [isVoid, none, here]

theorem fileName?_eq_some_iff_getLast? {name : String} :
    p.fileName? = some name ↔ p.components.getLast? = some (.name name) := by
  unfold fileName?
  split
  · next text last => rw [last, Option.some.injEq, Option.some.injEq, Component.name.injEq]
  · next other => exact ⟨nofun, fun last => absurd last (other name)⟩

/-- **A file name stands at the end of the text**: its last part that counts, if that is a name. -/
theorem fileName?_eq_some_iff {name : String} :
    p.fileName? = some name ↔ EndsWith p.text.toList name.toList := by
  rw [fileName?_eq_some_iff_getLast?]
  constructor
  · intro last
    obtain ⟨first, rest, cut⟩ := List.exists_cons_of_ne_nil (slashSegments_ne_nil p.text.toList)
    have spelled := spell_slashSegments p.text.toList
    have plain : ∀ s ∈ p.segments, '/' ∉ s := fun s listed => not_mem_of_mem_slashSegments listed
    rw [cut] at spelled
    change first ++ spellBehind rest = p.text.toList at spelled
    change p.segments = first :: rest at cut
    rcases exists_last_of_counts rest with void | ⟨kept, s, voids, rfl, counts, void⟩
    · rw [components_of_voids cut void, getLast?_firstComponent_eq_name_iff] at last
      obtain ⟨counts, named, rfl⟩ := last
      exact ⟨plain _ (by simp [cut]), counts, named, [], rest, spelled.symm, Or.inl rfl, void⟩
    · rw [getLast?_components cut counts void, Option.some.injEq, componentOf_eq_name_iff] at last
      obtain ⟨named, rfl⟩ := last
      refine ⟨plain _ (by simp [cut]), counts, named, first ++ spellBehind kept ++ ['/'], voids, ?_,
        Or.inr List.getLast?_concat, void⟩
      rw [← spelled, spellBehind, List.flatMap_append, List.flatMap_cons]
      simp [spellBehind]
  · rintro ⟨plain, counts, named, before, voids, split, opening, void⟩
    have others : ∀ s ∈ voids, '/' ∉ s := fun s listed => slash_not_mem_of_isVoid (void s listed)
    have cut := slashSegments_spellBehind plain others
    rcases opening with rfl | slash
    · rw [List.nil_append] at split
      rw [← split] at cut
      rw [components_of_voids cut void]
      exact getLast?_firstComponent_eq_name_iff.mpr ⟨counts, named, rfl⟩
    · obtain ⟨front, rfl⟩ := List.getLast?_eq_some_iff.mp slash
      obtain ⟨first, kept, cutFront⟩ := List.exists_cons_of_ne_nil (slashSegments_ne_nil front)
      have whole : p.segments = first :: (kept ++ name.toList :: voids) := by
        rw [segments, split, List.append_assoc, List.append_assoc, List.singleton_append,
          slashSegments_append, cut, cutFront, List.cons_append]
      rw [getLast?_components whole counts void, componentOf_eq_name_iff.mpr ⟨named, rfl⟩]

end Path

end WireHeaders
