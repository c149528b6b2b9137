import WireHeaders.Path

/-!
# Segments and file names

A path cut at its slashes, and what is known of the names that are found in it.

## Main definitions

* `Path.steps` — the segments of a path that are not empty
* `Path.IsName` — a path that is a single segment

## Main statements

* `slashSegments_append` — a slash cuts a text into independent parts
* `slashSegments_append_of_not_mem` — what stands before a text without a slash joins its first part
* `Path.steps_join_of_relative` — **a path below another one has the segments of both**
* `Path.steps_join` — a name below a path is one more segment behind those of the path
* `Path.baseName?_isName` — what a header is named after holds no slash and is not empty
-/

namespace WireHeaders

/-! ## Texts cut at slashes -/

theorem slashSegments_ne_nil (cs : List Char) : slashSegments cs ≠ [] := by
  cases cs with
  | nil => simp [slashSegments]
  | cons c cs =>
      rw [slashSegments]
      split
      · simp
      · split
        · simp
        · simp

/-- **A slash cuts a text** into parts that do not depend on each other. -/
theorem slashSegments_append (xs ys : List Char) :
    slashSegments (xs ++ '/' :: ys) = slashSegments xs ++ slashSegments ys := by
  induction xs with
  | nil => rfl
  | cons c xs ih =>
      rw [List.cons_append, slashSegments, slashSegments]
      split
      · rw [ih, List.cons_append]
      · rw [ih]
        cases first : slashSegments xs with
        | nil => exact absurd first (slashSegments_ne_nil xs)
        | cons segment segments => rfl

/-- A text without slashes is one segment. -/
theorem slashSegments_of_not_mem {cs : List Char} (plain : '/' ∉ cs) :
    slashSegments cs = [cs] := by
  induction cs with
  | nil => rfl
  | cons c cs ih =>
      have other : c ≠ '/' := fun equal => plain (equal ▸ List.mem_cons_self)
      rw [slashSegments, if_neg other, ih fun later => plain (List.mem_cons_of_mem c later)]

/-- What stands before a text without a slash joins its first part. -/
theorem slashSegments_append_of_not_mem {xs : List Char} (plain : '/' ∉ xs) (ys : List Char) :
    slashSegments (xs ++ ys) = (xs ++ (slashSegments ys).headD []) :: (slashSegments ys).tail := by
  induction xs with
  | nil =>
      cases cut : slashSegments ys with
      | nil => exact absurd cut (slashSegments_ne_nil ys)
      | cons first rest => simp [cut]
  | cons c xs ih =>
      have other : c ≠ '/' := fun equal => plain (equal ▸ List.mem_cons_self)
      rw [List.cons_append, slashSegments, if_neg other,
        ih fun later => plain (List.mem_cons_of_mem c later)]
      rfl

/-- No segment holds a slash. -/
theorem not_mem_of_mem_slashSegments {cs segment : List Char}
    (member : segment ∈ slashSegments cs) : '/' ∉ segment := by
  induction cs generalizing segment with
  | nil =>
      rw [slashSegments, List.mem_singleton] at member
      rw [member]
      exact List.not_mem_nil
  | cons c cs ih =>
      rw [slashSegments] at member
      split at member
      · rcases List.mem_cons.mp member with rfl | later
        · exact List.not_mem_nil
        · exact ih later
      · next other =>
        cases rest : slashSegments cs with
        | nil => exact absurd rest (slashSegments_ne_nil cs)
        | cons first segments =>
            rw [rest] at member ih
            rcases List.mem_cons.mp member with rfl | later
            · intro slash
              rcases List.mem_cons.mp slash with equal | inside
              · exact other equal.symm
              · exact ih List.mem_cons_self inside
            · exact ih (List.mem_cons_of_mem _ later)

namespace Path

/-- **The segments that count when a path is walked.** -/
def steps (p : Path) : List (List Char) := p.segments.filter (fun s => s ≠ [])

/-- **A path that is a single segment.** -/
structure IsName (p : Path) : Prop where
  plain : '/' ∉ p.text.toList
  nonempty : p.text.toList ≠ []

variable {p q : Path}

theorem IsName.not_isAbsolute (name : q.IsName) : q.isAbsolute = false := by
  obtain ⟨plain, nonempty⟩ := name
  unfold isAbsolute
  cases spelled : q.text.toList with
  | nil => rfl
  | cons c cs =>
      rw [spelled] at plain
      have other : c ≠ '/' := fun equal => plain (equal ▸ List.mem_cons_self)
      simp [other]

/-- A name is walked in one step. -/
theorem IsName.steps_eq (name : q.IsName) : q.steps = [q.text.toList] := by
  unfold steps segments
  rw [slashSegments_of_not_mem name.plain]
  simp [name.nonempty]

/-! ## Paths below a path -/

/-- **The three ways to spell a relative path below another one**: that one is empty, it ends with a
slash, or a slash is put between the two. -/
theorem toList_join (relative : q.isAbsolute = false) :
    (p.text.toList = [] ∧ (p.join q).text.toList = q.text.toList) ∨
    (∃ before, p.text.toList = before ++ ['/'] ∧
      (p.join q).text.toList = before ++ '/' :: q.text.toList) ∨
    (p.text.toList ≠ [] ∧ (p.join q).text.toList = p.text.toList ++ '/' :: q.text.toList) := by
  unfold join
  rw [relative, if_neg Bool.false_ne_true]
  by_cases isEmpty : p.text.isEmpty = true
  · have spelled : p.text.toList = [] := by
      rw [String.isEmpty_iff.mp isEmpty]
      rfl
    refine Or.inl ⟨spelled, ?_⟩
    rw [isEmpty, Bool.true_or, if_pos rfl, String.toList_append, spelled, List.nil_append]
  · have spelled : p.text.toList ≠ [] := by
      intro none
      exact isEmpty (String.isEmpty_iff.mpr (String.toList_eq_nil_iff.mp none))
    by_cases slash : p.text.toList.getLast? = some '/'
    · obtain ⟨before, split⟩ := List.getLast?_eq_some_iff.mp slash
      refine Or.inr (Or.inl ⟨before, split, ?_⟩)
      rw [slash, beq_self_eq_true, Bool.or_true, if_pos rfl, String.toList_append, split,
        List.append_assoc]
      rfl
    · refine Or.inr (Or.inr ⟨spelled, ?_⟩)
      have unclosed : ¬(p.text.isEmpty || p.text.toList.getLast? == some '/') = true := by
        simp [isEmpty, slash]
      rw [if_neg unclosed, String.toList_append, String.toList_append, List.append_assoc]
      rfl

/-- **A relative path below another one** has the segments of both. -/
theorem steps_join_of_relative (relative : q.isAbsolute = false) :
    (p.join q).steps = p.steps ++ q.steps := by
  -- Slashes that follow each other make empty segments, which do not count.
  unfold steps segments
  rcases toList_join (p := p) relative with
    ⟨none, joined⟩ | ⟨before, split, joined⟩ | ⟨-, joined⟩
  · rw [joined, none]
    rfl
  · rw [joined, split, slashSegments_append, slashSegments_append, List.filter_append,
      List.filter_append]
    simp [slashSegments]
  · rw [joined, slashSegments_append, List.filter_append]

/-- A name below a path is one more segment behind those of the path. -/
theorem steps_join (name : q.IsName) : (p.join q).steps = p.steps ++ [q.text.toList] := by
  rw [steps_join_of_relative name.not_isAbsolute, name.steps_eq]

/-- A relative path below another one is absolute iff that one is. -/
theorem isAbsolute_join (relative : q.isAbsolute = false) :
    (p.join q).isAbsolute = p.isAbsolute := by
  have spelling := toList_join (p := p) relative
  unfold isAbsolute at relative ⊢
  rcases spelling with ⟨none, joined⟩ | ⟨before, split, joined⟩ | ⟨some, joined⟩
  · rw [joined, none, relative]
    rfl
  · rw [joined, split]
    cases before with
    | nil => rfl
    | cons c cs => rfl
  · rw [joined]
    cases spelled : p.text.toList with
    | nil => exact absurd spelled some
    | cons c cs => rfl

/-! ## Steps up -/

/-- A step up is a component. -/
theorem parent_mem_components_of_steps (up : ['.', '.'] ∈ p.steps) : .parent ∈ p.components := by
  have segment := (List.mem_filter.mp up).1
  unfold components
  cases cut : p.segments with
  | nil =>
      rw [cut] at segment
      cases segment
  | cons first rest =>
      rw [cut] at segment
      refine List.mem_append.mpr ?_
      rcases List.mem_cons.mp segment with rfl | later
      · exact Or.inl (List.mem_singleton.mpr rfl)
      · have counts : ['.', '.'] ∈ rest.filter fun s => !isVoid s :=
          List.mem_filter.mpr ⟨later, rfl⟩
        exact Or.inr (List.mem_map.mpr ⟨_, counts, rfl⟩)

/-! ## The name of a source unit -/

/-- A name among the components of a path is one of its segments. -/
theorem isName_of_mem_components {text : String} (member : .name text ∈ p.components) :
    IsName ⟨text⟩ := by
  -- A component that is a name is a segment as it stands, at the start of a path and later.
  have segment (s : List Char) (listed : s ∈ p.segments) (nonempty : s ≠ [])
      (named : componentOf s = .name text) : IsName ⟨text⟩ := by
    unfold componentOf at named
    split at named
    · cases named
    · cases named
      constructor
      · rw [String.toList_ofList]
        exact not_mem_of_mem_slashSegments listed
      · rw [String.toList_ofList]
        exact nonempty
  unfold components at member
  cases cut : p.segments with
  | nil => simp [cut] at member
  | cons first rest =>
      rw [cut] at member segment
      rcases List.mem_append.mp member with here | later
      · unfold firstComponent at here
        split at here
        · split at here
          · cases List.mem_singleton.mp here
          · cases here
        · next nonempty =>
          split at here
          · cases List.mem_singleton.mp here
          · exact segment first List.mem_cons_self nonempty (List.mem_singleton.mp here).symm
      · obtain ⟨s, kept, named⟩ := List.mem_map.mp later
        obtain ⟨listed, counts⟩ := List.mem_filter.mp kept
        refine segment s (List.mem_cons_of_mem _ listed) ?_ named
        rintro rfl
        cases counts

/-- The characters of a stem are those of its name. -/
theorem mem_of_mem_stem {name : List Char} {c : Char} (member : c ∈ stem name) : c ∈ name := by
  unfold stem at member
  split at member
  · exact member
  · rw [List.mem_reverse] at member
    have kept := (List.dropWhile_sublist _).mem (List.mem_of_mem_drop member)
    exact List.mem_reverse.mp kept

theorem stem_ne_nil {name : List Char} (nonempty : name ≠ []) : stem name ≠ [] := by
  unfold stem
  split
  · exact nonempty
  · next before =>
    intro none
    exact before (List.reverse_eq_nil_iff.mp none)

/-- **What a header is named after** holds no slash and is not empty. -/
theorem baseName?_isName {base : String} (named : p.baseName? = some base) : IsName ⟨base⟩ := by
  obtain ⟨text, last, rfl⟩ := Option.map_eq_some_iff.mp named
  have member : .name text ∈ p.components := by
    unfold fileName? at last
    split at last
    · next found =>
      cases last
      exact List.mem_of_getLast? found
    · cases last
  obtain ⟨plain, nonempty⟩ := isName_of_mem_components member
  constructor
  · rw [String.toList_ofList]
    exact fun slash => plain (mem_of_mem_stem slash)
  · rw [String.toList_ofList]
    exact stem_ne_nil nonempty

end Path

end WireHeaders
