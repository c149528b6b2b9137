import Mathlib.Data.List.Induction
import WireHeaders.Proofs.Header.Places

/-!
# Clashes of headers

When headers are made, and why they are not.  All headers have the same suffix, so their paths differ
iff the base names of their source units do, whatever the suffix is.

## Main definitions

* `Path.TellApart` — source paths with base names, all of them different
* `HeaderOptions.Clash` — **why there is no header for a source path** behind others that have one

## Main statements

* `HeaderOptions.base_eq_of_components_eq` — **a suffix never makes two base names one path**
* `HeaderOptions.generateFrom_of_clash` — the first clash is what a pass reports
* `HeaderOptions.generate_outcome` — a pass makes one header for each source unit, or it fails at **the
  first source unit without a base name or with that of an earlier one**
-/

namespace WireHeaders

namespace Path

/-- **Source paths that can be told apart by their base names.** -/
structure TellApart (sources : List Path) : Prop where
  /-- Each path ends with a name. -/
  named : ∀ source ∈ sources, ∃ text, source.components.getLast? = some (.name text)
  /-- No two paths have the same base name. -/
  apart : sources.Pairwise fun a b => a.baseName? ≠ b.baseName?

/-- Of paths with different base names, one at most has a given one. -/
theorem TellApart.filter_eq_singleton {sources : List Path}
    (tell : TellApart sources) {first : Path} {base : String} (member : first ∈ sources)
    (named : first.baseName? = some base) :
    (sources.filter fun q => q.baseName? = some base) = [first] := by
  have apart := tell.apart.filter fun q => decide (q.baseName? = some base)
  have listed : first ∈ sources.filter fun q => q.baseName? = some base :=
    List.mem_filter.mpr ⟨member, decide_eq_true named⟩
  have all : ∀ q ∈ sources.filter fun q => q.baseName? = some base, q.baseName? = some base :=
    fun q kept => of_decide_eq_true (List.mem_filter.mp kept).2
  generalize (sources.filter fun q => q.baseName? = some base) = kept at apart listed all
  match kept with
  | [] => cases listed
  | [q] => rw [List.mem_singleton.mp listed]
  | q :: q' :: rest =>
      have same := (all q (by simp)).trans (all q' (by simp)).symm
      exact absurd same ((List.pairwise_cons.mp apart).1 q' List.mem_cons_self)

/-- A path has a base name iff it ends with a name. -/
theorem exists_baseName?_iff {p : Path} :
    (∃ base, p.baseName? = some base) ↔ ∃ text, p.components.getLast? = some (.name text) := by
  unfold baseName? fileName?
  constructor
  · rintro ⟨base, named⟩
    obtain ⟨text, last, -⟩ := Option.map_eq_some_iff.mp named
    split at last
    · next name found => exact ⟨name, found⟩
    · cases last
  · rintro ⟨text, last⟩
    exact ⟨_, by rw [last]; rfl⟩

/-- A segment that is not empty is the first component of its path, and no other segment is. -/
theorem eq_of_firstComponent_eq {p q : Path} {s t : List Char} (nonempty : s ≠ []) (nonempty' : t ≠ [])
    {later later' : List Component}
    (same : p.firstComponent s ++ later = q.firstComponent t ++ later') : s = t := by
  rw [firstComponent, firstComponent, if_neg nonempty, if_neg nonempty'] at same
  by_cases here : s = ['.'] <;> by_cases here' : t = ['.']
  · rw [here, here']
  · rw [if_pos here, if_neg here', componentOf] at same
    split at same <;> cases same
  · rw [if_neg here, if_pos here', componentOf] at same
    split at same <;> cases same
  · rw [if_neg here, if_neg here', componentOf, componentOf] at same
    split at same
    · next up =>
      split at same
      · next up' => rw [up, up']
      · cases same
    · split at same
      · cases same
      · injection same with first
        injection first with texts
        rw [← String.toList_ofList (l := s), texts, String.toList_ofList]

end Path

namespace HeaderOptions

variable {options : HeaderOptions} {direction : Direction}

/-! ## Paths with one suffix -/

/-- **A suffix never makes two base names one path.**  The first component of the path of a header is
the base name with what stands before the first slash of the suffix. -/
theorem base_eq_of_components_eq {base base' : String} (isName : Path.IsName ⟨base⟩)
    (isName' : Path.IsName ⟨base'⟩)
    (same : (⟨base ++ options.suffix⟩ : Path).components =
      (⟨base' ++ options.suffix⟩ : Path).components) : base = base' := by
  have nonempty : base.toList ++ options.nameEnd ≠ [] :=
    List.append_ne_nil_of_left_ne_nil isName.nonempty _
  have nonempty' : base'.toList ++ options.nameEnd ≠ [] :=
    List.append_ne_nil_of_left_ne_nil isName'.nonempty _
  rw [Path.components, Path.components, segments_append isName, segments_append isName'] at same
  have first := Path.eq_of_firstComponent_eq nonempty nonempty' same
  exact String.toList_inj.mp (List.append_cancel_right first)

/-! ## The first clash -/

/-- **Why there is no header for a source path** behind others that have one. -/
inductive Clash (options : HeaderOptions) (before : List Path) (source : Path) :
    GenerationError → Prop
  /-- The path has no base name. -/
  | unnamed (none : source.baseName? = none) : Clash options before source (.invalidSourcePath source)
  /-- One of the others has the same base name. -/
  | taken (base : String) (first : Path) (named : source.baseName? = some base)
      (one : (before.filter fun q => q.baseName? = some base) = [first]) :
      Clash options before source (.outputCollision ⟨base ++ options.suffix⟩ first source)

/-- The paths that are claimed are those of the headers of some source paths. -/
def Claims (options : HeaderOptions) (before : List Path) (claimed : SortedMap Path Path) : Prop :=
  ∀ base, Path.IsName ⟨base⟩ → ∀ first, claimed.get? ⟨base ++ options.suffix⟩ = some first ↔
    first ∈ before ∧ first.baseName? = some base

theorem claims_empty (options : HeaderOptions) : options.Claims [] .empty := by
  intro base _ first
  simp

/-- **One more header claims its path**, which is that of no other base name. -/
theorem Claims.insert {before : List Path} {claimed : SortedMap Path Path} {source : Path}
    {base : String} (claims : options.Claims before claimed) (named : source.baseName? = some base)
    (fresh : ∀ q ∈ before, q.baseName? ≠ some base) :
    options.Claims (before ++ [source]) (claimed.insert ⟨base ++ options.suffix⟩ source) := by
  intro base' isName' first
  rw [SortedMap.get?_insert, List.mem_append, List.mem_singleton]
  by_cases same : base' = base
  · subst same
    rw [if_pos Std.ReflOrd.compare_self]
    constructor
    · intro inserted
      cases inserted
      exact ⟨Or.inr rfl, named⟩
    · rintro ⟨earlier | rfl, named'⟩
      · exact absurd named' (fresh first earlier)
      · rfl
  · have apart : ¬compare (⟨base' ++ options.suffix⟩ : Path) ⟨base ++ options.suffix⟩ = .eq :=
      fun equal => same (base_eq_of_components_eq isName' (Path.baseName?_isName named)
        (Path.compare_eq_iff.mp equal))
    rw [if_neg apart, claims base' isName' first]
    constructor
    · rintro ⟨earlier, named'⟩
      exact ⟨Or.inl earlier, named'⟩
    · rintro ⟨earlier | rfl, named'⟩
      · exact ⟨earlier, named'⟩
      · exact absurd (Option.some.inj (named'.symm.trans named)) same

/-- **The next source path has a header** if it can be told apart from those before it: its path is
free, and then it is claimed. -/
theorem Claims.next {before later : List Path} {claimed : SortedMap Path Path} {source : Path}
    (claims : options.Claims before claimed) (tell : Path.TellApart (before ++ source :: later)) :
    ∃ base, source.baseName? = some base ∧
      options.outputPath source = .ok ⟨base ++ options.suffix⟩ ∧
      claimed.get? ⟨base ++ options.suffix⟩ = none ∧
      options.Claims (before ++ [source]) (claimed.insert ⟨base ++ options.suffix⟩ source) := by
  obtain ⟨base, named⟩ := Path.exists_baseName?_iff.mpr (tell.named source (by simp))
  have fresh : ∀ q ∈ before, q.baseName? ≠ some base := by
    intro q earlier same
    have apart := (List.pairwise_append.mp tell.apart).2.2 q earlier source (by simp)
    exact apart (same.trans named.symm)
  refine ⟨base, named, outputPath_eq_ok_iff.mpr ⟨base, named, rfl⟩, ?_, claims.insert named fresh⟩
  refine Option.eq_none_iff_forall_ne_some.mpr ?_
  intro first claimedBy
  obtain ⟨earlier, named'⟩ := (claims base (Path.baseName?_isName named) first).mp claimedBy
  exact fresh first earlier named'

/-- A clash right behind source paths with headers is all that comes of a pass. -/
theorem generateFrom_cons_of_clash {before : List Path} {claimed : SortedMap Path Path}
    {source : Path} {unit : SourceUnit} {rest : List (Path × SourceUnit)} {e : GenerationError}
    (claims : options.Claims before claimed) (clash : options.Clash before source e) :
    options.generateFrom direction claimed ((source, unit) :: rest) = Logged.fail e := by
  rw [generateFrom]
  cases clash with
  | unnamed none => simp only [outputPath, none]
  | taken base first named one =>
      have listed : first ∈ before.filter fun q => q.baseName? = some base := by
        rw [one]
        exact List.mem_singleton_self first
      obtain ⟨earlier, named'⟩ := List.mem_filter.mp listed
      have claimedBy : claimed.get? ⟨base ++ options.suffix⟩ = some first :=
        (claims base (Path.baseName?_isName named) first).mpr ⟨earlier, of_decide_eq_true named'⟩
      simp only [outputPath, named, claimedBy]

/-- **The first clash is what a pass reports**: the source units before it have headers. -/
theorem generateFrom_of_clash {between : List (Path × SourceUnit)} {source : Path}
    {unit : SourceUnit} {rest : List (Path × SourceUnit)} {e : GenerationError}
    {before : List Path} {claimed : SortedMap Path Path} (claims : options.Claims before claimed)
    (tell : Path.TellApart (before ++ between.map Prod.fst))
    (clash : options.Clash (before ++ between.map Prod.fst) source e) :
    (options.generateFrom direction claimed (between ++ (source, unit) :: rest)).result =
      .error e := by
  induction between generalizing before claimed with
  | nil =>
      rw [List.map_nil, List.append_nil] at clash
      rw [List.nil_append, generateFrom_cons_of_clash claims clash]
      rfl
  | cons entry between ih =>
      -- The name of this source path is new, so its header is made and the pass goes on.
      obtain ⟨base, -, placed, free, claimed'⟩ := claims.next tell
      have regroup : before ++ (entry :: between).map Prod.fst =
          (before ++ [entry.1]) ++ between.map Prod.fst := by simp
      rw [regroup] at tell clash
      have later := ih claimed' tell clash
      rw [List.cons_append, result_generateFrom_cons, placed]
      dsimp only
      rw [free]
      dsimp only
      rw [later]
      rfl

/-- **Source paths that cannot be told apart have a first clash.** -/
theorem exists_clash (options : HeaderOptions) {sources : List Path}
    (confused : ¬Path.TellApart sources) :
    ∃ before source later e, sources = before ++ source :: later ∧ Path.TellApart before ∧
      options.Clash before source e := by
  induction sources using List.reverseRec with
  | nil => exact absurd ⟨nofun, List.Pairwise.nil⟩ confused
  | append_singleton sources source ih =>
      by_cases tell : Path.TellApart sources
      · cases named : source.baseName? with
        | none => exact ⟨sources, source, [], _, rfl, tell, .unnamed named⟩
        | some base =>
            -- The last path has a base name, so it is one that an earlier path has.
            have taken : ∃ first ∈ sources, first.baseName? = some base := by
              by_contra free
              refine confused ⟨?_, ?_⟩
              · intro q member
                rcases List.mem_append.mp member with earlier | last
                · exact tell.named q earlier
                · rw [List.mem_singleton.mp last]
                  exact Path.exists_baseName?_iff.mp ⟨base, named⟩
              · refine List.pairwise_append.mpr ⟨tell.apart, List.pairwise_singleton _ _, ?_⟩
                intro q earlier last isLast same
                rw [List.mem_singleton.mp isLast, named] at same
                exact free ⟨q, earlier, same⟩
            obtain ⟨first, earlier, named'⟩ := taken
            exact ⟨sources, source, [], _, rfl, tell,
              .taken base first named (tell.filter_eq_singleton earlier named')⟩
      · obtain ⟨before, clashing, later, e, split, facts⟩ := ih tell
        exact ⟨before, clashing, later ++ [source], e, by rw [split]; simp, facts⟩

/-- A pass fails at the first clash of its source units. -/
theorem generate_of_clash {units : Units} {before later : List Path} {source : Path}
    {e : GenerationError} (sources : units.byPath.keys = before ++ source :: later)
    (tell : Path.TellApart before) (clash : options.Clash before source e) :
    (options.generate direction units).result = .error e := by
  obtain ⟨front, back, split, rfl, kept⟩ := List.map_eq_append_iff.mp sources
  obtain ⟨⟨path, unit⟩, rest, rfl, rfl, -⟩ := List.map_eq_cons_iff.mp kept
  rw [generate, Units.toList, split]
  exact generateFrom_of_clash (claims_empty options) tell clash

/-- **Source units that can be told apart have headers.** -/
theorem exists_generate_of_tellApart {units : Units} (tell : Path.TellApart units.byPath.keys) :
    ∃ files, (options.generate direction units).result = .ok files := by
  let header (entry : Path × SourceUnit) : GeneratedFile :=
    ⟨entry.1, ⟨entry.1.baseName?.getD "" ++ options.suffix⟩, options.unitText direction entry.2⟩
  have named (entry : Path × SourceUnit) (listed : entry ∈ units.toList) :
      ∃ base, entry.1.baseName? = some base :=
    Path.exists_baseName?_iff.mpr (tell.named entry.1 (List.mem_map_of_mem listed))
  refine ⟨units.toList.map header, generate_eq_ok_iff.mpr ⟨?_, ?_⟩⟩
  · rw [List.map_map]
    refine List.map_congr_left ?_
    intro entry listed
    obtain ⟨base, found⟩ := named entry listed
    refine headerOf_eq_ok_iff.mpr ⟨rfl, outputPath_eq_ok_iff.mpr ⟨base, found, ?_⟩, rfl⟩
    simp only [header, found, Option.getD_some]
  · refine List.pairwise_map.mpr ((List.pairwise_map.mp tell.apart).imp_of_mem ?_)
    intro a b listed listed' apart equal
    obtain ⟨base, found⟩ := named a listed
    obtain ⟨base', found'⟩ := named b listed'
    have same := Path.compare_eq_iff.mp equal
    simp only [header, found, found', Option.getD_some] at same
    refine apart (found.trans (Eq.trans ?_ found'.symm))
    exact congrArg some (base_eq_of_components_eq (Path.baseName?_isName found)
      (Path.baseName?_isName found') same)

/-- **The outcome of a pass.**  It succeeds iff the paths of all source units end with names and no two
have the same base name.  Then it makes one header for each source unit, in path order and at paths that
differ, named by the base name with the suffix.  Otherwise it reports the first source unit that has no
base name or the one of a source unit before it, together with that one. -/
theorem generate_outcome (options : HeaderOptions) (direction : Direction) (units : Units) :
    ((∃ files, (options.generate direction units).result = .ok files) ↔
      Path.TellApart (units.toList.map Prod.fst)) ∧
    (∀ files, (options.generate direction units).result = .ok files →
      List.Forall₂ (fun entry file => file.source = entry.1 ∧
        (∃ base, entry.1.baseName? = some base ∧ file.path = ⟨base ++ options.suffix⟩) ∧
        file.content = options.unitText direction entry.2) units.toList files ∧
      files.Pairwise fun f g => compare f.source.components g.source.components = .lt ∧
        f.path.components ≠ g.path.components) ∧
    ∀ e, (options.generate direction units).result = .error e ↔
      ∃ before source later, units.toList.map Prod.fst = before ++ source :: later ∧
        Path.TellApart before ∧ options.Clash before source e := by
  -- Of two outcomes of one pass, the first clash decides which it is.
  have failing {before source later e} (sources : units.toList.map Prod.fst = before ++ source :: later)
      (tell : Path.TellApart before) (clash : options.Clash before source e) :
      (options.generate direction units).result = .error e :=
    generate_of_clash sources tell clash
  refine ⟨⟨?_, exists_generate_of_tellApart⟩, ?_, ?_⟩
  · rintro ⟨files, made⟩
    by_contra confused
    obtain ⟨before, source, later, e, sources, tell, clash⟩ := exists_clash options confused
    rw [failing sources tell clash] at made
    cases made
  · intro files made
    obtain ⟨headers, distinct⟩ := generate_eq_ok made
    have beside := headers_iff_forall₂.mp headers
    refine ⟨beside.imp ?_, ?_⟩
    · intro entry file header
      obtain ⟨source, placed, text⟩ := headerOf_eq_ok_iff.mp header
      exact ⟨source, outputPath_eq_ok_iff.mp placed, text⟩
    · have ascending : (files.map (·.source)).Pairwise fun p q => compare p q = .lt := by
        rw [← sources_of_headers beside]
        exact List.pairwise_map.mpr units.byPath.ascending
      refine (List.pairwise_map.mp ascending).and (distinct.imp ?_)
      intro f g apart same
      exact apart (Path.compare_eq_iff.mpr same)
  · intro e
    constructor
    · intro failed
      have confused : ¬Path.TellApart (units.toList.map Prod.fst) := by
        intro tell
        obtain ⟨files, made⟩ : ∃ files, (options.generate direction units).result = .ok files :=
          exists_generate_of_tellApart tell
        rw [failed] at made
        cases made
      obtain ⟨before, source, later, e', sources, tell, clash⟩ := exists_clash options confused
      rw [failing sources tell clash] at failed
      cases failed
      exact ⟨before, source, later, sources, tell, clash⟩
    · rintro ⟨before, source, later, sources, tell, clash⟩
      exact failing sources tell clash

end HeaderOptions

end WireHeaders
