import Mathlib.Data.List.Forall2
import WireHeaders.Header.Generate
import WireHeaders.Output.Commit
import WireHeaders.Proofs.Data.Lookup
import WireHeaders.Proofs.Files.Segments
import WireHeaders.Proofs.Log.Results

/-!
# The headers of a pass

What is known of the headers that one pass generates.

## Main definitions

* `HeaderOptions.headerOf` — the header of one source unit

## Main statements

* `HeaderOptions.generate_eq_ok` — a pass makes **one header for each source unit**, in path order,
  and **no two of them go to the same path**
* `HeaderOptions.generate_eq_ok_iff`, `HeaderOptions.mem_generate_iff` — **when a pass succeeds**, and
  which headers it makes
* `HeaderOptions.names_of_generate` — headers are named by single segments, no two by the same one
* `headersOf_eq_ok_iff` — the headers of a tree are those of the units that are discovered in it
-/

namespace WireHeaders

namespace HeaderOptions

variable {options : HeaderOptions} {direction : Direction}

/-- **The header of one source unit**, or the reason why there is none. -/
def headerOf (options : HeaderOptions) (direction : Direction) (entry : Path × SourceUnit) :
    Except GenerationError GeneratedFile :=
  (options.outputPath entry.1).map fun path =>
    ⟨entry.1, path, options.unitText direction entry.2⟩

/-- The place and the text of the header of a source unit. -/
theorem headerOf_eq_ok_iff {entry : Path × SourceUnit} {file : GeneratedFile} :
    options.headerOf direction entry = .ok file ↔ file.source = entry.1 ∧
      options.outputPath entry.1 = .ok file.path ∧
      file.content = options.unitText direction entry.2 := by
  constructor
  · intro made
    obtain ⟨path, placed, rfl⟩ := exists_ok_of_map made
    exact ⟨rfl, placed, rfl⟩
  · rintro ⟨source, placed, text⟩
    rw [headerOf, placed, ← source, ← text]
    rfl

/-- Headers stand beside their source units. -/
theorem headers_iff_forall₂ {entries : List (Path × SourceUnit)} {files : List GeneratedFile} :
    entries.map (options.headerOf direction) = files.map .ok ↔
      List.Forall₂ (fun entry file => options.headerOf direction entry = .ok file) entries files := by
  rw [← List.forall₂_map_right_iff, ← List.forall₂_map_left_iff, List.forall₂_eq_eq_eq]

/-- The result for a row of source units, without the reports. -/
theorem result_generateFrom_cons (claimed : SortedMap Path Path) (entry : Path × SourceUnit)
    (rest : List (Path × SourceUnit)) :
    (options.generateFrom direction claimed (entry :: rest)).result =
      match options.outputPath entry.1 with
      | .error e => .error e
      | .ok path =>
        match claimed.get? path with
        | some first => .error (.outputCollision path first entry.1)
        | none => (options.generateFrom direction (claimed.insert path entry.1) rest).result.map
            fun files => ⟨entry.1, path, options.unitText direction entry.2⟩ :: files := by
  obtain ⟨source, unit⟩ := entry
  rw [generateFrom]
  cases options.outputPath source with
  | error e => simp only [Logged.result_fail]
  | ok path =>
      cases free : claimed.get? path with
      | some first => simp only [free, Logged.result_fail]
      | none =>
          simp only [free, Logged.result_bind, Logged.result_log, Except.bind]
          cases (options.generateFrom direction (claimed.insert path source) rest).result <;> rfl

/-- **A row of source units has one header each**, at paths that differ from each other and from
those claimed before. -/
theorem generateFrom_eq_ok {entries : List (Path × SourceUnit)} {claimed : SortedMap Path Path}
    {files : List GeneratedFile}
    (generated : (options.generateFrom direction claimed entries).result = .ok files) :
    entries.map (options.headerOf direction) = files.map .ok ∧
      files.Pairwise (fun f g => compare f.path g.path ≠ .eq) ∧
      ∀ file ∈ files, claimed.get? file.path = none := by
  induction entries generalizing claimed files with
  | nil =>
      cases generated
      exact ⟨rfl, List.Pairwise.nil, fun _ member => nomatch member⟩
  | cons entry rest ih =>
      rw [result_generateFrom_cons] at generated
      cases place : options.outputPath entry.1 with
      | error e => simp [place] at generated
      | ok path =>
          cases free : claimed.get? path with
          | some first => simp [place, free] at generated
          | none =>
              simp only [place, free] at generated
              obtain ⟨others, later, rfl⟩ := exists_ok_of_map generated
              obtain ⟨headers, distinct, unclaimed⟩ := ih later
              -- The later headers avoid all paths claimed before, so also the one just claimed.
              have fresh (file : GeneratedFile) (member : file ∈ others) :
                  ¬compare file.path path = .eq ∧ claimed.get? file.path = none := by
                have absent := unclaimed file member
                rw [SortedMap.get?_insert] at absent
                split at absent
                · cases absent
                · next apart => exact ⟨apart, absent⟩
              refine ⟨?_, List.pairwise_cons.mpr ⟨?_, distinct⟩, ?_⟩
              · simp [headers, headerOf, place, Except.map]
              · intro file member equal
                exact (fresh file member).1 (Std.OrientedCmp.eq_symm equal)
              · intro file member
                rcases List.mem_cons.mp member with rfl | member
                · exact free
                · exact (fresh file member).2

/-- **Headers at paths that differ from each other and from those claimed before are made.** -/
theorem generateFrom_of_headers {entries : List (Path × SourceUnit)} {claimed : SortedMap Path Path}
    {files : List GeneratedFile}
    (headers : List.Forall₂ (fun entry file => options.headerOf direction entry = .ok file) entries
      files)
    (distinct : files.Pairwise (fun f g => compare f.path g.path ≠ .eq))
    (unclaimed : ∀ file ∈ files, claimed.get? file.path = none) :
    (options.generateFrom direction claimed entries).result = .ok files := by
  induction headers generalizing claimed with
  | nil => rfl
  | @cons entry file rest files made _ ih =>
      obtain ⟨path, placed, rfl⟩ := exists_ok_of_map made
      obtain ⟨apart, distinct⟩ := List.pairwise_cons.mp distinct
      have free : claimed.get? path = none := unclaimed _ List.mem_cons_self
      have unclaimedLater : ∀ later ∈ files,
          (claimed.insert path entry.1).get? later.path = none := by
        intro later member
        have other : compare later.path path ≠ .eq := fun equal =>
          apart later member (Std.OrientedCmp.eq_symm equal)
        rw [SortedMap.get?_insert, if_neg other]
        exact unclaimed later (List.mem_cons_of_mem _ member)
      rw [result_generateFrom_cons, placed]
      dsimp only
      rw [free, ih distinct unclaimedLater]
      rfl

/-- **Headers are not made** because a source unit has no place for one, or because two have the
same. -/
theorem error_of_generateFrom {entries : List (Path × SourceUnit)} {claimed : SortedMap Path Path}
    {e : GenerationError}
    (failed : (options.generateFrom direction claimed entries).result = .error e) :
    (∃ entry ∈ entries, options.outputPath entry.1 = .error e) ∨
      ∃ path first second, e = .outputCollision path first second := by
  induction entries generalizing claimed with
  | nil => cases failed
  | cons entry rest ih =>
      rw [result_generateFrom_cons] at failed
      cases place : options.outputPath entry.1 with
      | error e' =>
          simp only [place] at failed
          cases failed
          exact Or.inl ⟨entry, List.mem_cons_self, place⟩
      | ok path =>
          cases free : claimed.get? path with
          | some first =>
              simp only [place, free] at failed
              cases failed
              exact Or.inr ⟨path, first, entry.1, rfl⟩
          | none =>
              simp only [place, free] at failed
              cases later : (options.generateFrom direction (claimed.insert path entry.1)
                rest).result with
              | ok files =>
                  rw [later] at failed
                  cases failed
              | error e' =>
                  rw [later] at failed
                  cases failed
                  refine (ih later).imp_left ?_
                  rintro ⟨other, member, unplaced⟩
                  exact ⟨other, List.mem_cons_of_mem entry member, unplaced⟩

/-- **A pass makes one header for each source unit**, and no two of them go to the same path. -/
theorem generate_eq_ok {units : Units} {files : List GeneratedFile}
    (generated : (options.generate direction units).result = .ok files) :
    units.toList.map (options.headerOf direction) = files.map .ok ∧
      files.Pairwise (fun f g => compare f.path g.path ≠ .eq) :=
  ⟨(generateFrom_eq_ok generated).1, (generateFrom_eq_ok generated).2.1⟩

/-- **A pass succeeds iff it has one header for each source unit**, at paths that differ. -/
theorem generate_eq_ok_iff {units : Units} {files : List GeneratedFile} :
    (options.generate direction units).result = .ok files ↔
      units.toList.map (options.headerOf direction) = files.map .ok ∧
        files.Pairwise (fun f g => compare f.path g.path ≠ .eq) := by
  constructor
  · exact generate_eq_ok
  · rintro ⟨headers, distinct⟩
    exact generateFrom_of_headers (headers_iff_forall₂.mp headers) distinct fun _ _ => rfl

/-- **A header belongs to a source unit**, and its place and its text are those of the unit. -/
theorem mem_generate_iff {units : Units} {files : List GeneratedFile}
    (generated : (options.generate direction units).result = .ok files) {file : GeneratedFile} :
    file ∈ files ↔ ∃ unit, (file.source, unit) ∈ units.toList ∧
      options.outputPath file.source = .ok file.path ∧
      file.content = options.unitText direction unit := by
  have headers := (generate_eq_ok generated).1
  constructor
  · intro member
    have made : Except.ok file ∈ units.toList.map (options.headerOf direction) := by
      rw [headers]
      exact List.mem_map_of_mem member
    obtain ⟨⟨source, unit⟩, listed, header⟩ := List.mem_map.mp made
    obtain ⟨rfl, facts⟩ := headerOf_eq_ok_iff.mp header
    exact ⟨unit, listed, facts⟩
  · rintro ⟨unit, listed, facts⟩
    have header : options.headerOf direction (file.source, unit) = .ok file :=
      headerOf_eq_ok_iff.mpr ⟨rfl, facts⟩
    have made : options.headerOf direction (file.source, unit) ∈ files.map .ok := by
      rw [← headers]
      exact List.mem_map_of_mem listed
    rw [header] at made
    obtain ⟨same, member, equal⟩ := List.mem_map.mp made
    exact Except.ok.inj equal ▸ member

/-- **A source unit has a header**, and its place and its text are those of the unit. -/
theorem exists_mem_of_generate {units : Units} {files : List GeneratedFile}
    (generated : (options.generate direction units).result = .ok files) {source : Path}
    {unit : SourceUnit} (listed : (source, unit) ∈ units.toList) :
    ∃ file ∈ files, file.source = source ∧ options.outputPath source = .ok file.path ∧
      file.content = options.unitText direction unit := by
  have made : options.headerOf direction (source, unit) ∈ files.map .ok := by
    rw [← (generate_eq_ok generated).1]
    exact List.mem_map_of_mem listed
  obtain ⟨file, member, header⟩ := List.mem_map.mp made
  exact ⟨file, member, headerOf_eq_ok_iff.mp header.symm⟩

/-- **Headers stand in the order of their source units.** -/
theorem sources_of_headers {entries : List (Path × SourceUnit)} {files : List GeneratedFile}
    (headers : List.Forall₂ (fun entry file => options.headerOf direction entry = .ok file) entries
      files) :
    entries.map Prod.fst = files.map (·.source) := by
  rw [← List.forall₂_eq_eq_eq, List.forall₂_map_right_iff, List.forall₂_map_left_iff]
  exact headers.imp fun _ _ made => (headerOf_eq_ok_iff.mp made).1.symm

/-- **No two headers are of the same source unit.** -/
theorem sources_distinct_of_generate {units : Units} {files : List GeneratedFile}
    (generated : (options.generate direction units).result = .ok files) :
    files.Pairwise fun f g => compare f.source g.source ≠ .eq := by
  have ascending : (units.toList.map Prod.fst).Pairwise fun p q => compare p q ≠ .eq := by
    refine List.pairwise_map.mpr (units.byPath.ascending.imp ?_)
    intro a b less
    rw [less]
    decide
  rw [sources_of_headers (headers_iff_forall₂.mp (generate_eq_ok generated).1)] at ascending
  exact List.pairwise_map.mp ascending

/-- There are as many headers as source units. -/
theorem length_of_generate {units : Units} {files : List GeneratedFile}
    (generated : (options.generate direction units).result = .ok files) :
    files.length = units.size := by
  have headers := congrArg List.length (generate_eq_ok generated).1
  rw [List.length_map, List.length_map] at headers
  exact headers.symm

/-! ## Names of headers -/

/-- A header is named by a single segment, unless its suffix holds a slash. -/
theorem isName_of_outputPath (plain : '/' ∉ options.suffix.toList) {source path : Path}
    (placed : options.outputPath source = .ok path) : path.IsName := by
  unfold outputPath at placed
  split at placed
  · next base named =>
    cases placed
    obtain ⟨plainBase, nonempty⟩ := Path.baseName?_isName named
    refine ⟨?_, ?_⟩
    · rw [String.toList_append, List.mem_append, not_or]
      exact ⟨plainBase, plain⟩
    · rw [String.toList_append]
      exact List.append_ne_nil_of_left_ne_nil nonempty _
  · cases placed

/-- **Headers are named by single segments**, and no two of them by the same one. -/
theorem names_of_generate (plain : '/' ∉ options.suffix.toList) {units : Units}
    {files : List GeneratedFile}
    (generated : (options.generate direction units).result = .ok files) :
    (∀ file ∈ files, file.path.IsName) ∧
      files.Pairwise fun f g => f.path.text ≠ g.path.text := by
  obtain ⟨headers, distinct⟩ := generate_eq_ok generated
  refine ⟨?_, distinct.imp ?_⟩
  · intro file member
    have listed : Except.ok file ∈ units.toList.map (options.headerOf direction) := by
      rw [headers]
      exact List.mem_map_of_mem member
    obtain ⟨entry, -, made⟩ := List.mem_map.mp listed
    obtain ⟨path, placed, rfl⟩ := exists_ok_of_map made
    exact isName_of_outputPath plain placed
  · intro f g apart same
    have equal : f.path = g.path := congrArg Path.mk same
    exact apart (equal ▸ Std.ReflOrd.compare_self)

end HeaderOptions

/-! ## Headers of a tree, and a row of headers -/

/-- A row of headers is committed one after the other. -/
theorem commitFrom_cons {σ : Type} (output : Output (StateM σ)) (summary : CommitSummary)
    (file : GeneratedFile) (files : List GeneratedFile) (s : σ) :
    commitFrom output summary (file :: files) s =
      (output file s).1.andThen
        (fun status => commitFrom output (summary.record status) files) (output file s).2 :=
  rfl

section

variable {origin : Origin} {options : HeaderOptions} {tree : DeclarationTree}
  {discover : DeclarationTree → Logged GenerationError Units}

/-- Headers are made of the units that are discovered. -/
theorem result_headersOf :
    (headersOf origin options tree discover).result =
      (discover tree).result.bind fun units => (options.generate .serialize units).result := by
  simp [headersOf, Except.bind]

/-- The headers of a tree are those of the units that are discovered in it. -/
theorem headersOf_eq_ok_iff {files : List GeneratedFile} :
    (headersOf origin options tree discover).result = .ok files ↔
      ∃ units, (discover tree).result = .ok units ∧
        (options.generate .serialize units).result = .ok files := by
  rw [result_headersOf]
  cases (discover tree).result with
  | error e => simp [Except.bind]
  | ok units => simp [Except.bind]

end

end WireHeaders
