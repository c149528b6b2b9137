import WireHeaders.Proofs.Discovery.Alike
import WireHeaders.Proofs.Header.Generated

/-!
# Blocks of headers

A header is its preamble and a row of serializers.  What it says is decided by the types that are
listed in its source unit, so units that are alike have headers that are alike.

## Main definitions

* `TypeDecl.serializer` — the lines that write a type
* `HeaderOptions.blocks` — the serializers of one kind in a header
* `HeaderOptions.assemble` — the text around two rows of serializers

## Main statements

* `HeaderOptions.unitText_eq_assemble` — **a header is its preamble, the serializers of its structs and
  those of its enums**
* `HeaderOptions.outputPath_congr` — the place of a header does not depend on how its source is spelled
* `HeaderOptions.result_generate_congr` — **units with the same paths and the same texts** have the
  same headers, or the same failure
* `HeaderOptions.generate_filter` — **fewer source units have fewer headers**, and those that are left
  are the same
* `HeaderOptions.exists_generate_of_forall₂` — **units with paths that compare equal** have headers in
  the same places, or none of them has any
-/

namespace WireHeaders

/-- **The lines that write a type**, under the convention that goes with it. -/
def TypeDecl.serializer : TypeDecl × Option Convention → List String
  | (.struct decl, convention) => Serializer.structLines decl convention
  | (.enum decl, convention) => Serializer.enumLines decl convention

namespace HeaderOptions

variable {options : HeaderOptions} {direction direction' : Direction}

/-! ## The text of a header -/

/-- **The serializers of one kind** in a header. -/
def blocks (direction : Direction) (kind : DeclKind) (unit : SourceUnit) : List (List String) :=
  (unit.listed kind direction).map TypeDecl.serializer

/-- **The text around the serializers** of structs and those of enums: the preamble, and a line that
goes on behind each of them. -/
def assemble (options : HeaderOptions) (structs enums : List (List String)) : String :=
  linesText (options.preamble ++ structs.flatMap (· ++ ["\\"]) ++ enums.flatMap (· ++ ["\\"]))

/-- **A header is its preamble, the serializers of its structs and those of its enums.** -/
theorem unitText_eq_assemble (options : HeaderOptions) (direction : Direction) (unit : SourceUnit) :
    options.unitText direction unit =
      options.assemble (blocks direction .struct unit) (blocks direction .enum unit) := by
  unfold unitText unitLines assemble blocks SourceUnit.listed
  rw [List.map_map, List.map_map, List.flatMap_map, List.flatMap_map]
  rfl

theorem unitText_congr {unit unit' : SourceUnit}
    (same : ∀ kind, blocks direction kind unit = blocks direction' kind unit') :
    options.unitText direction unit = options.unitText direction' unit' := by
  rw [unitText_eq_assemble, unitText_eq_assemble, same, same]

theorem blocks_of_sameTypes {unit unit' : SourceUnit} (same : unit.SameTypes unit')
    (kind : DeclKind) : blocks direction kind unit = blocks direction kind unit' :=
  congrArg (List.map TypeDecl.serializer) (same kind direction)

/-! ## The place of a header -/

/-- **The place of a header does not depend on how its source is spelled.** -/
theorem outputPath_congr {source source' : Path} (equal : compare source source' = .eq)
    {path : Path} (placed : options.outputPath source = .ok path) :
    options.outputPath source' = .ok path := by
  have same : source'.baseName? = source.baseName? := by
    unfold Path.baseName? Path.fileName?
    rw [Path.compare_eq_iff.mp equal]
  unfold outputPath at placed ⊢
  rw [same]
  split at placed
  · exact placed
  · cases placed

/-! ## Headers of units that are alike -/

/-- **Units with the same paths and the same texts have the same headers**, or the same failure. -/
theorem result_generateFrom_congr {entries entries' : List (Path × SourceUnit)}
    (alike : List.Forall₂ (fun a b => a.1 = b.1 ∧
      options.unitText direction a.2 = options.unitText direction' b.2) entries entries')
    (claimed : SortedMap Path Path) :
    (options.generateFrom direction claimed entries).result =
      (options.generateFrom direction' claimed entries').result := by
  induction alike generalizing claimed with
  | nil => rfl
  | cons head _ ih =>
      obtain ⟨source, text⟩ := head
      rw [result_generateFrom_cons, result_generateFrom_cons, source, text]
      split
      · rfl
      · split
        · rfl
        · rw [ih]

theorem result_generate_congr {units units' : Units}
    (alike : List.Forall₂ (fun a b => a.1 = b.1 ∧
      options.unitText direction a.2 = options.unitText direction' b.2) units.toList units'.toList) :
    (options.generate direction units).result = (options.generate direction' units').result :=
  result_generateFrom_congr alike .empty

/-- Units with the same paths and the same texts have the same headers, one by one. -/
theorem headers_congr {entries entries' : List (Path × SourceUnit)}
    (alike : List.Forall₂ (fun a b => a.1 = b.1 ∧
      options.unitText direction a.2 = options.unitText direction' b.2) entries entries') :
    entries.map (options.headerOf direction) = entries'.map (options.headerOf direction') := by
  induction alike with
  | nil => rfl
  | cons head _ ih =>
      obtain ⟨source, text⟩ := head
      rw [List.map_cons, List.map_cons, ih, headerOf, headerOf, source, text]

/-- Headers are left out with their source units. -/
theorem headers_filter (wanted : Path → Bool) {entries : List (Path × SourceUnit)}
    {files : List GeneratedFile}
    (headers : List.Forall₂ (fun entry file => options.headerOf direction entry = .ok file) entries
      files) :
    List.Forall₂ (fun entry file => options.headerOf direction entry = .ok file)
      (entries.filter fun entry => wanted entry.1) (files.filter fun file => wanted file.source) := by
  refine List.rel_filter ?_ headers
  intro entry file made
  show wanted entry.1 = true ↔ wanted file.source = true
  rw [(headerOf_eq_ok_iff.mp made).1]

/-- **Fewer source units have fewer headers**, and those that are left are the same. -/
theorem generate_filter (wanted : Path → Bool) {units units' : Units}
    (alike : List.Forall₂ (fun a b => a.1 = b.1 ∧
      options.unitText direction' a.2 = options.unitText direction b.2) units'.toList
        (units.toList.filter fun entry => wanted entry.1))
    {files : List GeneratedFile} (generated : (options.generate direction units).result = .ok files) :
    (options.generate direction' units').result =
      .ok (files.filter fun file => wanted file.source) := by
  obtain ⟨headers, distinct⟩ := generate_eq_ok generated
  refine generate_eq_ok_iff.mpr ⟨?_, distinct.filter _⟩
  rw [headers_congr alike]
  exact headers_iff_forall₂.mpr (headers_filter wanted (headers_iff_forall₂.mp headers))

/-- **Units with paths that compare equal** have headers in the same places. -/
theorem exists_headers_of_forall₂ {entries entries' : List (Path × SourceUnit)}
    (alike : List.Forall₂ (fun a b => compare a.1 b.1 = .eq) entries entries')
    {files : List GeneratedFile}
    (headers : List.Forall₂ (fun entry file => options.headerOf direction entry = .ok file) entries
      files) :
    ∃ files', List.Forall₂ (fun entry file => options.headerOf direction entry = .ok file) entries'
        files' ∧
      List.Forall₂ (fun file file' => file'.path = file.path ∧ compare file.source file'.source = .eq)
        files files' := by
  induction alike generalizing files with
  | nil =>
      cases headers
      exact ⟨[], .nil, .nil⟩
  | @cons a b rest rest' equal _ ih =>
      cases headers with
      | @cons _ file _ files made later =>
          obtain ⟨source, placed, -⟩ := headerOf_eq_ok_iff.mp made
          obtain ⟨files', headers', pairs⟩ := ih later
          have made' : options.headerOf direction b =
              .ok ⟨b.1, file.path, options.unitText direction b.2⟩ :=
            headerOf_eq_ok_iff.mpr ⟨rfl, outputPath_congr equal placed, rfl⟩
          exact ⟨_ :: files', .cons made' headers', .cons ⟨rfl, source ▸ equal⟩ pairs⟩

/-- **Units with paths that compare equal** have headers in the same places, or none of them has
any. -/
theorem exists_generate_of_forall₂ {units units' : Units}
    (alike : List.Forall₂ (fun a b => compare a.1 b.1 = .eq) units.toList units'.toList)
    {files : List GeneratedFile} (generated : (options.generate direction units).result = .ok files) :
    ∃ files', (options.generate direction units').result = .ok files' ∧
      List.Forall₂ (fun file file' => file'.path = file.path ∧ compare file.source file'.source = .eq)
        files files' := by
  obtain ⟨headers, distinct⟩ := generate_eq_ok generated
  obtain ⟨files', headers', pairs⟩ :=
    exists_headers_of_forall₂ alike (headers_iff_forall₂.mp headers)
  refine ⟨files', generate_eq_ok_iff.mpr ⟨headers_iff_forall₂.mpr headers', ?_⟩, pairs⟩
  -- Whether paths differ is seen from the paths alone, and these are the same.
  have paths : files.map (·.path) = files'.map (·.path) := by
    rw [← List.forall₂_eq_eq_eq, List.forall₂_map_right_iff, List.forall₂_map_left_iff]
    exact pairs.imp fun _ _ facts => facts.1.symm
  have apart : (files.map (·.path)).Pairwise fun p q => compare p q ≠ .eq :=
    List.pairwise_map.mpr distinct
  rw [paths] at apart
  exact List.pairwise_map.mp apart

end HeaderOptions

end WireHeaders
