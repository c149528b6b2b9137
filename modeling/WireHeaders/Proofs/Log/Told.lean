import Mathlib.Data.List.TakeWhile
import WireHeaders.Proofs.Discovery.Stops
import WireHeaders.Proofs.Header.Clashes
import WireHeaders.Proofs.Output.InMemory

/-!
# What a pass tells

The events of a whole pass, and how they go with its result.  A pass goes along the stops of its
search, then along its source units, and then it commits; the log ends where the pass does.

## Main definitions

* `DeclarationTree.opening` — what is told before the search
* `DeclarationTree.stops` — the stops of the search
* `HeaderOptions.Announces` — what is told of the header of a source unit
* `DeclarationTree.Searched` — what a search that succeeds leaves
* `PassLog` — **the log of a pass**, for each of the three ways in which it can end

## Main statements

* `HeaderOptions.generateFrom_announces` — source units that can be told apart are announced one by one
* `Store.commitFrom_told` — committing to a store tells of its summary only
* `run_told` — **a pass into a store has the log of its end**, and no warning in it comes from a type
  that is not exported or from a scope of the platform
-/

namespace WireHeaders

/-! ## Before the search -/

namespace DeclarationTree

/-- **What is told before the search**: that the pass begins, and which scopes are left out. -/
def opening (tree : DeclarationTree) : List Event :=
  .started .library :: tree.externalScopes.map fun s => .scopeSkipped s.name

/-- **The stops of the search** of the scopes of the user. -/
def stops (tree : DeclarationTree) : List Stop := tree.ownedScopes.flatMap Scope.stops

/-- What the search leaves, as a walk along its stops. -/
theorem search_eq_visit (tree : DeclarationTree) :
    Scope.discoverAll tree.sources tree.ownedScopes .empty =
      Units.visit tree.sources tree.stops .empty :=
  Scope.discoverAll_eq_visit ..

end DeclarationTree

/-! ## Headers -/

namespace HeaderOptions

/-- **What is told of the header of a source unit**: where it comes from and where it goes, and how
many structs and enums are in it. -/
def Announces (options : HeaderOptions) (direction : Direction) (entry : Path × SourceUnit)
    (event : Event) : Prop :=
  ∃ base, entry.1.baseName? = some base ∧
    event = .generated entry.1 ⟨base ++ options.suffix⟩ direction
      (entry.2.listed .struct direction).length (entry.2.listed .enum direction).length

variable {options : HeaderOptions} {direction : Direction}

/-- There is one announcement of a source unit. -/
theorem announces_unique : Relator.RightUnique (options.Announces direction) := by
  rintro entry event event' ⟨base, named, rfl⟩ ⟨base', named', rfl⟩
  rw [Option.some.inj (named.symm.trans named')]

/-- Announcements are no warnings. -/
theorem not_mem_of_announces {entries : List (Path × SourceUnit)} {announced : List Event}
    (headers : List.Forall₂ (options.Announces direction) entries announced) (name value : String) :
    .conventionUnknown name value ∉ announced := by
  induction headers with
  | nil => exact List.not_mem_nil
  | cons announcement _ ih =>
      obtain ⟨base, -, rfl⟩ := announcement
      rw [List.mem_cons, not_or]
      exact ⟨nofun, ih⟩

/-- A header is told of as soon as its path is claimed. -/
theorem events_generateFrom_cons {claimed : SortedMap Path Path} {entry : Path × SourceUnit}
    {path : Path} (placed : options.outputPath entry.1 = .ok path)
    (free : claimed.get? path = none) (rest : List (Path × SourceUnit)) :
    (options.generateFrom direction claimed (entry :: rest)).events =
      report direction entry.1 path entry.2 ::
        (options.generateFrom direction (claimed.insert path entry.1) rest).events := by
  obtain ⟨source, unit⟩ := entry
  rw [generateFrom, placed]
  dsimp only
  rw [free]
  dsimp only
  rw [Logged.bind_of_ok rfl]
  cases made : (options.generateFrom direction (claimed.insert path source) rest).result with
  | error e =>
      rw [Logged.bind_of_error made]
      rfl
  | ok files =>
      rw [Logged.bind_of_ok made]
      exact congrArg _ (List.append_nil _)

/-- **Source units that can be told apart are announced one by one**, and then the pass goes on with
the paths of their headers claimed. -/
theorem generateFrom_announces {between : List (Path × SourceUnit)} {before : List Path}
    {claimed : SortedMap Path Path} (claims : options.Claims before claimed)
    (tell : Path.TellApart (before ++ between.map Prod.fst)) :
    ∃ claimed' announced, options.Claims (before ++ between.map Prod.fst) claimed' ∧
      List.Forall₂ (options.Announces direction) between announced ∧
      ∀ rest, (options.generateFrom direction claimed (between ++ rest)).events =
        announced ++ (options.generateFrom direction claimed' rest).events := by
  induction between generalizing before claimed with
  | nil => exact ⟨claimed, [], by simpa using claims, .nil, fun rest => rfl⟩
  | cons entry between ih =>
      obtain ⟨base, named, placed, free, claims⟩ := claims.next tell
      have regroup : before ++ (entry :: between).map Prod.fst =
          (before ++ [entry.1]) ++ between.map Prod.fst := by simp
      rw [regroup] at tell ⊢
      obtain ⟨claimed', announced, claims', told, events⟩ := ih claims tell
      refine ⟨claimed', report direction entry.1 ⟨base ++ options.suffix⟩ entry.2 :: announced,
        claims', .cons ⟨base, named, ?_⟩ told, ?_⟩
      · simp only [report, SourceUnit.listed, List.length_map]
      · intro rest
        rw [List.cons_append, events_generateFrom_cons placed free, events, List.cons_append]

/-- **All source units are announced** if they can be told apart. -/
theorem generate_announces (options : HeaderOptions) (direction : Direction) {units : Units}
    (tell : Path.TellApart (units.toList.map Prod.fst)) :
    ∃ announced files, List.Forall₂ (options.Announces direction) units.toList announced ∧
      options.generate direction units = ⟨announced, .ok files⟩ := by
  obtain ⟨files, made⟩ : ∃ files, (options.generate direction units).result = .ok files :=
    exists_generate_of_tellApart tell
  obtain ⟨claimed', announced, -, told, events⟩ :=
    generateFrom_announces (claims_empty options) tell
  have ended := events []
  rw [List.append_nil] at ended
  refine ⟨announced, files, told, ?_⟩
  rw [← made, ← List.append_nil announced]
  exact congrArg (Logged.mk · _) ended

/-- Source units that cannot be told apart have a first clash. -/
theorem exists_clash_of_entries (options : HeaderOptions) {entries : List (Path × SourceUnit)}
    (confused : ¬Path.TellApart (entries.map Prod.fst)) :
    ∃ before entry after e, entries = before ++ entry :: after ∧
      Path.TellApart (before.map Prod.fst) ∧ options.Clash (before.map Prod.fst) entry.1 e := by
  obtain ⟨sources, source, later, e, row, tell, clash⟩ := exists_clash options confused
  obtain ⟨before, back, split, rfl, kept⟩ := List.map_eq_append_iff.mp row
  obtain ⟨entry, after, rfl, rfl, -⟩ := List.map_eq_cons_iff.mp kept
  exact ⟨before, entry, after, e, split, tell, clash⟩

/-- **The source units before the first clash are announced**, and no other one. -/
theorem generate_announces_of_clash (direction : Direction) {units : Units}
    {before after : List (Path × SourceUnit)} {entry : Path × SourceUnit} {e : GenerationError}
    (row : units.toList = before ++ entry :: after)
    (tell : Path.TellApart (before.map Prod.fst))
    (clash : options.Clash (before.map Prod.fst) entry.1 e) :
    ∃ announced, List.Forall₂ (options.Announces direction) before announced ∧
      options.generate direction units = ⟨announced, .error e⟩ := by
  have made : (options.generate direction units).result = .error e := by
    rw [generate, row]
    exact generateFrom_of_clash (claims_empty options) tell clash
  obtain ⟨claimed', announced, claims, told, events⟩ :=
    generateFrom_announces (claims_empty options) tell
  have ended := events (entry :: after)
  rw [generateFrom_cons_of_clash claims clash, ← row] at ended
  refine ⟨announced, told, ?_⟩
  rw [← made, ← List.append_nil announced]
  exact congrArg (Logged.mk · _) ended

end HeaderOptions

/-! ## Commits -/

/-- **Committing to a store tells of its summary only**, and never fails. -/
theorem Store.commitFrom_told (files : List GeneratedFile) (summary : CommitSummary) (store : Store) :
    ∃ total, (commitFrom Store.output summary files store).1 = ⟨[.committed total], .ok total⟩ := by
  induction files generalizing summary store with
  | nil => exact ⟨summary, rfl⟩
  | cons file files ih =>
      obtain ⟨total, told⟩ := ih (summary.record (Store.status store file)) (Store.commit store file)
      refine ⟨total, ?_⟩
      rw [commitFrom_cons, Store.output_eq, Logged.andThen_apply_ok (Logged.result_pure _)]
      dsimp only
      rw [told]
      rfl

/-! ## A whole pass -/

/-- **What a search that succeeds leaves**: the units that it must find, in path order. -/
structure DeclarationTree.Searched (tree : DeclarationTree) (units : Units) : Prop where
  /-- No source unit is unknown. -/
  resolved : ∀ stop ∈ tree.stops, stop.isResolved tree.sources
  found : tree.discover.result = .ok units
  reference : units.Reference tree.sources tree.ownedScopes
  ordered : units.toList.Pairwise fun a b => compare a.1 b.1 = .lt

/-- **The log of a pass** over a tree, with the result that the pass comes to. -/
inductive PassLog (options : HeaderOptions) (tree : DeclarationTree) :
    List Event → Except GenerationError CommitSummary → Prop
  /-- The search fails at a type.  The log ends with what is told of the stop before it. -/
  | unresolved (before after : List Stop) (d : TypeDecl)
      (row : tree.stops = before ++ .type d :: after)
      (resolved : ∀ stop ∈ before, stop.isResolved tree.sources)
      (unknown : tree.sources.get? d.source = none) :
      PassLog options tree (tree.opening ++ before.flatMap (Stop.told tree.sources))
        (.error (.unresolvedSource d.source d.name))
  /-- The search tells of all its stops, and a source unit has no header because of its path.  The log
  ends with the headers of the source units before it. -/
  | clash (units : Units) (before after : List (Path × SourceUnit)) (entry : Path × SourceUnit)
      (announced : List Event) (e : GenerationError)
      (searched : tree.Searched units)
      (row : units.toList = before ++ entry :: after)
      (tell : Path.TellApart (before.map Prod.fst))
      (clash : options.Clash (before.map Prod.fst) entry.1 e)
      (headers : List.Forall₂ (options.Announces .serialize) before announced) :
      PassLog options tree
        (tree.opening ++ tree.stops.flatMap (Stop.told tree.sources) ++ announced) (.error e)
  /-- All source units have headers, and the log ends with the summary that is returned. -/
  | done (units : Units) (announced : List Event) (summary : CommitSummary)
      (searched : tree.Searched units)
      (tell : Path.TellApart (units.toList.map Prod.fst))
      (headers : List.Forall₂ (options.Announces .serialize) units.toList announced) :
      PassLog options tree
        (tree.opening ++ tree.stops.flatMap (Stop.told tree.sources) ++ announced ++
          [.committed summary]) (.ok summary)

/-- A search tells what its walk tells, whether it fails or not. -/
theorem Discovery.toLogged_events (d : Discovery) : d.toLogged.events = d.events := by
  obtain ⟨units, events, failure⟩ := d
  cases failure <;> rfl

namespace DeclarationTree

variable {tree : DeclarationTree}

/-- **What is told until the search is over**: its stops up to the first one at which it fails. -/
theorem discover_told (tree : DeclarationTree) :
    .started .library :: tree.discover.events =
      tree.opening ++
        (tree.stops.takeWhile (Stop.isResolved tree.sources)).flatMap (Stop.told tree.sources) := by
  rw [discover, Logged.bind_of_ok rfl, Discovery.toLogged_events, search_eq_visit,
    Units.events_visit]
  rfl

/-- The search fails iff it fails at a stop, and for the first such stop. -/
theorem discover_result (tree : DeclarationTree) :
    tree.discover.result =
      match tree.stops.findSome? (Stop.failure? tree.sources) with
      | some e => .error e
      | none => .ok (Units.visit tree.sources tree.stops .empty).units := by
  rw [discover, Logged.result_bind]
  show (Discovery.toLogged _).result = _
  rw [search_eq_visit, Discovery.toLogged, Units.failure_visit]
  cases tree.stops.findSome? (Stop.failure? tree.sources) <;> rfl

/-- A search without a failure tells of all its stops. -/
theorem discover_told_of_resolved
    (resolved : ∀ stop ∈ tree.stops, stop.isResolved tree.sources) :
    .started .library :: tree.discover.events =
      tree.opening ++ tree.stops.flatMap (Stop.told tree.sources) := by
  rw [discover_told, List.takeWhile_eq_self_iff.mpr resolved]

section

variable {before after : List Stop} {stop : Stop} {e : GenerationError}

/-- The search fails for the first stop at which it can. -/
theorem discover_of_unresolved (row : tree.stops = before ++ stop :: after)
    (resolved : ∀ stop ∈ before, stop.isResolved tree.sources)
    (failed : stop.failure? tree.sources = some e) : tree.discover.result = .error e := by
  have first : tree.stops.findSome? (Stop.failure? tree.sources) = some e :=
    List.findSome?_eq_some_iff.mpr ⟨before, stop, after, row, failed,
      fun stop earlier => Stop.isResolved_iff.mp (resolved stop earlier)⟩
  rw [discover_result, first]

/-- A search with a failure tells of the stops before it. -/
theorem discover_told_of_unresolved (row : tree.stops = before ++ stop :: after)
    (resolved : ∀ stop ∈ before, stop.isResolved tree.sources)
    (failed : stop.failure? tree.sources = some e) :
    .started .library :: tree.discover.events =
      tree.opening ++ before.flatMap (Stop.told tree.sources) := by
  have stopped : ¬stop.isResolved tree.sources := by
    rw [Stop.isResolved_iff, failed]
    exact Option.some_ne_none e
  rw [discover_told, row, List.takeWhile_append_of_pos resolved,
    List.takeWhile_cons_of_neg stopped, List.append_nil]

end

/-- The types that a search stops at are kept declarations of the scopes of the user. -/
theorem exists_kept_of_mem_stops {d : TypeDecl} (met : .type d ∈ tree.stops) :
    ∃ scope ∈ tree.scopes, scope.external = false ∧ ∃ kind, d ∈ scope.kept kind := by
  obtain ⟨scope, owned, met⟩ := List.mem_flatMap.mp met
  obtain ⟨listed, own⟩ := List.mem_filter.mp owned
  refine ⟨scope, listed, by simpa using own, ?_⟩
  rcases List.mem_cons.mp met with entered | met
  · cases entered
  · obtain ⟨d', kept, same⟩ := List.mem_map.mp met
    cases same
    rcases List.mem_append.mp kept with kept | kept
    · exact ⟨.struct, kept⟩
    · exact ⟨.enum, kept⟩

end DeclarationTree

section

variable {options : HeaderOptions} {tree : DeclarationTree}

/-- There are no headers if the search fails. -/
theorem headersOf_of_failed {e : GenerationError} (failed : tree.discover.result = .error e) :
    headersOf .library options tree DeclarationTree.discover =
      ⟨.started .library :: tree.discover.events, .error e⟩ := by
  rw [headersOf, Logged.bind_of_error failed]
  rfl

/-- Headers are made behind a search that succeeds. -/
theorem headersOf_of_found (options : HeaderOptions) {units : Units}
    (found : tree.discover.result = .ok units) :
    headersOf .library options tree DeclarationTree.discover =
      ⟨.started .library :: tree.discover.events ++ (options.generate .serialize units).events,
        (options.generate .serialize units).result⟩ := by
  rw [headersOf, Logged.bind_of_ok found]
  rfl

/-- **The result decides the log**: it ends with the headers, or with the summary behind them. -/
theorem PassLog.events_eq {events : List Event} {result : Except GenerationError CommitSummary}
    (log : PassLog options tree events result) :
    events = (headersOf .library options tree DeclarationTree.discover).events ++
      result.toOption.toList.map .committed := by
  cases log with
  | unresolved before after d row resolved unknown =>
      have failure := Stop.failure?_eq_some_iff.mpr ⟨d, rfl, unknown, rfl⟩
      rw [headersOf_of_failed (DeclarationTree.discover_of_unresolved row resolved failure),
        DeclarationTree.discover_told_of_unresolved row resolved failure]
      exact (List.append_nil _).symm
  | clash units before after entry announced e searched row tell clash headers =>
      obtain ⟨announced', headers', made⟩ :=
        HeaderOptions.generate_announces_of_clash .serialize row tell clash
      have same : announced = announced' := HeaderOptions.announces_unique.forall₂ headers headers'
      rw [headersOf_of_found options searched.found, made,
        DeclarationTree.discover_told_of_resolved searched.resolved, same]
      exact (List.append_nil _).symm
  | done units announced summary searched tell headers =>
      obtain ⟨announced', files, headers', made⟩ :=
        HeaderOptions.generate_announces options .serialize tell
      have same : announced = announced' := HeaderOptions.announces_unique.forall₂ headers headers'
      rw [headersOf_of_found options searched.found, made,
        DeclarationTree.discover_told_of_resolved searched.resolved, same]
      rfl

/-- **A pass into a store has the log of its end.** -/
theorem passLog_run (options : HeaderOptions) (tree : DeclarationTree) (store : Store) :
    PassLog options tree (run Store.output options tree store).1.events
      (run Store.output options tree store).1.result := by
  have ended := tree.discover_result
  cases failed : tree.stops.findSome? (Stop.failure? tree.sources) with
  | some e =>
      simp only [failed] at ended
      obtain ⟨before, stop, after, row, failure, passed⟩ := List.findSome?_eq_some_iff.mp failed
      have resolved : ∀ stop ∈ before, stop.isResolved tree.sources :=
        fun stop earlier => Stop.isResolved_iff.mpr (passed stop earlier)
      have told := DeclarationTree.discover_told_of_unresolved row resolved failure
      obtain ⟨d, rfl, unknown, rfl⟩ := Stop.failure?_eq_some_iff.mp failure
      rw [run, headersOf_of_failed ended, told, Logged.andThen_apply_error rfl]
      exact .unresolved before after d row resolved unknown
  | none =>
      simp only [failed] at ended
      have resolved : ∀ stop ∈ tree.stops, stop.isResolved tree.sources :=
        fun stop member => Stop.isResolved_iff.mpr (List.findSome?_eq_none_iff.mp failed stop member)
      have told := DeclarationTree.discover_told_of_resolved resolved
      generalize (Units.visit tree.sources tree.stops .empty).units = units at ended
      have searched : tree.Searched units :=
        ⟨resolved, ended, (Scope.discoverAll_reference ..).2.1 units ended, units.byPath.ascending⟩
      by_cases tell : Path.TellApart (units.toList.map Prod.fst)
      · obtain ⟨announced, files, headers, made⟩ :=
          HeaderOptions.generate_announces options .serialize tell
        obtain ⟨summary, committed⟩ := Store.commitFrom_told files .zero store
        have headersMade := headersOf_of_found options ended
        rw [made, told] at headersMade
        rw [run, headersMade, Logged.andThen_apply_ok rfl, commitAll, committed]
        exact .done units announced summary searched tell headers
      · obtain ⟨before, entry, after, e, row, tell, clash⟩ :=
          HeaderOptions.exists_clash_of_entries options tell
        obtain ⟨announced, headers, made⟩ :=
          HeaderOptions.generate_announces_of_clash .serialize row tell clash
        have headersFailed := headersOf_of_found options ended
        rw [made, told] at headersFailed
        rw [run, headersFailed, Logged.andThen_apply_error rfl]
        exact .clash units before after entry announced e searched row tell clash headers

/-- **Only types that are found are warned about**, and what they ask for is no convention. -/
theorem PassLog.of_mem_warning {events : List Event} {result : Except GenerationError CommitSummary}
    (log : PassLog options tree events result) {name value : String}
    (warned : .conventionUnknown name value ∈ events) :
    ∃ d, .type d ∈ tree.stops ∧ d.name = name ∧ d.misspelt? = some value := by
  -- Neither the opening nor what is told of headers and commits is a warning.
  have opening : .conventionUnknown name value ∉ tree.opening := by simp [DeclarationTree.opening]
  have stops {stops : List Stop}
      (told : .conventionUnknown name value ∈ stops.flatMap (Stop.told tree.sources)) :
      ∃ d, .type d ∈ stops ∧ d.name = name ∧ d.misspelt? = some value := by
    obtain ⟨stop, met, told⟩ := List.mem_flatMap.mp told
    obtain ⟨d, rfl, warned⟩ := Stop.of_mem_told_warning told
    exact ⟨d, met, warned⟩
  cases log with
  | unresolved before after d row resolved unknown =>
      obtain ⟨d, met, warned⟩ := stops ((List.mem_append.mp warned).resolve_left opening)
      exact ⟨d, row ▸ List.mem_append_left _ met, warned⟩
  | clash units before after entry _ e searched row tell clash headers =>
      have told := (List.mem_append.mp warned).resolve_right
        (HeaderOptions.not_mem_of_announces headers name value)
      exact stops ((List.mem_append.mp told).resolve_left opening)
  | done units _ summary searched tell headers =>
      have told := (List.mem_append.mp warned).resolve_right (by simp)
      have told := (List.mem_append.mp told).resolve_right
        (HeaderOptions.not_mem_of_announces headers name value)
      exact stops ((List.mem_append.mp told).resolve_left opening)

end

/-- **A pass into a store tells what happened.**  Its events are those of the way in which it ends: the
opening, then what is told of the stops of the search in order, then an announcement of each source unit,
and at last the summary that is returned.  If it fails, they are those before the type or the source unit
that it fails for.  No other events have this description with the same result.  Each warning is about
a type that asks to be exported, in a scope of the user, for a convention that there is none of. -/
theorem run_told (options : HeaderOptions) (tree : DeclarationTree) (store : Store) :
    let outcome := (run Store.output options tree store).1
    PassLog options tree outcome.events outcome.result ∧
      (∀ events, PassLog options tree events outcome.result → events = outcome.events) ∧
      ∀ name value, .conventionUnknown name value ∈ outcome.events →
        ∃ scope ∈ tree.scopes, scope.external = false ∧ ∃ kind, ∃ d ∈ scope.kept kind,
          d.name = name ∧ d.metadata.get? Key.renameAll = some value ∧
          ∀ c : Convention, value ≠ c.spelling := by
  have log := passLog_run options tree store
  refine ⟨log, ?_, ?_⟩
  · intro events described
    exact described.events_eq.trans log.events_eq.symm
  · intro name value warned
    obtain ⟨d, met, named, misspelt⟩ := log.of_mem_warning warned
    obtain ⟨scope, listed, own, kind, kept⟩ := DeclarationTree.exists_kept_of_mem_stops met
    exact ⟨scope, listed, own, kind, d, kept, named, TypeDecl.misspelt?_eq_some_iff.mp misspelt⟩

end WireHeaders
