import WireHeaders.Proofs.Files.Grounded
import WireHeaders.Proofs.Output.InDirectory

/-!
# A check predicts a pass

A pass compares each header with what earlier headers have left, a check compares all of them with
what was there in the beginning.  Both see the same.

## Main definitions

* `DirectoryOutput.storing`, `DirectoryOutput.checking` — a directory that headers are stored in, and
  one that they are only compared with
* `DirectoryOutput.compared` — what comparing a header comes to
* `DirectoryOutput.foreseen` — what a check says of a header that a pass gives some status

## Main statements

* `DirectoryOutput.grounded_commitFrom` — a grounded tree stays grounded
* `DirectoryOutput.result_checking` — a check is the comparison
* `DirectoryOutput.of_toTree_storing` — a pass gives a header the status that the comparison foresees
* `DirectoryOutput.commitFrom_foreseen` — **the rest of a pass is foreseen from its beginning**
* `DirectoryOutput.check_predicts` — **a check changes nothing and predicts what a pass would count**

## Design notes

**Why earlier headers do not matter.**  They have other names in the same directory, and the only other
thing that a pass makes is directories.  A header that is read behind them was there before them, since
its path has no steps up (`FileTree.Grounded.read_eq_of_later`).  A header that could not be compared
before them cannot be compared behind them (`FileTree.ChangesWithin.read_eq_of_error`).
-/

namespace WireHeaders

namespace DirectoryOutput

/-- **A directory that headers are stored in.** -/
abbrev storing (root : Path) : DirectoryOutput := ⟨root, false⟩

/-- **A directory that headers are only compared with.** -/
abbrev checking (root : Path) : DirectoryOutput := ⟨root, true⟩

variable {root : Path} {t t' : FileTree} {touched : List Location} {file : GeneratedFile}
  {files : List GeneratedFile} {summary : CommitSummary}

/-! ## Grounded trees -/

theorem grounded_store (grounded : t.Grounded) (path : Path) (bytes : Bytes) :
    ((store path bytes : StateM FileTree CommitOutcome) t).2.Grounded := by
  obtain ⟨between, built, ⟨e, failed⟩ | ⟨last, written, stored⟩⟩ := store_cases path bytes t
  · rw [failed]
    exact grounded.builds built.builds
  · rw [stored]
    exact (grounded.builds built.builds).write written

theorem grounded_toTree (grounded : t.Grounded) (output : DirectoryOutput) (file : GeneratedFile) :
    (output.toTree file t).2.Grounded := by
  have replaced : (output.replace file t).2.Grounded := by
    unfold replace
    split
    · exact grounded
    · exact grounded_store grounded _ _
  rw [toTree_eq]
  split
  · split
    · exact grounded
    · exact replaced
  · exact replaced
  · exact grounded

/-- **Whatever becomes of a row of headers**, a grounded tree stays grounded. -/
theorem grounded_commitFrom (grounded : t.Grounded) (output : DirectoryOutput)
    (summary : CommitSummary) (files : List GeneratedFile) :
    (commitFrom output.toTree summary files t).2.Grounded := by
  induction files generalizing summary t with
  | nil => exact grounded
  | cons file files ih =>
      have head := grounded_toTree grounded output file
      rw [commitFrom_cons]
      cases done : (output.toTree file t).1.result with
      | error e =>
          rw [Logged.andThen_apply_error done]
          exact head
      | ok status =>
          rw [Logged.andThen_apply_ok done]
          exact ih head (summary.record status)

/-! ## Comparing one header -/

/-- **What comparing a header comes to**: it is there, or it is missing or differs, or there is no way
to tell. -/
def compared (found : Except FileError Bytes) (content : String) : Except FileError CommitStatus :=
  match found with
  | .ok existing => .ok (if existing = Bytes.ofString content then .unchanged else .outdated)
  | .error .missing => .ok .outdated
  | .error e => .error e

/-- **What a check says** of a header that a pass gives some status. -/
def foreseen : CommitStatus → CommitStatus
  | .written => .outdated
  | status => status

/-- A check is the comparison. -/
theorem result_checking (root : Path) (file : GeneratedFile) (t : FileTree) :
    ((checking root).toTree file t).1.result =
      (compared (t.read (root.join file.path)) file.content).mapError
        (.commit (root.join file.path)) := by
  rw [toTree_eq]
  show (match t.read (root.join file.path) with
    | .ok existing =>
      if existing = Bytes.ofString file.content then
        (report .unchanged (.fileUnchanged (root.join file.path)), t)
      else (report .outdated (.fileOutdated (root.join file.path)), t)
    | .error .missing => (report .outdated (.fileOutdated (root.join file.path)), t)
    | .error e => (failAt (root.join file.path) e, t)).1.result = _
  unfold compared
  cases t.read (root.join file.path) with
  | ok existing =>
      dsimp only
      split
      · rfl
      · rfl
  | error e =>
      cases e with
      | missing => rfl
      | _ => rfl

/-- **A pass gives a header the status that the comparison foresees.** -/
theorem of_toTree_storing {outcome : CommitOutcome} {status : CommitStatus}
    (committed : (storing root).toTree file t = (outcome, t'))
    (ok : outcome.result = .ok status) :
    compared (t.read (root.join file.path)) file.content = .ok (foreseen status) ∧
      status ≠ .outdated := by
  have stored (replaced : (storing root).replace file t = (outcome, t')) : status = .written :=
    (of_store replaced ok).2.2
  rw [toTree_eq] at committed
  change (match t.read (root.join file.path) with
    | .ok existing =>
      if existing = Bytes.ofString file.content then
        (report .unchanged (.fileUnchanged (root.join file.path)), t)
      else (storing root).replace file t
    | .error .missing => (storing root).replace file t
    | .error e => (failAt (root.join file.path) e, t)) = (outcome, t') at committed
  unfold compared
  split at committed
  · split at committed
    · next same =>
      cases committed
      cases ok
      exact ⟨congrArg Except.ok (if_pos same), by decide⟩
    · next differs =>
      cases stored committed
      exact ⟨congrArg Except.ok (if_neg differs), by decide⟩
  · cases stored committed
    exact ⟨rfl, by decide⟩
  · cases committed
    cases ok

/-! ## Counting -/

/-- The summary of a row of statuses of which none is outdated. -/
theorem foldl_record {statuses : List CommitStatus} (noneOutdated : .outdated ∉ statuses)
    (summary : CommitSummary) :
    statuses.foldl CommitSummary.record summary =
      ⟨summary.written + statuses.count .written, summary.unchanged + statuses.count .unchanged,
        summary.outdated⟩ := by
  induction statuses generalizing summary with
  | nil => rfl
  | cons status statuses ih =>
      rw [List.foldl_cons, ih (List.not_mem_of_not_mem_cons noneOutdated)]
      cases status with
      | written => simp [CommitSummary.record, Nat.add_right_comm, Nat.add_assoc]
      | unchanged => simp [CommitSummary.record, Nat.add_right_comm, Nat.add_assoc]
      | outdated => simp at noneOutdated

/-- The summary of what a check says: what is written counts as outdated. -/
theorem foldl_record_foreseen {statuses : List CommitStatus} (noneOutdated : .outdated ∉ statuses)
    (summary : CommitSummary) :
    (statuses.map foreseen).foldl CommitSummary.record summary =
      ⟨summary.written, summary.unchanged + statuses.count .unchanged,
        summary.outdated + statuses.count .written⟩ := by
  induction statuses generalizing summary with
  | nil => rfl
  | cons status statuses ih =>
      rw [List.map_cons, List.foldl_cons, ih (List.not_mem_of_not_mem_cons noneOutdated)]
      cases status with
      | written => simp [foreseen, CommitSummary.record, Nat.add_right_comm, Nat.add_assoc]
      | unchanged => simp [foreseen, CommitSummary.record, Nat.add_right_comm, Nat.add_assoc]
      | outdated => simp at noneOutdated

/-- All statuses are counted. -/
theorem count_written_add_unchanged {statuses : List CommitStatus}
    (noneOutdated : .outdated ∉ statuses) :
    statuses.count .written + statuses.count .unchanged = statuses.length := by
  induction statuses with
  | nil => rfl
  | cons status statuses ih =>
      have rest := ih (List.not_mem_of_not_mem_cons noneOutdated)
      cases status with
      | written =>
          rw [List.count_cons_self, List.count_cons_of_ne (by decide), List.length_cons]
          omega
      | unchanged =>
          rw [List.count_cons_self, List.count_cons_of_ne (by decide), List.length_cons]
          omega
      | outdated => simp at noneOutdated

/-! ## Before and after -/

/-- **A header that can be compared after some changes is met as it was before them**, if they do not
touch it. -/
theorem read_before (grounded : t.Grounded) (changes : t.ChangesWithin t' touched) {path : Path}
    (down : ['.', '.'] ∉ path.steps) (outside : path.location t.workingDirectory ∉ touched)
    {content : String} {status : CommitStatus}
    (known : compared (t'.read path) content = .ok status) : t.read path = t'.read path := by
  cases later : t'.read path with
  | ok bytes => exact grounded.read_eq_of_later changes down outside later
  | error e =>
      rw [later] at known
      obtain rfl : e = .missing := by
        cases e with
        | missing => rfl
        | _ => cases known
      cases before : t.read path with
      | ok bytes =>
          rw [changes.keeps.read_eq outside before] at later
          cases later
      | error e' =>
          by_cases missing : e' = .missing
          · rw [missing]
          · rw [changes.read_eq_of_error before missing] at later
            exact absurd (Except.error.inj later) missing

/-- The place of a header is below the output directory without steps up. -/
theorem down_of_located (straight : .parent ∉ root.components) (isName : file.path.IsName)
    (present : (storing root).Present t file) : ['.', '.'] ∉ (root.join file.path).steps := by
  obtain ⟨parent, name, located, -, -⟩ := FileTree.read_eq_ok_iff.mp present
  have walked := FileTree.walk_of_locate located
  have steps : (root.join file.path).steps = root.steps ++ [file.path.text.toList] :=
    Path.steps_join isName
  rw [show (storing root).place file = root.join file.path from rfl, steps] at walked
  obtain ⟨-, notUp⟩ := FileTree.not_dots_of_walk walked
  rw [steps]
  intro up
  rcases List.mem_append.mp up with above | last
  · exact straight (Path.parent_mem_components_of_steps above)
  · exact notUp (List.mem_singleton.mp last).symm

/-! ## A row of headers -/

/-- The locations of headers in a directory. -/
def locations (root : Path) (t : FileTree) (files : List GeneratedFile) : List Location :=
  files.map fun file => root.location t.workingDirectory ++ [file.path.text]

/-- **One header is foreseen from the beginning of a pass.**  `t` is what was there in the beginning and
`between` what the headers that are `done` have left. -/
theorem toTree_foreseen (grounded : t.Grounded) (straight : .parent ∉ root.components)
    {done : List GeneratedFile} (isName : file.path.IsName)
    (fresh : ∀ earlier ∈ done, earlier.path.text ≠ file.path.text) {between : FileTree}
    (changes : t.ChangesWithin between (locations root t done)) {outcome : CommitOutcome}
    {status : CommitStatus} (committed : (storing root).toTree file between = (outcome, t'))
    (ok : outcome.result = .ok status) :
    t.ChangesWithin t' (locations root t (done ++ [file])) ∧ status ≠ .outdated ∧
      ((checking root).toTree file t).1.result = .ok (foreseen status) := by
  obtain ⟨changesHere, present⟩ := of_toTree rfl committed ok
  obtain ⟨known, notOutdated⟩ := of_toTree_storing committed ok
  have sameStart : t'.workingDirectory = t.workingDirectory :=
    changesHere.workingDirectory_eq.trans changes.workingDirectory_eq
  -- The header goes to its name in the directory, where no earlier header went.
  have there : (root.join file.path).location t.workingDirectory =
      root.location t.workingDirectory ++ [file.path.text] := by
    have denoted := location_of_present isName present
    rw [location, sameStart] at denoted
    exact denoted
  have outside : (root.join file.path).location t.workingDirectory ∉ locations root t done := by
    rw [there]
    intro inside
    obtain ⟨earlier, member, same⟩ := List.mem_map.mp inside
    exact fresh earlier member (List.singleton_inj.mp (List.append_cancel_left same))
  refine ⟨?_, notOutdated, ?_⟩
  · have here : between.ChangesWithin t'
        [root.location t.workingDirectory ++ [file.path.text]] := by
      rw [← there, ← changes.workingDirectory_eq]
      exact changesHere
    refine (changes.mono ?_).trans (here.mono ?_)
    · simp [locations]
    · simp [locations]
  · have met := read_before grounded changes (down_of_located straight isName present) outside known
    rw [result_checking, met, known]
    rfl

/-- **The rest of a pass is foreseen from its beginning**, status by status. -/
theorem commitFrom_foreseen (grounded : t.Grounded) (straight : .parent ∉ root.components)
    {done : List GeneratedFile} (apart : Apart (done ++ files)) {between : FileTree}
    (changes : t.ChangesWithin between (locations root t done)) {total : CommitSummary}
    (ok : (commitFrom (storing root).toTree summary files between).1.result = .ok total) :
    ∃ statuses : List CommitStatus, statuses.length = files.length ∧ .outdated ∉ statuses ∧
      total = statuses.foldl CommitSummary.record summary ∧
      ∀ counted, (commitFrom (checking root).toTree counted files t).1.result =
        .ok ((statuses.map foreseen).foldl CommitSummary.record counted) := by
  induction files generalizing summary done between with
  | nil =>
      cases ok
      exact ⟨[], rfl, List.not_mem_nil, rfl, fun _ => rfl⟩
  | cons file files ih =>
      rcases first : (storing root).toTree file between with ⟨head, next⟩
      rw [commitFrom_cons, first] at ok
      cases finished : head.result with
      | error e =>
          rw [Logged.andThen_apply_error finished] at ok
          cases ok
      | ok status =>
          rw [Logged.andThen_apply_ok finished] at ok
          have isName : file.path.IsName :=
            apart.isName file (List.mem_append_right done List.mem_cons_self)
          have fresh : ∀ earlier ∈ done, earlier.path.text ≠ file.path.text :=
            fun earlier member => (List.pairwise_append.mp apart.distinct).2.2 earlier member file
              List.mem_cons_self
          obtain ⟨changesNext, notOutdated, checked⟩ :=
            toTree_foreseen grounded straight isName fresh changes first finished
          have apartNext : Apart ((done ++ [file]) ++ files) := by
            rw [List.append_assoc]
            exact apart
          obtain ⟨statuses, all, noneOutdated, rfl, rest⟩ := ih apartNext changesNext ok
          refine ⟨status :: statuses, ?_, ?_, rfl, ?_⟩
          · rw [List.length_cons, List.length_cons, all]
          · exact List.not_mem_cons_of_ne_of_not_mem notOutdated.symm noneOutdated
          · intro counted
            have left : ((checking root).toTree file t).2 = t := (toTree_checkOnly rfl file t).1
            rw [commitFrom_cons, Logged.andThen_apply_ok checked, left]
            exact rest (counted.record (foreseen status))

/-- A check writes nothing. -/
theorem commitFrom_checking_written (root : Path) (files : List GeneratedFile) (t : FileTree)
    {total : CommitSummary}
    (ok : (commitFrom (checking root).toTree summary files t).1.result = .ok total) :
    total.written = summary.written := by
  induction files generalizing summary with
  | nil =>
      cases ok
      rfl
  | cons file files ih =>
      have checkOnly : (checking root).checkOnly = true := rfl
      obtain ⟨left, compared⟩ := toTree_checkOnly checkOnly file t
      rw [commitFrom_cons, left] at ok
      cases first : ((checking root).toTree file t).1.result with
      | error e =>
          rw [Logged.andThen_apply_error first] at ok
          cases ok
      | ok status =>
          rw [Logged.andThen_apply_ok first] at ok
          rw [ih ok]
          rcases compared status first with ⟨rfl, -⟩ | rfl
          · rfl
          · rfl

/-- **A check changes nothing and predicts what a pass would count.**  It never counts a header as
written.  If a pass on the same tree succeeds it counts none as outdated, and the check succeeds and
counts those that the pass writes as outdated and all others as unchanged. -/
theorem check_predicts {options : HeaderOptions} {direction : Direction} {units : Units}
    (grounded : t.Grounded) (straight : .parent ∉ root.components)
    (plain : '/' ∉ options.suffix.toList)
    (generated : (options.generate direction units).result = .ok files) :
    (commitAll (checking root).toTree files t).2 = t ∧
    (∀ total, (commitAll (checking root).toTree files t).1.result = .ok total →
      total.written = 0) ∧
    ∀ total, (commitAll (storing root).toTree files t).1.result = .ok total →
      total.outdated = 0 ∧ total.written + total.unchanged = files.length ∧
        (commitAll (checking root).toTree files t).1.result =
          .ok ⟨0, total.unchanged, total.written⟩ := by
  obtain ⟨isName, distinct⟩ := HeaderOptions.names_of_generate plain generated
  refine ⟨(commitFrom_checkOnly rfl .zero files t).1, ?_, ?_⟩
  · intro total ok
    exact commitFrom_checking_written root files t ok
  · intro total ok
    have apart : Apart ([] ++ files) := ⟨isName, distinct⟩
    obtain ⟨statuses, all, noneOutdated, rfl, checked⟩ :=
      commitFrom_foreseen grounded straight apart (.refl t _) ok
    rw [commitAll, checked, foldl_record noneOutdated, foldl_record_foreseen noneOutdated]
    simp only [CommitSummary.zero, Nat.zero_add, true_and, and_true]
    rw [count_written_add_unchanged noneOutdated, all]

/-- Two source units without types. -/
def bareUnits : Units := (Units.empty.entry ⟨"Source/A.h"⟩).entry ⟨"Source/B.h"⟩

/-- The header of a source unit without types. -/
def bareHeader (source path : String) : GeneratedFile :=
  ⟨⟨source⟩, ⟨path⟩, HeaderOptions.standard.unitText .serialize .empty⟩

/-- The headers of the two. -/
def bareHeaders : List GeneratedFile :=
  [bareHeader "Source/A.h" "A.genjson.h", bareHeader "Source/B.h" "B.genjson.h"]

/-- A tree with a directory in which the first of the two is stored. -/
def firstStored : FileTree :=
  ((⟨.empty, []⟩ : FileTree).put ([] ++ ["out"]) .directory).put (["out"] ++ ["A.genjson.h"])
    (.file (Bytes.ofString (HeaderOptions.standard.unitText .serialize .empty)))

theorem grounded_firstStored : firstStored.Grounded := by
  have withDirectory : ((⟨.empty, []⟩ : FileTree).put ([] ++ ["out"]) .directory).Grounded :=
    (FileTree.grounded_empty []).put (by decide) (by decide)
  exact withDirectory.put (by decide) (by decide)

/-- Where one of two headers is stored already, a pass writes the other one, and a check says so. -/
theorem check_predicts_one_of_two :
    (commitAll (storing ⟨"out"⟩).toTree bareHeaders firstStored).1.result = .ok ⟨1, 1, 0⟩ ∧
      (commitAll (checking ⟨"out"⟩).toTree bareHeaders firstStored).1.result = .ok ⟨0, 1, 1⟩ := by
  have straight : .parent ∉ (⟨"out"⟩ : Path).components := by decide
  have plain : '/' ∉ HeaderOptions.standard.suffix.toList := by decide
  have generated : (HeaderOptions.standard.generate .serialize bareUnits).result =
      .ok bareHeaders := by decide
  have stored : (commitAll (storing ⟨"out"⟩).toTree bareHeaders firstStored).1.result =
      .ok ⟨1, 1, 0⟩ := by decide +kernel
  obtain ⟨-, -, predicts⟩ := check_predicts grounded_firstStored straight plain generated
  exact ⟨stored, (predicts _ stored).2.2⟩

end DirectoryOutput

end WireHeaders
