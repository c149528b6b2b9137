import WireHeaders.Output.Commit
import WireHeaders.Proofs.Header.Generated

/-!
# Passes into a store

What committing a row of headers does to a store, and what a whole pass does to it.

## Main definitions

* `Store.commit`, `Store.status` — a store after one header, and what became of the header
* `Store.tally` — the summary of a row of headers, seen from the store before the first one
* `Store.Distinct` — headers of which no two go to the same path
* `generated` — the headers of a tree

## Main statements

* `Store.outcome_commitAll` — **committing distinct headers never fails, and what becomes of each is
  decided by the store at the beginning**
* `Store.get?_foldl_commit` — a store after a row of headers, path by path
* `outcome_run_ok`, `outcome_run_error` — a whole pass
-/

namespace WireHeaders

/-- **The headers of the scopes of the user.** -/
def generated (options : HeaderOptions) (tree : DeclarationTree) :
    Except GenerationError (List GeneratedFile) :=
  (headersOf .library options tree DeclarationTree.discover).result

theorem generated_eq_ok_iff {options : HeaderOptions} {tree : DeclarationTree}
    {files : List GeneratedFile} :
    generated options tree = .ok files ↔ ∃ units, tree.discover.result = .ok units ∧
      (options.generate .serialize units).result = .ok files :=
  headersOf_eq_ok_iff

namespace Store

/-- A store after one header. -/
def commit (store : Store) (file : GeneratedFile) : Store :=
  if store.get? file.path = some file.content then store
  else store.insert file.path file.content

/-- What becomes of a header. -/
def status (store : Store) (file : GeneratedFile) : CommitStatus :=
  if store.get? file.path = some file.content then .unchanged else .written

theorem output_eq (file : GeneratedFile) (store : Store) :
    output file store = (Pure.pure (status store file), commit store file) := by
  rw [output, status, commit]
  split <;> rfl

/-- Headers of which no two go to the same path. -/
def Distinct (files : List GeneratedFile) : Prop :=
  files.Pairwise fun f g => compare f.path g.path ≠ .eq

/-- A header is found at its path afterwards, and nothing else changes. -/
theorem get?_commit (store : Store) (file : GeneratedFile) (p : Path) :
    (commit store file).get? p =
      if compare p file.path = .eq then some file.content else store.get? p := by
  rw [commit]
  split
  · next present =>
    split
    · next equal => rw [SortedMap.get?_congr equal, present]
    · rfl
  · exact SortedMap.get?_insert ..

/-- A header at another path is met as before. -/
theorem get?_commit_of_ne {store : Store} {file : GeneratedFile} {p : Path}
    (other : compare p file.path ≠ .eq) : (commit store file).get? p = store.get? p := by
  rw [get?_commit, if_neg other]

/-- **A store after a row of headers**, path by path: the latest header of a path is found there. -/
theorem get?_foldl_commit (files : List GeneratedFile) (store : Store) (p : Path) :
    (files.foldl commit store).get? p =
      ((files.reverse.find? fun file => compare p file.path = .eq).map (·.content)).or
        (store.get? p) := by
  induction files generalizing store with
  | nil => simp
  | cons file files ih =>
      rw [List.foldl_cons, ih, get?_commit, List.reverse_cons, List.find?_append]
      cases files.reverse.find? fun file => compare p file.path = .eq with
      | some later => rfl
      | none => by_cases equal : compare p file.path = .eq <;> simp [equal]

/-- **The summary of a row of headers**, seen from the store before the first one. -/
def tally (store : Store) (files : List GeneratedFile) : CommitSummary :=
  let unchanged := files.countP fun file => store.get? file.path = some file.content
  ⟨files.length - unchanged, unchanged, 0⟩

/-- Counting the statuses that headers have now. -/
theorem foldl_record_status (store : Store) (files : List GeneratedFile) (summary : CommitSummary) :
    (files.map (status store)).foldl CommitSummary.record summary =
      ⟨summary.written + (tally store files).written,
        summary.unchanged + (tally store files).unchanged, summary.outdated⟩ := by
  induction files generalizing summary with
  | nil => rfl
  | cons file files ih =>
      have bounded := List.countP_le_length (l := files)
        (p := fun file => decide (store.get? file.path = some file.content))
      rw [List.map_cons, List.foldl_cons, ih, status]
      by_cases present : store.get? file.path = some file.content
      · simp only [present, if_true, CommitSummary.record, tally, List.countP_cons,
          List.length_cons, decide_true, CommitSummary.mk.injEq, and_true]
        omega
      · simp only [present, if_false, CommitSummary.record, tally, List.countP_cons,
          List.length_cons, decide_false, Bool.false_eq_true, Nat.add_zero,
          CommitSummary.mk.injEq, and_true]
        omega

/-- **Distinct headers are committed without failure.**  None of them disturbs another one, so what
becomes of each is decided by the store at the beginning. -/
theorem outcome_commitFrom {files : List GeneratedFile} (distinct : Distinct files)
    (summary : CommitSummary) (store : Store) :
    Logged.outcome (commitFrom output summary files store) =
      (.ok ((files.map (status store)).foldl CommitSummary.record summary),
        files.foldl commit store) := by
  induction files generalizing summary store with
  | nil => rfl
  | cons file files ih =>
      obtain ⟨apart, distinct⟩ := List.pairwise_cons.mp distinct
      have undisturbed : files.map (status (commit store file)) = files.map (status store) := by
        refine List.map_congr_left ?_
        intro later member
        have other : compare later.path file.path ≠ .eq := fun equal =>
          apart later member (Std.OrientedCmp.eq_symm equal)
        rw [status, status, get?_commit_of_ne other]
      rw [commitFrom_cons, output_eq, Logged.outcome_andThen_ok (Logged.result_pure _), ih distinct,
        undisturbed]
      rfl

/-- **What committing distinct headers comes to.** -/
theorem outcome_commitAll {files : List GeneratedFile} (distinct : Distinct files)
    (store : Store) :
    Logged.outcome (commitAll output files store) =
      (.ok (tally store files), files.foldl commit store) := by
  rw [commitAll, outcome_commitFrom distinct, foldl_record_status]
  simp [CommitSummary.zero, tally]

end Store

/-! ## A whole pass -/

theorem distinct_of_generated {options : HeaderOptions} {tree : DeclarationTree}
    {files : List GeneratedFile} (ok : generated options tree = .ok files) :
    Store.Distinct files := by
  obtain ⟨units, -, ok⟩ := generated_eq_ok_iff.mp ok
  exact (HeaderOptions.generate_eq_ok ok).2

section

variable {σ : Type} {output : Output (StateM σ)} {options : HeaderOptions} {tree : DeclarationTree}

/-- **A pass without headers changes nothing**: it fails before the first header is committed. -/
theorem outcome_run_error {e : GenerationError} (failed : generated options tree = .error e)
    (s : σ) : Logged.outcome (run output options tree s) = (.error e, s) :=
  Logged.outcome_andThen_error failed _ s

/-- A pass with headers commits all of them. -/
theorem outcome_run_commitAll {files : List GeneratedFile} (ok : generated options tree = .ok files)
    (s : σ) :
    Logged.outcome (run output options tree s) = Logged.outcome (commitAll output files s) :=
  Logged.outcome_andThen_ok ok _ s

/-- The result and the state of a pass without headers. -/
theorem run_of_error {e : GenerationError} (failed : generated options tree = .error e) (s : σ) :
    (run output options tree s).1.result = .error e ∧ (run output options tree s).2 = s :=
  Prod.mk.inj (outcome_run_error failed s)

/-- The result and the state of a pass with headers. -/
theorem run_of_generated {files : List GeneratedFile} (ok : generated options tree = .ok files)
    (s : σ) :
    (run output options tree s).1.result = (commitAll output files s).1.result ∧
      (run output options tree s).2 = (commitAll output files s).2 :=
  Prod.mk.inj (outcome_run_commitAll ok s)

end

/-- **A pass with headers succeeds** and commits all of them. -/
theorem outcome_run_ok {options : HeaderOptions} {tree : DeclarationTree}
    {files : List GeneratedFile} (ok : generated options tree = .ok files) (store : Store) :
    Logged.outcome (run Store.output options tree store) =
      (.ok (store.tally files), files.foldl Store.commit store) := by
  rw [outcome_run_commitAll ok, Store.outcome_commitAll (distinct_of_generated ok)]

end WireHeaders
