import WireHeaders.Proofs.Output.InMemory

/-!
# Histories of a store

A store into which one pass after the other is made, each over a tree and with options of its own.

## Main definitions

* `Pass` — a tree with the options for its headers
* `Pass.content?` — the text that a pass generates for a path
* `Store.after` — the store that a row of passes leaves, the first of them made into an empty one

## Main statements

* `Store.get?_after` — **a store holds at each path what the latest pass with a header for the path
  generated**
* `Store.after_history` — the same, with what each further pass reports and changes
-/

namespace WireHeaders

/-- **A pass that is asked for.** -/
structure Pass where
  options : HeaderOptions
  tree : DeclarationTree

namespace Pass

/-- The headers of a pass. -/
def files (pass : Pass) : Except GenerationError (List GeneratedFile) :=
  generated pass.options pass.tree

/-- **Makes a pass into a store.** -/
def run (pass : Pass) : StateM Store (Logged GenerationError CommitSummary) :=
  WireHeaders.run Store.output pass.options pass.tree

/-- **The text that a pass generates for a path**, if the pass succeeds and has a header for it. -/
def content? (pass : Pass) (p : Path) : Option String :=
  match pass.files with
  | .ok files => (files.find? fun file => compare p file.path = .eq).map (·.content)
  | .error _ => none

end Pass

namespace Store

/-- **The store that a row of passes leaves**, whether or not each of them succeeds. -/
def after (passes : List Pass) : Store :=
  passes.foldl (fun store pass => (pass.run store).2) .empty

/-! ## Distinct headers in a store -/

/-- Of distinct headers only one goes to a path. -/
theorem Distinct.eq_of_compare {files : List GeneratedFile} (distinct : Distinct files)
    {f g : GeneratedFile} (hf : f ∈ files) (hg : g ∈ files)
    (equal : compare f.path g.path = .eq) : f = g := by
  induction files with
  | nil => cases hf
  | cons file files ih =>
      obtain ⟨apart, distinct⟩ := List.pairwise_cons.mp distinct
      rcases List.mem_cons.mp hf with rfl | laterF
      · rcases List.mem_cons.mp hg with rfl | laterG
        · rfl
        · exact absurd equal (apart g laterG)
      · rcases List.mem_cons.mp hg with rfl | laterG
        · exact absurd (Std.OrientedCmp.eq_symm equal) (apart f laterF)
        · exact ih distinct laterF laterG

/-- Distinct headers are found in any order. -/
theorem Distinct.find?_reverse {files : List GeneratedFile} (distinct : Distinct files) (p : Path) :
    (files.reverse.find? fun file => compare p file.path = .eq) =
      files.find? fun file => compare p file.path = .eq := by
  cases first : files.find? fun file => compare p file.path = .eq with
  | none =>
      refine List.find?_eq_none.mpr fun file member => ?_
      exact List.find?_eq_none.mp first file (List.mem_reverse.mp member)
  | some f =>
      cases last : files.reverse.find? fun file => compare p file.path = .eq with
      | none =>
          have absent := List.find?_eq_none.mp last f
            (List.mem_reverse.mpr (List.mem_of_find?_eq_some first))
          exact absurd (List.find?_some first) absent
      | some g =>
          have hf : compare p f.path = .eq := by simpa using List.find?_some first
          have hg : compare p g.path = .eq := by simpa using List.find?_some last
          have same := distinct.eq_of_compare (List.mem_reverse.mp (List.mem_of_find?_eq_some last))
            (List.mem_of_find?_eq_some first)
            (Std.TransCmp.eq_trans (Std.OrientedCmp.eq_symm hg) hf)
          rw [same]

/-- Each of a row of distinct headers is there afterwards. -/
theorem get?_foldl_commit_of_mem {files : List GeneratedFile} (distinct : Distinct files)
    (store : Store) {file : GeneratedFile} (member : file ∈ files) :
    (files.foldl commit store).get? file.path = some file.content := by
  rw [get?_foldl_commit, distinct.find?_reverse]
  cases found : files.find? fun g => compare file.path g.path = .eq with
  | none =>
      have absent := List.find?_eq_none.mp found file member
      simp [Std.ReflOrd.compare_self] at absent
  | some g =>
      have equal : compare file.path g.path = .eq := by simpa using List.find?_some found
      rw [distinct.eq_of_compare member (List.mem_of_find?_eq_some found) equal]
      rfl

/-- Headers that are there already change nothing. -/
theorem foldl_commit_of_present {files : List GeneratedFile} {store : Store}
    (present : ∀ file ∈ files, store.get? file.path = some file.content) :
    files.foldl commit store = store := by
  induction files with
  | nil => rfl
  | cons file files ih =>
      have unchanged : commit store file = store := if_pos (present file List.mem_cons_self)
      rw [List.foldl_cons, unchanged]
      exact ih fun later member => present later (List.mem_cons_of_mem _ member)

/-- Headers that are there already are all unchanged. -/
theorem tally_of_present {files : List GeneratedFile} {store : Store}
    (present : ∀ file ∈ files, store.get? file.path = some file.content) :
    tally store files = ⟨0, files.length, 0⟩ := by
  have all : files.countP (fun file => store.get? file.path = some file.content) = files.length :=
    List.countP_eq_length.mpr fun file member => decide_eq_true (present file member)
  simp [tally, all]

end Store

/-! ## One pass of a history -/

namespace Pass

variable (pass : Pass) (store : Store)

theorem outcome_run_of_error {e : GenerationError} (failed : pass.files = .error e) :
    Logged.outcome (pass.run store) = (.error e, store) :=
  outcome_run_error failed store

theorem outcome_run_of_ok {files : List GeneratedFile} (ok : pass.files = .ok files) :
    Logged.outcome (pass.run store) = (.ok (store.tally files), files.foldl Store.commit store) :=
  outcome_run_ok ok store

/-- **A pass replaces what it has headers for** and leaves everything else. -/
theorem get?_run (p : Path) :
    (pass.run store).2.get? p = (pass.content? p).or (store.get? p) := by
  cases outcome : pass.files with
  | error e =>
      have left : (pass.run store).2 = store :=
        congrArg Prod.snd (pass.outcome_run_of_error store outcome)
      simp [left, content?, outcome]
  | ok files =>
      have left : (pass.run store).2 = files.foldl Store.commit store :=
        congrArg Prod.snd (pass.outcome_run_of_ok store outcome)
      rw [left, Store.get?_foldl_commit, (distinct_of_generated outcome).find?_reverse]
      simp [content?, outcome]

/-- **A pass stores each of its headers.** -/
theorem get?_run_of_mem {files : List GeneratedFile} (ok : pass.files = .ok files)
    {file : GeneratedFile} (member : file ∈ files) :
    (pass.run store).2.get? file.path = some file.content := by
  have left : (pass.run store).2 = files.foldl Store.commit store :=
    congrArg Prod.snd (pass.outcome_run_of_ok store ok)
  rw [left]
  exact Store.get?_foldl_commit_of_mem (distinct_of_generated ok) store member

end Pass

namespace Store

/-- **A store holds at each path what the latest pass with a header for the path generated.** -/
theorem get?_after (passes : List Pass) (p : Path) :
    (after passes).get? p = passes.reverse.findSome? fun pass => pass.content? p := by
  -- The store before the passes is arbitrary, so that it may be what the first one leaves.
  have general : ∀ store : Store,
      (passes.foldl (fun store pass => (pass.run store).2) store).get? p =
        (passes.reverse.findSome? fun pass => pass.content? p).or (store.get? p) := by
    induction passes with
    | nil => simp
    | cons pass passes ih =>
        intro store
        rw [List.foldl_cons, ih, Pass.get?_run, List.reverse_cons, List.findSome?_append,
          List.findSome?_singleton, Option.or_assoc]
  rw [after, general, SortedMap.get?_empty, Option.or_none]

/-- **The whole history of a store.**  After any row of passes the store holds at each path the
latest text that was generated for it, and nothing where there is none.  A further pass that fails
leaves it as it is.  One that succeeds counts its headers by what the store held before it, and made
once more it has nothing left to write. -/
theorem after_history (passes : List Pass) :
    (∀ p, (after passes).get? p = passes.reverse.findSome? fun pass => pass.content? p) ∧
    ∀ pass : Pass,
      ((∃ summary, (pass.run (after passes)).1.result = .ok summary) ↔
        ∃ files, pass.files = .ok files) ∧
      (∀ e, (pass.run (after passes)).1.result = .error e →
        (pass.run (after passes)).2 = after passes) ∧
      ∀ summary, (pass.run (after passes)).1.result = .ok summary →
        ∃ units files, pass.tree.discover.result = .ok units ∧ pass.files = .ok files ∧
          summary.outdated = 0 ∧
          summary.total = units.size ∧
          summary.unchanged =
            files.countP (fun file => (after passes).get? file.path = some file.content) ∧
          summary.written = summary.total - summary.unchanged ∧
          ∃ again, (pass.run (pass.run (after passes)).2).1.result = .ok again ∧
            again.written = 0 ∧
            (pass.run (pass.run (after passes)).2).2 = (pass.run (after passes)).2 := by
  refine ⟨get?_after passes, fun pass => ?_⟩
  generalize after passes = store
  cases outcome : pass.files with
  | error e =>
      obtain ⟨result, left⟩ := Prod.mk.inj (pass.outcome_run_of_error store outcome)
      simp [result, left]
  | ok files =>
      obtain ⟨result, left⟩ := Prod.mk.inj (pass.outcome_run_of_ok store outcome)
      refine ⟨by simp [result], ?_, ?_⟩
      · intro e failed
        simp [result] at failed
      · intro summary succeeded
        obtain ⟨units, discovered, made⟩ := generated_eq_ok_iff.mp outcome
        have distinct := distinct_of_generated outcome
        have present : ∀ file ∈ files,
            (files.foldl commit store).get? file.path = some file.content :=
          fun file member => get?_foldl_commit_of_mem distinct store member
        -- All headers are there now, so the same pass finds nothing to write.
        have repeated := pass.outcome_run_of_ok (files.foldl commit store) outcome
        rw [tally_of_present present, foldl_commit_of_present present] at repeated
        obtain ⟨resultAgain, leftAgain⟩ := Prod.mk.inj repeated
        obtain rfl : store.tally files = summary := by simpa [result] using succeeded
        have bounded := List.countP_le_length (l := files)
          (p := fun file => decide (store.get? file.path = some file.content))
        have total : (store.tally files).total = files.length := by
          simp only [tally, CommitSummary.total]
          omega
        refine ⟨units, files, discovered, rfl, rfl, ?_, rfl, ?_, ⟨0, files.length, 0⟩, ?_, rfl, ?_⟩
        · rw [total, HeaderOptions.length_of_generate made]
        · rw [total]
          rfl
        · rw [left]
          exact resultAgain
        · rw [left]
          exact leftAgain

end Store

end WireHeaders
