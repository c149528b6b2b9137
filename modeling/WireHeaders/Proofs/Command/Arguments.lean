import WireHeaders.Command.Arguments
import WireHeaders.Proofs.Log.Results

/-!
# Asking for a check

A row of arguments that asks for no check can be made to ask for one by a word in front of it, which
leaves all else as it is.

## Main definitions

* `Arguments.storing`, `Arguments.checking` — the same arguments without and with a check

## Main statements

* `Arguments.step_ok` — an argument asks for a check, or it is taken in the same way whether one was
  asked for or not
* `Arguments.parse_checking` — **a row with `--check` in front of it** is understood as the row alone
  with a check
-/

namespace WireHeaders

namespace Arguments

/-- The same arguments without a check. -/
def storing (arguments : Arguments) : Arguments := { arguments with check := false }

/-- The same arguments with a check. -/
def checking (arguments : Arguments) : Arguments := { arguments with check := true }

variable {d d' : Draft} {arguments : Arguments}

namespace Draft

/-- The same draft with a check. -/
def checking (d : Draft) : Draft := { d with check := true }

/-- Storing a value does not depend on a check. -/
theorem store_ok {o : ValueOption} {value : String} (stored : d.store o value = .ok d') :
    d'.check = d.check ∧ d.checking.store o value = .ok d'.checking := by
  have sameValue : d.checking.value? o = d.value? o := rfl
  unfold store at stored ⊢
  rw [sameValue]
  split at stored
  · cases stored
  · next unused =>
    rw [if_neg unused]
    split at stored
    · cases stored
    · next nonempty =>
      cases stored
      rw [if_neg nonempty]
      exact ⟨rfl, rfl⟩

theorem settle_ok (settled : d.settle = .ok d') :
    d'.check = d.check ∧ d.checking.settle = .ok d'.checking := by
  have samePending : d.checking.pending = d.pending := rfl
  unfold settle at settled ⊢
  rw [samePending]
  split at settled
  · cases settled
    exact ⟨rfl, rfl⟩
  · cases settled
  · exact store_ok settled

/-- Nor does taking an option with a value. -/
theorem option_ok {o : ValueOption} {attached : Option String}
    (taken : d.option o attached = .ok d') :
    d'.check = d.check ∧ d.checking.option o attached = .ok d'.checking := by
  cases attached with
  | some value =>
      obtain ⟨before, settled, stored⟩ := exists_ok_of_bind taken
      obtain ⟨same, settledSame⟩ := settle_ok settled
      obtain ⟨sameStored, storedSame⟩ := store_ok stored
      refine ⟨sameStored.trans same, ?_⟩
      rw [option, settledSame]
      exact storedSame
  | none =>
      obtain ⟨before, settled, pending⟩ := exists_ok_of_bind taken
      obtain ⟨same, settledSame⟩ := settle_ok settled
      cases pending
      refine ⟨same, ?_⟩
      rw [option, settledSame]
      rfl

theorem setCheck_ok (set : d.setCheck = .ok d') : d'.check = true := by
  obtain ⟨before, -, asked⟩ := exists_ok_of_bind set
  dsimp only at asked
  split at asked
  · cases asked
  · cases asked
    rfl

end Draft

/-! ## One argument -/

/-- **An argument asks for a check, or it is taken in the same way** whether one was asked for or
not.  The step is the one of the draft with a check. -/
def Aside (d d' : Draft) (step : Step) : Prop :=
  d'.check = true ∨ d'.check = d.check ∧ step = .ok (some d'.checking)

theorem plain_ok {text : String} (taken : plain d text = .ok (some d')) :
    Aside d d' (plain d.checking text) := by
  unfold plain at taken
  split at taken
  · next o pending trailing =>
    cases taken
    have samePending : d.checking.pending = some (o, none) := pending
    have sameTrailing : d.checking.trailing = false := trailing
    refine Or.inr ⟨rfl, ?_⟩
    unfold plain
    rw [samePending, sameTrailing]
    show Except.ok (some _) = Except.ok (some _)
    rw [Draft.checking, Draft.checking, trailing]
  · cases taken

/-- An option with a value is taken in the same way. -/
theorem aside_option {o : ValueOption} {attached : Option String}
    (taken : d.option o attached = .ok d') :
    Aside d d' (do return some (← d.checking.option o attached)) := by
  obtain ⟨same, takenSame⟩ := Draft.option_ok taken
  refine Or.inr ⟨same, ?_⟩
  rw [takenSame]
  rfl

theorem longOption_ok {text : List Char} (taken : longOption d text = .ok (some d')) :
    Aside d d' (longOption d.checking text) := by
  unfold longOption at taken ⊢
  dsimp only at taken ⊢
  split at taken
  · next o found =>
    obtain ⟨after, option, same⟩ := exists_ok_of_bind taken
    cases same
    exact aside_option option
  · split at taken
    · split at taken
      · cases taken
      · split at taken
        · obtain ⟨after, set, same⟩ := exists_ok_of_bind taken
          cases same
          exact Or.inl (Draft.setCheck_ok set)
        · obtain ⟨settled, -, same⟩ := exists_ok_of_bind taken
          cases same
    · cases taken

theorem shortOption_ok {c : Char} {rest : List Char}
    (taken : shortOption d c rest = .ok (some d')) :
    Aside d d' (shortOption d.checking c rest) := by
  unfold shortOption at taken ⊢
  split at taken
  · next o found =>
    obtain ⟨after, option, same⟩ := exists_ok_of_bind taken
    cases same
    exact aside_option option
  · split at taken
    · obtain ⟨settled, -, same⟩ := exists_ok_of_bind taken
      cases same
    · cases taken

/-- **A single argument** asks for a check or is taken in the same way. -/
theorem step_ok {argument : String} (taken : step d argument = .ok (some d')) :
    Aside d d' (step d.checking argument) := by
  have sameTrailing : d.checking.trailing = d.trailing := rfl
  unfold step at taken ⊢
  rw [sameTrailing]
  split at taken
  · next trailing =>
    rw [if_pos trailing]
    exact plain_ok taken
  · next leading =>
    rw [if_neg leading]
    split at taken
    · cases taken
      exact Or.inr ⟨rfl, rfl⟩
    · exact longOption_ok taken
    · exact shortOption_ok taken
    · exact plain_ok taken

/-! ## A row of arguments -/

/-- What becomes of the arguments in the end depends on a check in that field only. -/
theorem finish_ok (finished : finish d = .ok (.run arguments)) :
    arguments.check = d.check ∧ finish d.checking = .ok (.run arguments.checking) := by
  obtain ⟨last, settled, required⟩ := exists_ok_of_bind finished
  obtain ⟨same, settledSame⟩ := Draft.settle_ok settled
  have givenSame (o : ValueOption) : last.checking.value? o = last.value? o := rfl
  cases input : last.value? .input with
  | none =>
      rw [input] at required
      cases required
  | some source =>
      cases output : last.value? .output with
      | none =>
          rw [input, output] at required
          cases required
      | some place =>
          rw [input, output] at required
          cases required
          refine ⟨same, ?_⟩
          unfold finish
          rw [settledSame]
          simp only [bind, Except.bind]
          rw [givenSame, givenSame, input, output]
          rfl

/-- A check that was asked for stays asked for. -/
theorem check_of_parseFrom {row : List String} (parsed : parseFrom d row = .ok (.run arguments))
    (asked : d.check = true) : arguments.check = true := by
  induction row generalizing d with
  | nil => exact (finish_ok parsed).1.trans asked
  | cons argument row ih =>
      obtain ⟨next, taken, rest⟩ := exists_ok_of_bind parsed
      cases next with
      | none => cases rest
      | some later =>
          have askedLater : later.check = true := by
            rcases step_ok taken with now | ⟨same, -⟩
            · exact now
            · exact same.trans asked
          exact ih rest askedLater

/-- **A row that asks for no check** is understood in the same way where a check was asked for. -/
theorem parseFrom_checking {row : List String} (parsed : parseFrom d row = .ok (.run arguments))
    (storing : arguments.check = false) :
    parseFrom d.checking row = .ok (.run arguments.checking) := by
  induction row generalizing d with
  | nil => exact (finish_ok parsed).2
  | cons argument row ih =>
      obtain ⟨next, taken, rest⟩ := exists_ok_of_bind parsed
      cases next with
      | none => cases rest
      | some later =>
          rcases step_ok taken with asked | ⟨-, takenSame⟩
          -- The word for a check cannot be there, since what it asks for would have stayed.
          · rw [check_of_parseFrom rest asked] at storing
            cases storing
          · rw [parseFrom, takenSame]
            exact ih rest

/-- **A row with the word for a check in front of it** is understood as the row alone, with a
check. -/
theorem parse_checking {row : List String} (parsed : parse row = .ok (.run arguments))
    (storing : arguments.check = false) :
    parse ("--check" :: row) = .ok (.run arguments.checking) := by
  have asked : step .initial "--check" = .ok (some Draft.initial.checking) := by
    rfl
  rw [parse, parseFrom, asked]
  exact parseFrom_checking parsed storing

end Arguments

end WireHeaders
