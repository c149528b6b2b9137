import WireHeaders.Log.Logged

/-!
# Results without their events

What the steps of a logged computation come to when nobody reads the log.

## Main statements

* `exists_ok_of_bind` — two steps that can fail succeed only if both of them do
* `bind_of_eq` — a step on a state that is known is followed by the next one
* `Logged.result_bind` — the result of two steps
* `Logged.outcome_andThen_ok`, `Logged.outcome_andThen_error` — **the second step acts on a state
  only if the first one succeeds**
-/

namespace WireHeaders

section Steps

variable {ε ε' α β : Type} {x : Except ε α}

/-- Two steps succeed only if both of them do. -/
theorem exists_ok_of_bind {f : α → Except ε β} {b : β} (succeeded : (x >>= f) = .ok b) :
    ∃ a, x = .ok a ∧ f a = .ok b := by
  cases x with
  | error e => cases succeeded
  | ok a => exact ⟨a, rfl, succeeded⟩

/-- A mapped step succeeds only if the step does. -/
theorem exists_ok_of_map {f : α → β} {b : β} (succeeded : x.map f = .ok b) :
    ∃ a, x = .ok a ∧ f a = b := by
  cases x with
  | error e => cases succeeded
  | ok a => exact ⟨a, rfl, Except.ok.inj succeeded⟩

/-- A step succeeds in the same way whatever its failures are turned into. -/
theorem ok_of_mapError {f : ε → ε'} {a : α} (succeeded : x.mapError f = .ok a) : x = .ok a := by
  cases x with
  | error e => cases succeeded
  | ok b => exact congrArg _ (Except.ok.inj succeeded)

/-- A step on a state that is known is followed by the next one. -/
theorem bind_of_eq {σ : Type} {program : StateM σ α} {s s' : σ} {a : α}
    (ran : program s = (a, s')) (next : α → StateM σ β) : (program >>= next) s = next a s' := by
  show next (program s).1 (program s).2 = _
  rw [ran]

end Steps

namespace Logged

variable {ε ε' α β σ : Type}

@[simp]
theorem result_pure (a : α) : (Pure.pure a : Logged ε α).result = .ok a := rfl

@[simp]
theorem result_fail (e : ε) : (fail e : Logged ε α).result = .error e := rfl

@[simp]
theorem result_log (event : Event) : (log event : Logged ε Unit).result = .ok () := rfl

/-- **The result of two steps.** -/
@[simp]
theorem result_bind (x : Logged ε α) (f : α → Logged ε β) :
    (x >>= f).result = x.result.bind fun a => (f a).result := by
  obtain ⟨events, result⟩ := x
  cases result <;> rfl

@[simp]
theorem result_mapError (f : ε → ε') (x : Logged ε α) :
    (x.mapError f).result = x.result.mapError f := rfl

/-- **The second step goes on where the first one succeeded**, with the events of both. -/
theorem andThen_apply_ok {x : Logged ε α} {a : α} (succeeded : x.result = .ok a)
    (f : α → StateM σ (Logged ε β)) (s : σ) :
    x.andThen f s = (⟨x.events ++ (f a s).1.events, (f a s).1.result⟩, (f a s).2) := by
  simp only [andThen, succeeded]
  rfl

/-- Nothing more is done where the first step failed. -/
theorem andThen_apply_error {x : Logged ε α} {e : ε} (failed : x.result = .error e)
    (f : α → StateM σ (Logged ε β)) (s : σ) : x.andThen f s = (⟨x.events, .error e⟩, s) := by
  simp only [andThen, failed]
  rfl

/-- What a computation on a state comes to: its result and the state that it leaves. -/
def outcome (p : Logged ε α × σ) : Except ε α × σ := (p.1.result, p.2)

/-- The second step acts on the state if the first one succeeds. -/
theorem outcome_andThen_ok {x : Logged ε α} {a : α} (succeeded : x.result = .ok a)
    (f : α → StateM σ (Logged ε β)) (s : σ) : outcome (x.andThen f s) = outcome (f a s) := by
  rw [andThen_apply_ok succeeded]
  rfl

/-- The state stays as it is if the first step fails. -/
theorem outcome_andThen_error {x : Logged ε α} {e : ε} (failed : x.result = .error e)
    (f : α → StateM σ (Logged ε β)) (s : σ) : outcome (x.andThen f s) = (.error e, s) := by
  rw [andThen_apply_error failed]
  rfl

end Logged

end WireHeaders
