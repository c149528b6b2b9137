import WireHeaders.Log.Event

/-!
# Results with a log

## Main definitions

* `Logged` — what happened, and the result or the error that it led to
* `Logged.bind` — one step after the other; an error ends the log
* `Logged.andThen` — the same where the second step acts on something

## Main statements

* `Logged.bind_of_ok`, `Logged.bind_of_error` — two steps, by how the first one ends
-/

namespace WireHeaders

/-- **A result or an error, with the events before it.**  The log is a part of what a
computation gives, so what a pass tells can be proved like what it does.  An error keeps the
events that led to it. -/
structure Logged (ε α : Type) where
  events : List Event
  result : Except ε α

namespace Logged

variable {ε α β : Type}

def pure (a : α) : Logged ε α := ⟨[], .ok a⟩

def fail (e : ε) : Logged ε α := ⟨[], .error e⟩

def log (event : Event) : Logged ε Unit := ⟨[event], .ok ()⟩

/-- **One step after the other.**  If the first one fails, its error ends the log and the second
one does not begin. -/
def bind (x : Logged ε α) (f : α → Logged ε β) : Logged ε β :=
  match x.result with
  | .error e => ⟨x.events, .error e⟩
  | .ok a => ⟨x.events ++ (f a).events, (f a).result⟩

instance : Monad (Logged ε) where
  pure := pure
  bind := bind

/-- A step that succeeds is followed by the next one. -/
theorem bind_of_ok {x : Logged ε α} {a : α} (succeeded : x.result = .ok a)
    (f : α → Logged ε β) : x >>= f = ⟨x.events ++ (f a).events, (f a).result⟩ := by
  show x.bind f = _
  simp only [bind, succeeded]

/-- A step that fails is the last one. -/
theorem bind_of_error {x : Logged ε α} {e : ε} (failed : x.result = .error e)
    (f : α → Logged ε β) : x >>= f = ⟨x.events, .error e⟩ := by
  show x.bind f = _
  simp only [bind, failed]

def mapError {ε' : Type} (f : ε → ε') (x : Logged ε α) : Logged ε' α :=
  ⟨x.events, x.result.mapError f⟩

/-- **One step after the other**, where the second one acts on something.  What it acts on stays
untouched if the first one fails. -/
def andThen {m : Type → Type} [Monad m] (x : Logged ε α) (f : α → m (Logged ε β)) :
    m (Logged ε β) :=
  match x.result with
  | .error e => Pure.pure ⟨x.events, .error e⟩
  | .ok a => do
    let y ← f a
    return ⟨x.events ++ y.events, y.result⟩

end Logged

end WireHeaders
