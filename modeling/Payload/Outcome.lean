/-!
# How a call can come out

A call comes back with a value, comes back with a failure, or never comes back: a source or a
callback broke off in the middle, or a check that guards the shared state did.  The third case keeps
the state reached so far, so it is a result of its own and not an absence.
-/

namespace Payload

inductive Outcome (ε α : Type) where
  | done (value : α)
  | failed (failure : ε)
  /-- The call never came back. -/
  | broke
  deriving DecidableEq, Repr

namespace Outcome

variable {ε δ α β σ : Type}

def map (next : α → β) : Outcome ε α → Outcome ε β
  | done value => done (next value)
  | failed failure => failed failure
  | broke => broke

def mapFailure (next : ε → δ) : Outcome ε α → Outcome δ α
  | done value => done value
  | failed failure => failed (next failure)
  | broke => broke

theorem mapFailure_eq_broke_iff {outcome : Outcome ε α} {next : ε → δ} :
    outcome.mapFailure next = broke ↔ outcome = broke := by
  cases outcome <;> simp [mapFailure]

/-- Whether the call never came back. -/
def brokeOff : Outcome ε α → Bool
  | broke => true
  | _ => false

theorem brokeOff_eq_false_iff {outcome : Outcome ε α} :
    outcome.brokeOff = false ↔ outcome ≠ broke := by
  cases outcome <;> simp [brokeOff]

/-- Go on with the value and the state reached, or stop with that state. -/
def andThen (step : Outcome ε α × σ) (next : α → σ → Outcome ε β × σ) : Outcome ε β × σ :=
  match step with
  | (done value, state) => next value state
  | (failed failure, state) => (failed failure, state)
  | (broke, state) => (broke, state)

@[simp]
theorem andThen_done (value : α) (state : σ) (next : α → σ → Outcome ε β × σ) :
    andThen (done value, state) next = next value state :=
  rfl

@[simp]
theorem andThen_failed (failure : ε) (state : σ) (next : α → σ → Outcome ε β × σ) :
    andThen (failed failure, state) next = (failed failure, state) :=
  rfl

@[simp]
theorem andThen_broke (state : σ) (next : α → σ → Outcome ε β × σ) :
    andThen ((broke : Outcome ε α), state) next = (broke, state) :=
  rfl

end Outcome

end Payload
