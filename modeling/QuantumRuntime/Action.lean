/-
  This file defines actions: computations that change a state
  and may fail. A failing action leaves the state it has
  reached, so what a failure changes is a matter of the code
  and can be stated.

  Key definitions include:
    * `Action`
    * `Action.perform`
    * `Action.ofExcept`
    * `Action.mapError`
    * `Action.onPart`
-/

namespace QuantumRuntime

/- A computation on a state that answers or fails. -/
abbrev Action (σ ε α : Type) :=
  ExceptT ε (StateM σ) α

namespace Action

variable {σ τ ε δ α : Type}

/- The outcome of an action and the state that it leaves. -/
def perform
    (action : Action σ ε α)
    (s : σ) : Except ε α × σ :=
  action s

/- The action with a given outcome for every state. -/
def ofOutcome
    (step : σ → Except ε α × σ) : Action σ ε α :=
  step

/- The action that does not look at the state. -/
def ofExcept
    (outcome : Except ε α) : Action σ ε α :=
  ofOutcome fun s => (outcome, s)

/- The action that only looks at the state. -/
def query
    (f : σ → Except ε α) : Action σ ε α :=
  ofOutcome fun s => (f s, s)

/- The same action with its errors renamed. -/
def mapError
    (f : ε → δ)
    (action : Action σ ε α) : Action σ δ α :=
  ofOutcome fun s =>
    let (outcome, s') := action.perform s
    (outcome.mapError f, s')

/- An action on a part of a larger state. -/
def onPart
    (part : σ → τ)
    (setPart : τ → σ → σ)
    (action : Action τ ε α) : Action σ ε α :=
  ofOutcome fun s =>
    let (outcome, t) := action.perform (part s)
    (outcome, setPart t s)

/- The same action with its outcome as the answer, never failing. -/
def attempt
    (action : Action σ ε α) : Action σ δ (Except ε α) :=
  ofOutcome fun s =>
    let (outcome, s') := action.perform s
    (.ok outcome, s')

end Action

end QuantumRuntime
