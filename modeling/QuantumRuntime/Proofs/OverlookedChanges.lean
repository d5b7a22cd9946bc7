import QuantumRuntime.Proofs.Performance

/-
  This file says when an action overlooks a change of the state:
  performed after the change, it answers as it does without it,
  and leaves the state that it would have left with the change
  made to that. It does when it reads only what the change
  leaves alone, and when its own changes commute with it.

  Each way of building an action has one lemma. So an operation
  is taken apart as it is written, and what is left to show is
  about its single reads and writes.

  Key definitions include:
    * `Action.Overlooks`

  Key theorems include:
    * `Action.overlooks_modify`
    * `Action.overlooks_get_bind`
    * `Action.overlooks_modify_bind`
    * `Action.overlooks_ofExcept_bind`
    * `Action.Overlooks.bind`
    * `Action.overlooks_forM`
-/

namespace QuantumRuntime

namespace Action

variable {σ ε α β : Type}

/-
  After a change of a state, an action gives the answer that it
  gives before it, and the change is still there afterwards.
-/
def Overlooks
    (change : σ → σ)
    (action : Action σ ε α)
    (s : σ) : Prop :=
  action.perform (change s) =
    ((action.perform s).1, change (action.perform s).2)

variable {change : σ → σ} {s : σ}

theorem overlooks_pure
    (a : α) :
    (pure a : Action σ ε α).Overlooks change s :=
  rfl

theorem overlooks_throw
    (e : ε) :
    (throw e : Action σ ε α).Overlooks change s :=
  rfl

/- A question must not be about what is changed. -/
theorem overlooks_query
    {f : σ → Except ε α}
    (hReads : f (change s) = f s) :
    (query f).Overlooks change s := by
  rw [Overlooks, perform_query, perform_query, hReads]

/- The order of two changes must not matter. -/
theorem overlooks_modify
    {f : σ → σ}
    (hCommutes : f (change s) = change (f s)) :
    (modify f : Action σ ε PUnit).Overlooks change s := by
  rw [Overlooks, perform_modify, perform_modify, hCommutes]

/- What follows must not depend on what is changed. -/
theorem overlooks_get_bind
    {next : σ → Action σ ε α}
    (hReads : next (change s) = next s)
    (hNext : (next s).Overlooks change s) :
    (get >>= next : Action σ ε α).Overlooks change s := by
  rw [Overlooks, perform_bind, perform_bind, perform_get,
    perform_get]
  dsimp only
  rw [hReads, hNext]

theorem overlooks_modify_bind
    {f : σ → σ}
    {next : PUnit → Action σ ε α}
    (hCommutes : f (change s) = change (f s))
    (hNext : (next ⟨⟩).Overlooks change (f s)) :
    (modify f >>= next).Overlooks change s := by
  rw [Overlooks, perform_bind, perform_bind, perform_modify,
    perform_modify]
  dsimp only
  rw [hCommutes, hNext]

/- A check that is passed leaves the state as it is. -/
theorem overlooks_ofExcept_bind
    {outcome : Except ε α}
    {next : α → Action σ ε β}
    (hNext : ∀ a, outcome = .ok a → (next a).Overlooks change s) :
    (ofExcept outcome >>= next).Overlooks change s := by
  rw [Overlooks, perform_bind, perform_bind]
  cases outcome with
  | ok a => exact hNext a rfl
  | error e => rfl

/- Two actions in turn overlook a change if each one does. -/
theorem Overlooks.bind
    {action : Action σ ε α}
    {next : α → Action σ ε β}
    (hFirst : action.Overlooks change s)
    (hNext :
      ∀ a s', action.perform s = (.ok a, s') →
        (next a).Overlooks change s') :
    (action >>= next).Overlooks change s := by
  rw [Overlooks, perform_bind, perform_bind, hFirst]
  rcases hOutcome : action.perform s with ⟨e | a, s'⟩
  · rfl
  · exact hNext a s' hOutcome

theorem Overlooks.map
    {action : Action σ ε α}
    (hAction : action.Overlooks change s)
    (f : α → β) :
    (f <$> action).Overlooks change s := by
  rw [Overlooks, perform_map, perform_map, hAction]

theorem overlooks_forM
    {f : α → Action σ ε PUnit}
    (hEach : ∀ a s, (f a).Overlooks change s)
    (list : List α) :
    (list.forM f).Overlooks change s := by
  induction list generalizing s with
  | nil => exact overlooks_pure PUnit.unit
  | cons a list ih =>
      exact (hEach a s).bind fun _ _ _ => ih

end Action

end QuantumRuntime
