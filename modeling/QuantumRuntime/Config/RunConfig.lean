import QuantumRuntime.Action
import QuantumRuntime.Backend.Settings
import QuantumRuntime.Config.Policy
import QuantumRuntime.Text.Blank

/-
  This file defines the configuration of a run and the variables
  that override it.

  Key definitions include:
    * `RunConfig`
    * `RunConfig.standard`
    * `RunConfig.validate`
    * `RunConfig.applyOverrides`
    * `RunConfig.backendSettings`
-/

namespace QuantumRuntime

------------------------------------------------------------
-- Configurations
------------------------------------------------------------

/-
  Whether scopes keep account of handles, what happens when
  some leak, whether leaked handles are released, and which
  backend is used with which seed.
-/
structure RunConfig where
  trackAllocations : Bool
  leakPolicy : LeakPolicy
  releaseOnTeardown : Bool
  backend : String
  seed : Option Nat
deriving DecidableEq, Repr

namespace RunConfig

/- The configuration when nothing is said. -/
def standard : RunConfig :=
  { trackAllocations := true
    leakPolicy := .warn
    releaseOnTeardown := false
    backend := "fullstate"
    seed := none }

/- A configuration must name a backend. -/
def validate
    (config : RunConfig) : Except ProgramError Unit :=
  if IsBlank config.backend then
    .error (.configuration "backend name is empty")
  else
    .ok ()

/- The settings of the backend that a configuration selects. -/
def backendSettings
    (config : RunConfig) : BackendSettings :=
  match config.seed with
  | some seed =>
      (BackendSettings.named config.backend).withOption "seed" (.natural seed)
  | none => BackendSettings.named config.backend

------------------------------------------------------------
-- Values of variables
------------------------------------------------------------

/- The truth value that a word stands for, in letters of either case. -/
def boolOfText
    (key : String)
    (value : String) : Except ProgramError Bool :=
  let word := asciiLower value
  if word ∈ ["1", "true", "yes", "on"] then
    .ok true
  else if word ∈ ["0", "false", "no", "off"] then
    .ok false
  else
    .error (.configuration s!"{key}: '{value}' is not a boolean")

/- The number that a list of decimal digits stands for. -/
def digitsValue
    (digits : List Char) : Nat :=
  digits.foldl (fun n c => 10 * n + (c.toNat - '0'.toNat)) 0

/-
  The number below `2 ^ 64` that decimal digits stand for, with
  a plus sign before them at most.
-/
def natOfText?
    (s : String) : Option Nat :=
  let digits :=
    match s.toList with
    | '+' :: rest => rest
    | all => all
  if digits ≠ [] ∧ digits.all Char.isDigit ∧
      digitsValue digits < UInt64.size then
    some (digitsValue digits)
  else
    none

/- The seed that a text stands for. -/
def seedOfText
    (value : String) : Except ProgramError Nat :=
  match natOfText? value with
  | some seed => .ok seed
  | none =>
      .error (.configuration s!"QIRT_SEED: '{value}' is not a u64")

------------------------------------------------------------
-- Overrides
------------------------------------------------------------

/-
  Override one field by the value of a variable, if the variable
  is present.
-/
def overrideField
    {α : Type}
    (lookup : String → Option String)
    (key : String)
    (read : String → Except ProgramError α)
    (put : α → RunConfig → RunConfig) : Action RunConfig ProgramError Unit :=
  match lookup key with
  | none => pure ()
  | some value => do
      let x ← Action.ofExcept (read value)
      modify (put x)

/-
  Override fields by the variables that are present, one after
  the other, and check the result. The fields overridden before
  a failure keep their new values.
-/
def applyOverrides
    (lookup : String → Option String) : Action RunConfig ProgramError Unit := do
  overrideField lookup "QIRT_TRACK_ALLOCATIONS"
    (boolOfText "QIRT_TRACK_ALLOCATIONS")
    (fun b config => { config with trackAllocations := b })
  overrideField lookup "QIRT_LEAK_POLICY"
    LeakPolicy.ofText
    (fun policy config => { config with leakPolicy := policy })
  overrideField lookup "QIRT_RELEASE_ON_TEARDOWN"
    (boolOfText "QIRT_RELEASE_ON_TEARDOWN")
    (fun b config => { config with releaseOnTeardown := b })
  overrideField lookup "QIRT_BACKEND"
    (fun value => .ok value)
    (fun name config => { config with backend := name })
  overrideField lookup "QIRT_SEED"
    seedOfText
    (fun seed config => { config with seed := some seed })
  let config ← get
  Action.ofExcept config.validate

end RunConfig

end QuantumRuntime
