import QuantumRuntime.Config.RunConfig
import QuantumRuntime.Yaml.Document

/-
  This file defines the configuration that a document holds, and
  how a run gets its configuration from a document and from the
  variables.

  Key definitions include:
    * `RunConfig.ofNode?`
    * `RunConfig.ofText`
    * `ConfigSource`
    * `RunConfig.load`
-/

namespace QuantumRuntime

------------------------------------------------------------
-- Configurations
------------------------------------------------------------

namespace RunConfig

/-
  The configuration that a value stands for. Names that are not
  known say nothing.
-/
def ofNode?
    (node : Yaml.Node) : Option RunConfig := do
  let members ← node.members?
  let trackAllocations ←
    Yaml.Node.member? members "track_allocations" Yaml.Node.bool?
      standard.trackAllocations
  let leakPolicy ←
    Yaml.Node.member? members "leak_policy"
      (fun value => value.word? >>= LeakPolicy.ofWord?)
      standard.leakPolicy
  let releaseOnTeardown ←
    Yaml.Node.member? members "release_on_teardown" Yaml.Node.bool?
      standard.releaseOnTeardown
  let backend ←
    Yaml.Node.member? members "backend" Yaml.Node.text? standard.backend
  let seed ←
    Yaml.Node.member? members "seed" Yaml.Node.optionalNatural?
      standard.seed
  some
    { trackAllocations := trackAllocations
      leakPolicy := leakPolicy
      releaseOnTeardown := releaseOnTeardown
      backend := backend
      seed := seed }

/- The valid configuration that a text holds. -/
def ofText
    (text : String) : Except ProgramError RunConfig :=
  match Yaml.read? text >>= ofNode? with
  | none => .error .malformedDocument
  | some config => do
      config.validate
      pure config

end RunConfig

------------------------------------------------------------
-- Sources
------------------------------------------------------------

/- What is found where the configuration of a run is looked for. -/
inductive ConfigSource where
  | notAsked
  | missing
  | file (text : String)
deriving DecidableEq, Repr

namespace ConfigSource

/- The configuration of a source. -/
def read : ConfigSource → Except ProgramError RunConfig
  | notAsked => .ok RunConfig.standard
  | missing => .error .unreadableFile
  | file text => RunConfig.ofText text

end ConfigSource

/-
  The configuration of a run: that of its source, overridden by
  the variables.
-/
def RunConfig.load
    (source : ConfigSource)
    (lookup : String → Option String) : Except ProgramError RunConfig := do
  let config ← source.read
  let (outcome, config) := (applyOverrides lookup).perform config
  outcome
  pure config

end QuantumRuntime
