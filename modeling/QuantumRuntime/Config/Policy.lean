import QuantumRuntime.Failure.Program
import QuantumRuntime.Text.AsciiCase

/-
  This file defines what happens to a scope that ends with live
  handles.

  Key definitions include:
    * `LeakPolicy`
    * `LeakPolicy.text`
    * `LeakPolicy.ofText`
-/

namespace QuantumRuntime

/- Say nothing, warn, or fail when handles leak. -/
inductive LeakPolicy where
  | ignore
  | warn
  | fail
deriving DecidableEq, Repr

namespace LeakPolicy

/- The text of a policy. -/
def text : LeakPolicy → String
  | ignore => "ignore"
  | warn => "warn"
  | fail => "fail"

/- The policy with exactly a given text. -/
def ofWord? : String → Option LeakPolicy
  | "ignore" => some ignore
  | "warn" => some warn
  | "fail" => some fail
  | _ => none

/- The policy with a text, in letters of either case. -/
def ofText
    (s : String) : Except ProgramError LeakPolicy :=
  let word := asciiLower s
  match ofWord? word with
  | some policy => .ok policy
  | none =>
      .error (.configuration
        s!"unknown leak policy '{word}' (expected ignore, warn or fail)")

end LeakPolicy

end QuantumRuntime
