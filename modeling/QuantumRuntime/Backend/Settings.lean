import Std.Data.ExtTreeMap

/-
  This file defines the settings that a backend is made from: a
  name and options, each read by its kind. An option of another
  kind reads as absent.

  Key definitions include:
    * `OptionValue`
    * `BackendSettings`
    * `BackendSettings.withOption`
    * `BackendSettings.natural?`
    * `BackendSettings.flag?`
    * `BackendSettings.text?`
-/

namespace QuantumRuntime

------------------------------------------------------------
-- Option values
------------------------------------------------------------

/- The value of an option, as far as a backend can read it. -/
inductive OptionValue where
  | natural (n : Nat)
  | flag (b : Bool)
  | text (s : String)
  | other
deriving DecidableEq, Repr

namespace OptionValue

/- A whole number counts as a natural when it fits in 64 bits. -/
def ofInt
    (n : Int) : OptionValue :=
  if 0 ≤ n ∧ n < UInt64.size then natural n.toNat else other

end OptionValue

------------------------------------------------------------
-- Settings
------------------------------------------------------------

/- The name of a backend and its options in the order of their keys. -/
structure BackendSettings where
  name : String
  options : Std.ExtTreeMap String OptionValue compare

namespace BackendSettings

/- Settings without options. -/
def named
    (name : String) : BackendSettings :=
  { name := name
    options := ∅ }

/- The same settings with an option given a value. -/
def withOption
    (key : String)
    (value : OptionValue)
    (settings : BackendSettings) : BackendSettings :=
  { settings with options := settings.options.insert key value }

/- The value of a whole-number option. -/
def natural?
    (settings : BackendSettings)
    (key : String) : Option Nat :=
  match settings.options[key]? with
  | some (.natural n) => some n
  | _ => none

/- The value of a yes-or-no option. -/
def flag?
    (settings : BackendSettings)
    (key : String) : Option Bool :=
  match settings.options[key]? with
  | some (.flag b) => some b
  | _ => none

/- The value of a text option. -/
def text?
    (settings : BackendSettings)
    (key : String) : Option String :=
  match settings.options[key]? with
  | some (.text s) => some s
  | _ => none

end BackendSettings

end QuantumRuntime
