/-
  This file defines how much is logged and in which format.

  Key definitions include:
    * `LogFormat`
    * `LogConfig`
    * `LogConfig.standard`
    * `LogConfig.ofVariables`
-/

namespace QuantumRuntime

/- For a person to read, or for a machine. -/
inductive LogFormat where
  | console
  | json
deriving DecidableEq, Repr

namespace LogFormat

/- The name of a format. -/
def text : LogFormat → String
  | console => "console"
  | json => "json"

end LogFormat

/- A filter on levels and a format. -/
structure LogConfig where
  level : String
  format : LogFormat
deriving DecidableEq, Repr

namespace LogConfig

/- What is logged when nothing is said. -/
def standard : LogConfig :=
  { level := "info"
    format := .console }

/-
  What the variables ask for. The level is taken as it is, and
  any format but the one for machines is the one for people.
-/
def ofVariables
    (lookup : String → Option String) : LogConfig :=
  { level := (lookup "RUST_LOG").getD standard.level
    format :=
      if lookup "QIRT_LOG_FORMAT" = some "json" then .json else .console }

end LogConfig

end QuantumRuntime
