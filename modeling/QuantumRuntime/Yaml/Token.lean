import QuantumRuntime.Yaml.Tag

/-
  This file defines the tokens that the text of a document is
  made of. Some of them are written as marks, and others stand
  for what indentation and the places of keys say.

  Key definitions include:
    * `Yaml.Style`
    * `Yaml.Token`
-/

namespace QuantumRuntime

namespace Yaml

------------------------------------------------------------
-- Tokens
------------------------------------------------------------

/- How a scalar is written. -/
inductive Style where
  | plain
  | quoted
  | literal
  | folded
deriving DecidableEq, Repr

/-
  A token. A directive tells the version of the format or what
  a handle stands for. A block begins and ends by indentation,
  and its entries are marked by dashes, or by keys and values.
-/
inductive Token where
  | version (major minor : Nat)
  | handle (name : String) (start : List UInt8)
  | documentStart
  | documentEnd
  | blockSequence
  | blockMapping
  | blockEnd
  | leftBracket
  | rightBracket
  | leftBrace
  | rightBrace
  | comma
  | dash
  | key
  | value
  | reference (name : String)
  | anchor (name : String)
  | tag (written : WrittenTag)
  | scalar (style : Style) (text : String)
deriving DecidableEq, Repr

end Yaml

end QuantumRuntime
