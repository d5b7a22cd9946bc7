import QuantumRuntime.Yaml.Token

/-
  This file defines the values that a document holds, what the
  references in a document refer to, and how scalars are read as
  values of the core kinds and mappings as named members.

  Key definitions include:
    * `Yaml.Node`
    * `Yaml.Node.lastNamed?`
    * `Yaml.Node.resolve?`
    * `Yaml.Node.bool?`
    * `Yaml.Node.natural?`
    * `Yaml.Node.optionalNatural?`
    * `Yaml.Node.text?`
    * `Yaml.Node.word?`
    * `Yaml.Node.members?`
    * `Yaml.Node.member?`
-/

namespace QuantumRuntime

namespace Yaml

------------------------------------------------------------
-- Nodes
------------------------------------------------------------

/-
  A value: a scalar, a list, or keys with values in their order.
  A value may have a number, to which references refer.
-/
inductive Node where
  | scalar (tag : Option Tag) (style : Style) (text : String)
  | sequence (items : List Node)
  | mapping (entries : List (Node × Node))
  | named (number : Nat) (node : Node)
  | reference (number : Nat)

namespace Node

/- The value of a place where nothing is written. -/
def empty : Node :=
  scalar none .plain ""

------------------------------------------------------------
-- References
------------------------------------------------------------

mutual

/- The value with a number that begins last in a value. -/
def lastNamed?
    (number : Nat) : Node → Option Node
  | scalar _ _ _ => none
  | sequence items => lastNamedInItems? number items
  | mapping entries => lastNamedInEntries? number entries
  | named n node =>
      (lastNamed? number node).or
        (if n = number then some node else none)
  | reference _ => none

/- The value with a number that begins last in some items. -/
def lastNamedInItems?
    (number : Nat) : List Node → Option Node
  | [] => none
  | item :: rest =>
      (lastNamedInItems? number rest).or (lastNamed? number item)

/- The value with a number that begins last in some entries. -/
def lastNamedInEntries?
    (number : Nat) : List (Node × Node) → Option Node
  | [] => none
  | (key, value) :: rest =>
      (lastNamedInEntries? number rest).or
        ((lastNamed? number value).or (lastNamed? number key))

end

/-
  The value that stands at a place of a document. A reference
  stands for the last value of the document with its number.
-/
def resolve?
    (document : Node) : Node → Option Node
  | reference number => document.lastNamed? number
  | named _ node => some node
  | node => some node

end Node

------------------------------------------------------------
-- Plain words
------------------------------------------------------------

/- The words for the absence of a value. -/
def nullWords : List String :=
  ["null", "Null", "NULL", "~"]

/- The truth value that a word stands for. -/
def boolOfWord? : String → Option Bool
  | "true" | "True" | "TRUE" => some true
  | "false" | "False" | "FALSE" => some false
  | _ => none

/-
  The number below `2 ^ 64` that a word stands for. It may have
  a plus sign and may be written in base sixteen, eight or two.
  A decimal number has no leading zero.
-/
def naturalOfWord?
    (word : String) : Option Nat :=
  let unsigned :=
    match word.toList with
    | '+' :: rest => rest
    | all => all
  let number :=
    match unsigned with
    | '0' :: 'x' :: rest => numberOfDigits? 16 rest
    | '0' :: 'o' :: rest => numberOfDigits? 8 rest
    | '0' :: 'b' :: rest => numberOfDigits? 2 rest
    | ['0'] => some 0
    | '0' :: _ => none
    | digits => numberOfDigits? 10 digits
  number.filter (· < UInt64.size)

------------------------------------------------------------
-- Readings of scalars
------------------------------------------------------------

namespace Node

/-
  The word that a scalar of a core kind is written with: a plain
  scalar, or a literal block that has the tag of the kind.
-/
def wordOfKind?
    (kind : String) : Node → Option String
  | scalar _ .plain text => some text
  | scalar (some tag) .literal text =>
      if tag = Tag.core kind then some text else none
  | _ => none

/- The truth value of a scalar. -/
def bool?
    (node : Node) : Option Bool :=
  node.wordOfKind? "bool" >>= boolOfWord?

/- The number of a scalar. -/
def natural?
    (node : Node) : Option Nat :=
  node.wordOfKind? "int" >>= naturalOfWord?

/- The number of a scalar that may stand for the absence of one. -/
def optionalNatural? : Node → Option (Option Nat)
  | scalar (some tag) .plain text =>
      if tag = Tag.core "null" then
        if text ∈ nullWords then some none else none
      else
        some <$> natural? (scalar (some tag) .plain text)
  | scalar none .plain text =>
      if text = "" ∨ text ∈ nullWords then
        some none
      else
        some <$> natural? (scalar none .plain text)
  | node => some <$> node.natural?

/- The text of a scalar of any style. -/
def text? : Node → Option String
  | scalar _ _ text => some text
  | _ => none

/-
  The word that selects one of some alternatives: a scalar of
  any style, or the word of the local tag of a plain scalar
  that stands for the absence of a value.
-/
def word? : Node → Option String
  | scalar tag style text =>
      match tag >>= Tag.word? with
      | none => some text
      | some word =>
          if style = .plain ∧ (text = "" ∨ text ∈ nullWords) then
            some word
          else
            none
  | _ => none

------------------------------------------------------------
-- Readings of mappings
------------------------------------------------------------

/-
  The named values of a document in their order, where every
  key must be a scalar. Where nothing is written there are none.
-/
def members?
    (document : Node) : Option (List (String × Node)) := do
  match ← document.resolve? document with
  | mapping entries =>
      entries.mapM fun (key, value) => do
        let name ← document.resolve? key >>= text?
        let value ← document.resolve? value
        some (name, value)
  | scalar _ .plain "" => some []
  | _ => none

/-
  The reading of the member with a name, or a default if there
  is no such member. A name may not stand twice.
-/
def member?
    {α : Type}
    (members : List (String × Node))
    (name : String)
    (read : Node → Option α)
    (default : α) : Option α :=
  match members.filter fun member => member.1 = name with
  | [] => some default
  | [(_, value)] => read value
  | _ => none

end Node

end Yaml

end QuantumRuntime
