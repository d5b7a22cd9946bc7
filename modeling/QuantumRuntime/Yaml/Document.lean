import QuantumRuntime.Yaml.Node
import QuantumRuntime.Yaml.TokenStream

/-
  This file defines the value that the tokens of a document
  stand for, with the directives before it and the markers
  around it, and the reading of a text as one document.

  Key definitions include:
    * `Yaml.Building`
    * `Yaml.Builder`
    * `Yaml.Properties`
    * `Yaml.Builder.node`
    * `Yaml.Builder.document`
    * `Yaml.Node.ofTokens?`
    * `Yaml.read?`
-/

namespace QuantumRuntime

namespace Yaml

------------------------------------------------------------
-- Builders
------------------------------------------------------------

/-
  What is known at a place of a document: the tokens from there
  on, the numbers of the names that were given so far, and what
  the handles of tags stand for.
-/
structure Building where
  tokens : List Token
  names : List (String × Nat)
  handles : List (String × List UInt8)

/- A step over tokens, which fails if they make no document. -/
abbrev Builder (α : Type) :=
  StateT Building Option α

namespace Builder

/- The next token, if there is one. -/
def peek : Builder (Option Token) := do
  pure (← get).tokens.head?

/- Go on after the next token. -/
def drop : Builder Unit :=
  modify fun b => { b with tokens := b.tokens.tail }

/-
  Give a value that begins here a name. Its number is the count
  of the names so far, so that a name that is used again may
  share its number with a later name.
-/
def name
    (anchor : String) : Builder Nat := do
  let b ← get
  let number := b.names.length
  set
    { b with
      names :=
        (anchor, number) :: b.names.filter fun known => known.1 ≠ anchor }
  pure number

end Builder

------------------------------------------------------------
-- Properties
------------------------------------------------------------

/- The properties of a value: its tag, and the number of its name. -/
structure Properties where
  tag : Option Tag
  number : Option Nat
deriving DecidableEq, Repr

namespace Properties

/- No properties. -/
def none : Properties :=
  { tag := .none
    number := .none }

/- A value with the number of its name. -/
def attach
    (p : Properties)
    (node : Node) : Node :=
  p.number.elim node fun number => .named number node

end Properties

namespace Builder

/- The tag that is written. Its handle must be known. -/
def resolveTag
    (written : WrittenTag) : Builder Tag := do
  match written.handle with
  | none => pure { bytes := written.suffix }
  | some handle =>
      let start ← (← get).handles.lookup handle
      pure { bytes := start ++ written.suffix }

/- The properties here, in either order, each at most once. -/
def properties : Nat → Properties → Builder Properties
  | 0, p => pure p
  | more + 1, p => do
      match ← peek with
      | some (.tag written) =>
          if p.tag = none then do
            drop
            let tag ← resolveTag written
            properties more { p with tag := some tag }
          else
            pure p
      | some (.anchor anchor) =>
          if p.number = none then do
            drop
            let number ← name anchor
            properties more { p with number := some number }
          else
            pure p
      | _ => pure p

------------------------------------------------------------
-- Values
------------------------------------------------------------

/-
  Where a value stands: in brackets, as an entry of a list or
  alone, or as a key or a value of a mapping.
-/
inductive Place where
  | bracketed
  | entry
  | member
deriving DecidableEq, Repr

mutual

/- A value. -/
def node
    (place : Place) : Nat → Builder Node
  | 0 => failure
  | fuel + 1 => do
      match ← peek with
      | some (.reference name) => do
          drop
          pure (.reference (← (← get).names.lookup name))
      | _ => do
          let p ← properties 2 .none
          p.attach <$> content place p fuel
termination_by structural fuel => fuel

/-
  What follows the properties of a value. A list may stand
  beside its key without an indentation of its own. Only a value
  with properties may be empty here.
-/
def content
    (place : Place)
    (p : Properties) : Nat → Builder Node
  | 0 => failure
  | fuel + 1 => do
      match ← peek with
      | some (.scalar style text) => do
          drop
          pure (.scalar p.tag style text)
      | some .leftBracket => do
          drop
          flowSequence fuel []
      | some .leftBrace => do
          drop
          flowMapping fuel []
      | some .dash => do
          if place = .member then
            besideSequence fuel []
          else
            nothing
      | some .blockSequence => do
          if place ≠ .bracketed then
            drop
            blockSequence fuel []
          else
            nothing
      | some .blockMapping => do
          if place ≠ .bracketed then
            drop
            blockMapping fuel []
          else
            nothing
      | _ => nothing
termination_by structural fuel => fuel
where
  nothing : Builder Node := do
    guard (p ≠ .none)
    pure (.scalar p.tag .plain "")

/- A value that may be left out before some tokens. -/
def optional
    (place : Place)
    (ends : List Token) : Nat → Builder Node
  | 0 => failure
  | fuel + 1 => do
      if ∃ token ∈ ← peek, token ∈ ends then
        pure .empty
      else
        node place fuel
termination_by structural fuel => fuel

/- The further entries of a list up to the end of its block. -/
def blockSequence : Nat → List Node → Builder Node
  | 0, _ => failure
  | fuel + 1, items => do
      match ← peek with
      | some .dash => do
          drop
          let item ← optional .entry [.dash, .blockEnd] fuel
          blockSequence fuel (item :: items)
      | some .blockEnd => do
          drop
          pure (.sequence items.reverse)
      | _ => failure
termination_by structural fuel _ => fuel

/- The further entries of a list that stands beside its key. -/
def besideSequence : Nat → List Node → Builder Node
  | 0, _ => failure
  | fuel + 1, items => do
      match ← peek with
      | some .dash => do
          drop
          let item ←
            optional .entry [.dash, .key, .value, .blockEnd] fuel
          besideSequence fuel (item :: items)
      | _ => pure (.sequence items.reverse)
termination_by structural fuel _ => fuel

/- The further entries of a mapping up to the end of its block. -/
def blockMapping : Nat → List (Node × Node) → Builder Node
  | 0, _ => failure
  | fuel + 1, entries => do
      match ← peek with
      | some .key => do
          drop
          let key ← optional .member [.key, .value, .blockEnd] fuel
          let value ← valueAfter .member [.key, .value, .blockEnd] fuel
          blockMapping fuel ((key, value) :: entries)
      | some .blockEnd => do
          drop
          pure (.mapping entries.reverse)
      | _ => failure
termination_by structural fuel _ => fuel

/- The value after its mark, if there is a mark. -/
def valueAfter
    (place : Place)
    (ends : List Token) : Nat → Builder Node
  | 0 => failure
  | fuel + 1 => do
      match ← peek with
      | some .value => do
          drop
          optional place ends fuel
      | _ => pure .empty
termination_by structural fuel => fuel

/-
  The further entries of a list up to its closing bracket. A key
  with its value is a mapping of its own. A mark in the place of
  such a key is taken for the key.
-/
def flowSequence : Nat → List Node → Builder Node
  | 0, _ => failure
  | fuel + 1, items => do
      match ← peek with
      | some .rightBracket => do
          drop
          pure (.sequence items.reverse)
      | some .key => do
          drop
          let key ←
            if ∃ token ∈ ← peek,
                token ∈ [.value, .comma, .rightBracket] then do
              drop
              pure .empty
            else
              node .bracketed fuel
          let value ← valueAfter .bracketed [.comma, .rightBracket] fuel
          flowSequenceRest fuel (.mapping [(key, value)] :: items)
      | _ => do
          let item ← node .bracketed fuel
          flowSequenceRest fuel (item :: items)
termination_by structural fuel _ => fuel

/- What follows an entry of a list in brackets. -/
def flowSequenceRest : Nat → List Node → Builder Node
  | 0, _ => failure
  | fuel + 1, items => do
      match ← peek with
      | some .comma => do
          drop
          flowSequence fuel items
      | some .rightBracket => do
          drop
          pure (.sequence items.reverse)
      | _ => failure
termination_by structural fuel _ => fuel

/- The further entries of a mapping up to its closing brace. -/
def flowMapping : Nat → List (Node × Node) → Builder Node
  | 0, _ => failure
  | fuel + 1, entries => do
      match ← peek with
      | some .rightBrace => do
          drop
          pure (.mapping entries.reverse)
      | some .key => do
          drop
          let key ←
            optional .bracketed [.value, .comma, .rightBrace] fuel
          let value ← valueAfter .bracketed [.comma, .rightBrace] fuel
          flowMappingRest fuel ((key, value) :: entries)
      | _ => do
          let key ← node .bracketed fuel
          flowMappingRest fuel ((key, .empty) :: entries)
termination_by structural fuel _ => fuel

/- What follows an entry of a mapping in braces. -/
def flowMappingRest : Nat → List (Node × Node) → Builder Node
  | 0, _ => failure
  | fuel + 1, entries => do
      match ← peek with
      | some .comma => do
          drop
          flowMapping fuel entries
      | some .rightBrace => do
          drop
          pure (.mapping entries.reverse)
      | _ => failure
termination_by structural fuel _ => fuel

end

------------------------------------------------------------
-- Documents
------------------------------------------------------------

/- A token belongs to the frame around a document. -/
def IsFrame : Token → Prop
  | .version _ _ => True
  | .handle _ _ => True
  | .documentStart => True
  | .documentEnd => True
  | _ => False

instance
    (token : Token) :
    Decidable (IsFrame token) := by
  cases token <;> unfold IsFrame <;> infer_instance

/- The handles that stand for something without a directive. -/
def standardHandles : List (String × List UInt8) :=
  [("!", (Tag.ofText "!").bytes), ("!!", Tag.coreStart.bytes)]

/- The versions of the format that are known. -/
def IsKnownVersion
    (major minor : Nat) : Prop :=
  major = 1 ∧ (minor = 1 ∨ minor = 2)

instance
    (major minor : Nat) :
    Decidable (IsKnownVersion major minor) := by
  unfold IsKnownVersion
  infer_instance

/-
  The directives before a document. There is at most one for the
  version and one for each handle, and it takes precedence over
  what the handle stands for without one.
-/
def directives : Nat → Bool → List (String × List UInt8) → Builder Unit
  | 0, _, _ => failure
  | fuel + 1, versioned, handles => do
      match ← peek with
      | some (.version major minor) => do
          guard (versioned = false ∧ IsKnownVersion major minor)
          drop
          directives fuel true handles
      | some (.handle name start) => do
          guard (handles.lookup name = none)
          drop
          directives fuel versioned ((name, start) :: handles)
      | _ => modify fun b => { b with handles := handles ++ standardHandles }

/- What follows the marker of the start of a document. -/
def started
    (fuel : Nat) : Builder Node := do
  guard ((← peek) = some .documentStart)
  drop
  match ← peek with
  | none => pure .empty
  | some token =>
      if IsFrame token then pure .empty else node .entry fuel

/-
  The value of the only document. Directives need the marker of
  a start. Only markers of an end may follow.
-/
def document
    (fuel : Nat) : Builder Node := do
  let first ← peek
  directives fuel false []
  let root ←
    match first with
    | none => pure .empty
    | some .documentEnd => failure
    | some token =>
        if IsFrame token then started fuel else node .entry fuel
  guard (∀ token ∈ (← get).tokens, token = .documentEnd)
  pure root

end Builder

/- The value of the only document that some tokens make. -/
def Node.ofTokens?
    (tokens : List Token) : Option Node := do
  let building : Building :=
    { tokens := tokens
      names := []
      handles := [] }
  let (node, _) ← Builder.document (4 * tokens.length + 4) building
  some node

/- The value of a text that holds one document at most. -/
def read?
    (text : String) : Option Node := do
  let tokens ← Token.ofText? text
  Node.ofTokens? tokens

end Yaml

end QuantumRuntime
