import QuantumRuntime.Yaml.Token

/-
  This file defines what is known while the tokens of a text are
  collected, and how indentation opens and closes blocks and a
  colon turns what stands before it into a key.

  Key definitions include:
    * `Yaml.KeyCandidate`
    * `Yaml.Layout`
    * `Yaml.Tokenizer`
    * `Yaml.Tokenizer.openBlock`
    * `Yaml.Tokenizer.closeBlocks`
    * `Yaml.Tokenizer.markKey`
    * `Yaml.Tokenizer.dropKey`
    * `Yaml.Layout.expired?`
    * `Yaml.Tokenizer.expireKeys`
-/

namespace QuantumRuntime

namespace Yaml

------------------------------------------------------------
-- Layouts
------------------------------------------------------------

/-
  A place where a key may have begun: the number of tokens
  before it, and where it stands. A key is required where the
  next entry of an open mapping has to begin.
-/
structure KeyCandidate where
  place : Nat
  line : Nat
  column : Nat
  index : Nat
  required : Bool
deriving DecidableEq, Repr

namespace KeyCandidate

/-
  A key can no longer end here: it keeps to one line and to
  1024 bytes.
-/
def IsExpired
    (c : Cursor)
    (k : KeyCandidate) : Prop :=
  k.line < c.line ∨ k.index + 1024 < c.index

instance
    (c : Cursor)
    (k : KeyCandidate) :
    Decidable (k.IsExpired c) := by
  unfold IsExpired
  infer_instance

/- What is left of a candidate here, unless it is still required. -/
def unexpired?
    (c : Cursor) :
    Option KeyCandidate → Option (Option KeyCandidate)
  | none => some none
  | some k =>
      if ¬ k.IsExpired c then some (some k)
      else if k.required then none
      else some none

end KeyCandidate

/-
  What is known at a place of a text: the tokens before it, last
  one first, the least columns of what belongs to the open
  blocks, innermost first, the key that may have begun in the
  innermost brackets, those around each open bracket, and
  whether a key may begin here.
-/
structure Layout where
  cursor : Cursor
  tokens : List Token
  margins : List Nat
  candidate : Option KeyCandidate
  outer : List (Option KeyCandidate)
  keys : Bool

namespace Layout

/- The layout at the beginning of a text. -/
def start
    (text : List Char) : Layout :=
  { cursor := Cursor.start text
    tokens := []
    margins := []
    candidate := none
    outer := []
    keys := true }

/- The place is inside brackets. -/
def inFlow
    (l : Layout) : Bool :=
  !l.outer.isEmpty

/- The least column of what belongs to the innermost block. -/
def margin
    (l : Layout) : Nat :=
  l.margins.headD 0

/- The layout with a token after a number of tokens. -/
def insert
    (place : Nat)
    (token : Token)
    (l : Layout) : Layout :=
  let later := l.tokens.length - place
  { l with
    tokens :=
      l.tokens.take later ++ token :: l.tokens.drop later }

/- The layout without the keys that can no longer end here. -/
def expired?
    (l : Layout) : Option Layout := do
  let candidate ← KeyCandidate.unexpired? l.cursor l.candidate
  let outer ← l.outer.mapM (KeyCandidate.unexpired? l.cursor)
  some { l with candidate := candidate, outer := outer }

end Layout

------------------------------------------------------------
-- Steps
------------------------------------------------------------

/- A step over a text, which fails if the text is malformed. -/
abbrev Tokenizer (α : Type) :=
  StateT Layout Option α

namespace Tokenizer

/- The current place. -/
def here : Tokenizer Cursor := do
  pure (← get).cursor

/- Go on to another place. -/
def goTo
    (c : Cursor) : Tokenizer Unit :=
  modify fun l => { l with cursor := c }

/- Say whether a key may begin at the next token. -/
def allowKeys
    (keys : Bool) : Tokenizer Unit :=
  modify fun l => { l with keys := keys }

/- Add a token after all others. -/
def emit
    (token : Token) : Tokenizer Unit :=
  modify fun l => { l with tokens := token :: l.tokens }

------------------------------------------------------------
-- Blocks
------------------------------------------------------------

/-
  Open a block at a column, with a token after a number of
  tokens, if the column lies inside of the innermost block.
  There are no blocks in brackets.
-/
def openBlock
    (column : Nat)
    (place : Nat)
    (token : Token) : Tokenizer Unit :=
  modify fun l =>
    if l.inFlow = false ∧ l.margin ≤ column then
      { l.insert place token with margins := (column + 1) :: l.margins }
    else
      l

/- Close the blocks with a margin beyond a limit. -/
def closeBlocks
    (limit : Nat) : Tokenizer Unit :=
  modify fun l =>
    if l.inFlow then
      l
    else
      let closed := l.margins.takeWhile fun margin => limit < margin
      { l with
        margins := l.margins.drop closed.length
        tokens :=
          List.replicate closed.length Token.blockEnd ++ l.tokens }

/- Open a block here where keys may begin, if not in brackets. -/
def beginEntry
    (token : Token) : Tokenizer Unit := do
  let l ← get
  guard (l.inFlow = true ∨ l.keys = true)
  openBlock l.cursor.column l.tokens.length token

------------------------------------------------------------
-- Keys
------------------------------------------------------------

/- What began in the innermost brackets is no key. -/
def dropKey : Tokenizer Unit := do
  let l ← get
  guard (∀ k ∈ l.candidate, k.required = false)
  set { l with candidate := none }

/- A key may begin here if keys are allowed. -/
def markKey : Tokenizer Unit := do
  if (← get).keys then
    dropKey
    modify fun l =>
      { l with
        candidate :=
          some
            { place := l.tokens.length
              line := l.cursor.line
              column := l.cursor.column
              index := l.cursor.index
              required :=
                decide
                  (l.inFlow = false ∧ l.margin = l.cursor.column + 1) } }

/- Forget every key that can no longer end here. -/
def expireKeys : Tokenizer Unit := do
  set (← (← get).expired?)

------------------------------------------------------------
-- Brackets
------------------------------------------------------------

/- Enter brackets. -/
def enterFlow : Tokenizer Unit :=
  modify fun l =>
    { l with
      candidate := none
      outer := l.candidate :: l.outer }

/- Leave the innermost brackets, if there are any. -/
def leaveFlow : Tokenizer Unit :=
  modify fun l =>
    match l.outer with
    | [] => l
    | candidate :: outer =>
        { l with
          candidate := candidate
          outer := outer }

end Tokenizer

end Yaml

end QuantumRuntime
