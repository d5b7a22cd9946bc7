import QuantumRuntime.Yaml.Cursor

/-
  This file defines the texts of plain scalars, which are words
  over one or more lines.

  Key definitions include:
    * `Yaml.PlainEnd`
    * `Yaml.wordLength?`
    * `Yaml.PlainText`
    * `Yaml.PlainText.read?`
-/

namespace QuantumRuntime

namespace Yaml

------------------------------------------------------------
-- Words
------------------------------------------------------------

/- A plain word ends before these characters. -/
def PlainEnd
    (inFlow : Bool) : List Char → Prop
  | [] => True
  | c :: rest =>
      AtBlank (c :: rest) ∨ (c = ':' ∧ AtBlank rest) ∨
        (inFlow = true ∧ IsFlowMark c)

instance
    (inFlow : Bool)
    (rest : List Char) :
    Decidable (PlainEnd inFlow rest) :=
  match rest with
  | [] => isTrue trivial
  | c :: rest =>
      inferInstanceAs
        (Decidable
          (AtBlank (c :: rest) ∨ (c = ':' ∧ AtBlank rest) ∨
            (inFlow = true ∧ IsFlowMark c)))

/- In brackets, a colon before a mark cannot stand in a word. -/
def BadColon
    (inFlow : Bool) : List Char → Prop
  | c :: d :: _ =>
      c = ':' ∧ inFlow = true ∧ (IsFlowMark d ∨ d = '?')
  | _ => False

instance
    (inFlow : Bool)
    (rest : List Char) :
    Decidable (BadColon inFlow rest) :=
  match rest with
  | c :: d :: _ =>
      inferInstanceAs
        (Decidable (c = ':' ∧ inFlow = true ∧ (IsFlowMark d ∨ d = '?')))
  | [] => isFalse id
  | [_] => isFalse id

/- The length of a word without blanks, unless it is malformed. -/
def wordLength?
    (inFlow : Bool) : List Char → Option Nat
  | [] => some 0
  | c :: rest =>
      if BadColon inFlow (c :: rest) then
        none
      else if PlainEnd inFlow (c :: rest) then
        some 0
      else
        (· + 1) <$> wordLength? inFlow rest

------------------------------------------------------------
-- Plain texts
------------------------------------------------------------

/-
  The text of a plain scalar, and whether the gap that it takes
  after its last word goes over a line end.
-/
structure PlainText where
  text : List Char
  endsLine : Bool
deriving DecidableEq, Repr

namespace PlainText

/-
  A plain scalar may go on after a gap: in brackets on any line,
  elsewhere if the line is indented enough, but never at a
  marker or a comment.
-/
def GoesOn
    (inFlow : Bool)
    (margin : Nat)
    (gap : Gap)
    (after : Cursor) : Prop :=
  ¬ gap.IsEmpty ∧ (inFlow = true ∨ margin ≤ after.column) ∧
    ¬ after.OnMarker ∧ after.rest.head? ≠ some '#'

instance
    (inFlow : Bool)
    (margin : Nat)
    (gap : Gap)
    (after : Cursor) :
    Decidable (GoesOn inFlow margin gap after) := by
  unfold GoesOn
  infer_instance

/-
  The plain text from a word on, and the place after it. Words
  are joined by what the gaps between them stand for. A gap
  after the last word is taken, but says nothing.
-/
def readFrom?
    (inFlow : Bool)
    (margin : Nat) :
    Nat → Cursor → Option (PlainText × Cursor)
  | 0, _ => none
  | fuel + 1, c => do
      let length ← wordLength? inFlow c.rest
      let word := c.rest.take length
      let (gap, after) := (c.skip length).gap
      let last : PlainText :=
        { text := word
          endsLine := !gap.lines.isEmpty }
      if gap.HasTabBefore margin then
        none
      else if GoesOn inFlow margin gap after then do
        let (more, d) ← readFrom? inFlow margin fuel after
        if more.text = [] then
          some (last, d)
        else
          some ({ more with text := word ++ gap.text ++ more.text }, d)
      else
        some (last, after)

/- The plain text that begins here, and the place after it. -/
def read?
    (inFlow : Bool)
    (margin : Nat)
    (c : Cursor) : Option (PlainText × Cursor) :=
  readFrom? inFlow margin (c.rest.length + 1) c

end PlainText

end Yaml

end QuantumRuntime
