import QuantumRuntime.Yaml.Character

/-
  This file defines places in the text of a document, and the
  gaps of blanks, comments and line ends between its parts.

  Key definitions include:
    * `Yaml.Cursor`
    * `Yaml.Cursor.skip`
    * `Yaml.Cursor.nextLine`
    * `Yaml.Cursor.skipGap`
    * `Yaml.Gap`
    * `Yaml.Gap.text`
    * `Yaml.Cursor.gap`
-/

namespace QuantumRuntime

namespace Yaml

------------------------------------------------------------
-- Cursors
------------------------------------------------------------

/-
  A place in a text: what is left, and where it begins. The
  column counts characters, and the index counts bytes.
-/
structure Cursor where
  rest : List Char
  line : Nat
  column : Nat
  index : Nat
deriving DecidableEq, Repr

namespace Cursor

/- The beginning of a text. -/
def start
    (text : List Char) : Cursor :=
  { rest := text
    line := 0
    column := 0
    index := 0 }

/- The place after a number of characters of the same line. -/
def skip
    (count : Nat)
    (c : Cursor) : Cursor :=
  { rest := c.rest.drop count
    line := c.line
    column := c.column + count
    index :=
      ((c.rest.take count).map Char.utf8Size).foldl (· + ·) c.index }

/- The characters of a kind that come next. -/
def run
    (p : Char → Prop)
    [DecidablePred p]
    (c : Cursor) : List Char :=
  c.rest.takeWhile fun x => decide (p x)

/- The place after the characters of a kind that come next. -/
def skipRun
    (p : Char → Prop)
    [DecidablePred p]
    (c : Cursor) : Cursor :=
  c.skip (c.run p).length

/-
  The place after a line end. A carriage return and the line
  feed after it are one line end.
-/
def nextLine
    (c : Cursor) : Cursor :=
  match c.rest with
  | [] => c
  | '\r' :: '\n' :: rest =>
      { rest := rest
        line := c.line + 1
        column := 0
        index := c.index + 2 }
  | x :: rest =>
      { rest := rest
        line := c.line + 1
        column := 0
        index := c.index + x.utf8Size }

/- A marker of a document stands at the beginning of this line. -/
def OnMarker
    (c : Cursor) : Prop :=
  c.column = 0 ∧ AtMarker c.rest

instance
    (c : Cursor) :
    Decidable c.OnMarker := by
  unfold OnMarker
  infer_instance

/- The place after a comment, if one begins here. -/
def skipComment
    (c : Cursor) : Cursor :=
  if c.rest.head? = some '#' then
    c.skipRun fun x => ¬ IsLineEnd x
  else
    c

end Cursor

------------------------------------------------------------
-- Gaps between parts
------------------------------------------------------------

namespace Cursor

/-
  The place after a gap between parts, and whether a key may
  begin there. A tab belongs to a gap only in brackets or where
  no key may begin. Outside of brackets a new line allows keys.
-/
def gapEnd
    (inFlow : Bool) :
    Nat → Bool → Cursor → Cursor × Bool
  | 0, keys, c => (c, keys)
  | fuel + 1, keys, c =>
      let c :=
        if c.column = 0 ∧ c.rest.head? = some byteOrderMark then
          c.skip 1
        else
          c
      let c := c.skipRun fun x =>
        x = ' ' ∨ (x = '\t' ∧ (inFlow = true ∨ keys = false))
      let c := c.skipComment
      if c.rest ≠ [] ∧ AtLineEnd c.rest then
        gapEnd inFlow fuel (keys || !inFlow) c.nextLine
      else
        (c, keys)

/- The place after a gap, with no bound on its lines. -/
def skipGap
    (inFlow : Bool)
    (keys : Bool)
    (c : Cursor) : Cursor × Bool :=
  gapEnd inFlow (c.rest.length + 1) keys c

end Cursor

------------------------------------------------------------
-- Gaps inside texts
------------------------------------------------------------

/-
  A gap inside the text of a scalar: the blanks of the present
  line, and each further line end with the blanks after it.
-/
structure Gap where
  blanks : List Char
  lines : List (Char × List Char)
deriving DecidableEq, Repr

namespace Gap

/- Nothing belongs to a gap. -/
def IsEmpty
    (g : Gap) : Prop :=
  g.blanks = [] ∧ g.lines = []

instance
    (g : Gap) :
    Decidable g.IsEmpty := by
  unfold IsEmpty
  infer_instance

/- What the line ends of a gap stand for. -/
def lineEnds
    (g : Gap) : List Char :=
  g.lines.map fun line => line.1

/- A tab stands before a column in a further line of a gap. -/
def HasTabBefore
    (column : Nat)
    (g : Gap) : Prop :=
  ∃ line ∈ g.lines, '\t' ∈ line.2.take column

instance
    (column : Nat)
    (g : Gap) :
    Decidable (g.HasTabBefore column) := by
  unfold HasTabBefore
  infer_instance

/-
  The text that stands for some line ends. A single line feed
  becomes a space, and a line feed before others is left out.
-/
def foldLineEnds : List Char → List Char
  | ['\n'] => [' ']
  | '\n' :: more => more
  | all => all

/- The text that stands for a gap: blanks stay if no line ends. -/
def text
    (g : Gap) : List Char :=
  if g.lines = [] then g.blanks else foldLineEnds g.lineEnds

end Gap

namespace Cursor

/- The further lines of a gap, and the place after them. -/
def gapLines :
    Nat → Cursor → List (Char × List Char) × Cursor
  | 0, c => ([], c)
  | fuel + 1, c =>
      match c.rest with
      | [] => ([], c)
      | x :: _ =>
          if IsLineEnd x then
            let blanks := c.nextLine.run IsSpace
            let (lines, d) := gapLines fuel (c.nextLine.skip blanks.length)
            ((lineEndText x, blanks) :: lines, d)
          else
            ([], c)

/- The gap that comes next, and the place after it. -/
def gap
    (c : Cursor) : Gap × Cursor :=
  let blanks := c.run IsSpace
  let (lines, d) :=
    gapLines (c.rest.length + 1) (c.skip blanks.length)
  ({ blanks := blanks, lines := lines }, d)

end Cursor

end Yaml

end QuantumRuntime
