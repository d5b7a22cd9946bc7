import QuantumRuntime.Yaml.Cursor

/-
  This file defines the texts of block scalars, which are the
  lines of at least one indentation.

  Key definitions include:
    * `Yaml.Chomping`
    * `Yaml.BlockHead`
    * `Yaml.BlockGap`
    * `Yaml.BlockGap.read?`
    * `Yaml.blockText?`
-/

namespace QuantumRuntime

namespace Yaml

------------------------------------------------------------
-- Heads
------------------------------------------------------------

/- What becomes of the line ends at the end of a block. -/
inductive Chomping where
  | strip
  | clip
  | keep
deriving DecidableEq, Repr

/- The end of a block that a mark stands for. -/
def Chomping.ofMark? : Char → Option Chomping
  | '+' => some .keep
  | '-' => some .strip
  | _ => none

/- The head of a block: its further indentation, and its end. -/
structure BlockHead where
  indent : Option Nat
  chomping : Chomping
deriving DecidableEq, Repr

namespace BlockHead

/- The indentation that a mark stands for, which is never zero. -/
def indentOfMark?
    (c : Char) : Option Nat :=
  (digitValue? 10 c).filter (0 < ·)

/- The head that some marks make: at most one of each kind. -/
def ofMarks? : List Char → Option BlockHead
  | [] => some { indent := none, chomping := .clip }
  | [c] =>
      match Chomping.ofMark? c with
      | some chomping => some { indent := none, chomping := chomping }
      | none => do
          let indent ← indentOfMark? c
          some { indent := some indent, chomping := .clip }
  | [c, d] =>
      match Chomping.ofMark? c, Chomping.ofMark? d with
      | some chomping, none => do
          let indent ← indentOfMark? d
          some { indent := some indent, chomping := chomping }
      | none, some chomping => do
          let indent ← indentOfMark? c
          some { indent := some indent, chomping := chomping }
      | _, _ => none
  | _ => none

/-
  The head after the character that begins a block, and the
  place at the end of its line. A comment may follow the marks.
-/
def read?
    (c : Cursor) : Option (BlockHead × Cursor) := do
  let marks := c.run fun x =>
    x.isDigit ∨ (Chomping.ofMark? x).isSome
  let head ← ofMarks? marks
  let d := ((c.skip marks.length).skipRun IsSpace).skipComment
  if AtLineEnd d.rest then some (head, d) else none

end BlockHead

------------------------------------------------------------
-- Gaps between lines
------------------------------------------------------------

/-
  A gap before a line of a block: what its line ends stand for,
  and the widest indentation in it.
-/
structure BlockGap where
  lineEnds : List Char
  width : Nat
deriving DecidableEq, Repr

namespace BlockGap

/- An indentation goes further than a column. -/
def Exceeds
    (indent : Option Nat)
    (column : Nat) : Prop :=
  ∀ i ∈ indent, column < i

instance
    (indent : Option Nat)
    (column : Nat) :
    Decidable (Exceeds indent column) :=
  match indent with
  | none =>
      isTrue (by simp [Exceeds])
  | some i =>
      decidable_of_iff (column < i) (by simp [Exceeds])

/-
  The gap that comes next, and the place after it. The spaces of
  the indentation belong to it, or all spaces if there is no
  indentation yet. A tab cannot stand among them.
-/
def readFrom?
    (indent : Option Nat) :
    Nat → Cursor → Option (BlockGap × Cursor)
  | 0, _ => none
  | fuel + 1, c =>
      let spaces := (c.run (· = ' ')).length
      let d := c.skip (indent.elim spaces fun i => min spaces (i - c.column))
      match d.rest with
      | [] => some ({ lineEnds := [], width := d.column }, d)
      | x :: _ =>
          if x = '\t' ∧ Exceeds indent d.column then
            none
          else if IsLineEnd x then do
            let (gap, e) ← readFrom? indent fuel d.nextLine
            some
              ({ lineEnds := lineEndText x :: gap.lineEnds
                 width := max d.column gap.width }, e)
          else
            some ({ lineEnds := [], width := d.column }, d)

/- The gap that comes next, with no bound on its lines. -/
def read?
    (indent : Option Nat)
    (c : Cursor) : Option (BlockGap × Cursor) :=
  readFrom? indent (c.rest.length + 1) c

end BlockGap

------------------------------------------------------------
-- Lines
------------------------------------------------------------

/-
  What has been read of a block since its last line: what the
  end of that line stands for, if it has one, whether the line
  began with a blank, and the line ends after it.
-/
structure BlockTail where
  lineEnd : Option Char
  blank : Bool
  more : List Char
deriving DecidableEq, Repr

namespace BlockTail

/-
  The text between the last line and a next line. Folding joins
  two lines by a space, or by the line ends between them, unless
  one of the lines begins with a blank.
-/
def before
    (fold : Bool)
    (blank : Bool)
    (t : BlockTail) : List Char :=
  if fold ∧ t.lineEnd = some '\n' ∧ t.blank = false ∧ blank = false then
    if t.more = [] then [' '] else t.more
  else
    t.lineEnd.toList ++ t.more

/- The text after the last line of all. -/
def atEnd
    (chomping : Chomping)
    (t : BlockTail) : List Char :=
  match chomping with
  | .strip => []
  | .clip => t.lineEnd.toList
  | .keep => t.lineEnd.toList ++ t.more

end BlockTail

/- A line begins with a blank. -/
def StartsBlank : List Char → Prop
  | [] => False
  | c :: _ => IsSpace c

instance
    (line : List Char) :
    Decidable (StartsBlank line) :=
  match line with
  | [] => isFalse id
  | c :: _ => inferInstanceAs (Decidable (IsSpace c))

/-
  The text of the lines of a block from here on, and the place
  after it. A line belongs to the block if it begins at the
  indentation.
-/
def blockLines?
    (fold : Bool)
    (chomping : Chomping)
    (indent : Nat) :
    Nat → BlockTail → Cursor → Option (List Char × Cursor)
  | 0, _, _ => none
  | fuel + 1, tail, c =>
      if c.column = indent ∧ c.rest ≠ [] then do
        let line := c.run fun x => ¬ IsLineEnd x
        let blank := decide (StartsBlank line)
        let d := c.skip line.length
        let (gap, e) ← BlockGap.read? (some indent) d.nextLine
        let tail' : BlockTail :=
          { lineEnd := d.rest.head?.map lineEndText
            blank := blank
            more := gap.lineEnds }
        let (more, f) ← blockLines? fold chomping indent fuel tail' e
        some (tail.before fold blank ++ line ++ more, f)
      else
        some (tail.atEnd chomping, c)

/-
  The text of the block scalar that begins here, and the place
  after it. Without a given indentation it is the widest one
  before its first line, but at least the margin and at least
  one.
-/
def blockText?
    (fold : Bool)
    (margin : Nat)
    (c : Cursor) : Option (List Char × Cursor) := do
  let (head, d) ← BlockHead.read? (c.skip 1)
  let given := head.indent.map (margin - 1 + ·)
  let (gap, e) ← BlockGap.read? given d.nextLine
  let indent := given.getD (max gap.width (max margin 1))
  let tail : BlockTail :=
    { lineEnd := none
      blank := false
      more := gap.lineEnds }
  blockLines? fold head.chomping indent (c.rest.length + 1) tail e

end Yaml

end QuantumRuntime
