import QuantumRuntime.Sequence.Indexed

/-
  This file defines rectangular arrays of any rank, stored in
  row-major order. Each coordinate is checked against its own
  dimension.

  Key definitions include:
    * `Grid`
    * `Grid.FitsMemory`
    * `Grid.create`
    * `Grid.ofArray`
    * `Grid.offset`
    * `Grid.get`
    * `Grid.set`
    * `Grid.project`
-/

namespace QuantumRuntime

/- The sizes of the dimensions and the elements, last dimension fastest. -/
structure Grid (α : Type) where
  dims : List Nat
  items : Array α
deriving DecidableEq, Repr

namespace Grid

variable {α : Type}

/- The number of elements of a grid with given dimensions. -/
def volume
    (dims : List Nat) : Nat :=
  dims.foldr (· * ·) 1

/-
  The elements of a grid with given dimensions fit into memory,
  if each takes up some number of bytes. No allocation is larger
  than the greatest signed machine word.
-/
def FitsMemory
    (width : Nat)
    (dims : List Nat) : Prop :=
  width * volume dims < 1 <<< 63

instance
    (width : Nat)
    (dims : List Nat) :
    Decidable (FitsMemory width dims) := by
  unfold FitsMemory
  infer_instance

/- The grid with given dimensions and every element the same. -/
def create
    (dims : List Nat)
    (fill : α) : Grid α :=
  { dims := dims
    items := Array.replicate (volume dims) fill }

/- The grid of rank one with the elements of an array. -/
def ofArray
    (items : Array α) : Grid α :=
  { dims := [items.size]
    items := items }

/- The number of dimensions. -/
def rank
    (g : Grid α) : Nat :=
  g.dims.length

------------------------------------------------------------
-- Coordinates
------------------------------------------------------------

/-
  The offset of some coordinates, counted on from the offset of
  the coordinates before them.
-/
def offsetFrom
    (before : Nat) : List Int64 → List Nat → Except ProgramError Nat
  | index :: rest, dim :: dims => do
      let position ← checkIndex index dim
      offsetFrom (before * dim + position) rest dims
  | _, _ => .ok before

/-
  The offset of an index list. Its length is checked first, and
  then the coordinates in their order.
-/
def offset
    (g : Grid α)
    (index : List Int64) : Except ProgramError Nat :=
  if index.length ≠ g.dims.length then
    .error (.rankMismatch g.dims.length index.length)
  else
    offsetFrom 0 index g.dims

/- The element at an index list. -/
def get
    (g : Grid α)
    (index : List Int64) : Except ProgramError α := do
  let position ← g.offset index
  match g.items[position]? with
  | some value => .ok value
  | none =>
      .error (.indexOutOfRange (Int64.ofNat position) g.items.size)

/- The grid with another element at an index list. -/
def set
    (g : Grid α)
    (index : List Int64)
    (value : α) : Except ProgramError (Grid α) := do
  let position ← g.offset index
  .ok { g with items := g.items.setIfInBounds position value }

------------------------------------------------------------
-- Projection
------------------------------------------------------------

/-
  The part of a grid in which one coordinate has a fixed value.
  The elements come in blocks, one for each value of the
  coordinates before the fixed one.
-/
def project
    (g : Grid α)
    (dim : Nat)
    (index : Int64) : Except ProgramError (Grid α) :=
  match g.dims[dim]? with
  | none => .error (.indexOutOfRange (Int64.ofNat dim) g.dims.length)
  | some size => do
      let fixed ← checkIndex index size
      let outer := volume (g.dims.take dim)
      let inner := volume (g.dims.drop (dim + 1))
      let block := fun o =>
        let start := (o * size + fixed) * inner
        (g.items.extract start (start + inner)).toList
      .ok
        { dims := g.dims.eraseIdx dim
          items := ((List.range outer).flatMap block).toArray }

end Grid

end QuantumRuntime
