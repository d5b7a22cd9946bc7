import Mathlib
import QuantumRuntime.Sequence.Grid

/-
  This file relates the coordinates of a grid to the places of
  its elements. In row-major order the coordinates are digits of
  a number whose radices are the dimensions, so each place below
  the volume has exactly one list of coordinates, and places are
  ordered as their coordinates are lexicographically.

  Key definitions include:
    * `Grid.Within`
    * `Grid.place`
    * `Grid.coordinates`

  Key theorems include:
    * `Grid.place_lt_volume`
    * `Grid.place_append`
    * `Grid.place_coordinates`
    * `Grid.coordinates_place`
    * `Grid.place_lt_place_iff`
-/

namespace QuantumRuntime

namespace Grid

------------------------------------------------------------
-- Volumes
------------------------------------------------------------

theorem volume_cons
    (dim : Nat)
    (dims : List Nat) :
    volume (dim :: dims) = dim * volume dims :=
  rfl

theorem volume_append
    (dims dims' : List Nat) :
    volume (dims ++ dims') = volume dims * volume dims' := by
  induction dims with
  | nil => exact (Nat.one_mul _).symm
  | cons dim dims ih =>
      rw [List.cons_append, volume_cons, volume_cons, ih, mul_assoc]

/- One dimension splits a volume into the blocks before and after it. -/
theorem volume_split
    {dims : List Nat}
    {dim size : Nat}
    (hSize : dims[dim]? = some size) :
    volume dims =
      volume (dims.take dim) * size * volume (dims.drop (dim + 1)) := by
  rcases List.getElem?_eq_some_iff.mp hSize with ⟨hDim, hAt⟩
  conv_lhs =>
    rw [← List.take_append_drop dim dims,
      ← List.getElem_cons_drop hDim, hAt]
  rw [volume_append, volume_cons, mul_assoc]

theorem volume_eraseIdx
    (dims : List Nat)
    (dim : Nat) :
    volume (dims.eraseIdx dim) =
      volume (dims.take dim) * volume (dims.drop (dim + 1)) := by
  rw [List.eraseIdx_eq_take_drop_succ, volume_append]

/- Unless a dimension is zero, none is larger than the volume. -/
theorem le_volume_of_mem
    {dims : List Nat}
    {dim : Nat}
    (hPositive : 0 < volume dims)
    (hMem : dim ∈ dims) :
    dim ≤ volume dims :=
  Nat.le_of_dvd hPositive (List.dvd_prod hMem)

------------------------------------------------------------
-- Places
------------------------------------------------------------

/- Each coordinate lies in its own dimension. -/
def Within
    (coords dims : List Nat) : Prop :=
  List.Forall₂ (· < ·) coords dims

/- The place of coordinates, the last dimension fastest. -/
def place : List Nat → List Nat → Nat
  | coord :: coords, _ :: dims =>
      coord * volume dims + place coords dims
  | _, _ => 0

/- The coordinates of a place, as its digits. -/
def coordinates : List Nat → Nat → List Nat
  | [], _ => []
  | _ :: dims, position =>
      position / volume dims ::
        coordinates dims (position % volume dims)

variable {coords coords' dims dims' : List Nat}

theorem place_lt_volume
    (hWithin : Within coords dims) :
    place coords dims < volume dims := by
  induction hWithin with
  | nil => exact Nat.one_pos
  | @cons coord dim coords dims hCoord _ ih =>
      calc coord * volume dims + place coords dims
          < coord * volume dims + volume dims :=
            Nat.add_lt_add_left ih _
        _ = (coord + 1) * volume dims := (Nat.succ_mul _ _).symm
        _ ≤ dim * volume dims := Nat.mul_le_mul_right _ hCoord

/- The coordinates in front choose a block, the others a place in it. -/
theorem place_append
    (hLength : coords.length = dims.length)
    (coords' dims' : List Nat) :
    place (coords ++ coords') (dims ++ dims') =
      place coords dims * volume dims' + place coords' dims' := by
  induction coords generalizing dims with
  | nil =>
      cases List.eq_nil_of_length_eq_zero hLength.symm
      simp only [List.nil_append, place, zero_mul, zero_add]
  | cons coord coords ih =>
      cases dims with
      | nil => cases hLength
      | cons dim dims =>
          rw [List.cons_append, List.cons_append, place, place,
            ih (Nat.succ.inj hLength), volume_append]
          ring

/- Unless there are no places, the largest coordinates name one. -/
theorem within_greatest
    (hPositive : 0 < volume dims) :
    Within (dims.map Nat.pred) dims := by
  induction dims with
  | nil => exact .nil
  | cons dim dims ih =>
      have hDim : 0 < dim := Nat.pos_of_mul_pos_right hPositive
      exact .cons (Nat.pred_lt_of_lt hDim)
        (ih (Nat.pos_of_mul_pos_left hPositive))

------------------------------------------------------------
-- Digits
------------------------------------------------------------

theorem within_coordinates
    {position : Nat}
    (hPosition : position < volume dims) :
    Within (coordinates dims position) dims := by
  induction dims generalizing position with
  | nil => exact .nil
  | cons dim dims ih =>
      have hPositive : 0 < volume dims :=
        Nat.pos_of_lt_mul_left hPosition
      exact .cons ((Nat.div_lt_iff_lt_mul hPositive).mpr hPosition)
        (ih (Nat.mod_lt position hPositive))

theorem place_coordinates
    {position : Nat}
    (hPosition : position < volume dims) :
    place (coordinates dims position) dims = position := by
  induction dims generalizing position with
  | nil => exact (Nat.lt_one_iff.mp hPosition).symm
  | cons dim dims ih =>
      have hPositive : 0 < volume dims :=
        Nat.pos_of_lt_mul_left hPosition
      rw [coordinates, place, ih (Nat.mod_lt position hPositive),
        Nat.div_add_mod']

theorem coordinates_place
    (hWithin : Within coords dims) :
    coordinates dims (place coords dims) = coords := by
  induction hWithin with
  | nil => rfl
  | @cons coord dim coords dims hCoord hRest ih =>
      have hPlace := place_lt_volume hRest
      have hPositive : 0 < volume dims := Nat.zero_lt_of_lt hPlace
      rw [place, coordinates, Nat.add_comm,
        Nat.add_mul_div_right _ _ hPositive, Nat.div_eq_of_lt hPlace,
        zero_add, Nat.add_mul_mod_self_right,
        Nat.mod_eq_of_lt hPlace, ih]

/- Different coordinates have different places. -/
theorem place_inj
    (hWithin : Within coords dims)
    (hWithin' : Within coords' dims) :
    place coords dims = place coords' dims ↔ coords = coords' := by
  constructor
  · intro hSame
    rw [← coordinates_place hWithin, hSame,
      coordinates_place hWithin']
  · rintro rfl
    rfl

/- A larger leading digit outdoes all that follow. -/
theorem mul_add_lt_mul_add_iff
    {digit digit' radix rest rest' : Nat}
    (hRest : rest < radix)
    (hRest' : rest' < radix) :
    digit * radix + rest < digit' * radix + rest' ↔
      digit < digit' ∨ digit = digit' ∧ rest < rest' := by
  rcases lt_trichotomy digit digit' with hLt | rfl | hGt
  · have := Nat.mul_le_mul_right radix (Nat.succ_le_of_lt hLt)
    rw [Nat.succ_mul] at this
    omega
  · omega
  · have := Nat.mul_le_mul_right radix (Nat.succ_le_of_lt hGt)
    rw [Nat.succ_mul] at this
    omega

/- Places are in the lexicographic order of their coordinates. -/
theorem place_lt_place_iff
    (hWithin : Within coords dims)
    (hWithin' : Within coords' dims) :
    place coords dims < place coords' dims ↔ coords < coords' := by
  induction hWithin generalizing coords' with
  | nil =>
      cases hWithin'
      simp
  | @cons coord dim coords dims hCoord hRest ih =>
      cases hWithin' with
      | @cons coord' _ coords' _ _ hRest' =>
          rw [place, place,
            mul_add_lt_mul_add_iff (place_lt_volume hRest)
              (place_lt_volume hRest'),
            List.cons_lt_cons_iff, ih hRest']

end Grid

end QuantumRuntime
