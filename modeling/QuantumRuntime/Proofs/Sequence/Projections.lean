import QuantumRuntime.Proofs.Sequence.IndexLists

/-
  This file proves that a projection is a grid with one
  coordinate fixed. The blocks that are copied lie in the grid,
  so the projection has one element for each list of remaining
  coordinates: the one at the list with the fixed coordinate put
  back. A grid is determined by its elements at all coordinates,
  and so projections along different dimensions commute.

  Key definitions include:
    * `Grid.block`
    * `Grid.plane`

  Key theorems include:
    * `Grid.project_eq_ok_iff`
    * `Grid.WellFormed.block_end_le`
    * `Grid.WellFormed.plane`
    * `Grid.WellFormed.getElem?_plane`
    * `Grid.WellFormed.ext_places`
    * `Grid.WellFormed.plane_comm`
    * `Grid.projection_fixes_one_coordinate`
-/

namespace QuantumRuntime

namespace Grid

------------------------------------------------------------
-- Lists with one member put in
------------------------------------------------------------

theorem insertIdx_eq_append
    {β : Type}
    {members : List β}
    {n : Nat}
    (hLe : n ≤ members.length)
    (x : β) :
    members.insertIdx n x = members.take n ++ x :: members.drop n := by
  induction n generalizing members with
  | zero => rfl
  | succ n ih =>
      cases members with
      | nil => cases hLe
      | cons first members =>
          rw [List.insertIdx_succ_cons, ih (Nat.le_of_succ_le_succ hLe)]
          rfl

/- A member that fits may be put in or left out on both sides. -/
theorem forall₂_insertIdx_iff
    {β : Type}
    {R : β → Nat → Prop}
    {members : List β}
    {dims : List Nat}
    {dim size : Nat}
    {x : β}
    (hSize : dims[dim]? = some size)
    (hFits : R x size) :
    List.Forall₂ R (members.insertIdx dim x) dims ↔
      List.Forall₂ R members (dims.eraseIdx dim) := by
  induction dim generalizing members dims with
  | zero =>
      cases dims with
      | nil => cases hSize
      | cons first dims =>
          cases hSize
          rw [List.insertIdx_zero, List.forall₂_cons, List.eraseIdx_zero]
          exact and_iff_right hFits
  | succ dim ih =>
      cases dims with
      | nil => cases hSize
      | cons first dims =>
          rw [List.eraseIdx_cons_succ]
          cases members with
          | nil => simp
          | cons member members =>
              rw [List.insertIdx_succ_cons, List.forall₂_cons,
                List.forall₂_cons, ih hSize]

/- Two members are left out in either order. -/
theorem eraseIdx_comm
    {β : Type}
    (members : List β)
    {i j : Nat}
    (hLe : i ≤ j) :
    (members.eraseIdx i).eraseIdx j =
      (members.eraseIdx (j + 1)).eraseIdx i := by
  induction members generalizing i j with
  | nil => rfl
  | cons first members ih =>
      cases i with
      | zero => cases j <;> rfl
      | succ i =>
          cases j with
          | zero => cases hLe
          | succ j =>
              rw [List.eraseIdx_cons_succ, List.eraseIdx_cons_succ,
                List.eraseIdx_cons_succ, List.eraseIdx_cons_succ,
                ih (Nat.le_of_succ_le_succ hLe)]

------------------------------------------------------------
-- Blocks
------------------------------------------------------------

section Blocks

variable {β : Type}
variable {blocks : Nat → List β}
variable {count width : Nat}

theorem length_flatMap_blocks
    (hWidth : ∀ o, o < count → (blocks o).length = width) :
    ((List.range count).flatMap blocks).length = count * width := by
  induction count with
  | zero => exact (Nat.zero_mul width).symm
  | succ count ih =>
      rw [List.range_succ, List.flatMap_append, List.length_append,
        ih fun o hLt => hWidth o (Nat.lt_succ_of_lt hLt),
        List.flatMap_singleton, hWidth count (Nat.lt_succ_self count),
        Nat.succ_mul]

/- Blocks of one width are found at its multiples. -/
theorem getElem?_flatMap_blocks
    (hWidth : ∀ o, o < count → (blocks o).length = width)
    {o k : Nat}
    (hBlock : o < count)
    (hInner : k < width) :
    ((List.range count).flatMap blocks)[o * width + k]? =
      (blocks o)[k]? := by
  induction count with
  | zero => cases hBlock
  | succ count ih =>
      have hEarlier :
          ∀ o, o < count → (blocks o).length = width :=
        fun o hLt => hWidth o (Nat.lt_succ_of_lt hLt)
      have hLength := length_flatMap_blocks hEarlier
      rw [List.range_succ, List.flatMap_append, List.flatMap_singleton]
      rcases Nat.lt_succ_iff_lt_or_eq.mp hBlock with hLt | rfl
      · have hBefore : o * width + k < count * width := by
          have := Nat.mul_le_mul_right width (Nat.succ_le_of_lt hLt)
          rw [Nat.succ_mul] at this
          omega
        rw [List.getElem?_append_left (by rwa [hLength]),
          ih hEarlier hLt]
      · rw [List.getElem?_append_right
            (by rw [hLength]; exact Nat.le_add_right _ _),
          hLength, Nat.add_sub_cancel_left]

end Blocks

variable {α : Type}
variable {g : Grid α}
variable {dim size fixed : Nat}

/-
  The elements with a fixed coordinate and the same coordinates
  before it.
-/
def block
    (g : Grid α)
    (dim size fixed o : Nat) : List α :=
  let inner := volume (g.dims.drop (dim + 1))
  let start := (o * size + fixed) * inner
  (g.items.extract start (start + inner)).toList

/- A projection, once its dimension and coordinate are checked. -/
def plane
    (g : Grid α)
    (dim size fixed : Nat) : Grid α :=
  { dims := g.dims.eraseIdx dim
    items :=
      ((List.range (volume (g.dims.take dim))).flatMap
        (g.block dim size fixed)).toArray }

theorem project_of_inDimension
    {index : Int64}
    (hSize : g.dims[dim]? = some size)
    (hIn : InDimension index size) :
    g.project dim index =
      .ok (g.plane dim size index.toInt.toNat) := by
  unfold project
  simp only [hSize, checkIndex_of_inDimension hIn]
  rfl

/- A projection succeeds when its dimension and coordinate exist. -/
theorem project_eq_ok_iff
    {index : Int64}
    {result : Grid α} :
    g.project dim index = .ok result ↔
      ∃ size,
        g.dims[dim]? = some size ∧
          InDimension index size ∧
          g.plane dim size index.toInt.toNat = result := by
  constructor
  · intro hProject
    cases hSize : g.dims[dim]? with
    | none =>
        unfold project at hProject
        simp only [hSize] at hProject
        cases hProject
    | some size =>
        by_cases hIn : InDimension index size
        · rw [project_of_inDimension hSize hIn] at hProject
          exact ⟨size, rfl, hIn, Except.ok.inj hProject⟩
        · unfold project at hProject
          simp only [hSize, checkIndex_of_outside hIn] at hProject
          cases hProject
  · rintro ⟨size, hSize, hIn, rfl⟩
    exact project_of_inDimension hSize hIn

/- The dimensions after a fixed one move up. -/
theorem getElem?_dims_plane_of_ge
    (g : Grid α)
    (size fixed : Nat)
    {other : Nat}
    (hLe : dim ≤ other) :
    (g.plane dim size fixed).dims[other]? = g.dims[other + 1]? :=
  List.getElem?_eraseIdx_of_ge hLe

theorem getElem?_dims_plane_of_lt
    (g : Grid α)
    (size fixed : Nat)
    {other : Nat}
    (hLt : other < dim) :
    (g.plane dim size fixed).dims[other]? = g.dims[other]? :=
  List.getElem?_eraseIdx_of_lt hLt

/- Every block that is copied lies in the grid. -/
theorem WellFormed.block_end_le
    (hShape : g.WellFormed)
    (hSize : g.dims[dim]? = some size)
    (hFixed : fixed < size)
    {o : Nat}
    (hOuter : o < volume (g.dims.take dim)) :
    (o * size + fixed) * volume (g.dims.drop (dim + 1)) +
        volume (g.dims.drop (dim + 1)) ≤
      g.items.size := by
  have hRows :
      o * size + fixed + 1 ≤ volume (g.dims.take dim) * size :=
    calc o * size + fixed + 1
        ≤ o * size + size := Nat.add_le_add_left hFixed _
      _ = (o + 1) * size := (Nat.succ_mul o size).symm
      _ ≤ volume (g.dims.take dim) * size :=
          Nat.mul_le_mul_right size hOuter
  rw [hShape, volume_split hSize, ← Nat.succ_mul]
  exact Nat.mul_le_mul_right _ hRows

theorem WellFormed.length_block
    (hShape : g.WellFormed)
    (hSize : g.dims[dim]? = some size)
    (hFixed : fixed < size)
    {o : Nat}
    (hOuter : o < volume (g.dims.take dim)) :
    (g.block dim size fixed o).length =
      volume (g.dims.drop (dim + 1)) := by
  have hEnd := hShape.block_end_le hSize hFixed hOuter
  rw [block, Array.length_toList, Array.size_extract]
  omega

------------------------------------------------------------
-- Planes
------------------------------------------------------------

/- A projection has as many elements as its dimensions say. -/
theorem WellFormed.plane
    (hShape : g.WellFormed)
    (hSize : g.dims[dim]? = some size)
    (hFixed : fixed < size) :
    (g.plane dim size fixed).WellFormed := by
  rw [WellFormed, Grid.plane, List.size_toArray,
    length_flatMap_blocks fun o hOuter =>
      hShape.length_block hSize hFixed hOuter,
    volume_eraseIdx]

/- The element of a block at a place inside it. -/
theorem getElem?_block
    {o k : Nat}
    (hInner : k < volume (g.dims.drop (dim + 1)))
    (hEnd :
      (o * size + fixed) * volume (g.dims.drop (dim + 1)) +
          volume (g.dims.drop (dim + 1)) ≤
        g.items.size) :
    (g.block dim size fixed o)[k]? =
      g.items[
        (o * size + fixed) * volume (g.dims.drop (dim + 1)) + k]? := by
  rw [block, Array.getElem?_toList, Array.getElem?_extract,
    if_pos (by omega)]

/- A projection has the elements with the fixed coordinate put back. -/
theorem WellFormed.getElem?_plane
    (hShape : g.WellFormed)
    (hSize : g.dims[dim]? = some size)
    (hFixed : fixed < size)
    {coords : List Nat}
    (hWithin : Within coords (g.dims.eraseIdx dim)) :
    (g.plane dim size fixed).items[
        place coords (g.dims.eraseIdx dim)]? =
      g.items[place (coords.insertIdx dim fixed) g.dims]? := by
  rcases List.getElem?_eq_some_iff.mp hSize with ⟨hDim, hAt⟩
  have hDims :
      g.dims = g.dims.take dim ++ size :: g.dims.drop (dim + 1) := by
    rw [← hAt, List.getElem_cons_drop hDim, List.take_append_drop]
  have hErase :
      g.dims.eraseIdx dim =
        g.dims.take dim ++ g.dims.drop (dim + 1) :=
    List.eraseIdx_eq_take_drop_succ _ _
  have hBefore : (g.dims.take dim).length = dim :=
    List.length_take_of_le hDim.le
  rw [hErase] at hWithin ⊢
  have hOuter : Within (coords.take dim) (g.dims.take dim) := by
    have := List.forall₂_take_append _ _ _ hWithin
    rwa [hBefore] at this
  have hInner :
      Within (coords.drop dim) (g.dims.drop (dim + 1)) := by
    have := List.forall₂_drop_append _ _ _ hWithin
    rwa [hBefore] at this
  have hLe : dim ≤ coords.length := by
    have := hOuter.length_eq
    rw [hBefore, List.length_take] at this
    omega
  -- Both places split at the fixed dimension into a block and the
  -- place inside it.
  have hPlane :
      place coords (g.dims.take dim ++ g.dims.drop (dim + 1)) =
        place (coords.take dim) (g.dims.take dim) *
            volume (g.dims.drop (dim + 1)) +
          place (coords.drop dim) (g.dims.drop (dim + 1)) := by
    conv_lhs => rw [← List.take_append_drop dim coords]
    exact place_append hOuter.length_eq _ _
  have hGrid :
      place (coords.insertIdx dim fixed) g.dims =
        (place (coords.take dim) (g.dims.take dim) * size + fixed) *
            volume (g.dims.drop (dim + 1)) +
          place (coords.drop dim) (g.dims.drop (dim + 1)) := by
    conv_lhs => rw [hDims]
    rw [insertIdx_eq_append hLe, place_append hOuter.length_eq, place,
      volume_cons]
    ring
  have hBlock := place_lt_volume hOuter
  have hInside := place_lt_volume hInner
  rw [hPlane, hGrid, Grid.plane, List.getElem?_toArray,
    getElem?_flatMap_blocks
      (fun o hLt => hShape.length_block hSize hFixed hLt)
      hBlock hInside,
    getElem?_block hInside (hShape.block_end_le hSize hFixed hBlock)]

/- A grid is determined by its elements at all coordinates. -/
theorem WellFormed.ext_places
    {g' : Grid α}
    (hShape : g.WellFormed)
    (hShape' : g'.WellFormed)
    (hDims : g.dims = g'.dims)
    (hItems :
      ∀ coords, Within coords g.dims →
        g.items[place coords g.dims]? =
          g'.items[place coords g.dims]?) :
    g = g' := by
  have hSameItems : g.items = g'.items := by
    refine Array.ext_getElem? fun position => ?_
    by_cases hPosition : position < volume g.dims
    · have hItem := hItems _ (within_coordinates hPosition)
      rwa [place_coordinates hPosition] at hItem
    · rw [Array.getElem?_eq_none, Array.getElem?_eq_none]
      · rw [hShape', ← hDims]
        exact not_lt.mp hPosition
      · rw [hShape]
        exact not_lt.mp hPosition
  cases g
  cases g'
  cases hDims
  cases hSameItems
  rfl

/-
  Two dimensions may be fixed in either order. The later one is
  counted without the earlier one once that has been fixed.
-/
theorem WellFormed.plane_comm
    (hShape : g.WellFormed)
    {earlier later size' fixed' : Nat}
    (hLe : earlier ≤ later)
    (hSize : g.dims[earlier]? = some size)
    (hSize' : g.dims[later + 1]? = some size')
    (hFixed : fixed < size)
    (hFixed' : fixed' < size') :
    (g.plane earlier size fixed).plane later size' fixed' =
      (g.plane (later + 1) size' fixed').plane earlier size fixed := by
  have hEarlier := hShape.plane hSize hFixed
  have hLater := hShape.plane hSize' hFixed'
  have hSizeAfter :=
    (getElem?_dims_plane_of_ge g size fixed hLe).trans hSize'
  have hSizeBefore :=
    (getElem?_dims_plane_of_lt g size' fixed'
      (Nat.lt_succ_of_le hLe)).trans hSize
  refine (hEarlier.plane hSizeAfter hFixed').ext_places
    (hLater.plane hSizeBefore hFixed) (eraseIdx_comm g.dims hLe)
    fun coords hWithin => ?_
  have hWithin' :
      Within coords ((g.dims.eraseIdx (later + 1)).eraseIdx earlier) := by
    rw [← eraseIdx_comm g.dims hLe]
    exact hWithin
  have hBelow : later ≤ coords.length := by
    have hRank : later + 1 < g.dims.length :=
      (List.getElem?_eq_some_iff.mp hSize').1
    rw [hWithin'.length_eq,
      List.length_eraseIdx_of_lt, List.length_eraseIdx_of_lt hRank]
    · omega
    · rw [List.length_eraseIdx_of_lt hRank]
      omega
  have hFirst :
      ((g.plane earlier size fixed).plane later size' fixed').items[
          place coords ((g.dims.eraseIdx earlier).eraseIdx later)]? =
        g.items[
          place ((coords.insertIdx later fixed').insertIdx earlier fixed)
            g.dims]? :=
    (hEarlier.getElem?_plane hSizeAfter hFixed' hWithin).trans
      (hShape.getElem?_plane hSize hFixed
        ((forall₂_insertIdx_iff hSizeAfter hFixed').mpr hWithin))
  have hSecond :
      ((g.plane (later + 1) size' fixed').plane earlier
          size fixed).items[
          place coords
            ((g.dims.eraseIdx (later + 1)).eraseIdx earlier)]? =
        g.items[
          place
            ((coords.insertIdx earlier fixed).insertIdx
              (later + 1) fixed')
            g.dims]? :=
    (hLater.getElem?_plane hSizeBefore hFixed hWithin').trans
      (hShape.getElem?_plane hSize' hFixed'
        ((forall₂_insertIdx_iff hSizeBefore hFixed).mpr hWithin'))
  rw [List.insertIdx_comm _ _ hLe hBelow, ← hFirst,
    ← eraseIdx_comm g.dims hLe] at hSecond
  exact hSecond.symm

------------------------------------------------------------
-- Projections
------------------------------------------------------------

theorem naturals_insertIdx
    (coords : List Int64)
    (dim : Nat)
    (index : Int64) :
    naturals (coords.insertIdx dim index) =
      (naturals coords).insertIdx dim index.toInt.toNat :=
  List.map_insertIdx _ _ _ _

/- An element of a projection is one of the grid, and the reverse. -/
theorem WellFormed.get_plane_iff
    (hShape : g.WellFormed)
    {index : Int64}
    (hSize : g.dims[dim]? = some size)
    (hIn : InDimension index size)
    (coords : List Int64)
    (value : α) :
    (g.plane dim size index.toInt.toNat).get coords = .ok value ↔
      g.get (coords.insertIdx dim index) = .ok value := by
  have hPlane := hShape.plane hSize hIn.toNat_lt
  rw [hPlane.get_eq_ok_iff, hShape.get_eq_ok_iff, naturals_insertIdx]
  have hValid :
      Valid (coords.insertIdx dim index) g.dims ↔
        Valid coords (g.dims.eraseIdx dim) :=
    forall₂_insertIdx_iff hSize hIn
  rw [hValid]
  refine and_congr_right fun hCoords => ?_
  exact Eq.congr_left
    (hShape.getElem?_plane hSize hIn.toNat_lt hCoords.within)

/- Two steps in a row succeed when each of them does. -/
theorem bind_eq_ok_iff
    {ε β γ : Type}
    {x : Except ε β}
    {f : β → Except ε γ}
    {result : γ} :
    (x >>= f) = .ok result ↔
      ∃ middle, x = .ok middle ∧ f middle = .ok result := by
  cases x with
  | error e =>
      constructor
      · intro hBind
        cases hBind
      · rintro ⟨_, ⟨⟩, _⟩
  | ok middle =>
      constructor
      · exact fun hBind => ⟨middle, rfl, hBind⟩
      · rintro ⟨_, ⟨⟩, hNext⟩
        exact hNext

/- Both orders of two projections check the same two coordinates. -/
theorem WellFormed.project_comm
    (hShape : g.WellFormed)
    {earlier later : Nat}
    (hLe : earlier ≤ later)
    (i j : Int64)
    (result : Grid α) :
    (g.project earlier i >>= (·.project later j)) = .ok result ↔
      (g.project (later + 1) j >>= (·.project earlier i)) =
        .ok result := by
  -- The second step finds its dimension whichever comes first.
  have hSecondStep :
      ∀ size size',
        g.dims[earlier]? = some size →
        g.dims[later + 1]? = some size' →
        InDimension i size →
        InDimension j size' →
        (g.plane earlier size i.toInt.toNat).project later j =
          (g.plane (later + 1) size' j.toInt.toNat).project earlier i := by
    intro size size' hSize hSize' hIn hIn'
    have hSizeAfter :=
      (getElem?_dims_plane_of_ge g size i.toInt.toNat hLe).trans hSize'
    have hSizeBefore :=
      (getElem?_dims_plane_of_lt g size' j.toInt.toNat
        (Nat.lt_succ_of_le hLe)).trans hSize
    rw [project_of_inDimension hSizeAfter hIn',
      project_of_inDimension hSizeBefore hIn,
      hShape.plane_comm hLe hSize hSize' hIn.toNat_lt hIn'.toNat_lt]
  rw [bind_eq_ok_iff, bind_eq_ok_iff]
  constructor
  · rintro ⟨middle, hFirst, hSecond⟩
    rcases project_eq_ok_iff.mp hFirst with
      ⟨size, hSize, hIn, rfl⟩
    rcases project_eq_ok_iff.mp hSecond with
      ⟨size', hSizeAfter, hIn', -⟩
    rw [getElem?_dims_plane_of_ge g _ _ hLe] at hSizeAfter
    exact ⟨_, project_of_inDimension hSizeAfter hIn',
      (hSecondStep size size' hSize hSizeAfter hIn hIn').symm.trans
        hSecond⟩
  · rintro ⟨middle, hFirst, hSecond⟩
    rcases project_eq_ok_iff.mp hFirst with
      ⟨size', hSize', hIn', rfl⟩
    rcases project_eq_ok_iff.mp hSecond with
      ⟨size, hSizeBefore, hIn, -⟩
    rw [getElem?_dims_plane_of_lt g _ _ (Nat.lt_succ_of_le hLe)]
      at hSizeBefore
    exact ⟨_, project_of_inDimension hSizeBefore hIn,
      (hSecondStep size size' hSizeBefore hSize' hIn hIn').trans
        hSecond⟩

/-
  A projection of a grid succeeds when its dimension is one of
  the grid and its index lies in that dimension. Every block that
  it copies then lies in the grid. The projection has the other
  dimensions and an element for each of their places, and what it
  answers at a list of coordinates is what the grid answers at
  the list with the index put in, as soon as one of them answers.

  Two different dimensions can be projected along in either
  order. The number of the later one goes down by one when the
  earlier one has gone.
-/
theorem projection_fixes_one_coordinate
    (g : Grid α)
    (hShape : g.items.size = volume g.dims) :
    (∀ (dim : Nat) (index : Int64),
      ((∃ result, g.project dim index = .ok result) ↔
        ∃ hDim : dim < g.dims.length,
          0 ≤ index.toInt ∧ index.toInt < g.dims.get ⟨dim, hDim⟩) ∧
      ∀ result, g.project dim index = .ok result →
        (∀ o, o < volume (g.dims.take dim) →
          ∃ size, g.dims[dim]? = some size ∧
            (o * size + index.toInt.toNat + 1) *
                volume (g.dims.drop (dim + 1)) ≤
              g.items.size) ∧
          result.dims = g.dims.eraseIdx dim ∧
          result.items.size = volume result.dims ∧
          ∀ coords value,
            result.get coords = .ok value ↔
              g.get (coords.insertIdx dim index) = .ok value) ∧
      ∀ (d₁ d₂ : Nat) (i j : Int64), d₁ < d₂ →
        ∀ result,
          (do
            let first ← g.project d₁ i
            first.project (d₂ - 1) j) = .ok result ↔
            (do
              let first ← g.project d₂ j
              first.project d₁ i) = .ok result := by
  have hShape' : g.WellFormed := hShape
  refine ⟨fun dim index => ⟨?_, fun result hProject => ?_⟩,
    fun d₁ d₂ i j hLt result => ?_⟩
  · constructor
    · rintro ⟨result, hProject⟩
      rcases project_eq_ok_iff.mp hProject with ⟨size, hSize, hIn, -⟩
      rcases List.getElem?_eq_some_iff.mp hSize with ⟨hDim, rfl⟩
      exact ⟨hDim, hIn⟩
    · rintro ⟨hDim, hIn⟩
      exact ⟨_, project_of_inDimension
        (List.getElem?_eq_getElem hDim) hIn⟩
  · rcases project_eq_ok_iff.mp hProject with
      ⟨size, hSize, hIn, rfl⟩
    refine ⟨fun o hOuter => ⟨size, hSize, ?_⟩, rfl,
      hShape'.plane hSize hIn.toNat_lt,
      hShape'.get_plane_iff hSize hIn⟩
    rw [Nat.succ_mul]
    exact hShape'.block_end_le hSize hIn.toNat_lt hOuter
  · rcases Nat.exists_eq_succ_of_ne_zero (Nat.ne_zero_of_lt hLt) with
      ⟨later, rfl⟩
    exact hShape'.project_comm (Nat.le_of_lt_succ hLt) i j result

/-
  Fixing the middle of three dimensions leaves the outer two,
  and the first and the last may be fixed in either order.
-/
theorem middle_dimension_is_fixed :
    let g : Grid Nat :=
      { dims := [2, 3, 2]
        items := #[0, 1, 2, 3, 4, 5, 6, 7, 8, 9, 10, 11] }
    g.items.size = volume g.dims ∧
      (∃ result,
        g.project 1 2 = .ok result ∧
          result.dims = [2, 2] ∧
          result.items.size = 4 ∧
          result.get [1, 0] = .ok 10) ∧
      ∃ result,
        (do
          let first ← g.project 0 1
          first.project 1 0) = .ok result ∧
          (do
            let first ← g.project 2 0
            first.project 0 1) = .ok result := by
  intro g
  have hShape : g.items.size = volume g.dims := by decide
  rcases projection_fixes_one_coordinate g hShape with
    ⟨hProjects, hCommutes⟩
  rcases hProjects 1 2 with ⟨hSucceeds, hResult⟩
  rcases hSucceeds.mpr (by decide) with ⟨result, hProject⟩
  rcases hResult result hProject with ⟨-, hDims, hSize, hGet⟩
  have hElement : g.get [1, 2, 0] = .ok 10 := by decide
  have hFirstOrder :
      (do
        let first ← g.project 0 1
        first.project 1 0) =
        .ok { dims := [3], items := #[6, 8, 10] } := by
    decide
  rw [hDims] at hSize
  exact ⟨hShape,
    ⟨result, hProject, hDims, hSize, (hGet [1, 0] 10).mpr hElement⟩,
    _, hFirstOrder, (hCommutes 0 2 1 0 (by decide) _).mp hFirstOrder⟩

end Grid

end QuantumRuntime
