import QuantumRuntime.Proofs.Sequence.Projections

/-
  This file proves that the index lists of a grid and its stored
  elements correspond one to one, in lexicographic order, for
  every grid that the operations give. So an element that is set
  is read back, and no other one changes.

  Key definitions include:
    * `Grid.Built`
    * `Grid.FirstOutside`
    * `Grid.afterSet`
    * `Grid.Refuses`
    * `Grid.FullyIndexed`

  Key theorems include:
    * `Grid.Built.wellFormed`
    * `Grid.Built.size_lt`
    * `Grid.exists_first_outside_of_objection`
    * `Grid.WellFormed.fullyIndexed_iff`
    * `Grid.WellFormed.get_after_set_of_ne`
    * `Grid.indexing_is_row_major_bijection`
-/

namespace QuantumRuntime

namespace Grid

variable {α : Type}
variable {g g' : Grid α}
variable {index index' : List Int64}
variable {position position' : Nat}

------------------------------------------------------------
-- Grids that the operations give
------------------------------------------------------------

/-
  A grid that is created, made of an array, or comes from such a
  one by overwriting elements and projecting. The numbers of
  elements are machine words.
-/
inductive Built : Grid α → Prop
  | create
      (dims : List Nat)
      (fill : α)
      (hFits : volume dims < 2 ^ 64) :
      Built (create dims fill)
  | ofArray
      (items : Array α)
      (hFits : items.size < 2 ^ 64) :
      Built (ofArray items)
  | set
      {g g' : Grid α}
      {index : List Int64}
      {value : α}
      (hBuilt : Built g)
      (hSet : g.set index value = .ok g') :
      Built g'
  | project
      {g g' : Grid α}
      {dim : Nat}
      {index : Int64}
      (hBuilt : Built g)
      (hProject : g.project dim index = .ok g') :
      Built g'

/- An accepted request to overwrite keeps all sizes. -/
theorem set_eq_ok_iff
    {value : α} :
    g.set index value = .ok g' ↔
      Valid index g.dims ∧
        { g with
          items :=
            g.items.setIfInBounds
              (place (naturals index) g.dims) value } = g' := by
  cases hObjection : objection g.dims index with
  | none =>
      have hValid := valid_iff.mpr hObjection
      rw [set_of_valid hValid, Except.ok.injEq]
      exact (and_iff_right hValid).symm
  | some e =>
      rw [set_of_objection hObjection]
      refine iff_of_false nofun fun hBoth => ?_
      rw [valid_iff.mp hBoth.1] at hObjection
      cases hObjection

theorem WellFormed.of_set
    (hShape : g.WellFormed)
    {value : α}
    (hSet : g.set index value = .ok g') :
    g'.WellFormed := by
  rcases set_eq_ok_iff.mp hSet with ⟨-, rfl⟩
  exact (Array.size_setIfInBounds ..).trans hShape

theorem WellFormed.of_project
    (hShape : g.WellFormed)
    {dim : Nat}
    {coordinate : Int64}
    (hProject : g.project dim coordinate = .ok g') :
    g'.WellFormed := by
  rcases project_eq_ok_iff.mp hProject with ⟨size, hSize, hIn, rfl⟩
  exact hShape.plane hSize hIn.toNat_lt

theorem Built.wellFormed
    (hBuilt : g.Built) :
    g.WellFormed := by
  induction hBuilt with
  | create dims fill _ => exact Array.size_replicate
  | ofArray items _ => exact (Nat.mul_one items.size).symm
  | set _ hSet ih => exact ih.of_set hSet
  | project _ hProject ih => exact ih.of_project hProject

/- No operation gives more elements than it was given. -/
theorem Built.size_lt
    (hBuilt : g.Built) :
    g.items.size < 2 ^ 64 := by
  induction hBuilt with
  | create dims fill hFits => rwa [Grid.create, Array.size_replicate]
  | ofArray items hFits => exact hFits
  | set _ hSet ih =>
      rcases set_eq_ok_iff.mp hSet with ⟨-, rfl⟩
      exact (Array.size_setIfInBounds ..).trans_lt ih
  | @project g g' dim _ hBuilt hProject ih =>
      rcases project_eq_ok_iff.mp hProject with
        ⟨size, hSize, hIn, rfl⟩
      rw [hBuilt.wellFormed, volume_split hSize] at ih
      rw [hBuilt.wellFormed.plane hSize hIn.toNat_lt, plane,
        volume_eraseIdx]
      refine lt_of_le_of_lt (Nat.mul_le_mul_right _ ?_) ih
      exact Nat.le_mul_of_pos_right _ (Nat.zero_lt_of_lt hIn.toNat_lt)

------------------------------------------------------------
-- Refusals
------------------------------------------------------------

/-
  The coordinate with a number lies outside its dimension, and
  those before it lie in theirs.
-/
def FirstOutside
    (index : List Int64)
    (dims : List Nat)
    (k : Nat)
    (coordinate : Int64)
    (dim : Nat) : Prop :=
  index[k]? = some coordinate ∧
    dims[k]? = some dim ∧
    ¬ InDimension coordinate dim ∧
    Valid (index.take k) (dims.take k)

/-
  An index list of the right length is refused for its first
  coordinate outside a dimension.
-/
theorem exists_first_outside_of_objection
    {dims : List Nat}
    {e : ProgramError}
    (hLength : index.length = dims.length)
    (hObjection : objection dims index = some e) :
    ∃ k coordinate dim,
      FirstOutside index dims k coordinate dim ∧
        e = .indexOutOfRange coordinate dim := by
  rw [objection, if_neg (not_not.mpr hLength)] at hObjection
  rcases Option.map_eq_some_iff.mp hObjection with
    ⟨⟨coordinate, dim⟩, hFind, rfl⟩
  rcases List.find?_eq_some_iff_getElem.mp hFind with
    ⟨hOutside, k, hBound, hAt, hEarlier⟩
  rw [List.getElem_zip, Prod.mk.injEq] at hAt
  rw [List.length_zip, lt_min_iff] at hBound
  have hInside : Valid (index.take k) (dims.take k) := by
    refine List.forall₂_iff_get.mpr ⟨?_, fun j hLt hLt' => ?_⟩
    · rw [List.length_take, List.length_take, hLength]
    · have hBefore : j < k := by
        rw [List.length_take] at hLt
        omega
      have hIn := hEarlier j hBefore
      rw [List.getElem_zip] at hIn
      simpa using hIn
  exact ⟨k, coordinate, dim,
    ⟨List.getElem?_eq_some_iff.mpr ⟨hBound.1, hAt.1⟩,
      List.getElem?_eq_some_iff.mpr ⟨hBound.2, hAt.2⟩,
      of_decide_eq_true hOutside, hInside⟩, rfl⟩

/- The grid that a request to overwrite leaves behind. -/
def afterSet
    (g : Grid α)
    (index : List Int64)
    (value : α) : Grid α :=
  match g.set index value with
  | .ok g' => g'
  | .error _ => g

/-
  An index list meets an error: nothing is read with it, and a
  request to overwrite leaves the grid as it is.
-/
def Refuses
    (g : Grid α)
    (index : List Int64)
    (e : ProgramError) : Prop :=
  g.get index = .error e ∧
    ∀ value,
      g.set index value = .error e ∧ g.afterSet index value = g

theorem afterSet_of_ok
    {value : α}
    (hSet : g.set index value = .ok g') :
    g.afterSet index value = g' := by
  rw [afterSet, hSet]

theorem refuses_of_objection
    {e : ProgramError}
    (hObjection : objection g.dims index = some e) :
    g.Refuses index e := by
  refine ⟨get_of_objection hObjection, fun value => ?_⟩
  have hSet := set_of_objection hObjection value
  exact ⟨hSet, by rw [afterSet, hSet]⟩

------------------------------------------------------------
-- Offsets in order
------------------------------------------------------------

theorem WellFormed.offset_lt_size
    (hShape : g.WellFormed)
    (hOffset : g.offset index = .ok position) :
    position < g.items.size := by
  rcases offset_eq_ok_iff.mp hOffset with ⟨hValid, rfl⟩
  exact hShape.place_lt_size hValid

/-
  The offset of an index list is no smaller than what has been
  accumulated on the way to it.
-/
theorem offset_prefix_le
    (hOffset : g.offset index = .ok position)
    (n : Nat) :
    ∃ partialOffset,
      offsetFrom 0 (index.take n) (g.dims.take n) =
          .ok partialOffset ∧
        partialOffset ≤ position := by
  rcases offset_eq_ok_iff.mp hOffset with ⟨hValid, rfl⟩
  have hFront := List.forall₂_take n hValid
  have hBack : 0 < volume (g.dims.drop n) :=
    Nat.zero_lt_of_lt
      (place_lt_volume (Valid.within (List.forall₂_drop n hValid)))
  have hSplit :
      place (naturals index) g.dims =
        place (naturals (index.take n)) (g.dims.take n) *
            volume (g.dims.drop n) +
          place (naturals (index.drop n)) (g.dims.drop n) := by
    have hLength :
        (naturals (index.take n)).length = (g.dims.take n).length :=
      (Valid.within hFront).length_eq
    rw [← place_append hLength, ← naturals_append,
      List.take_append_drop, List.take_append_drop]
  refine ⟨_, offsetFrom_of_valid hFront 0, ?_⟩
  rw [hSplit, zero_mul, zero_add]
  exact (Nat.le_mul_of_pos_right _ hBack).trans (Nat.le_add_right _ _)

/- Different index lists have different offsets. -/
theorem offset_inj
    (hOffset : g.offset index = .ok position)
    (hOffset' : g.offset index' = .ok position) :
    index = index' := by
  rcases offset_eq_ok_iff.mp hOffset with ⟨hValid, hPlace⟩
  rcases offset_eq_ok_iff.mp hOffset' with ⟨hValid', hPlace'⟩
  rw [← naturals_inj hValid hValid',
    ← place_inj hValid.within hValid'.within, hPlace, hPlace']

/- Offsets are in the lexicographic order of their index lists. -/
theorem offset_lt_iff
    (hOffset : g.offset index = .ok position)
    (hOffset' : g.offset index' = .ok position') :
    position < position' ↔ index < index' := by
  rcases offset_eq_ok_iff.mp hOffset with ⟨hValid, rfl⟩
  rcases offset_eq_ok_iff.mp hOffset' with ⟨hValid', rfl⟩
  rw [place_lt_place_iff hValid.within hValid'.within,
    naturals_lt_iff hValid hValid']

/- Each of the elements has an index list. -/
def FullyIndexed
    (g : Grid α) : Prop :=
  ∀ position, position < g.items.size →
    ∃ index, g.offset index = .ok position

theorem WellFormed.fullyIndexed_of_signed
    (hShape : g.WellFormed)
    (hSigned : ∀ dim ∈ g.dims, dim ≤ 2 ^ 63) :
    g.FullyIndexed := by
  intro position hPosition
  rw [hShape] at hPosition
  rcases exists_valid (within_coordinates hPosition) hSigned with
    ⟨index, hValid, hNaturals⟩
  refine ⟨index, offset_eq_ok_iff.mpr ⟨hValid, ?_⟩⟩
  rw [hNaturals, place_coordinates hPosition]

/-
  Signed coordinates reach all elements unless a dimension is too
  large for them. For then the last element has none.
-/
theorem WellFormed.fullyIndexed_iff
    (hShape : g.WellFormed) :
    g.FullyIndexed ↔
      g.items.size = 0 ∨ ∀ dim ∈ g.dims, dim ≤ 2 ^ 63 := by
  constructor
  · intro hIndexed
    refine or_iff_not_imp_left.mpr fun hSome dim hMem => ?_
    have hPositive : 0 < volume g.dims :=
      Nat.pos_of_ne_zero (hShape ▸ hSome)
    have hGreatest := within_greatest hPositive
    rcases hIndexed (place (g.dims.map Nat.pred) g.dims)
        (hShape ▸ place_lt_volume hGreatest) with ⟨index, hOffset⟩
    rcases offset_eq_ok_iff.mp hOffset with ⟨hValid, hPlace⟩
    have hNaturals : naturals index = g.dims.map Nat.pred :=
      (place_inj hValid.within hGreatest).mp hPlace
    have hLast : dim.pred < 2 ^ 63 :=
      naturals_lt (hNaturals ▸ List.mem_map_of_mem hMem)
    exact Nat.le_of_pred_lt hLast
  · rintro (hNone | hSigned)
    · intro position hPosition
      omega
    · exact hShape.fullyIndexed_of_signed hSigned

/- Elements that take up memory are never too many. -/
theorem WellFormed.fullyIndexed_of_fitsMemory
    (hShape : g.WellFormed)
    {width : Nat}
    (hWidth : 0 < width)
    (hFits : FitsMemory width g.dims) :
    g.FullyIndexed := by
  refine hShape.fullyIndexed_iff.mpr
    (or_iff_not_imp_left.mpr fun hSome dim hMem => ?_)
  have hPositive : 0 < volume g.dims :=
    Nat.pos_of_ne_zero (hShape ▸ hSome)
  calc dim
      ≤ volume g.dims := le_volume_of_mem hPositive hMem
    _ ≤ width * volume g.dims := Nat.le_mul_of_pos_left _ hWidth
    _ ≤ 2 ^ 63 := Nat.le_of_lt hFits

------------------------------------------------------------
-- Overwritten elements
------------------------------------------------------------

theorem WellFormed.get_after_set
    (hShape : g.WellFormed)
    {value : α}
    (hSet : g.set index value = .ok g') :
    g'.get index = .ok value := by
  have hShape' := hShape.of_set hSet
  rcases set_eq_ok_iff.mp hSet with ⟨hValid, rfl⟩
  refine hShape'.get_eq_ok_iff.mpr ⟨hValid, ?_⟩
  rw [Array.getElem?_setIfInBounds, if_pos rfl,
    if_pos (hShape.place_lt_size hValid)]

/- A request at another index list is answered as before. -/
theorem WellFormed.get_after_set_of_ne
    (hShape : g.WellFormed)
    {value : α}
    (hSet : g.set index value = .ok g')
    (hOther : index' ≠ index) :
    g'.get index' = g.get index' := by
  have hShape' := hShape.of_set hSet
  rcases set_eq_ok_iff.mp hSet with ⟨hValid, rfl⟩
  cases hObjection : objection g.dims index' with
  | none =>
      have hValid' := valid_iff.mpr hObjection
      have hPlaces :
          place (naturals index) g.dims ≠
            place (naturals index') g.dims := by
        rw [Ne, place_inj hValid.within hValid'.within,
          naturals_inj hValid hValid']
        exact hOther.symm
      have hItem :=
        Array.getElem?_eq_getElem (hShape.place_lt_size hValid')
      rw [get_of_valid hValid' hItem]
      refine hShape'.get_eq_ok_iff.mpr ⟨hValid', ?_⟩
      rw [Array.getElem?_setIfInBounds, if_neg hPlaces, hItem]
  | some e =>
      rw [get_of_objection hObjection]
      exact get_of_objection hObjection

/-
  Every grid that is created, made of an array, or comes from
  such a one by overwriting elements and projecting stores as
  many elements as the product of its dimensions.

  An element is read or overwritten exactly when there is one
  coordinate for each dimension and it lies in it. Otherwise the
  grid stays as it is, and the error is a rank mismatch if the
  number of coordinates differs, and else names the first
  coordinate outside its dimension together with that dimension.

  An accepted index list has an offset among the elements. On
  the way to it nothing larger is computed. Different lists have
  different offsets, in their lexicographic order. Every element
  has an index list if no dimension is too large for signed
  coordinates, which is so whenever the elements take up memory,
  and otherwise only if there are no elements. Overwriting an
  element changes what is read at its index list to the new
  value, and what is read at any other list not at all.
-/
theorem indexing_is_row_major_bijection
    (g : Grid α)
    (hBuilt : g.Built) :
    (g.items.size = volume g.dims ∧ g.items.size < 2 ^ 64) ∧
      (∀ index,
        ((∃ value, g.get index = .ok value) ↔ Valid index g.dims) ∧
          (∀ value,
            (∃ g', g.set index value = .ok g') ↔
              Valid index g.dims) ∧
          (¬ Valid index g.dims →
            ∃ e,
              g.Refuses index e ∧
                (index.length ≠ g.dims.length →
                  e = .rankMismatch g.dims.length index.length) ∧
                (index.length = g.dims.length →
                  ∃ k coordinate dim,
                    FirstOutside index g.dims k coordinate dim ∧
                      e = .indexOutOfRange coordinate dim))) ∧
      (∀ index, Valid index g.dims →
        ∃ position,
          g.offset index = .ok position ∧
            position < g.items.size ∧
            (∀ value,
              g.get index = .ok value ↔
                g.items[position]? = some value) ∧
            ∀ n,
              ∃ partialOffset,
                offsetFrom 0 (index.take n) (g.dims.take n) =
                    .ok partialOffset ∧
                  partialOffset ≤ position) ∧
      (∀ index index' position position',
        g.offset index = .ok position →
        g.offset index' = .ok position' →
        (position = position' ↔ index = index') ∧
          (position < position' ↔ index < index')) ∧
      (g.FullyIndexed ↔
        g.items.size = 0 ∨ ∀ dim ∈ g.dims, dim ≤ 2 ^ 63) ∧
      (∀ width, 0 < width → FitsMemory width g.dims →
        g.FullyIndexed) ∧
      ∀ index value, Valid index g.dims →
        (g.afterSet index value).get index = .ok value ∧
          ∀ index', index' ≠ index →
            (g.afterSet index value).get index' = g.get index' := by
  have hShape := hBuilt.wellFormed
  refine ⟨⟨hShape, hBuilt.size_lt⟩,
    fun index => ⟨?_, fun value => ?_, fun hInvalid => ?_⟩,
    fun index hValid => ?_,
    fun index index' position position' hOffset hOffset' => ⟨?_, ?_⟩,
    hShape.fullyIndexed_iff,
    fun width hWidth hFits =>
      hShape.fullyIndexed_of_fitsMemory hWidth hFits,
    fun index value hValid => ?_⟩
  · constructor
    · rintro ⟨value, hGet⟩
      exact (hShape.get_eq_ok_iff.mp hGet).1
    · intro hValid
      exact ⟨_, get_of_valid hValid
        (Array.getElem?_eq_getElem (hShape.place_lt_size hValid))⟩
  · constructor
    · rintro ⟨g', hSet⟩
      exact (set_eq_ok_iff.mp hSet).1
    · exact fun hValid => ⟨_, set_of_valid hValid value⟩
  · rw [valid_iff, ← Ne, Option.ne_none_iff_exists'] at hInvalid
    rcases hInvalid with ⟨e, hObjection⟩
    refine ⟨e, refuses_of_objection hObjection, fun hLength => ?_,
      fun hLength =>
        exists_first_outside_of_objection hLength hObjection⟩
    rw [objection, if_pos hLength] at hObjection
    exact (Option.some_inj.mp hObjection).symm
  · have hOffset := offset_of_valid hValid
    refine ⟨_, hOffset, hShape.offset_lt_size hOffset, fun value => ?_,
      offset_prefix_le hOffset⟩
    rw [hShape.get_eq_ok_iff]
    exact and_iff_right hValid
  · constructor
    · rintro rfl
      exact offset_inj hOffset hOffset'
    · rintro rfl
      exact Except.ok.inj (hOffset.symm.trans hOffset')
  · exact offset_lt_iff hOffset hOffset'
  · have hSet := set_of_valid hValid value
    rw [afterSet_of_ok hSet]
    exact ⟨hShape.get_after_set hSet,
      fun index' hOther => hShape.get_after_set_of_ne hSet hOther⟩

/-
  A plane of a cube with one element overwritten: each of its
  elements has an index list, the overwritten one is found at
  its own, and a list outside is refused.
-/
theorem plane_of_cube_is_indexed :
    let plane : Grid Nat := { dims := [2, 2], items := #[0, 0, 7, 0] }
    plane.Built ∧
      plane.items.size = volume plane.dims ∧
      Valid [1, 0] plane.dims ∧
      (plane.afterSet [1, 0] 8).get [1, 0] = .ok 8 ∧
      FitsMemory 8 plane.dims ∧
      plane.FullyIndexed ∧
      ¬ Valid [1, 2] plane.dims ∧
      ∃ e,
        plane.get [1, 2] = .error e ∧
          plane.afterSet [1, 2] 8 = plane := by
  intro plane
  let cube : Grid Nat :=
    { dims := [2, 3, 2], items := #[0, 0, 0, 0, 0, 0, 0, 0, 0, 0, 7, 0] }
  have hSet : (create [2, 3, 2] 0).set [1, 2, 0] 7 = .ok cube := by
    decide
  have hProject : cube.project 1 2 = .ok plane := by
    decide
  have hPlane : plane.Built :=
    ((Built.create [2, 3, 2] 0 (by decide)).set hSet).project hProject
  have hValid : Valid [1, 0] plane.dims := valid_iff.mpr (by decide)
  have hInvalid : ¬ Valid [1, 2] plane.dims :=
    mt valid_iff.mp (by decide)
  rcases indexing_is_row_major_bijection plane hPlane with
    ⟨⟨hSize, -⟩, hAnswers, -, -, -, hMemory, hOverwritten⟩
  rcases (hAnswers [1, 2]).2.2 hInvalid with ⟨e, ⟨hGet, hKept⟩, -⟩
  have hFits : FitsMemory 8 plane.dims := by decide
  exact ⟨hPlane, hSize, hValid, (hOverwritten [1, 0] 8 hValid).1,
    hFits, hMemory 8 (by decide) hFits, hInvalid,
    e, hGet, (hKept 8).2⟩

/-
  Elements without a size can be more than half of the machine
  words. In a line of so many, the first element that is too far
  for a signed coordinate has no index list.
-/
theorem far_element_has_no_index :
    let line : Grid Unit := create [2 ^ 63 + 1] ()
    line.Built ∧
      line.items.size = 2 ^ 63 + 1 ∧
      ¬ ∃ index, line.offset index = .ok (2 ^ 63) := by
  intro line
  have hVolume : volume [2 ^ 63 + 1] = 2 ^ 63 + 1 := Nat.mul_one _
  have hBuilt : line.Built := .create _ _ (by omega)
  refine ⟨hBuilt, hBuilt.wellFormed.trans hVolume, ?_⟩
  rintro ⟨index, hOffset⟩
  rcases offset_eq_ok_iff.mp hOffset with ⟨hValid, hPlace⟩
  have hNaturals : naturals index = [2 ^ 63] := by
    rw [← coordinates_place hValid.within, hPlace]
    exact congrArg (fun coord => [coord]) (Nat.div_one _)
  have hMem : 2 ^ 63 ∈ naturals index := by
    rw [hNaturals]
    exact List.mem_cons_self
  exact Nat.lt_irrefl _ (naturals_lt hMem)

end Grid

end QuantumRuntime
