import QuantumRuntime.Proofs.Sequence.Places

/-
  This file proves what index lists a grid accepts, which place
  an accepted list names, and which error a refused one meets:
  the length is objected to first, and then the first coordinate
  that lies outside its dimension.

  Key definitions include:
    * `Grid.WellFormed`
    * `Grid.InDimension`
    * `Grid.Valid`
    * `Grid.naturals`
    * `Grid.objection`

  Key theorems include:
    * `Grid.valid_iff`
    * `Grid.offset_of_valid`
    * `Grid.offset_of_objection`
    * `Grid.WellFormed.get_eq_ok_iff`
    * `Grid.naturals_lt_iff`
    * `Grid.exists_valid`
-/

namespace QuantumRuntime

namespace Grid

variable {α : Type}

------------------------------------------------------------
-- Valid index lists
------------------------------------------------------------

/- The elements are as many as the dimensions say. -/
def WellFormed
    (g : Grid α) : Prop :=
  g.items.size = volume g.dims

/- A signed coordinate lies in a dimension. -/
def InDimension
    (index : Int64)
    (dim : Nat) : Prop :=
  0 ≤ index.toInt ∧ index.toInt < dim

instance
    (index : Int64)
    (dim : Nat) :
    Decidable (InDimension index dim) := by
  unfold InDimension
  infer_instance

theorem InDimension.toNat_lt
    {index : Int64}
    {dim : Nat}
    (hIn : InDimension index dim) :
    index.toInt.toNat < dim := by
  rcases hIn with ⟨hLeast, hGreatest⟩
  omega

/- There is a coordinate for each dimension, and it lies in it. -/
def Valid
    (index : List Int64)
    (dims : List Nat) : Prop :=
  List.Forall₂ InDimension index dims

/- The coordinates of a valid index list as natural numbers. -/
def naturals
    (index : List Int64) : List Nat :=
  index.map fun coordinate => coordinate.toInt.toNat

theorem naturals_cons
    (coordinate : Int64)
    (index : List Int64) :
    naturals (coordinate :: index) =
      coordinate.toInt.toNat :: naturals index :=
  rfl

theorem naturals_append
    (front back : List Int64) :
    naturals (front ++ back) = naturals front ++ naturals back :=
  List.map_append

/-
  Why an index list is refused: it has another length than the
  dimensions, or else its first coordinate outside a dimension
  is named with that dimension.
-/
def objection
    (dims : List Nat)
    (index : List Int64) : Option ProgramError :=
  if index.length ≠ dims.length then
    some (.rankMismatch dims.length index.length)
  else
    ((index.zip dims).find?
        fun pair => ¬ InDimension pair.1 pair.2).map
      fun pair => .indexOutOfRange pair.1 pair.2

variable {index index' : List Int64}
variable {dims : List Nat}

/- An index list is valid when there is nothing against it. -/
theorem valid_iff :
    Valid index dims ↔ objection dims index = none := by
  rw [Valid, List.forall₂_iff_zip, objection]
  by_cases hLength : index.length = dims.length
  · rw [if_neg (not_not.mpr hLength), Option.map_eq_none_iff,
      List.find?_eq_none]
    simp [hLength]
  · rw [if_pos hLength]
    simp [hLength]

theorem Valid.within
    (hValid : Valid index dims) :
    Within (naturals index) dims := by
  induction hValid with
  | nil => exact .nil
  | cons hCoordinate _ ih => exact .cons hCoordinate.toNat_lt ih

/- Coordinates that are not negative are told apart and ordered alike. -/
theorem naturals_inj
    (hValid : Valid index dims)
    (hValid' : Valid index' dims) :
    naturals index = naturals index' ↔ index = index' := by
  refine ⟨fun hSame => ?_, congrArg naturals⟩
  induction hValid generalizing index' with
  | nil =>
      cases hValid'
      rfl
  | @cons coordinate dim index dims hCoordinate _ ih =>
      cases hValid' with
      | @cons coordinate' _ index' _ hCoordinate' hRest' =>
          rw [naturals_cons, naturals_cons] at hSame
          rcases List.cons.inj hSame with ⟨hHead, hTail⟩
          have hEq : coordinate.toInt = coordinate'.toInt := by
            have := hCoordinate.1
            have := hCoordinate'.1
            omega
          rw [Int64.toInt_inj.mp hEq, ih hRest' hTail]

theorem naturals_lt_iff
    (hValid : Valid index dims)
    (hValid' : Valid index' dims) :
    naturals index < naturals index' ↔ index < index' := by
  induction hValid generalizing index' with
  | nil =>
      cases hValid'
      exact iff_of_false (List.lt_irrefl _) (List.lt_irrefl _)
  | @cons coordinate dim index dims hCoordinate _ ih =>
      cases hValid' with
      | @cons coordinate' _ index' _ hCoordinate' hRest' =>
          have hLeast := hCoordinate.1
          have hLeast' := hCoordinate'.1
          have hLt :
              coordinate.toInt.toNat < coordinate'.toInt.toNat ↔
                coordinate < coordinate' := by
            rw [Int64.lt_iff_toInt_lt]
            omega
          have hEq :
              coordinate.toInt.toNat = coordinate'.toInt.toNat ↔
                coordinate = coordinate' := by
            rw [← Int64.toInt_inj]
            omega
          exact (List.cons_lt_cons_iff.trans
            (or_congr hLt (and_congr hEq (ih hRest')))).trans
              List.cons_lt_cons_iff.symm

/- Signed coordinates stay below half of the machine words. -/
theorem naturals_lt
    {coord : Nat}
    (hMem : coord ∈ naturals index) :
    coord < 2 ^ 63 := by
  rcases List.mem_map.mp hMem with ⟨coordinate, -, rfl⟩
  have := coordinate.toInt_lt
  omega

/-
  If no dimension is too large for signed coordinates, all
  coordinates within the dimensions are those of an index list.
-/
theorem exists_valid
    {coords : List Nat}
    (hWithin : Within coords dims)
    (hSigned : ∀ dim ∈ dims, dim ≤ 2 ^ 63) :
    ∃ index, Valid index dims ∧ naturals index = coords := by
  induction hWithin with
  | nil => exact ⟨[], .nil, rfl⟩
  | @cons coord dim coords dims hCoord _ ih =>
      rcases ih fun other hMem =>
          hSigned other (List.mem_cons_of_mem _ hMem) with
        ⟨index, hValid, hNaturals⟩
      have hToInt : (Int64.ofNat coord).toInt = coord :=
        Int64.toInt_ofNat_of_lt
          (hCoord.trans_le (hSigned dim List.mem_cons_self))
      have hIn : InDimension (Int64.ofNat coord) dim := by
        rw [InDimension, hToInt]
        omega
      refine ⟨Int64.ofNat coord :: index, .cons hIn hValid, ?_⟩
      rw [← hNaturals, naturals_cons, hToInt, Int.toNat_natCast]

------------------------------------------------------------
-- Offsets
------------------------------------------------------------

theorem checkIndex_of_inDimension
    {coordinate : Int64}
    {dim : Nat}
    (hIn : InDimension coordinate dim) :
    checkIndex coordinate dim = .ok coordinate.toInt.toNat :=
  if_pos hIn

theorem checkIndex_of_outside
    {coordinate : Int64}
    {dim : Nat}
    (hOutside : ¬ InDimension coordinate dim) :
    checkIndex coordinate dim =
      .error (.indexOutOfRange coordinate dim) :=
  if_neg hOutside

theorem offsetFrom_cons
    (before : Nat)
    (coordinate : Int64)
    (dim : Nat) :
    offsetFrom before (coordinate :: index) (dim :: dims) =
      if InDimension coordinate dim then
        offsetFrom (before * dim + coordinate.toInt.toNat) index dims
      else
        .error (.indexOutOfRange coordinate dim) := by
  rw [offsetFrom]
  split
  · next hIn =>
      rw [checkIndex_of_inDimension hIn]
      rfl
  · next hOutside =>
      rw [checkIndex_of_outside hOutside]
      rfl

/- The accumulated offset counts blocks of the dimensions that follow. -/
theorem offsetFrom_of_valid
    (hValid : Valid index dims)
    (before : Nat) :
    offsetFrom before index dims =
      .ok (before * volume dims + place (naturals index) dims) := by
  induction hValid generalizing before with
  | nil =>
      rw [offsetFrom]
      · exact congrArg Except.ok (Nat.mul_one before).symm
      · simp
  | @cons coordinate dim index dims hCoordinate _ ih =>
      rw [offsetFrom_cons, if_pos hCoordinate, ih, volume_cons,
        naturals_cons, place]
      exact congrArg Except.ok (by ring)

theorem offsetFrom_of_find?
    {coordinate : Int64}
    {dim : Nat}
    (hFind :
      (index.zip dims).find?
          (fun pair => ¬ InDimension pair.1 pair.2) =
        some (coordinate, dim))
    (before : Nat) :
    offsetFrom before index dims =
      .error (.indexOutOfRange coordinate dim) := by
  induction index generalizing dims before with
  | nil => cases hFind
  | cons first index ih =>
      cases dims with
      | nil => cases hFind
      | cons size dims =>
          rw [List.zip_cons_cons, List.find?_cons] at hFind
          rw [offsetFrom_cons]
          by_cases hIn : InDimension first size
          · rw [if_pos hIn]
            simp only [hIn] at hFind
            exact ih hFind _
          · rw [if_neg hIn]
            simp only [hIn] at hFind
            cases hFind
            rfl

variable {g : Grid α}

theorem offset_of_valid
    (hValid : Valid index g.dims) :
    g.offset index = .ok (place (naturals index) g.dims) := by
  rw [offset, if_neg (not_not.mpr hValid.length_eq),
    offsetFrom_of_valid hValid, zero_mul, zero_add]

theorem offset_of_objection
    {e : ProgramError}
    (hObjection : objection g.dims index = some e) :
    g.offset index = .error e := by
  unfold objection at hObjection
  unfold offset
  split at hObjection
  · next hLength =>
      cases hObjection
      exact if_pos hLength
  · next hLength =>
      rw [if_neg hLength]
      rcases Option.map_eq_some_iff.mp hObjection with
        ⟨⟨coordinate, dim⟩, hFind, rfl⟩
      exact offsetFrom_of_find? hFind 0

/- An offset is the place of a valid index list. -/
theorem offset_eq_ok_iff
    {position : Nat} :
    g.offset index = .ok position ↔
      Valid index g.dims ∧
        place (naturals index) g.dims = position := by
  constructor
  · intro hOffset
    cases hObjection : objection g.dims index with
    | none =>
        have hValid := valid_iff.mpr hObjection
        rw [offset_of_valid hValid] at hOffset
        exact ⟨hValid, Except.ok.inj hOffset⟩
    | some e =>
        rw [offset_of_objection hObjection] at hOffset
        cases hOffset
  · rintro ⟨hValid, rfl⟩
    exact offset_of_valid hValid

------------------------------------------------------------
-- Elements
------------------------------------------------------------

theorem WellFormed.place_lt_size
    (hShape : g.WellFormed)
    (hValid : Valid index g.dims) :
    place (naturals index) g.dims < g.items.size := by
  rw [hShape]
  exact place_lt_volume hValid.within

theorem get_of_valid
    (hValid : Valid index g.dims)
    {value : α}
    (hItem : g.items[place (naturals index) g.dims]? = some value) :
    g.get index = .ok value := by
  unfold get
  rw [offset_of_valid hValid]
  simp only [bind, Except.bind, hItem]

theorem get_of_objection
    {e : ProgramError}
    (hObjection : objection g.dims index = some e) :
    g.get index = .error e := by
  unfold get
  rw [offset_of_objection hObjection]
  rfl

/- What a grid answers is the element at the place of a valid list. -/
theorem WellFormed.get_eq_ok_iff
    (hShape : g.WellFormed)
    {value : α} :
    g.get index = .ok value ↔
      Valid index g.dims ∧
        g.items[place (naturals index) g.dims]? = some value := by
  constructor
  · intro hGet
    cases hObjection : objection g.dims index with
    | none =>
        have hValid := valid_iff.mpr hObjection
        have hItem :=
          Array.getElem?_eq_getElem (hShape.place_lt_size hValid)
        rw [get_of_valid hValid hItem] at hGet
        cases hGet
        exact ⟨hValid, hItem⟩
    | some e =>
        rw [get_of_objection hObjection] at hGet
        cases hGet
  · rintro ⟨hValid, hItem⟩
    exact get_of_valid hValid hItem

theorem set_of_valid
    (hValid : Valid index g.dims)
    (value : α) :
    g.set index value =
      .ok { g with
        items :=
          g.items.setIfInBounds
            (place (naturals index) g.dims) value } := by
  unfold set
  rw [offset_of_valid hValid]
  rfl

theorem set_of_objection
    {e : ProgramError}
    (hObjection : objection g.dims index = some e)
    (value : α) :
    g.set index value = .error e := by
  unfold set
  rw [offset_of_objection hObjection]
  rfl

end Grid

end QuantumRuntime
