import QuantumRuntime.Proofs.Sequence.Progression
import QuantumRuntime.Sequence.Indexed

/-
  This file proves what a slice selects. Every index of the
  iteration is checked, but since the numbers of a range move in
  one direction, the first and the last of them decide whether
  the slice succeeds. If it does not, the first index outside
  the array is reported.

  Key definitions include:
    * `Indexed.Inside`
    * `Indexed.Selects`

  Key theorems include:
    * `Indexed.slice_eq_mapM`
    * `Indexed.slice_of_outside`
    * `Indexed.slice_eq_ok_iff`
    * `Indexed.slice_selects_or_names_first_bad_index`
-/

namespace QuantumRuntime

------------------------------------------------------------
-- Directions of ranges
------------------------------------------------------------

namespace Range

variable {r : Range}

/- The numbers of a range move in one direction. -/
theorem number_mem_uIcc_of_le
    (r : Range)
    {k last : Nat}
    (hLe : k ≤ last) :
    r.number k ∈ Set.uIcc (r.number 0) (r.number last) := by
  have hSteps : (k : Int) ≤ last := Int.ofNat_le.mpr hLe
  rw [Set.mem_uIcc]
  unfold number
  rcases le_total 0 r.step.toInt with hUp | hDown
  · have := mul_le_mul_of_nonneg_right hSteps hUp
    have := mul_nonneg (Int.natCast_nonneg k) hUp
    omega
  · have := mul_le_mul_of_nonpos_right hSteps hDown
    have := mul_nonpos_of_nonneg_of_nonpos
      (Int.natCast_nonneg k) hDown
    omega

/- The value with a counted index is the element with that index. -/
theorem getElem?_values
    (hFits : r.length < 2 ^ 63)
    {k : Nat}
    (hCounted : k < r.length) :
    r.values[k]? = some (r.element k) := by
  rw [values, count_eq_length hFits, List.getElem?_map,
    List.getElem?_range hCounted, Option.map_some]

/- Steps of one count every integer between the ends. -/
theorem length_of_unit_step
    (hUnit : r.step.toInt.natAbs = 1)
    (hNear : r.distance < 2 ^ 63) :
    r.length = (r.distance + 1).toNat := by
  rw [length_of_near hNear]
  by_cases hBehind : r.IsBehind
  · rw [if_pos hBehind]
    rw [isBehind_iff] at hBehind
    omega
  · rw [if_neg hBehind, hUnit, Nat.div_one]
    rw [isBehind_iff] at hBehind
    omega

end Range

namespace Indexed

variable {α : Type}
variable {items : Array α}

------------------------------------------------------------
-- Single elements
------------------------------------------------------------

/- An integer is a position of an array. -/
def Inside
    (items : Array α)
    (x : Int) : Prop :=
  0 ≤ x ∧ x < items.size

instance
    (items : Array α)
    (x : Int) :
    Decidable (Inside items x) := by
  unfold Inside
  infer_instance

theorem get_of_inside
    {index : Int64}
    (hInside : Inside items index.toInt) :
    ∃ value,
      get items index = .ok value ∧
        items[index.toInt.toNat]? = some value := by
  rcases hInside with ⟨hLeast, hGreatest⟩
  have hPosition : index.toInt.toNat < items.size := by
    omega
  have hFound := Array.getElem?_eq_getElem hPosition
  refine ⟨_, ?_, hFound⟩
  simp only [get, hFound, if_pos hLeast]

theorem get_of_outside
    {index : Int64}
    (hOutside : ¬ Inside items index.toInt) :
    get items index =
      .error (.indexOutOfRange index items.size) := by
  unfold get
  split
  · next value hFound =>
      refine if_neg fun hLeast => hOutside ⟨hLeast, ?_⟩
      have hPosition := (Array.getElem?_eq_some_iff.mp hFound).1
      omega
  · rfl

------------------------------------------------------------
-- Traversals
------------------------------------------------------------

/- A slice gets the elements at the values of the iteration. -/
theorem selectFrom_eq_mapM
    (items : Array α)
    (r : Range)
    (first remaining : Nat) :
    selectFrom items r first remaining =
      ((List.range' first remaining).map r.element).mapM
        (get items) := by
  induction remaining generalizing first with
  | zero => rfl
  | succ remaining ih =>
      rw [selectFrom, List.range'_succ, List.map_cons,
        List.mapM_cons]
      simp only [ih]
      rfl

theorem slice_eq_mapM
    (items : Array α)
    (r : Range) :
    slice items r =
      (r.values.mapM (get items)).map List.toArray := by
  rw [slice, selectFrom_eq_mapM, ← List.range_eq_range',
    Range.values]
  cases ((List.range r.count).map r.element).mapM (get items) <;>
    rfl

/- Indices that are all inside give their elements in order. -/
theorem mapM_get_of_inside
    (indices : List Int64)
    (hInside : ∀ index ∈ indices, Inside items index.toInt) :
    ∃ selected,
      indices.mapM (get items) = .ok selected ∧
        selected.map some =
          indices.map fun index => items[index.toInt.toNat]? := by
  induction indices with
  | nil => exact ⟨[], rfl, rfl⟩
  | cons index indices ih =>
      rcases get_of_inside (hInside index List.mem_cons_self) with
        ⟨value, hGet, hFound⟩
      rcases ih fun other hMem =>
          hInside other (List.mem_cons_of_mem _ hMem) with
        ⟨selected, hRest, hSelected⟩
      refine ⟨value :: selected, ?_, ?_⟩
      · rw [List.mapM_cons, hGet, hRest]
        rfl
      · rw [List.map_cons, List.map_cons, hSelected, hFound]

/- The first index that is outside stops a traversal. -/
theorem mapM_get_of_outside
    (before after : List Int64)
    {bad : Int64}
    (hInside : ∀ index ∈ before, Inside items index.toInt)
    (hOutside : ¬ Inside items bad.toInt) :
    (before ++ bad :: after).mapM (get items) =
      .error (.indexOutOfRange bad items.size) := by
  induction before with
  | nil =>
      rw [List.nil_append, List.mapM_cons,
        get_of_outside hOutside]
      rfl
  | cons index before ih =>
      rcases get_of_inside (hInside index List.mem_cons_self) with
        ⟨value, hGet, -⟩
      have hRest := ih fun other hMem =>
        hInside other (List.mem_cons_of_mem _ hMem)
      rw [List.cons_append, List.mapM_cons, hGet, hRest]
      rfl

------------------------------------------------------------
-- Slices
------------------------------------------------------------

/-
  An array has, in order, the elements of another one at the
  numbers that a range counts.
-/
def Selects
    (items : Array α)
    (r : Range)
    (selected : Array α) : Prop :=
  selected.size = r.length ∧
    ∀ k, k < r.length →
      ∃ position : Nat,
        r.number k = position ∧
          position < items.size ∧
          selected[k]? = items[position]?

/- What a range selects is determined. -/
theorem Selects.unique
    {r : Range}
    {selected selected' : Array α}
    (hSelects : Selects items r selected)
    (hSelects' : Selects items r selected') :
    selected = selected' := by
  refine Array.ext_getElem? fun k => ?_
  by_cases hCounted : k < r.length
  · rcases hSelects.2 k hCounted with ⟨position, hNumber, -, hItem⟩
    rcases hSelects'.2 k hCounted with ⟨position', hNumber', -, hItem'⟩
    have hSame : position = position' :=
      Int.ofNat.inj (hNumber.symm.trans hNumber')
    rw [hItem, hItem', hSame]
  · have hPast := not_lt.mp hCounted
    rw [Array.getElem?_eq_none (hSelects.1.trans_le hPast),
      Array.getElem?_eq_none (hSelects'.1.trans_le hPast)]

/- All numbers of a range that selects something are inside. -/
theorem Selects.inside
    {r : Range}
    {selected : Array α}
    (hSelects : Selects items r selected) :
    ∀ k, k < r.length → Inside items (r.number k) := by
  intro k hCounted
  rcases hSelects.2 k hCounted with ⟨position, hNumber, hLt, -⟩
  rw [hNumber]
  exact ⟨Int.natCast_nonneg position, Int.ofNat_lt.mpr hLt⟩

variable {r : Range}

/- If every counted number is inside, the slice succeeds. -/
theorem slice_of_inside
    (hFits : r.length < 2 ^ 63)
    (hInside : ∀ k, k < r.length → Inside items (r.number k)) :
    ∃ selected,
      slice items r = .ok selected ∧ Selects items r selected := by
  have hValues :
      ∀ index ∈ r.values, Inside items index.toInt := by
    intro index hMem
    rcases List.mem_map.mp hMem with ⟨k, hIndex, rfl⟩
    rw [List.mem_range, Range.count_eq_length hFits] at hIndex
    rw [Range.toInt_element hIndex]
    exact hInside k hIndex
  rcases mapM_get_of_inside r.values hValues with
    ⟨selected, hGet, hSelected⟩
  refine ⟨selected.toArray, ?_, ?_, fun k hCounted => ?_⟩
  · rw [slice_eq_mapM, hGet]
    rfl
  · have hLengths := congrArg List.length hSelected
    rw [List.length_map, List.length_map,
      Range.length_values hFits] at hLengths
    exact hLengths
  · rcases hInside k hCounted with ⟨hLeast, hGreatest⟩
    refine ⟨(r.number k).toNat, by omega, by omega, ?_⟩
    have hItem := congrArg (·[k]?) hSelected
    simp only [List.getElem?_map, Range.getElem?_values hFits hCounted,
      Option.map_some, Range.toInt_element hCounted] at hItem
    rcases Option.map_eq_some_iff.mp hItem with
      ⟨value, hValue, hFound⟩
    rw [← hFound, ← hValue]
    exact List.getElem?_toArray

/-
  If a counted number is outside and those before it are not,
  the slice names it.
-/
theorem slice_of_outside
    (hFits : r.length < 2 ^ 63)
    {k : Nat}
    (hCounted : k < r.length)
    (hOutside : ¬ Inside items (r.number k))
    (hFirst : ∀ j, j < k → Inside items (r.number j)) :
    slice items r =
      .error (.indexOutOfRange (r.element k) items.size) := by
  have hLength : k < r.values.length := by
    rwa [Range.length_values hFits]
  have hSplit :
      r.values =
        r.values.take k ++ r.element k :: r.values.drop (k + 1) := by
    have hItem := Range.getElem?_values hFits hCounted
    rw [List.getElem?_eq_getElem hLength, Option.some_inj] at hItem
    rw [← hItem, ← List.drop_eq_getElem_cons hLength,
      List.take_append_drop]
  -- The values in front of the bad one have the smaller indices.
  have hBefore :
      ∀ index ∈ r.values.take k, Inside items index.toInt := by
    intro index hMem
    rw [Range.values, ← List.map_take, List.take_range,
      Range.count_eq_length hFits] at hMem
    rcases List.mem_map.mp hMem with ⟨j, hIndex, rfl⟩
    rw [List.mem_range, lt_min_iff] at hIndex
    rw [Range.toInt_element hIndex.2]
    exact hFirst j hIndex.1
  have hBad : ¬ Inside items (r.element k).toInt := by
    rwa [Range.toInt_element hCounted]
  rw [slice_eq_mapM, hSplit,
    mapM_get_of_outside _ _ hBefore hBad]
  rfl

/-
  A slice that does not find all of its numbers inside names the
  first one that is not.
-/
theorem exists_first_outside
    (hFits : r.length < 2 ^ 63)
    (hOutside : ¬ ∀ k, k < r.length → Inside items (r.number k)) :
    ∃ k, k < r.length ∧
      ¬ Inside items (r.number k) ∧
      (∀ j, j < k → Inside items (r.number j)) ∧
      slice items r =
        .error (.indexOutOfRange (r.element k) items.size) := by
  have hSome :
      ∃ k, k < r.length ∧ ¬ Inside items (r.number k) := by
    push Not at hOutside
    exact hOutside
  rcases Nat.find_spec hSome with ⟨hCounted, hBad⟩
  have hFirst :
      ∀ j, j < Nat.find hSome → Inside items (r.number j) :=
    fun j hBefore => not_not.mp fun hBadToo =>
      Nat.find_min hSome hBefore
        ⟨hBefore.trans hCounted, hBadToo⟩
  exact ⟨Nat.find hSome, hCounted, hBad, hFirst,
    slice_of_outside hFits hCounted hBad hFirst⟩

/- A slice succeeds with the array that the range selects. -/
theorem slice_eq_ok_iff
    (hFits : r.length < 2 ^ 63)
    (selected : Array α) :
    slice items r = .ok selected ↔ Selects items r selected := by
  constructor
  · intro hSlice
    by_cases hInside : ∀ k, k < r.length → Inside items (r.number k)
    · rcases slice_of_inside hFits hInside with
        ⟨selected', hSlice', hSelects⟩
      cases hSlice.symm.trans hSlice'
      exact hSelects
    · rcases exists_first_outside hFits hInside with
        ⟨k, -, -, -, hError⟩
      cases hSlice.symm.trans hError
  · intro hSelects
    rcases slice_of_inside hFits hSelects.inside with
      ⟨selected', hSlice, hSelects'⟩
    rw [hSlice, hSelects'.unique hSelects]

/- The ends of a range decide whether all of its numbers are inside. -/
theorem inside_ends_iff
    (hCounted : 0 < r.length) :
    (∀ k, k < r.length → Inside items (r.number k)) ↔
      Inside items (r.number 0) ∧
        Inside items (r.number (r.length - 1)) := by
  constructor
  · intro hInside
    exact ⟨hInside 0 hCounted, hInside _ (Nat.sub_one_lt_of_lt hCounted)⟩
  · rintro ⟨⟨hFirstLeast, hFirstGreatest⟩, hLastLeast, hLastGreatest⟩
      k hIndex
    have hBetween :=
      Set.mem_uIcc.mp
        (r.number_mem_uIcc_of_le (Nat.le_sub_one_of_lt hIndex))
    constructor <;> omega

------------------------------------------------------------
-- Contiguous slices
------------------------------------------------------------

/- The position before one of an array in memory is computed exactly. -/
theorem toInt_ofNat_sub_one
    {n : Nat}
    (hFits : n < 2 ^ 63) :
    (Int64.ofNat n - 1).toInt = n - 1 := by
  have hOne : (1 : Int64).toInt = 1 := rfl
  rw [Int64.toInt_sub, Int64.toInt_ofNat_of_lt hFits, hOne]
  exact Int.bmod_eq_of_le_mul_two (by omega) (by omega)

/- A range of consecutive positions selects an extract. -/
theorem slice_inclusive
    (hItems : items.size < 2 ^ 63)
    {first last : Nat}
    (hFirst : first ≤ items.size)
    (hLast : last ≤ items.size) :
    slice items
        (.inclusive (Int64.ofNat first) (Int64.ofNat last - 1)) =
      .ok (items.extract first last) := by
  let r : Range :=
    .inclusive (Int64.ofNat first) (Int64.ofNat last - 1)
  have hStart : r.start.toInt = first :=
    Int64.toInt_ofNat_of_lt (hFirst.trans_lt hItems)
  have hFinish : r.finish.toInt = last - 1 :=
    toInt_ofNat_sub_one (hLast.trans_lt hItems)
  have hStep : r.step.toInt = 1 := rfl
  have hUp : 0 < r.step := show (0 : Int64) < 1 by decide
  have hDistance : r.distance = last - 1 - first := by
    rw [Range.distance, if_pos hUp, hStart, hFinish]
  have hLength : r.length = last - first := by
    rw [Range.length_of_unit_step (by rw [hStep]; rfl) (by omega)]
    omega
  change slice items r = _
  rw [slice_eq_ok_iff (by omega)]
  refine ⟨?_, fun k hCounted => ⟨first + k, ?_, ?_, ?_⟩⟩
  · rw [Array.size_extract]
    omega
  · rw [Range.number, hStart, hStep, mul_one, Nat.cast_add]
  · omega
  · rw [Array.getElem?_extract, if_pos (by omega)]

/- A range back from the last position selects the reverse. -/
theorem slice_backwards
    (hItems : items.size < 2 ^ 63) :
    slice items
        { start := Int64.ofNat items.size - 1, step := -1
          finish := 0 } =
      .ok items.reverse := by
  let r : Range :=
    { start := Int64.ofNat items.size - 1, step := -1, finish := 0 }
  have hStart : r.start.toInt = items.size - 1 :=
    toInt_ofNat_sub_one hItems
  have hFinish : r.finish.toInt = 0 := rfl
  have hStep : r.step.toInt = -1 := rfl
  have hDown : ¬ 0 < r.step := show ¬ (0 : Int64) < -1 by decide
  have hDistance : r.distance = items.size - 1 := by
    rw [Range.distance, if_neg hDown, hStart, hFinish, sub_zero]
  have hLength : r.length = items.size := by
    rw [Range.length_of_unit_step (by rw [hStep]; rfl) (by omega)]
    omega
  change slice items r = _
  rw [slice_eq_ok_iff (by omega)]
  refine ⟨?_, fun k hCounted => ⟨items.size - 1 - k, ?_, ?_, ?_⟩⟩
  · rw [Array.size_reverse, hLength]
  · rw [Range.number, hStart, hStep]
    omega
  · omega
  · rw [Array.getElem?_reverse (by omega)]

/-
  Let an array have fewer than `2 ^ 63` elements, as every array
  in memory. A slice by a range with a positive length below
  `2 ^ 63` succeeds exactly when the start and the last number of
  the range are positions of the array. The result then has as
  many elements as the length says, and the one with an index is
  the element of the array at the number with that index.
  Otherwise the error carries the length of the array and the
  first number that is no position. A range without elements
  gives an empty array.

  So an array cut in two is put together by appending the parts,
  and slicing it backwards twice gives it back.
-/
theorem slice_selects_or_names_first_bad_index
    (items : Array α)
    (hItems : items.size < 2 ^ 63) :
    (∀ r : Range, 0 < r.length → r.length < 2 ^ 63 →
      ((∃ selected, slice items r = .ok selected) ↔
        Inside items r.start.toInt ∧
          Inside items
            (r.start.toInt + (r.length - 1) * r.step.toInt)) ∧
        (∀ selected, slice items r = .ok selected →
          selected.size = r.length ∧
            ∀ k, k < r.length →
              ∃ position : Nat,
                r.start.toInt + k * r.step.toInt = position ∧
                  position < items.size ∧
                  selected[k]? = items[position]?) ∧
        ∀ e, slice items r = .error e →
          ∃ k, k < r.length ∧
            ¬ Inside items (r.number k) ∧
            (∀ j, j < k → Inside items (r.number j)) ∧
            ∃ index : Int64,
              index.toInt = r.start.toInt + k * r.step.toInt ∧
                e = .indexOutOfRange index items.size) ∧
      (∀ r : Range, r.length = 0 → slice items r = .ok #[]) ∧
      (∀ k, k ≤ items.size →
        (do
          let front ← slice items
            (.inclusive 0 (Int64.ofNat k - 1))
          let back ← slice items
            (.inclusive (Int64.ofNat k) (Int64.ofNat items.size - 1))
          return front ++ back) = .ok items) ∧
      let backwards : Range :=
        { start := Int64.ofNat items.size - 1, step := -1
          finish := 0 }
      (do
        let once ← slice items backwards
        slice once backwards) = .ok items := by
  refine ⟨fun r hCounted hFits => ⟨?_, ?_, ?_⟩, fun r hEmpty => ?_,
    fun k hLe => ?_, ?_⟩
  · have hFirst : r.number 0 = r.start.toInt := by
      rw [Range.number, Nat.cast_zero, zero_mul, add_zero]
    have hLast :
        r.number (r.length - 1) =
          r.start.toInt + (r.length - 1) * r.step.toInt := by
      rw [Range.number, Nat.cast_sub hCounted, Nat.cast_one]
    rw [← hLast, ← hFirst, ← inside_ends_iff hCounted]
    constructor
    · rintro ⟨selected, hSlice⟩
      exact ((slice_eq_ok_iff hFits selected).mp hSlice).inside
    · intro hInside
      rcases slice_of_inside hFits hInside with
        ⟨selected, hSlice, -⟩
      exact ⟨selected, hSlice⟩
  · exact fun selected hSlice =>
      (slice_eq_ok_iff hFits selected).mp hSlice
  · intro e hSlice
    by_cases hInside : ∀ k, k < r.length → Inside items (r.number k)
    · rcases slice_of_inside hFits hInside with ⟨selected, hOk, -⟩
      cases hSlice.symm.trans hOk
    · rcases exists_first_outside hFits hInside with
        ⟨k, hIndex, hBad, hFirst, hError⟩
      cases hSlice.symm.trans hError
      exact ⟨k, hIndex, hBad, hFirst, r.element k,
        Range.toInt_element hIndex, rfl⟩
  · rw [slice_eq_ok_iff (by omega)]
    exact ⟨hEmpty.symm, fun k hCounted => by omega⟩
  · have hFront :
        slice items (.inclusive 0 (Int64.ofNat k - 1)) =
          .ok (items.extract 0 k) :=
      slice_inclusive hItems (Nat.zero_le _) hLe
    have hBack := slice_inclusive hItems hLe le_rfl
    rw [hFront, hBack]
    change Except.ok (items.extract 0 k ++ items.extract k) = _
    rw [Array.extract_append_extract, Nat.zero_min,
      max_eq_right hLe, Array.extract_size]
  · intro backwards
    have hOnce : slice items backwards = .ok items.reverse :=
      slice_backwards hItems
    have hTwice :=
      @slice_backwards _ items.reverse (by rwa [Array.size_reverse])
    rw [Array.size_reverse, Array.reverse_reverse] at hTwice
    rw [hOnce]
    exact hTwice

/-
  A range that counts back over every other position of five
  selects three elements. One that leads from the fourth position
  to an eighth fails at the sixth, and names it.
-/
theorem every_other_element_is_selected :
    let items : Array Nat := #[10, 20, 30, 40, 50]
    let back : Range := { start := 4, step := -2, finish := 0 }
    let past : Range := .inclusive 3 7
    items.size < 2 ^ 63 ∧
      0 < back.length ∧
      back.length < 2 ^ 63 ∧
      (∃ selected,
        slice items back = .ok selected ∧ selected.size = 3) ∧
      0 < past.length ∧
      past.length < 2 ^ 63 ∧
      slice items past = .error (.indexOutOfRange 5 5) ∧
      ∃ k, k < 5 ∧
        ¬ Inside items (past.number k) ∧
        ∀ j, j < k → Inside items (past.number j) := by
  intro items back past
  have hItems : items.size < 2 ^ 63 := by decide
  have hBack : back.length = 3 := by decide
  have hPast : past.length = 5 := by decide
  have hBackCounted : 0 < back.length := by omega
  have hPastCounted : 0 < past.length := by omega
  have hBackFits : back.length < 2 ^ 63 := by omega
  have hPastFits : past.length < 2 ^ 63 := by omega
  have hEnds :
      Inside items back.start.toInt ∧
        Inside items
          (back.start.toInt + (back.length - 1) * back.step.toInt) := by
    rw [hBack]
    decide
  have hError :
      slice items past = .error (.indexOutOfRange 5 5) := by
    decide
  rcases slice_selects_or_names_first_bad_index items hItems with
    ⟨hRanges, -⟩
  rcases hRanges back hBackCounted hBackFits with
    ⟨hSucceeds, hSelects, -⟩
  rcases hSucceeds.mpr hEnds with ⟨selected, hSlice⟩
  rcases (hRanges past hPastCounted hPastFits).2.2 _ hError with
    ⟨k, hIndex, hBad, hFirst, -⟩
  exact ⟨hItems, hBackCounted, hBackFits,
    ⟨selected, hSlice, (hSelects selected hSlice).1.trans hBack⟩,
    hPastCounted, hPastFits, hError, k, hPast ▸ hIndex, hBad, hFirst⟩

end Indexed

end QuantumRuntime
