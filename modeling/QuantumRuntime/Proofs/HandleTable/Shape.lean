import QuantumRuntime.Proofs.HandleTable.Occupancy

/-
  This file separates what a handle table says about lifetimes
  from the values it stores. The shape of a table is the table
  with its values forgotten. Writing a value keeps the shape,
  and issuing and releasing depend on the shape alone.

  Key definitions include:
    * `HandleTable.shape`
    * `HandleTable.overwrite`

  Key theorems include:
    * `HandleTable.get?_shape`
    * `HandleTable.coherent_of_shape_eq`
    * `HandleTable.checkLive_eq_of_shape_eq`
    * `HandleTable.get?_overwrite`
    * `HandleTable.overwrite_comm`
    * `HandleTable.get?_updateLive`
    * `HandleTable.shape_insert`
    * `HandleTable.shape_without`
-/

namespace QuantumRuntime

attribute [ext] HandleTable

namespace HandleTable

variable {K V W : Type}

------------------------------------------------------------
-- Shapes
------------------------------------------------------------

/- The table with its values forgotten. -/
def shape
    (table : HandleTable K V) : HandleTable K Unit :=
  { slots := table.slots.map (Option.map fun _ => ())
    base := table.base
    free := table.free
    liveCount := table.liveCount }

/- The slots that a shape has. -/
theorem slots_shape
    (table : HandleTable K V)
    (index : Nat) :
    table.shape.slots[index]? =
      table.slots[index]?.map (Option.map fun _ => ()) := by
  simp [shape]

@[simp] theorem slotCount_shape
    (table : HandleTable K V) :
    table.shape.slotCount = table.slotCount := by
  simp [shape, slotCount]

/- A shape has no values left to forget. -/
theorem shape_shape
    (table : HandleTable K V) :
    table.shape.shape = table.shape := by
  simp [shape]

/- A table that has issued nothing holds no values to forget. -/
theorem shape_make
    (recycle : Bool) :
    (make recycle : HandleTable K V).shape = make recycle := by
  cases recycle <;> simp [shape, make, recycling, empty]

/- Occupied slots stay occupied in the shape, and no others. -/
theorem valueAt_shape
    (table : HandleTable K V)
    (index : Nat) :
    table.shape.valueAt index =
      (table.valueAt index).map fun _ => () := by
  rw [valueAt, valueAt, slots_shape]
  cases table.slots[index]? <;> rfl

/- A table is coherent when its shape is. -/
theorem coherent_shape_iff
    (table : HandleTable K V) :
    table.shape.Coherent ↔ table.Coherent := by
  have hCount :
      table.shape.slots.countP Option.isSome =
        table.slots.countP Option.isSome := by
    rw [shape, Array.countP_map]
    congr 1
    funext slot
    exact Option.isSome_map
  have hEmpty :
      ∀ index : Nat,
        table.shape.slots[index]? = some none ↔
          table.slots[index]? = some none := by
    intro index
    rw [slots_shape]
    rcases table.slots[index]? with _ | slot <;> simp
  constructor
  · rintro ⟨hShape, hNodup, hMem⟩
    refine ⟨hShape.trans hCount, hNodup, ?_⟩
    intro free hFree index
    rw [hMem free hFree, hEmpty]
  · rintro ⟨hTable, hNodup, hMem⟩
    refine ⟨hTable.trans hCount.symm, hNodup, ?_⟩
    intro free hFree index
    rw [hMem free hFree, hEmpty]

/- Tables of one shape are coherent together. -/
theorem coherent_of_shape_eq
    {table : HandleTable K V}
    {other : HandleTable K W}
    (hShape : other.shape = table.shape)
    (hTable : table.Coherent) :
    other.Coherent := by
  rw [← coherent_shape_iff, hShape, coherent_shape_iff]
  exact hTable

variable [HandleKey K]

/- A key is live in the shape when it is live. -/
theorem get?_shape
    (table : HandleTable K V)
    (key : K) :
    table.shape.get? key = (table.get? key).map fun _ => () := by
  rw [get?_eq, get?_eq]
  by_cases hBase : table.base ≤ HandleKey.raw key
  · rw [if_pos hBase, if_pos (by exact hBase)]
    exact valueAt_shape table _
  · rw [if_neg hBase, if_neg (by exact hBase)]
    rfl

@[simp] theorem issued_shape_iff
    (table : HandleTable K V)
    (key : K) :
    table.shape.Issued key ↔ table.Issued key := by
  unfold Issued
  rw [slotCount_shape]
  rfl

/- Tables of one shape have the same live keys. -/
theorem isSome_get?_of_shape_eq
    {table : HandleTable K V}
    {other : HandleTable K W}
    (hShape : other.shape = table.shape)
    (key : K) :
    (other.get? key).isSome = (table.get? key).isSome := by
  have hKey := congrArg (fun t => (t.get? key).isSome) hShape
  simpa [get?_shape] using hKey

/- Tables of one shape have issued the same keys. -/
theorem issued_iff_of_shape_eq
    {table : HandleTable K V}
    {other : HandleTable K W}
    (hShape : other.shape = table.shape)
    (key : K) :
    other.Issued key ↔ table.Issued key := by
  rw [← issued_shape_iff other, hShape, issued_shape_iff]

/- Tables of one shape report a key that is not live alike. -/
theorem violation_eq_of_shape_eq
    {table : HandleTable K V}
    {other : HandleTable K W}
    (hShape : other.shape = table.shape)
    (key : K)
    (operation : String) :
    other.violation key operation =
      table.violation key operation := by
  rw [violation_eq, violation_eq]
  simp only [issued_iff_of_shape_eq hShape]

/- Tables of one shape accept the same lists of keys. -/
theorem checkLive_eq_of_shape_eq
    {table : HandleTable K V}
    {other : HandleTable K W}
    (hShape : other.shape = table.shape)
    (operation : String)
    (keys : List K) :
    other.checkLive operation keys =
      table.checkLive operation keys := by
  induction keys with
  | nil => rfl
  | cons key rest ih =>
      have hLive := isSome_get?_of_shape_eq hShape key
      unfold checkLive
      rw [ih]
      cases hKey : table.get? key with
      | some value =>
          rw [hKey] at hLive
          rcases Option.isSome_iff_exists.mp hLive with
            ⟨value', hOther⟩
          rw [get_of_live hKey, get_of_live hOther]
          rfl
      | none =>
          have hOther : other.get? key = none := by
            simpa [hKey] using hLive
          rw [get_of_dead hKey, get_of_dead hOther,
            violation_eq_of_shape_eq hShape]
          rfl

------------------------------------------------------------
-- Issuing and releasing
------------------------------------------------------------

/- The issued key depends on the shape. -/
theorem insert_fst_shape
    (table : HandleTable K V)
    (value : V) :
    (table.shape.insert () : K × HandleTable K Unit).1 =
      (table.insert value).1 := by
  rw [insert_fst, insert_fst]
  simp [nextIndex, shape]

/- Storing a value stores a mark in the shape. -/
theorem shape_insert
    (table : HandleTable K V)
    (value : V) :
    (table.insert value : K × HandleTable K V).2.shape =
      (table.shape.insert () : K × HandleTable K Unit).2 := by
  rcases table.free_cases with ⟨index, rest, hFree⟩ | hFull
  · have hShape : table.shape.free = some (index :: rest) := hFree
    rw [insert_of_free hFree, insert_of_free hShape]
    simp [shape, Array.map_setIfInBounds]
  · have hShape :
        ∀ index rest,
          table.shape.free ≠ some (index :: rest) := hFull
    rw [insert_of_full hFull, insert_of_full hShape]
    simp [shape]

/- Releasing a key releases it in the shape. -/
theorem shape_without
    (table : HandleTable K V)
    (key : K) :
    (table.without key).shape = table.shape.without key := by
  simp [shape, without, Array.map_setIfInBounds]

------------------------------------------------------------
-- Writing
------------------------------------------------------------

/- The table after a value has been stored behind a live key. -/
def overwrite
    (table : HandleTable K V)
    (key : K)
    (value : V) : HandleTable K V :=
  { table with
    slots :=
      table.slots.setIfInBounds
        (HandleKey.raw key - table.base) (some value) }

@[simp] theorem base_overwrite
    (table : HandleTable K V)
    (key : K)
    (value : V) :
    (table.overwrite key value).base = table.base :=
  rfl

/- A live key can be written. -/
theorem replace_of_live
    {table : HandleTable K V}
    {key : K}
    {old : V}
    (hLive : table.get? key = some old)
    (operation : String)
    (value : V) :
    table.replace key operation value =
      .ok (table.overwrite key value) := by
  have hIndex :
      table.indexOf key =
        some (HandleKey.raw key - table.base) := by
    rw [indexOf_eq, if_pos (issued_of_get?_eq_some table hLive)]
  simp [replace, hIndex, hLive, overwrite]

/- The slots after a live key has been written. -/
theorem slots_overwrite
    {table : HandleTable K V}
    {key : K}
    (hIssued : table.Issued key)
    (value : V)
    (index : Nat) :
    (table.overwrite key value).slots[index]? =
      if index = HandleKey.raw key - table.base then
        some (some value)
      else
        table.slots[index]? := by
  have hBound :
      HandleKey.raw key - table.base < table.slots.size := by
    unfold Issued slotCount at hIssued
    omega
  unfold overwrite
  by_cases hIndex : index = HandleKey.raw key - table.base
  · simp [hIndex, hBound]
  · simp [hIndex, Ne.symm hIndex]

/- A written key finds the new value; the others are unchanged. -/
theorem get?_overwrite
    [DecidableEq K]
    {table : HandleTable K V}
    {key : K}
    (hIssued : table.Issued key)
    (value : V)
    (other : K) :
    (table.overwrite key value).get? other =
      if other = key then some value else table.get? other := by
  rw [get?_eq, get?_eq, base_overwrite]
  by_cases hKey : other = key
  · subst hKey
    rw [if_pos rfl, if_pos hIssued.1, valueAt,
      slots_overwrite hIssued, if_pos rfl, Option.join_some]
  · have hRaw : HandleKey.raw other ≠ HandleKey.raw key :=
      fun hEq => hKey (HandleKey.raw_injective hEq)
    have hIssuedBase := hIssued.1
    rw [if_neg hKey]
    by_cases hBase : table.base ≤ HandleKey.raw other
    · rw [if_pos hBase, if_pos hBase, valueAt,
        slots_overwrite hIssued, if_neg (by omega), valueAt]
    · rw [if_neg hBase, if_neg hBase]

/- Writing keeps the shape. -/
theorem shape_overwrite
    {table : HandleTable K V}
    {key : K}
    {old : V}
    (hLive : table.get? key = some old)
    (value : V) :
    (table.overwrite key value).shape = table.shape := by
  have hIssued := issued_of_get?_eq_some table hLive
  ext1
  · apply Array.ext_getElem?
    intro index
    rw [slots_shape, slots_shape, slots_overwrite hIssued]
    by_cases hIndex : index = HandleKey.raw key - table.base
    · rw [get?_eq, if_pos hIssued.1, ← hIndex, valueAt,
        Option.join_eq_some_iff] at hLive
      rw [if_pos hIndex, hLive]
      rfl
    · rw [if_neg hIndex]
  · rfl
  · rfl
  · rfl

/- The value that is written last is the one that stays. -/
@[simp] theorem overwrite_overwrite
    (table : HandleTable K V)
    (key : K)
    (value earlier : V) :
    (table.overwrite key earlier).overwrite key value =
      table.overwrite key value := by
  simp [overwrite]

/- Writing the value that a live key holds changes nothing. -/
theorem overwrite_of_live
    {table : HandleTable K V}
    {key : K}
    {value : V}
    (hLive : table.get? key = some value) :
    table.overwrite key value = table := by
  have hIssued := issued_of_get?_eq_some table hLive
  rw [get?_eq, if_pos hIssued.1, valueAt,
    Option.join_eq_some_iff] at hLive
  ext1
  · apply Array.ext_getElem?
    intro index
    rw [slots_overwrite hIssued]
    by_cases hIndex : index = HandleKey.raw key - table.base
    · rw [if_pos hIndex, hIndex, hLive]
    · rw [if_neg hIndex]
  · rfl
  · rfl
  · rfl

/- Two keys that were issued can be written in either order. -/
theorem overwrite_comm
    {table : HandleTable K V}
    {key other : K}
    (hIssued : table.Issued key)
    (hOtherIssued : table.Issued other)
    (hOther : key ≠ other)
    (value value' : V) :
    (table.overwrite key value).overwrite other value' =
      (table.overwrite other value').overwrite key value := by
  have hRaw : HandleKey.raw key ≠ HandleKey.raw other :=
    fun hEq => hOther (HandleKey.raw_injective hEq)
  have hBase := hIssued.1
  have hOtherBase := hOtherIssued.1
  have hSlots :
      HandleKey.raw key - table.base ≠
        HandleKey.raw other - table.base := by
    omega
  unfold overwrite
  dsimp only
  rw [Array.setIfInBounds_comm _ _ hSlots]

@[simp] theorem base_updateLive
    (table : HandleTable K V)
    (f : K → V → V) :
    (table.updateLive f).base = table.base :=
  rfl

/- The slots after each live value has been changed. -/
theorem slots_updateLive
    (table : HandleTable K V)
    (f : K → V → V)
    (index : Nat) :
    (table.updateLive f).slots[index]? =
      table.slots[index]?.map
        (Option.map
          (f (HandleKey.ofRaw (table.base + index)))) := by
  simp [updateLive]

/- Changing the live values changes what each live key finds. -/
theorem get?_updateLive
    (table : HandleTable K V)
    (f : K → V → V)
    (key : K) :
    (table.updateLive f).get? key =
      (table.get? key).map (f key) := by
  rw [get?_eq, get?_eq, base_updateLive]
  by_cases hBase : table.base ≤ HandleKey.raw key
  · rw [if_pos hBase, if_pos hBase, valueAt, valueAt,
      slots_updateLive, Nat.add_sub_cancel' hBase,
      HandleKey.ofRaw_raw]
    cases table.slots[HandleKey.raw key - table.base]? <;> rfl
  · rw [if_neg hBase, if_neg hBase, Option.map_none]

/- Changing the live values keeps the shape. -/
theorem shape_updateLive
    (table : HandleTable K V)
    (f : K → V → V) :
    (table.updateLive f).shape = table.shape := by
  ext1
  · apply Array.ext_getElem?
    intro index
    rw [slots_shape, slots_shape, slots_updateLive]
    rcases table.slots[index]? with _ | _ | value <;> rfl
  · rfl
  · rfl
  · rfl

end HandleTable

end QuantumRuntime
