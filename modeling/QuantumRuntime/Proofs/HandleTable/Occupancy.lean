import Mathlib.Data.List.Nodup
import QuantumRuntime.HandleTable

/-
  This file describes handle tables by what a key finds in
  them. Each operation gets one lemma that says how it changes
  the value behind every key, so that later proofs do not look
  at slots.

  Key definitions include:
    * `HandleTable.valueAt`
    * `HandleTable.Issued`
    * `HandleTable.Coherent`

  Key theorems include:
    * `HandleTable.get?_insert`
    * `HandleTable.get?_without`
    * `HandleTable.Coherent.insert`
    * `HandleTable.Coherent.without`
-/

namespace QuantumRuntime

------------------------------------------------------------
-- Keys
------------------------------------------------------------

namespace HandleKey

variable {K : Type} [HandleKey K]

/- Keys with the same raw value are equal. -/
theorem raw_injective :
    Function.Injective (raw : K → Nat) := by
  intro k₁ k₂ hRaw
  rw [← ofRaw_raw k₁, hRaw, ofRaw_raw]

/- A key is the one with a raw value when that is its raw value. -/
theorem ofRaw_eq_iff
    (n : Nat)
    (k : K) :
    ofRaw n = k ↔ n = raw k := by
  constructor
  · rintro rfl
    exact (raw_ofRaw n).symm
  · rintro rfl
    exact ofRaw_raw k

end HandleKey

namespace HandleTable

variable {K V : Type}

------------------------------------------------------------
-- Slots
------------------------------------------------------------

/- The value in a slot, if there is one. -/
def valueAt
    (table : HandleTable K V)
    (index : Nat) : Option V :=
  table.slots[index]?.join

/- There is no value past the last slot. -/
theorem valueAt_of_size_le
    (table : HandleTable K V)
    (index : Nat)
    (hIndex : table.slots.size ≤ index) :
    table.valueAt index = none := by
  simp [valueAt, Array.getElem?_eq_none hIndex]

------------------------------------------------------------
-- Coherent tables
------------------------------------------------------------

/-
  The bookkeeping of a table agrees with its slots: the count
  is the number of occupied slots, and the free list names each
  empty slot once and nothing else.
-/
structure Coherent
    (table : HandleTable K V) : Prop where
  count_eq :
    table.liveCount = table.slots.countP Option.isSome
  free_nodup :
    ∀ free, table.free = some free → free.Nodup
  mem_free_iff :
    ∀ free, table.free = some free →
      ∀ index, index ∈ free ↔ table.slots[index]? = some none

/- The first raw value is zero if nothing else is said. -/
theorem withBase_zero_make
    (recycle : Bool) :
    (make recycle : HandleTable K V).withBase 0 = make recycle := by
  cases recycle <;> rfl

/- A table that has issued nothing is coherent. -/
theorem coherent_make
    (recycle : Bool)
    (base : Nat) :
    ((make recycle : HandleTable K V).withBase base).Coherent := by
  cases recycle <;>
    constructor <;>
    simp [make, withBase, empty, recycling]

------------------------------------------------------------
-- Look-up
------------------------------------------------------------

section

variable [HandleKey K]

/- A key was issued when it names a slot. -/
def Issued
    (table : HandleTable K V)
    (key : K) : Prop :=
  table.base ≤ HandleKey.raw key ∧
    HandleKey.raw key < table.base + table.slotCount

instance
    (table : HandleTable K V)
    (key : K) :
    Decidable (table.Issued key) := by
  unfold Issued
  infer_instance

/- The slot of a key is its distance from the first raw value. -/
theorem indexOf_eq
    (table : HandleTable K V)
    (key : K) :
    table.indexOf key =
      if table.Issued key then
        some (HandleKey.raw key - table.base)
      else
        none := by
  unfold indexOf
  refine if_congr ?_ rfl rfl
  unfold Issued slotCount
  omega

/- What a key finds is the value in its slot. -/
theorem get?_eq
    (table : HandleTable K V)
    (key : K) :
    table.get? key =
      if table.base ≤ HandleKey.raw key then
        table.valueAt (HandleKey.raw key - table.base)
      else
        none := by
  rw [get?, indexOf_eq]
  by_cases hIssued : table.Issued key
  · simp [hIssued, hIssued.1, valueAt]
  · simp only [if_neg hIssued]
    by_cases hBase : table.base ≤ HandleKey.raw key
    · rw [if_pos hBase, valueAt_of_size_le]
      unfold Issued slotCount at hIssued
      omega
    · rw [if_neg hBase]

/- The key of a slot finds the value in it. -/
@[simp] theorem get?_ofRaw
    (table : HandleTable K V)
    (index : Nat) :
    table.get? (HandleKey.ofRaw (table.base + index) : K) =
      table.valueAt index := by
  simp [get?_eq, HandleKey.raw_ofRaw]

/- Only issued keys find a value. -/
theorem issued_of_get?_eq_some
    (table : HandleTable K V)
    {key : K}
    {value : V}
    (hLive : table.get? key = some value) :
    table.Issued key := by
  by_contra hIssued
  rw [get?, indexOf_eq, if_neg hIssued] at hLive
  cases hLive

/- A table that has issued nothing holds nothing. -/
theorem get?_make
    (recycle : Bool)
    (base : Nat)
    (key : K) :
    ((make recycle : HandleTable K V).withBase base).get? key =
      none := by
  cases recycle <;>
    simp [make, withBase, empty, recycling, get?_eq, valueAt]

end

------------------------------------------------------------
-- Storing a new value
------------------------------------------------------------

/- The slot that the next value is stored in. -/
def nextIndex
    (table : HandleTable K V) : Nat :=
  match table.free with
  | some (index :: _) => index
  | _ => table.slots.size

/- A table has an empty slot to offer, or it has none. -/
theorem free_cases
    (table : HandleTable K V) :
    (∃ index rest, table.free = some (index :: rest)) ∨
      ∀ index rest, table.free ≠ some (index :: rest) := by
  by_cases hFree :
      ∃ index rest, table.free = some (index :: rest)
  · exact Or.inl hFree
  · push Not at hFree
    exact Or.inr hFree

theorem nextIndex_of_free
    {table : HandleTable K V}
    {index : Nat}
    {rest : List Nat}
    (hFree : table.free = some (index :: rest)) :
    table.nextIndex = index := by
  simp [nextIndex, hFree]

theorem nextIndex_of_full
    {table : HandleTable K V}
    (hFull : ∀ index rest, table.free ≠ some (index :: rest)) :
    table.nextIndex = table.slots.size := by
  unfold nextIndex
  split
  · next index rest hFree => exact absurd hFree (hFull index rest)
  · rfl

/- The head of the free list is an empty slot. -/
theorem Coherent.slot_of_free
    {table : HandleTable K V}
    (hTable : table.Coherent)
    {index : Nat}
    {rest : List Nat}
    (hFree : table.free = some (index :: rest)) :
    table.slots[index]? = some none :=
  (hTable.mem_free_iff _ hFree index).mp List.mem_cons_self

/- The head of the free list is the number of a slot. -/
theorem Coherent.lt_of_free
    {table : HandleTable K V}
    (hTable : table.Coherent)
    {index : Nat}
    {rest : List Nat}
    (hFree : table.free = some (index :: rest)) :
    index < table.slots.size :=
  (Array.getElem?_eq_some_iff.mp (hTable.slot_of_free hFree)).1

/- The next slot holds no value. -/
theorem Coherent.valueAt_nextIndex
    {table : HandleTable K V}
    (hTable : table.Coherent) :
    table.valueAt table.nextIndex = none := by
  rcases table.free_cases with ⟨index, rest, hFree⟩ | hFull
  · rw [nextIndex_of_free hFree, valueAt,
      hTable.slot_of_free hFree, Option.join_some]
  · rw [nextIndex_of_full hFull, valueAt_of_size_le _ _ (Nat.le_refl _)]

section

variable [HandleKey K]

theorem insert_of_free
    {table : HandleTable K V}
    {index : Nat}
    {rest : List Nat}
    (hFree : table.free = some (index :: rest))
    (value : V) :
    (table.insert value : K × HandleTable K V) =
      (HandleKey.ofRaw (table.base + index),
        { table with
          slots := table.slots.setIfInBounds index (some value)
          free := some rest
          liveCount := table.liveCount + 1 }) := by
  simp [insert, hFree]

theorem insert_of_full
    {table : HandleTable K V}
    (hFull : ∀ index rest, table.free ≠ some (index :: rest))
    (value : V) :
    (table.insert value : K × HandleTable K V) =
      (HandleKey.ofRaw (table.base + table.slots.size),
        { table with
          slots := table.slots.push (some value)
          liveCount := table.liveCount + 1 }) := by
  unfold insert
  split
  · next index rest hFree => exact absurd hFree (hFull index rest)
  · rfl

/- The key of the next slot is issued. -/
theorem insert_fst
    (table : HandleTable K V)
    (value : V) :
    (table.insert value).1 =
      HandleKey.ofRaw (table.base + table.nextIndex) := by
  rcases table.free_cases with ⟨index, rest, hFree⟩ | hFull
  · rw [insert_of_free hFree, nextIndex_of_free hFree]
  · rw [insert_of_full hFull, nextIndex_of_full hFull]

@[simp] theorem base_insert
    (table : HandleTable K V)
    (value : V) :
    (table.insert value).2.base = table.base := by
  unfold insert
  split <;> rfl

@[simp] theorem liveCount_insert
    (table : HandleTable K V)
    (value : V) :
    (table.insert value).2.liveCount = table.liveCount + 1 := by
  unfold insert
  split <;> rfl

/- Issuing does not change whether a table recycles. -/
@[simp] theorem isSome_free_insert
    (table : HandleTable K V)
    (value : V) :
    (table.insert value).2.free.isSome = table.free.isSome := by
  unfold insert
  split
  · next hFree => simp [hFree]
  · rfl

/- The slots after a value has been stored. -/
theorem Coherent.slots_insert
    {table : HandleTable K V}
    (hTable : table.Coherent)
    (value : V)
    (index : Nat) :
    (table.insert value).2.slots[index]? =
      if index = table.nextIndex then
        some (some value)
      else
        table.slots[index]? := by
  rcases table.free_cases with ⟨free, rest, hFree⟩ | hFull
  · rw [insert_of_free hFree, nextIndex_of_free hFree]
    by_cases hIndex : index = free
    · simp [hIndex, hTable.lt_of_free hFree]
    · simp [hIndex, Ne.symm hIndex]
  · rw [insert_of_full hFull, nextIndex_of_full hFull]
    exact Array.getElem?_push

/- The number of slots after a value has been stored. -/
theorem Coherent.size_insert
    {table : HandleTable K V}
    (hTable : table.Coherent)
    (value : V) :
    (table.insert value).2.slots.size =
      max table.slots.size (table.nextIndex + 1) := by
  rcases table.free_cases with ⟨free, rest, hFree⟩ | hFull
  · have hBound := hTable.lt_of_free hFree
    rw [insert_of_free hFree, nextIndex_of_free hFree]
    simp only [Array.size_setIfInBounds]
    omega
  · rw [insert_of_full hFull, nextIndex_of_full hFull]
    simp only [Array.size_push]
    omega

/- Storing a value lets the issued key find it and no other. -/
theorem Coherent.get?_insert
    [DecidableEq K]
    {table : HandleTable K V}
    (hTable : table.Coherent)
    (value : V)
    (key : K) :
    (table.insert value).2.get? key =
      if key = (table.insert value).1 then
        some value
      else
        table.get? key := by
  have hKey :
      key = (table.insert value).1 ↔
        table.base + table.nextIndex = HandleKey.raw key := by
    rw [eq_comm, insert_fst, HandleKey.ofRaw_eq_iff]
  rw [if_congr hKey rfl rfl, get?_eq, get?_eq, base_insert]
  by_cases hBase : table.base ≤ HandleKey.raw key
  · rw [if_pos hBase, if_pos hBase, valueAt,
      hTable.slots_insert]
    by_cases hIndex :
        HandleKey.raw key - table.base = table.nextIndex
    · rw [if_pos hIndex, if_pos (by omega), Option.join_some]
    · rw [if_neg hIndex, if_neg (by omega), valueAt]
  · rw [if_neg hBase, if_neg hBase, if_neg (by omega)]

/- The key that is issued next finds nothing yet. -/
theorem Coherent.get?_insert_fst
    {table : HandleTable K V}
    (hTable : table.Coherent)
    (value : V) :
    table.get? (table.insert value).1 = none := by
  rw [insert_fst, get?_ofRaw, hTable.valueAt_nextIndex]

/- A table that does not recycle issues a new key. -/
theorem not_issued_insert_fst
    (table : HandleTable K V)
    (hFree : table.free = none)
    (value : V) :
    ¬ table.Issued (table.insert value).1 := by
  have hNext : table.nextIndex = table.slots.size :=
    nextIndex_of_full (by simp [hFree])
  simp [insert_fst, Issued, HandleKey.raw_ofRaw, hNext, slotCount]

/- A table that does not recycle issues its keys in order. -/
theorem raw_lt_insert_fst
    (table : HandleTable K V)
    (hFree : table.free = none)
    (value : V)
    {key : K}
    (hIssued : table.Issued key) :
    HandleKey.raw key <
      HandleKey.raw (table.insert value : K × HandleTable K V).1 := by
  have hNext : table.nextIndex = table.slots.size :=
    nextIndex_of_full (by simp [hFree])
  rw [insert_fst, HandleKey.raw_ofRaw, hNext]
  exact hIssued.2

/- The issued keys grow by the one that is handed out. -/
theorem Coherent.issued_insert_iff
    {table : HandleTable K V}
    (hTable : table.Coherent)
    (value : V)
    (key : K) :
    (table.insert value).2.Issued key ↔
      key = (table.insert value).1 ∨ table.Issued key := by
  have hSize := hTable.size_insert value
  rw [eq_comm, insert_fst, HandleKey.ofRaw_eq_iff]
  unfold Issued slotCount
  rw [base_insert, hSize]
  rcases table.free_cases with ⟨free, rest, hFree⟩ | hFull
  · have hBound := hTable.lt_of_free hFree
    rw [nextIndex_of_free hFree]
    omega
  · rw [nextIndex_of_full hFull]
    omega

/- Storing a value occupies one more slot. -/
theorem Coherent.countP_insert
    {table : HandleTable K V}
    (hTable : table.Coherent)
    (value : V) :
    (table.insert value).2.slots.countP Option.isSome =
      table.slots.countP Option.isSome + 1 := by
  rcases table.free_cases with ⟨free, rest, hFree⟩ | hFull
  · have hSlot := hTable.slot_of_free hFree
    rcases Array.getElem?_eq_some_iff.mp hSlot with
      ⟨hBound, hEmpty⟩
    rw [insert_of_free hFree]
    simp [Array.setIfInBounds, hBound, Array.countP_set, hEmpty]
  · rw [insert_of_full hFull]
    simp

/- Issuing keeps a table coherent. -/
theorem Coherent.insert
    {table : HandleTable K V}
    (hTable : table.Coherent)
    (value : V) :
    (table.insert value).2.Coherent := by
  have hSlots := hTable.slots_insert value
  refine ⟨?_, ?_, ?_⟩
  · rw [liveCount_insert, hTable.count_eq,
      hTable.countP_insert value]
  · intro free hNew
    rcases table.free_cases with ⟨index, rest, hFree⟩ | hFull
    · rw [insert_of_free hFree] at hNew
      cases hNew
      exact (hTable.free_nodup _ hFree).of_cons
    · rw [insert_of_full hFull] at hNew
      exact hTable.free_nodup _ hNew
  · intro free hNew index
    rw [hSlots]
    rcases table.free_cases with ⟨head, rest, hFree⟩ | hFull
    · -- The slot just filled left the list with its head.
      rw [insert_of_free hFree] at hNew
      cases hNew
      have hHead :=
        (List.nodup_cons.mp (hTable.free_nodup _ hFree)).1
      have hMem := hTable.mem_free_iff _ hFree index
      rw [nextIndex_of_free hFree]
      by_cases hIndex : index = head
      · simp [hIndex, hHead]
      · simpa [hIndex] using hMem
    · -- A recycling table that had no free slot still has none.
      rw [insert_of_full hFull] at hNew
      have hMem := hTable.mem_free_iff _ hNew index
      cases free with
      | nil =>
          rw [nextIndex_of_full hFull]
          by_cases hIndex : index = table.slots.size
          · simp [hIndex]
          · simpa [hIndex] using hMem
      | cons head rest => exact absurd hNew (hFull head rest)

------------------------------------------------------------
-- Releasing
------------------------------------------------------------

/- The error about a key says whether it was issued. -/
theorem violation_eq
    (table : HandleTable K V)
    (key : K)
    (operation : String) :
    table.violation key operation =
      .contractViolation operation (HandleKey.toHandle key)
        (if table.Issued key then .released else .unknown) := by
  rw [violation, indexOf_eq]
  by_cases hIssued : table.Issued key <;> simp [hIssued]

/- A live key finds its value. -/
theorem get_of_live
    {table : HandleTable K V}
    {key : K}
    {value : V}
    (hLive : table.get? key = some value)
    (operation : String) :
    table.get key operation = .ok value := by
  simp [get, hLive]

/- A key that is not live is an error. -/
theorem get_of_dead
    {table : HandleTable K V}
    {key : K}
    (hDead : table.get? key = none)
    (operation : String) :
    table.get key operation =
      .error (table.violation key operation) := by
  simp [get, hDead]

/- The table after the slot of a key has been emptied. -/
def without
    (table : HandleTable K V)
    (key : K) : HandleTable K V :=
  { table with
    slots :=
      table.slots.setIfInBounds
        (HandleKey.raw key - table.base) none
    free :=
      table.free.map ((HandleKey.raw key - table.base) :: ·)
    liveCount := table.liveCount - 1 }

/- Releasing a live key hands back its value. -/
theorem release_of_live
    {table : HandleTable K V}
    {key : K}
    {value : V}
    (hLive : table.get? key = some value)
    (operation : String) :
    table.release key operation =
      .ok (value, table.without key) := by
  have hIndex :
      table.indexOf key =
        some (HandleKey.raw key - table.base) := by
    rw [indexOf_eq, if_pos (issued_of_get?_eq_some table hLive)]
  simp [release, hIndex, hLive, without]

/- Releasing a key that is not live is an error. -/
theorem release_of_dead
    {table : HandleTable K V}
    {key : K}
    (hDead : table.get? key = none)
    (operation : String) :
    table.release key operation =
      .error (table.violation key operation) := by
  simp [release, hDead]

@[simp] theorem base_without
    (table : HandleTable K V)
    (key : K) :
    (table.without key).base = table.base :=
  rfl

@[simp] theorem isSome_free_without
    (table : HandleTable K V)
    (key : K) :
    (table.without key).free.isSome = table.free.isSome := by
  simp [without]

/- Emptying a slot keeps the number of slots. -/
@[simp] theorem slotCount_without
    (table : HandleTable K V)
    (key : K) :
    (table.without key).slotCount = table.slotCount := by
  simp [without, slotCount]

/- A key stays issued after any key has been released. -/
@[simp] theorem issued_without_iff
    (table : HandleTable K V)
    (key other : K) :
    (table.without key).Issued other ↔ table.Issued other := by
  simp [Issued]

/- The slots after a live key has been released. -/
theorem slots_without
    {table : HandleTable K V}
    {key : K}
    (hIssued : table.Issued key)
    (index : Nat) :
    (table.without key).slots[index]? =
      if index = HandleKey.raw key - table.base then
        some none
      else
        table.slots[index]? := by
  have hBound :
      HandleKey.raw key - table.base < table.slots.size := by
    unfold Issued slotCount at hIssued
    omega
  unfold without
  by_cases hIndex : index = HandleKey.raw key - table.base
  · simp [hIndex, hBound]
  · simp [hIndex, Ne.symm hIndex]

/- A released key finds nothing; the others find what they did. -/
theorem get?_without
    [DecidableEq K]
    {table : HandleTable K V}
    {key : K}
    (hIssued : table.Issued key)
    (other : K) :
    (table.without key).get? other =
      if other = key then none else table.get? other := by
  rw [get?_eq, get?_eq, base_without]
  by_cases hBase : table.base ≤ HandleKey.raw other
  · rw [if_pos hBase, if_pos hBase, valueAt,
      slots_without hIssued]
    by_cases hKey : other = key
    · simp [hKey]
    · have hRaw : HandleKey.raw other ≠ HandleKey.raw key :=
        fun hEq => hKey (HandleKey.raw_injective hEq)
      have hIssuedBase := hIssued.1
      rw [if_neg (by omega), if_neg hKey, valueAt]
  · rw [if_neg hBase, if_neg hBase, ite_self]

/- Releasing a live key leaves one occupied slot less. -/
theorem countP_without
    {table : HandleTable K V}
    {key : K}
    {value : V}
    (hLive : table.get? key = some value) :
    (table.without key).slots.countP Option.isSome =
      table.slots.countP Option.isSome - 1 := by
  have hIssued := issued_of_get?_eq_some table hLive
  have hBound :
      HandleKey.raw key - table.base < table.slots.size := by
    unfold Issued slotCount at hIssued
    omega
  have hSlot :
      table.slots[HandleKey.raw key - table.base] =
        some value := by
    rw [get?_eq, if_pos hIssued.1] at hLive
    simpa [valueAt, hBound] using hLive
  simp [without, Array.setIfInBounds, hBound,
    Array.countP_set, hSlot]

/- Releasing a live key keeps a table coherent. -/
theorem Coherent.without
    {table : HandleTable K V}
    (hTable : table.Coherent)
    {key : K}
    {value : V}
    (hLive : table.get? key = some value) :
    (table.without key).Coherent := by
  have hIssued := issued_of_get?_eq_some table hLive
  have hSlots := slots_without hIssued
  have hOccupied :
      table.slots[HandleKey.raw key - table.base]? ≠
        some none := by
    intro hEmpty
    rw [get?_eq, if_pos hIssued.1] at hLive
    simp [valueAt, hEmpty] at hLive
  refine ⟨?_, ?_, ?_⟩
  · rw [countP_without hLive, ← hTable.count_eq]
    rfl
  · intro free hNew
    rcases Option.map_eq_some_iff.mp hNew with ⟨rest, hFree, rfl⟩
    refine List.nodup_cons.mpr
      ⟨?_, hTable.free_nodup _ hFree⟩
    rw [hTable.mem_free_iff _ hFree]
    exact hOccupied
  · intro free hNew index
    rcases Option.map_eq_some_iff.mp hNew with ⟨rest, hFree, rfl⟩
    rw [hSlots, List.mem_cons, hTable.mem_free_iff _ hFree]
    by_cases hIndex : index = HandleKey.raw key - table.base
    · simp [hIndex]
    · simp [hIndex]

------------------------------------------------------------
-- Live handles
------------------------------------------------------------

/- A key is live when it finds a value. -/
theorem live_iff
    (table : HandleTable K V)
    (key : K) :
    table.Live key ↔ ∃ value, table.get? key = some value :=
  Option.isSome_iff_exists

/- The slots are the values in them, in order. -/
omit [HandleKey K] in
theorem toList_slots
    (table : HandleTable K V) :
    table.slots.toList =
      (List.range table.slots.size).map table.valueAt := by
  apply List.ext_getElem
  · simp
  · intro index hLeft _
    have hIndex : index < table.slots.size := by
      simpa using hLeft
    simp [valueAt, hIndex]

/- The live handles are listed, and nothing else. -/
theorem mem_liveHandles_iff
    (table : HandleTable K V)
    (key : K) :
    key ∈ table.liveHandles ↔ table.Live key := by
  unfold liveHandles Live
  rw [List.mem_filterMap]
  constructor
  · rintro ⟨index, _, hKey⟩
    split at hKey
    · next hSome =>
        cases hKey
        rw [get?_ofRaw]
        exact hSome
    · cases hKey
  · intro hLive
    rcases Option.isSome_iff_exists.mp hLive with ⟨value, hValue⟩
    have hIssued := issued_of_get?_eq_some table hValue
    have hBase := hIssued.1
    have hBound :
        HandleKey.raw key - table.base < table.slots.size := by
      unfold Issued slotCount at hIssued
      omega
    refine ⟨HandleKey.raw key - table.base,
      List.mem_range.mpr hBound, ?_⟩
    rw [get?_eq, if_pos hBase, valueAt] at hValue
    rw [if_pos (by rw [hValue]; rfl),
      Nat.add_sub_cancel' hBase, HandleKey.ofRaw_raw]

/- The live handles are listed in ascending order, each once. -/
theorem pairwise_liveHandles
    (table : HandleTable K V) :
    table.liveHandles.Pairwise fun k₁ k₂ =>
      HandleKey.raw k₁ < HandleKey.raw k₂ := by
  unfold liveHandles
  refine List.Pairwise.filterMap _ ?_ List.pairwise_lt_range
  intro i₁ i₂ hLt k₁ hKey₁ k₂ hKey₂
  split at hKey₁
  · split at hKey₂
    · cases hKey₁
      cases hKey₂
      simp only [HandleKey.raw_ofRaw]
      omega
    · cases hKey₂
  · cases hKey₁

/- A coherent table counts its live handles. -/
theorem Coherent.length_liveHandles
    {table : HandleTable K V}
    (hTable : table.Coherent) :
    (table.liveHandles : List K).length = table.liveCount := by
  rw [hTable.count_eq, ← Array.countP_toList, toList_slots,
    List.countP_map, liveHandles,
    List.length_filterMap_eq_countP]
  congr 1
  funext index
  by_cases hSome : (table.slots[index]?.join).isSome
  · simp [valueAt, hSome]
  · simp [valueAt, hSome]

end

end HandleTable

end QuantumRuntime
