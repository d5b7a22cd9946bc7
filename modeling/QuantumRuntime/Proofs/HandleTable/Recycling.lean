import Mathlib.Order.Bounds.Basic
import QuantumRuntime.Proofs.HandleTable.Lifetimes

/-
  This file proves that a recycling handle table never wastes a
  slot. Its free list names each empty slot once, the handle
  that is issued next is the one whose release is the latest
  that was not followed by another issue of it, and there are
  only as many slots as handles were ever live at once.

  Key definitions include:
    * `SlotEvent`
    * `ReleasedLast`
    * `HandleTable.SlotStep`
    * `HandleTable.StackedBy`

  Key theorems include:
    * `TableCall.slotStep`
    * `Stack.released`
    * `Stack.reissued`
    * `HandleTable.SlotStep.slotCount_eq`
    * `HandleTable.recycling_wastes_no_slot`
-/

namespace QuantumRuntime

------------------------------------------------------------
-- Events
------------------------------------------------------------

/- What can happen to a handle. -/
inductive SlotEvent (K : Type) where
  | issued (key : K)
  | released (key : K)
deriving DecidableEq, Repr

variable {K V : Type}

/- What an accepted call did to a handle. -/
def TableCall.event? :
    TableCall K V → TableOutcome K V → Option (SlotEvent K)
  | .insert _, .ok (.key key) => some (.issued key)
  | .release key _, .ok _ => some (.released key)
  | _, _ => none

/- What some calls with their outcomes did to handles, in order. -/
def slotEvents
    (calls : List (TableCall K V))
    (outcomes : List (TableOutcome K V)) : List (SlotEvent K) :=
  (calls.zip outcomes).filterMap fun pair => pair.1.event? pair.2

/- A handle was released and has not been issued since. -/
def Waits
    (events : List (SlotEvent K))
    (key : K) : Prop :=
  ∃ earlier later,
    events = earlier ++ .released key :: later ∧
      .issued key ∉ later

/-
  A handle waits and was released last: each handle that was
  released after it has been issued since.
-/
def ReleasedLast
    (events : List (SlotEvent K))
    (key : K) : Prop :=
  ∃ earlier later,
    events = earlier ++ .released key :: later ∧
      .issued key ∉ later ∧
      ∀ other front back,
        later = front ++ .released other :: back →
          .issued other ∈ back

theorem ReleasedLast.waits
    {events : List (SlotEvent K)}
    {key : K}
    (hLast : ReleasedLast events key) :
    Waits events key := by
  rcases hLast with ⟨earlier, later, hEvents, hKey, -⟩
  exact ⟨earlier, later, hEvents, hKey⟩

/- Only one handle was released last. -/
theorem ReleasedLast.unique
    {events : List (SlotEvent K)}
    {key other : K}
    (hKey : ReleasedLast events key)
    (hOther : ReleasedLast events other) :
    key = other := by
  rcases hKey with ⟨earlier₁, later₁, hEvents₁, hWaits₁, hAfter₁⟩
  rcases hOther with ⟨earlier₂, later₂, hEvents₂, hWaits₂, hAfter₂⟩
  rw [hEvents₁, List.append_eq_append_iff] at hEvents₂
  rcases hEvents₂ with
    ⟨_ | ⟨event, gap⟩, -, hRest⟩ | ⟨_ | ⟨event, gap⟩, -, hRest⟩
  · exact (SlotEvent.released.inj (List.cons_eq_cons.mp hRest).1)
  · rw [List.cons_append, List.cons_eq_cons] at hRest
    exact absurd (hAfter₁ other gap later₂ hRest.2) hWaits₂
  · exact (SlotEvent.released.inj (List.cons_eq_cons.mp hRest).1).symm
  · rw [List.cons_append, List.cons_eq_cons] at hRest
    exact absurd (hAfter₂ key gap later₁ hRest.2) hWaits₁

/- The last of some events is the one in question or comes later. -/
theorem concat_eq_append_cons_iff
    {events front back : List (SlotEvent K)}
    {last event : SlotEvent K} :
    events ++ [last] = front ++ event :: back ↔
      (back = [] ∧ events = front ∧ last = event) ∨
        ∃ rest,
          back = rest ++ [last] ∧
            events = front ++ event :: rest := by
  rcases List.eq_nil_or_concat' back with
    rfl | ⟨rest, other, rfl⟩
  · simp
  · constructor
    · intro hEvents
      rw [← List.cons_append, ← List.append_assoc] at hEvents
      rcases List.append_inj' hEvents rfl with ⟨rfl, hLast⟩
      exact Or.inr ⟨rest, by rw [hLast], rfl⟩
    · rintro (⟨hBack, -⟩ | ⟨rest', hBack, rfl⟩)
      · simp at hBack
      · rw [hBack, List.append_assoc, List.cons_append]

------------------------------------------------------------
-- Stacks of waiting handles
------------------------------------------------------------

/-
  A handle waits, and each handle that was released after it
  has been issued since or lies above it.
-/
def WaitsBelow
    (events : List (SlotEvent K))
    (above : List K)
    (key : K) : Prop :=
  ∃ earlier later,
    events = earlier ++ .released key :: later ∧
      .issued key ∉ later ∧
      ∀ other front back,
        later = front ++ .released other :: back →
          .issued other ∈ back ∨ other ∈ above

/- All waiting handles, each below those released after it. -/
structure Stack
    (events : List (SlotEvent K))
    (keys : List K) : Prop where
  waitsBelow :
    ∀ above key below, keys = above ++ key :: below →
      WaitsBelow events above key
  mem_of_waits :
    ∀ key, Waits events key → key ∈ keys

namespace Stack

variable {events : List (SlotEvent K)} {keys : List K} {key : K}

/- Before the first event nothing waits. -/
theorem nil :
    Stack ([] : List (SlotEvent K)) [] where
  waitsBelow := by simp
  mem_of_waits := by
    rintro key ⟨earlier, later, hEvents, -⟩
    simp at hEvents

/- The handle on top is the one that was released last. -/
theorem releasedLast_iff_head
    (hStack : Stack events keys)
    (key : K) :
    ReleasedLast events key ↔ keys.head? = some key := by
  constructor
  · intro hLast
    have hMem := hStack.mem_of_waits key hLast.waits
    cases keys with
    | nil => cases hMem
    | cons top below =>
        rcases hStack.waitsBelow [] top below rfl with
          ⟨earlier, later, hEvents, hTop, hAfter⟩
        have hTopLast : ReleasedLast events top := by
          refine ⟨earlier, later, hEvents, hTop, ?_⟩
          intro other front back hLater
          simpa using hAfter other front back hLater
        rw [hTopLast.unique hLast]
        rfl
  · intro hHead
    rcases List.head?_eq_some_iff.mp hHead with ⟨below, rfl⟩
    rcases hStack.waitsBelow [] key below rfl with
      ⟨earlier, later, hEvents, hKey, hAfter⟩
    refine ⟨earlier, later, hEvents, hKey, ?_⟩
    intro other front back hLater
    simpa using hAfter other front back hLater

/- A handle that is released comes to lie on top. -/
theorem released
    (hStack : Stack events keys)
    (key : K) :
    Stack (events ++ [.released key]) (key :: keys) where
  waitsBelow := by
    intro above other below hKeys
    cases above with
    | nil =>
        obtain ⟨rfl, rfl⟩ := List.cons_eq_cons.mp hKeys
        exact ⟨events, [], rfl, List.not_mem_nil, by simp⟩
    | cons top above =>
        obtain ⟨rfl, hRest⟩ := List.cons_eq_cons.mp hKeys
        rcases hStack.waitsBelow above other below hRest with
          ⟨earlier, later, rfl, hOther, hAfter⟩
        refine ⟨earlier, later ++ [.released key], by simp, ?_, ?_⟩
        · simpa using hOther
        · intro third front back hLater
          rcases concat_eq_append_cons_iff.mp hLater with
            ⟨rfl, -, hThird⟩ | ⟨rest, rfl, hRest⟩
          · cases hThird
            exact Or.inr List.mem_cons_self
          · exact (hAfter third front rest hRest).imp
              (List.mem_append_left _) (List.mem_cons_of_mem _)
  mem_of_waits := by
    rintro other ⟨earlier, later, hEvents, hOther⟩
    rcases concat_eq_append_cons_iff.mp hEvents with
      ⟨-, -, hKey⟩ | ⟨rest, rfl, hRest⟩
    · cases hKey
      exact List.mem_cons_self
    · refine List.mem_cons_of_mem _ (hStack.mem_of_waits other ?_)
      exact ⟨earlier, rest, hRest, fun hMem =>
        hOther (List.mem_append_left _ hMem)⟩

/- A waiting handle after another handle was issued. -/
theorem waits_of_issued
    {other : K}
    (hWaits : Waits (events ++ [.issued key]) other) :
    other ≠ key ∧ Waits events other := by
  rcases hWaits with ⟨earlier, later, hEvents, hOther⟩
  rcases concat_eq_append_cons_iff.mp hEvents with
    ⟨-, -, hKey⟩ | ⟨rest, rfl, hRest⟩
  · cases hKey
  · simp only [List.mem_append, List.mem_singleton, not_or,
      SlotEvent.issued.injEq] at hOther
    exact ⟨hOther.2, earlier, rest, hRest, hOther.1⟩

/- The handle on top can be issued again. -/
theorem reissued
    (hStack : Stack events (key :: keys))
    (hNodup : (key :: keys).Nodup) :
    Stack (events ++ [.issued key]) keys where
  waitsBelow := by
    intro above other below hKeys
    have hBelow :=
      hStack.waitsBelow (key :: above) other below (by simp [hKeys])
    rcases hBelow with ⟨earlier, later, rfl, hOther, hAfter⟩
    have hMem : other ∈ keys := by simp [hKeys]
    have hKey : other ≠ key := by
      rintro rfl
      exact (List.nodup_cons.mp hNodup).1 hMem
    refine ⟨earlier, later ++ [.issued key], by simp, ?_, ?_⟩
    · simpa [hKey] using hOther
    · intro third front back hLater
      rcases concat_eq_append_cons_iff.mp hLater with
        ⟨-, -, hThird⟩ | ⟨rest, rfl, hRest⟩
      · cases hThird
      · have hThird := hAfter third front rest hRest
        rw [List.mem_cons] at hThird
        rcases hThird with hIssued | rfl | hAbove
        · exact Or.inl (List.mem_append_left _ hIssued)
        · exact Or.inl (by simp)
        · exact Or.inr hAbove
  mem_of_waits := by
    intro other hWaits
    have hOther := waits_of_issued hWaits
    exact List.mem_of_ne_of_mem hOther.1
      (hStack.mem_of_waits other hOther.2)

/- Where nothing waits, any handle can be issued. -/
theorem issued_of_nil
    (hStack : Stack events [])
    (key : K) :
    Stack (events ++ [.issued key]) [] where
  waitsBelow := by simp
  mem_of_waits := fun other hWaits =>
    hStack.mem_of_waits other (waits_of_issued hWaits).2

end Stack

------------------------------------------------------------
-- Steps of slots
------------------------------------------------------------

namespace HandleTable

variable [HandleKey K] {table table' : HandleTable K V}

/-
  What a call can do to the slots of a table, with the event
  that it is. All but issuing and releasing keep the shape.
-/
inductive SlotStep
    (table : HandleTable K V) :
    Option (SlotEvent K) → HandleTable K V → Prop
  | issued
      (value : V) :
      SlotStep table (some (.issued (table.insert value).1))
        (table.insert value).2
  | released
      (key : K)
      (value : V)
      (hLive : table.get? key = some value) :
      SlotStep table (some (.released key)) (table.without key)
  | kept
      (other : HandleTable K V)
      (hShape : other.shape = table.shape) :
      SlotStep table none other

/- Every call is a step of slots. -/
theorem slotStep
    (call : TableCall K V)
    (table : HandleTable K V) :
    table.SlotStep (call.event? (call.perform table).1)
      (call.perform table).2 := by
  cases call with
  | insert value => exact .issued value
  | release key operation =>
      cases hKey : table.get? key with
      | some value =>
          simp only [TableCall.perform, release_of_live hKey]
          exact .released key value hKey
      | none =>
          simp only [TableCall.perform, release_of_dead hKey]
          exact .kept table rfl
  | write key operation value =>
      cases hKey : table.get? key with
      | some old =>
          simp only [TableCall.perform, get_of_live hKey,
            replace_of_live hKey]
          exact .kept _ (shape_overwrite hKey value)
      | none =>
          simp only [TableCall.perform, get_of_dead hKey]
          exact .kept table rfl
  | update f => exact .kept _ (table.shape_updateLive f)
  | _ => exact .kept table rfl

variable {event : Option (SlotEvent K)}

/- A step keeps a table coherent. -/
theorem SlotStep.coherent
    (hStep : table.SlotStep event table')
    (hTable : table.Coherent) :
    table'.Coherent := by
  cases hStep with
  | issued value => exact hTable.insert value
  | released key value hLive => exact hTable.without hLive
  | kept _ hShape => exact coherent_of_shape_eq hShape hTable

/- A step keeps the first raw value. -/
theorem SlotStep.base_eq
    (hStep : table.SlotStep event table') :
    table'.base = table.base := by
  cases hStep with
  | issued value => exact base_insert table value
  | released key value hLive => rfl
  | kept _ hShape => exact congrArg (fun t => t.base) hShape

------------------------------------------------------------
-- Slots and live handles
------------------------------------------------------------

omit [HandleKey K] in
/- No more slots are occupied than there are. -/
theorem Coherent.liveCount_le
    (hTable : table.Coherent) :
    table.liveCount ≤ table.slotCount := by
  rw [hTable.count_eq]
  exact Array.countP_le_size

omit [HandleKey K] in
/- A slot is empty exactly when fewer handles are live than slots. -/
theorem Coherent.liveCount_eq_iff
    (hTable : table.Coherent) :
    table.liveCount = table.slotCount ↔
      ∀ index < table.slotCount, (table.valueAt index).isSome := by
  rw [hTable.count_eq, slotCount, Array.countP_eq_size]
  simp only [Array.mem_iff_getElem]
  constructor
  · intro hAll index hIndex
    simpa [valueAt, hIndex] using hAll _ ⟨index, hIndex, rfl⟩
  · rintro hAll slot ⟨index, hIndex, rfl⟩
    simpa [valueAt, hIndex] using hAll index hIndex

omit [HandleKey K] in
/- A recycling table without free slots has only live handles. -/
theorem Coherent.free_eq_nil_iff
    (hTable : table.Coherent)
    {free : List Nat}
    (hFree : table.free = some free) :
    free = [] ↔ table.liveCount = table.slotCount := by
  rw [hTable.liveCount_eq_iff, List.eq_nil_iff_forall_not_mem]
  refine forall_congr' fun index => ?_
  rw [hTable.mem_free_iff free hFree]
  by_cases hIndex : index < table.slots.size
  · simp [slotCount, valueAt, hIndex, Option.isSome_iff_ne_none]
  · simp [slotCount, hIndex]

/-
  A new slot is made only when all others are live, so the
  slots grow with the largest number of live handles.
-/
theorem SlotStep.slotCount_eq
    (hStep : table.SlotStep event table')
    (hTable : table.Coherent)
    (hRecycles : table.free.isSome) :
    table'.slotCount = max table.slotCount table'.liveCount := by
  have hBound := hTable.liveCount_le
  cases hStep with
  | issued value =>
      rcases Option.isSome_iff_exists.mp hRecycles with
        ⟨free, hFree⟩
      have hNil := hTable.free_eq_nil_iff hFree
      rw [liveCount_insert]
      cases free with
      | nil =>
          have hCount := hNil.mp rfl
          have hSize :
              (table.insert value : K × HandleTable K V).2.slotCount =
                table.slotCount + 1 := by
            rw [insert_of_full (by simp [hFree])]
            simp [slotCount]
          omega
      | cons index rest =>
          have hCount := mt hNil.mpr (List.cons_ne_nil _ _)
          have hSize :
              (table.insert value : K × HandleTable K V).2.slotCount =
                table.slotCount := by
            rw [insert_of_free hFree]
            simp [slotCount]
          omega
  | released key value hLive =>
      have hCount :
          (table.without key).liveCount = table.liveCount - 1 := rfl
      rw [slotCount_without]
      omega
  | kept _ hShape =>
      have hCount : table'.liveCount = table.liveCount :=
        congrArg (fun t => t.liveCount) hShape
      have hSize : table'.slotCount = table.slotCount := by
        rw [← slotCount_shape, hShape, slotCount_shape]
      omega

------------------------------------------------------------
-- Free handles
------------------------------------------------------------

/- The handles that the free list stands for, in its order. -/
def freeKeys
    (table : HandleTable K V) : Option (List K) :=
  table.free.map
    (List.map fun index => HandleKey.ofRaw (table.base + index))

/- The free list holds the waiting handles as a stack. -/
def StackedBy
    (events : List (SlotEvent K))
    (table : HandleTable K V) : Prop :=
  ∃ keys, table.freeKeys = some keys ∧ Stack events keys

/- The free list stands for each handle once. -/
theorem Coherent.nodup_freeKeys
    (hTable : table.Coherent)
    {keys : List K}
    (hKeys : table.freeKeys = some keys) :
    keys.Nodup := by
  rcases Option.map_eq_some_iff.mp hKeys with ⟨free, hFree, rfl⟩
  refine (hTable.free_nodup free hFree).map ?_
  intro i j hEq
  have hRaw := congrArg HandleKey.raw hEq
  simpa [HandleKey.raw_ofRaw] using hRaw

/- The free handles stay a stack of those that wait. -/
theorem SlotStep.stackedBy
    (hStep : table.SlotStep event table')
    (hTable : table.Coherent)
    {events : List (SlotEvent K)}
    (hStacked : StackedBy events table) :
    StackedBy (events ++ event.toList) table' := by
  rcases hStacked with ⟨keys, hKeys, hStack⟩
  have hNodup := hTable.nodup_freeKeys hKeys
  cases hStep with
  | issued value =>
      rcases Option.map_eq_some_iff.mp hKeys with ⟨free, hFree, rfl⟩
      cases free with
      | nil =>
          refine ⟨[], ?_, hStack.issued_of_nil _⟩
          rw [insert_of_full (by simp [hFree])]
          simp [freeKeys, hFree]
      | cons index rest =>
          rw [insert_of_free hFree]
          exact ⟨_, rfl, hStack.reissued hNodup⟩
  | released key value hLive =>
      have hIssued := issued_of_get?_eq_some table hLive
      refine ⟨key :: keys, ?_, hStack.released key⟩
      rcases Option.map_eq_some_iff.mp hKeys with ⟨free, hFree, rfl⟩
      simp [freeKeys, without, hFree,
        Nat.add_sub_cancel' hIssued.1, HandleKey.ofRaw_raw]
  | kept _ hShape =>
      refine ⟨keys, ?_, by simpa using hStack⟩
      have hSame : table'.freeKeys = table.freeKeys :=
        congrArg
          (fun t => t.free.map
            (List.map fun index =>
              (HandleKey.ofRaw (t.base + index) : K)))
          hShape
      rw [hSame, hKeys]

/-
  The handle that is issued next is the waiting one that was
  released last, or a new one where every slot is live.
-/
theorem Coherent.insert_fst_eq_iff
    (hTable : table.Coherent)
    {events : List (SlotEvent K)}
    (hStacked : StackedBy events table)
    (value : V)
    (key : K) :
    (table.insert value).1 = key ↔
      ReleasedLast events key ∨
        (table.liveCount = table.slotCount ∧
          key = HandleKey.ofRaw (table.base + table.slotCount)) := by
  rcases hStacked with ⟨keys, hKeys, hStack⟩
  rcases Option.map_eq_some_iff.mp hKeys with ⟨free, hFree, rfl⟩
  rw [hStack.releasedLast_iff_head, ← hTable.free_eq_nil_iff hFree]
  cases free with
  | nil =>
      rw [insert_of_full (by simp [hFree])]
      simp [slotCount, eq_comm]
  | cons index rest =>
      rw [insert_of_free hFree]
      simp

end HandleTable

------------------------------------------------------------
-- Runs
------------------------------------------------------------

section

variable [HandleKey K]

/- Every call has an outcome. -/
@[simp] theorem length_runCalls
    (table : HandleTable K V)
    (calls : List (TableCall K V)) :
    (runCalls table calls).1.length = calls.length := by
  induction calls generalizing table with
  | nil => rfl
  | cons call rest ih => simp [runCalls, ih]

/- A run with one more call. -/
theorem runCalls_concat
    (table : HandleTable K V)
    (calls : List (TableCall K V))
    (call : TableCall K V) :
    runCalls table (calls ++ [call]) =
      ((runCalls table calls).1 ++
          [(call.perform (runCalls table calls).2).1],
        (call.perform (runCalls table calls).2).2) := by
  induction calls generalizing table with
  | nil => rfl
  | cons first rest ih => simp [runCalls, ih]

/- The events of a run with one more call. -/
theorem slotEvents_concat
    (table : HandleTable K V)
    (calls : List (TableCall K V))
    (call : TableCall K V) :
    slotEvents (calls ++ [call])
        (runCalls table (calls ++ [call])).1 =
      slotEvents calls (runCalls table calls).1 ++
        (call.event?
          (call.perform (runCalls table calls).2).1).toList := by
  rw [runCalls_concat, slotEvents, List.zip_append (by simp),
    List.filterMap_append]
  cases hEvent :
      call.event? (call.perform (runCalls table calls).2).1 <;>
    simp [slotEvents, hEvent]

namespace HandleTable

/- The numbers of live slots that a table had during some calls. -/
def occupancies
    (table : HandleTable K V)
    (calls : List (TableCall K V)) : Set Nat :=
  {n | ∃ earlier, earlier <+: calls ∧
    (runCalls table earlier).2.slots.countP Option.isSome = n}

theorem occupancies_nil
    (table : HandleTable K V) :
    table.occupancies [] =
      {table.slots.countP Option.isSome} := by
  ext n
  simp [occupancies, runCalls, eq_comm]

theorem occupancies_concat
    (table : HandleTable K V)
    (calls : List (TableCall K V))
    (call : TableCall K V) :
    table.occupancies (calls ++ [call]) =
      Insert.insert
        ((runCalls table (calls ++ [call])).2.slots.countP
          Option.isSome)
        (table.occupancies calls) := by
  ext n
  simp only [occupancies, List.prefix_concat_iff,
    Set.mem_insert_iff, Set.mem_ofPred_eq]
  constructor
  · rintro ⟨earlier, rfl | hEarlier, hCount⟩
    · exact Or.inl hCount.symm
    · exact Or.inr ⟨earlier, hEarlier, hCount⟩
  · rintro (hCount | ⟨earlier, hEarlier, hCount⟩)
    · exact ⟨_, Or.inl rfl, hCount.symm⟩
    · exact ⟨earlier, Or.inr hEarlier, hCount⟩

/- What calls to a new recycling table leave it with. -/
structure Recycled
    (base : Nat)
    (calls : List (TableCall K V)) : Prop where
  coherent :
    (runCalls (recycling.withBase base) calls).2.Coherent
  base_eq :
    (runCalls (recycling.withBase base) calls).2.base = base
  stackedBy :
    StackedBy
      (slotEvents calls
        (runCalls (recycling.withBase base) calls).1)
      (runCalls (recycling.withBase base) calls).2
  isGreatest :
    IsGreatest ((recycling.withBase base).occupancies calls)
      (runCalls (recycling.withBase base) calls).2.slotCount

/- A new table recycles, and whatever calls are put to it. -/
theorem recycled
    (base : Nat)
    (calls : List (TableCall K V)) :
    Recycled base calls := by
  induction calls using List.reverseRecOn with
  | nil =>
      refine ⟨coherent_make true base, rfl, ⟨[], rfl, .nil⟩, ?_⟩
      rw [occupancies_nil]
      exact isGreatest_singleton
  | append_singleton calls call ih =>
      let table := (runCalls (recycling.withBase base) calls).2
      have hStep := slotStep call table
      have hCoherent := hStep.coherent ih.coherent
      have hRecycles : table.free.isSome := by
        rcases ih.stackedBy with ⟨keys, hKeys, -⟩
        rcases Option.map_eq_some_iff.mp hKeys with
          ⟨free, hFree, -⟩
        exact Option.isSome_of_eq_some hFree
      have hRun :
          (runCalls (recycling.withBase base) (calls ++ [call])).2 =
            (call.perform table).2 := by
        rw [runCalls_concat]
      have hCount :=
        (hStep.slotCount_eq ih.coherent hRecycles).trans
          (max_comm _ _)
      rw [hCoherent.count_eq, ← hRun] at hCount
      constructor
      · rw [hRun]
        exact hCoherent
      · rw [hRun, hStep.base_eq]
        exact ih.base_eq
      · rw [slotEvents_concat, hRun]
        exact hStep.stackedBy ih.coherent ih.stackedBy
      · rw [occupancies_concat, hCount]
        exact ih.isGreatest.insert _

/-
  Whatever calls are put to a new recycling table, from any
  first raw value, its free list names each released slot
  exactly once and no other, its counter is the number of live
  slots, and its slots are as many as were ever live at once.
  It issues the handle that was released last among those that
  have not been issued since, and the next new one where every
  slot is live.
-/
theorem recycling_wastes_no_slot
    (base : Nat)
    (calls : List (TableCall K V)) :
    let start : HandleTable K V := recycling.withBase base
    let table := (runCalls start calls).2
    let events := slotEvents calls (runCalls start calls).1
    (∃ free, table.free = some free ∧ free.Nodup ∧
      ∀ index, index ∈ free ↔ table.slots[index]? = some none) ∧
      table.liveCount = table.slots.countP Option.isSome ∧
      IsGreatest (start.occupancies calls) table.slotCount ∧
      ∀ value key,
        (table.insert value).1 = key ↔
          ReleasedLast events key ∨
            ((∀ index < table.slotCount,
                table.Live
                  (HandleKey.ofRaw (base + index) : K)) ∧
              key = HandleKey.ofRaw (base + table.slotCount)) := by
  intro start table events
  have hRecycled : Recycled base calls := recycled base calls
  have hTable : table.Coherent := hRecycled.coherent
  have hBase : table.base = base := hRecycled.base_eq
  refine ⟨?_, hTable.count_eq, hRecycled.isGreatest, ?_⟩
  · rcases hRecycled.stackedBy with ⟨keys, hKeys, -⟩
    rcases Option.map_eq_some_iff.mp hKeys with ⟨free, hFree, -⟩
    exact ⟨free, hFree, hTable.free_nodup free hFree,
      hTable.mem_free_iff free hFree⟩
  · intro value key
    rw [hTable.insert_fst_eq_iff hRecycled.stackedBy,
      hTable.liveCount_eq_iff, hBase]
    have hLive (index : Nat) :
        table.Live (HandleKey.ofRaw (base + index) : K) ↔
          (table.valueAt index).isSome := by
      rw [← hBase, Live, get?_ofRaw]
    simp only [hLive]
    rfl

/- Of two released slots, the later one is issued first. -/
example :
    let calls : List (TableCall QubitId Nat) :=
      [.insert 5, .insert 6, .release ⟨0⟩ "release_qubit",
        .release ⟨1⟩ "release_qubit", .insert 7]
    (runCalls recycling calls).2.free = some [0] :=
  rfl

end HandleTable

end

end QuantumRuntime
