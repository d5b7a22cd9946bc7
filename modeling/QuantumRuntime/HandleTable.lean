import QuantumRuntime.Failure.Backend

/-
  This file defines the table in which a backend keeps the
  state behind the handles it has issued, and with it the
  lifetime rule: a handle can be used from the moment it is
  issued until it is released. A released slot stays empty for
  ever unless the table recycles slots.

  Key definitions include:
    * `HandleTable`
    * `HandleTable.empty`
    * `HandleTable.recycling`
    * `HandleTable.insert`
    * `HandleTable.get`
    * `HandleTable.checkLive`
    * `HandleTable.replace`
    * `HandleTable.release`
    * `HandleTable.Live`
    * `HandleTable.liveHandles`
    * `HandleTable.updateLive`
    * `HandleTable.mapLive`
-/

namespace QuantumRuntime

------------------------------------------------------------
-- Tables
------------------------------------------------------------

/-
  Slots in the order of their creation. Slot `i` belongs to the
  handle with raw value `base + i` and is empty when that
  handle has been released. `free` lists the empty slots that
  may be issued again, the most recently released first;
  `none` means that slots are never issued again.
-/
structure HandleTable (K : Type) (V : Type) where
  slots : Array (Option V)
  base : Nat
  free : Option (List Nat)
  liveCount : Nat

namespace HandleTable

variable {K V : Type}

/- The table that has issued nothing and never recycles. -/
def empty : HandleTable K V :=
  { slots := #[]
    base := 0
    free := none
    liveCount := 0 }

/- The table that has issued nothing and recycles slots. -/
def recycling : HandleTable K V :=
  { (empty : HandleTable K V) with free := some [] }

/- An empty table that recycles slots on request. -/
def make
    (recycle : Bool) : HandleTable K V :=
  if recycle then recycling else empty

/- The same table with another first raw value. -/
def withBase
    (base : Nat)
    (table : HandleTable K V) : HandleTable K V :=
  { table with base := base }

/- The number of slots ever created. -/
def slotCount
    (table : HandleTable K V) : Nat :=
  table.slots.size

------------------------------------------------------------
-- Look-up
------------------------------------------------------------

section

variable [HandleKey K]

/- The slot of a handle that was issued at some time. -/
def indexOf
    (table : HandleTable K V)
    (key : K) : Option Nat :=
  if table.base ≤ HandleKey.raw key ∧
      HandleKey.raw key - table.base < table.slots.size then
    some (HandleKey.raw key - table.base)
  else
    none

/- The value behind a handle, if the handle is live. -/
def get?
    (table : HandleTable K V)
    (key : K) : Option V :=
  match table.indexOf key with
  | some index => table.slots[index]?.join
  | none => none

/- A handle is live when a value stands behind it. -/
def Live
    (table : HandleTable K V)
    (key : K) : Prop :=
  (table.get? key).isSome

instance
    (table : HandleTable K V)
    (key : K) :
    Decidable (table.Live key) := by
  unfold Live
  infer_instance

/-
  The error about a handle that is not live. It says whether
  the handle has been issued before.
-/
def violation
    (table : HandleTable K V)
    (key : K)
    (operation : String) : BackendError :=
  .contractViolation operation (HandleKey.toHandle key)
    (if (table.indexOf key).isSome then .released else .unknown)

/- The value behind a live handle. -/
def get
    (table : HandleTable K V)
    (key : K)
    (operation : String) : Except BackendError V :=
  match table.get? key with
  | some value => .ok value
  | none => .error (table.violation key operation)

/- All of some handles are live; the first that is not is reported. -/
def checkLive
    (table : HandleTable K V)
    (operation : String) : List K → Except BackendError Unit
  | [] => .ok ()
  | key :: rest => do
      let _ ← table.get key operation
      checkLive table operation rest

------------------------------------------------------------
-- Updates
------------------------------------------------------------

/-
  Store a value and issue a handle for it: the most recently
  released slot if the table recycles and has one, and a new
  slot otherwise.
-/
def insert
    (table : HandleTable K V)
    (value : V) : K × HandleTable K V :=
  match table.free with
  | some (index :: rest) =>
      (HandleKey.ofRaw (table.base + index),
        { table with
          slots := table.slots.setIfInBounds index (some value)
          free := some rest
          liveCount := table.liveCount + 1 })
  | _ =>
      (HandleKey.ofRaw (table.base + table.slots.size),
        { table with
          slots := table.slots.push (some value)
          liveCount := table.liveCount + 1 })

/- Store another value behind a live handle. -/
def replace
    (table : HandleTable K V)
    (key : K)
    (operation : String)
    (value : V) : Except BackendError (HandleTable K V) :=
  match table.indexOf key, table.get? key with
  | some index, some _ =>
      .ok { table with slots := table.slots.setIfInBounds index (some value) }
  | _, _ => .error (table.violation key operation)

/- End the life of a handle and hand back its value. -/
def release
    (table : HandleTable K V)
    (key : K)
    (operation : String) : Except BackendError (V × HandleTable K V) :=
  match table.indexOf key, table.get? key with
  | some index, some value =>
      .ok (value,
        { table with
          slots := table.slots.setIfInBounds index none
          free := table.free.map (index :: ·)
          liveCount := table.liveCount - 1 })
  | _, _ => .error (table.violation key operation)

------------------------------------------------------------
-- Live handles
------------------------------------------------------------

/- The live handles in the order of their slots. -/
def liveHandles
    (table : HandleTable K V) : List K :=
  (List.range table.slots.size).filterMap fun index =>
    if (table.slots[index]?.join).isSome then
      some (HandleKey.ofRaw (table.base + index))
    else
      none

/- Change the value behind every live handle, each in its own way. -/
def updateLive
    (table : HandleTable K V)
    (f : K → V → V) : HandleTable K V :=
  { table with
    slots := table.slots.mapIdx fun index slot =>
      slot.map (f (HandleKey.ofRaw (table.base + index))) }

/- Change the value behind every live handle in the same way. -/
def mapLive
    (table : HandleTable K V)
    (f : V → V) : HandleTable K V :=
  table.updateLive fun _ => f

end

end HandleTable

end QuantumRuntime
