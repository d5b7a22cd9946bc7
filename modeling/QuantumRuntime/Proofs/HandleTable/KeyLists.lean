import QuantumRuntime.Proofs.HandleTable.Shape

/-
  This file describes what happens to a handle table when many
  keys are used at once: they are accepted when all of them are
  live and refused for the first that is not, and one value can
  be stored behind all of them.

  Key definitions include:
    * `HandleTable.overwriteAll`

  Key theorems include:
    * `HandleTable.checkLive_eq`
    * `HandleTable.foldlM_get`
    * `HandleTable.get?_overwriteAll`
    * `HandleTable.overwriteAll_comm`
-/

namespace QuantumRuntime

namespace HandleTable

variable {K V : Type} [HandleKey K]

------------------------------------------------------------
-- Reading
------------------------------------------------------------

/-
  Reading keys one after the other while a value is computed
  from what they find fails exactly when one of them is not
  live, for the first such key.
-/
theorem foldlM_get
    [Inhabited V]
    {α : Type}
    (table : HandleTable K V)
    (operation : String)
    (f : α → V → α)
    (start : α)
    (keys : List K) :
    keys.foldlM
        (fun result key => do
          let value ← table.get key operation
          Except.ok (f result value))
        start =
      (table.checkLive operation keys).map fun _ =>
        keys.foldl
          (fun result key =>
            f result ((table.get? key).getD default))
          start := by
  induction keys generalizing start with
  | nil => rfl
  | cons key rest ih =>
      rw [List.foldlM_cons, List.foldl_cons, checkLive]
      cases hKey : table.get? key with
      | none =>
          rw [get_of_dead hKey]
          rfl
      | some value =>
          rw [get_of_live hKey]
          exact ih (f start value)

/- A list of one key is live when the key is. -/
theorem checkLive_singleton
    (table : HandleTable K V)
    (operation : String)
    (key : K) :
    table.checkLive operation [key] =
      (table.get key operation).map fun _ => () := by
  unfold checkLive
  cases table.get key operation <;> rfl

/- A list of keys is live when the first is and the others are. -/
theorem checkLive_cons
    (table : HandleTable K V)
    (operation : String)
    (key : K)
    (rest : List K) :
    table.checkLive operation (key :: rest) =
      table.get key operation >>= fun _ =>
        table.checkLive operation rest :=
  rfl

/- A list of keys is refused for the first that is not live. -/
theorem checkLive_eq
    (table : HandleTable K V)
    (operation : String)
    (keys : List K) :
    table.checkLive operation keys =
      match keys.find? fun key => ¬ table.Live key with
      | none => .ok ()
      | some key => .error (table.violation key operation) := by
  induction keys with
  | nil => rfl
  | cons key rest ih =>
      rw [checkLive, List.find?_cons]
      cases hKey : table.get? key with
      | none =>
          have hDead : ¬ table.Live key := by simp [Live, hKey]
          rw [get_of_dead hKey, decide_eq_true hDead]
          rfl
      | some value =>
          have hLive : ¬ ¬ table.Live key := by simp [Live, hKey]
          rw [get_of_live hKey, decide_eq_false hLive]
          exact ih

/- A list of keys is accepted when all of them are live. -/
theorem checkLive_eq_ok_iff
    (table : HandleTable K V)
    (operation : String)
    (keys : List K) :
    table.checkLive operation keys = .ok () ↔
      ∀ key ∈ keys, table.Live key := by
  rw [checkLive_eq]
  split
  · next hNone => simpa using hNone
  · next key hSome =>
      have hDead := List.find?_some hSome
      have hMem := List.mem_of_find?_eq_some hSome
      refine iff_of_false (by simp) fun hAll => ?_
      simp [hAll key hMem] at hDead

/- Keys that are accepted find values. -/
theorem live_of_checkLive
    {table : HandleTable K V}
    {operation : String}
    {keys : List K}
    (hKeys : table.checkLive operation keys = .ok ()) :
    ∀ key ∈ keys, ∃ value, table.get? key = some value :=
  fun key hMem =>
    (table.live_iff key).mp
      ((table.checkLive_eq_ok_iff operation keys).mp hKeys key hMem)

------------------------------------------------------------
-- Writing
------------------------------------------------------------

/- The table after one value has been stored behind many keys. -/
def overwriteAll
    (table : HandleTable K V)
    (keys : List K)
    (value : V) : HandleTable K V :=
  keys.foldl (fun table key => table.overwrite key value) table

@[simp] theorem overwriteAll_nil
    (table : HandleTable K V)
    (value : V) :
    table.overwriteAll [] value = table :=
  rfl

@[simp] theorem overwriteAll_cons
    (table : HandleTable K V)
    (key : K)
    (rest : List K)
    (value : V) :
    table.overwriteAll (key :: rest) value =
      (table.overwrite key value).overwriteAll rest value :=
  rfl

@[simp] theorem liveCount_overwriteAll
    (table : HandleTable K V)
    (keys : List K)
    (value : V) :
    (table.overwriteAll keys value).liveCount = table.liveCount := by
  induction keys generalizing table with
  | nil => rfl
  | cons key rest ih => exact ih (table.overwrite key value)

/- Writing a live key keeps all keys that are live. -/
theorem live_overwrite_iff
    {table : HandleTable K V}
    {key : K}
    (hLive : table.Live key)
    (value : V)
    (other : K) :
    (table.overwrite key value).Live other ↔ table.Live other := by
  rcases (table.live_iff key).mp hLive with ⟨old, hOld⟩
  unfold Live
  rw [isSome_get?_of_shape_eq (shape_overwrite hOld value)]

/- Writing live keys keeps the shape. -/
theorem shape_overwriteAll
    {table : HandleTable K V}
    {keys : List K}
    (hLive : ∀ key ∈ keys, table.Live key)
    (value : V) :
    (table.overwriteAll keys value).shape = table.shape := by
  induction keys generalizing table with
  | nil => rfl
  | cons key rest ih =>
      rcases List.forall_mem_cons.mp hLive with ⟨hKey, hRest⟩
      rcases (table.live_iff key).mp hKey with ⟨old, hOld⟩
      have hAfter :
          ∀ other ∈ rest, (table.overwrite key value).Live other :=
        fun other hMem =>
          (live_overwrite_iff hKey value other).mpr
            (hRest other hMem)
      rw [overwriteAll_cons, ih hAfter, shape_overwrite hOld]

/- All written keys find the new value; the others do not change. -/
theorem get?_overwriteAll
    [DecidableEq K]
    {table : HandleTable K V}
    {keys : List K}
    (hLive : ∀ key ∈ keys, table.Live key)
    (value : V)
    (other : K) :
    (table.overwriteAll keys value).get? other =
      if other ∈ keys then some value else table.get? other := by
  induction keys generalizing table with
  | nil => simp
  | cons key rest ih =>
      rcases List.forall_mem_cons.mp hLive with ⟨hKey, hRest⟩
      rcases (table.live_iff key).mp hKey with ⟨old, hOld⟩
      have hAfter :
          ∀ other ∈ rest, (table.overwrite key value).Live other :=
        fun other hMem =>
          (live_overwrite_iff hKey value other).mpr
            (hRest other hMem)
      rw [overwriteAll_cons, ih hAfter,
        get?_overwrite (issued_of_get?_eq_some _ hOld)]
      by_cases hFirst : other = key
      · simp [hFirst]
      · simp [hFirst]

/- Writing issues no key. -/
@[simp] theorem issued_overwrite_iff
    (table : HandleTable K V)
    (key : K)
    (value : V)
    (other : K) :
    (table.overwrite key value).Issued other ↔
      table.Issued other := by
  simp [Issued, slotCount, overwrite]

/- A key can be written before other keys or after them. -/
theorem overwriteAll_overwrite_comm
    {table : HandleTable K V}
    {key : K}
    {keys : List K}
    (hIssued : table.Issued key)
    (hKeys : ∀ other ∈ keys, table.Issued other)
    (hOutside : key ∉ keys)
    (value value' : V) :
    (table.overwrite key value).overwriteAll keys value' =
      (table.overwriteAll keys value').overwrite key value := by
  induction keys generalizing table with
  | nil => rfl
  | cons other rest ih =>
      rcases List.forall_mem_cons.mp hKeys with ⟨hFirst, hRest⟩
      rw [List.mem_cons, not_or] at hOutside
      rw [overwriteAll_cons, overwriteAll_cons,
        overwrite_comm hIssued hFirst hOutside.1]
      exact ih (by simpa using hIssued) (by simpa using hRest)
        hOutside.2

/- Lists without a common key can be written in either order. -/
theorem overwriteAll_comm
    {table : HandleTable K V}
    {keys others : List K}
    (hKeys : ∀ key ∈ keys, table.Issued key)
    (hOthers : ∀ key ∈ others, table.Issued key)
    (hDisjoint : keys.Disjoint others)
    (value value' : V) :
    (table.overwriteAll keys value).overwriteAll others value' =
      (table.overwriteAll others value').overwriteAll keys value := by
  induction keys generalizing table with
  | nil => rfl
  | cons key rest ih =>
      rcases List.forall_mem_cons.mp hKeys with ⟨hFirst, hRest⟩
      rw [List.disjoint_cons_left] at hDisjoint
      rw [overwriteAll_cons, overwriteAll_cons,
        ih (by simpa using hRest) (by simpa using hOthers)
          hDisjoint.2,
        overwriteAll_overwrite_comm hFirst hOthers hDisjoint.1]

end HandleTable

end QuantumRuntime
