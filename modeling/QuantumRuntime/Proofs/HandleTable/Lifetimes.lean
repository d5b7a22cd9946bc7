import Mathlib.Data.Finset.Card
import QuantumRuntime.Proofs.HandleTable.Shape

/-
  This file proves that a handle table behaves as a record of
  lifetimes: a finite map from live handles to values together
  with the set of all handles ever issued. A record knows
  neither slots nor free lists nor counters.

  Key definitions include:
    * `TableCall`
    * `TableCall.perform`
    * `Lifetimes`
    * `Lifetimes.Step`
    * `Lifetimes.Run`
    * `Represents`

  Key theorems include:
    * `Represents.step`
    * `Represents.run`
    * `runCalls_refines_lifetimes`
-/

namespace QuantumRuntime

------------------------------------------------------------
-- Calls
------------------------------------------------------------

/-
  What can be asked of a handle table. `write` looks a value up
  to change it and stores another one, and `update` changes all
  live values.
-/
inductive TableCall (K : Type) (V : Type) where
  | insert (value : V)
  | get (key : K) (operation : String)
  | write (key : K) (operation : String) (value : V)
  | release (key : K) (operation : String)
  | isLive (key : K)
  | update (f : K → V → V)
  | liveCount
  | liveHandles
  | slotCount

/- What a handle table answers when it accepts a call. -/
inductive TableAnswer (K : Type) (V : Type) where
  | key (k : K)
  | value (v : V)
  | bit (b : Bool)
  | count (n : Nat)
  | keys (ks : List K)
  | done

/- The answer to a call, or why it was refused. -/
abbrev TableOutcome (K : Type) (V : Type) :=
  Except BackendError (TableAnswer K V)

variable {K V : Type} [HandleKey K]

namespace TableCall

/- Put a call to a table. -/
def perform
    (table : HandleTable K V) :
    TableCall K V → TableOutcome K V × HandleTable K V
  | insert value =>
      let (key, table') := table.insert value
      (.ok (.key key), table')
  | get key operation =>
      ((table.get key operation).map .value, table)
  | write key operation value =>
      match table.get key operation,
        table.replace key operation value with
      | .ok old, .ok table' => (.ok (.value old), table')
      | .error e, _ => (.error e, table)
      | _, .error e => (.error e, table)
  | release key operation =>
      match table.release key operation with
      | .ok (value, table') => (.ok (.value value), table')
      | .error e => (.error e, table)
  | isLive key => (.ok (.bit (table.Live key)), table)
  | update f => (.ok .done, table.updateLive f)
  | liveCount => (.ok (.count table.liveCount), table)
  | liveHandles => (.ok (.keys table.liveHandles), table)
  | slotCount => (.ok (.count table.slotCount), table)

/- A refused call leaves the table as it was. -/
theorem perform_of_error
    {table : HandleTable K V}
    {call : TableCall K V}
    {e : BackendError}
    (hRefused : (call.perform table).1 = .error e) :
    (call.perform table).2 = table := by
  revert hRefused
  cases call with
  | write key operation value =>
      rw [perform]
      cases table.get key operation with
      | error e => exact fun _ => rfl
      | ok old =>
          cases table.replace key operation value with
          | error e => exact fun _ => rfl
          | ok table' => exact fun hRefused => nomatch hRefused
  | release key operation =>
      rw [perform]
      cases table.release key operation with
      | error e => exact fun _ => rfl
      | ok pair => exact fun hRefused => nomatch hRefused
  | insert value => exact fun hRefused => nomatch hRefused
  | update f => exact fun hRefused => nomatch hRefused
  | _ => exact fun _ => rfl

end TableCall

/- Put calls to a table one after the other. -/
def runCalls
    (table : HandleTable K V) :
    List (TableCall K V) →
      List (TableOutcome K V) × HandleTable K V
  | [] => ([], table)
  | call :: rest =>
      let (outcome, table') := call.perform table
      let (outcomes, table'') := runCalls table' rest
      (outcome :: outcomes, table'')

------------------------------------------------------------
-- Lifetimes
------------------------------------------------------------

/-
  A record of lifetimes: the value behind each live handle and
  the finitely many handles that have been issued.
-/
structure Lifetimes (K : Type) (V : Type) where
  live : K → Option V
  issued : Finset K
  mem_issued :
    ∀ key value, live key = some value → key ∈ issued

namespace Lifetimes

/- The record before anything has been issued. -/
def start : Lifetimes K V :=
  { live := fun _ => none
    issued := ∅
    mem_issued := by
      intro key value hLive
      cases hLive }

/- The live handles of a record. -/
def liveKeys
    (record : Lifetimes K V) : Finset K :=
  record.issued.filter fun key => (record.live key).isSome

omit [HandleKey K] in
/- The live handles are those with a value. -/
theorem mem_liveKeys_iff
    (record : Lifetimes K V)
    (key : K) :
    key ∈ record.liveKeys ↔ (record.live key).isSome := by
  rw [liveKeys, Finset.mem_filter, and_iff_right_iff_imp]
  intro hLive
  rcases Option.isSome_iff_exists.mp hLive with ⟨value, hValue⟩
  exact record.mem_issued key value hValue

variable [DecidableEq K]

/- Let a value stand behind a handle, which is issued by that. -/
def store
    (record : Lifetimes K V)
    (key : K)
    (value : V) : Lifetimes K V :=
  { live := Function.update record.live key (some value)
    issued := insert key record.issued
    mem_issued := by
      intro other old hLive
      rw [Finset.mem_insert]
      by_cases hKey : other = key
      · exact Or.inl hKey
      · rw [Function.update_of_ne hKey] at hLive
        exact Or.inr (record.mem_issued other old hLive) }

/- End the life of a handle. It stays issued. -/
def drop
    (record : Lifetimes K V)
    (key : K) : Lifetimes K V :=
  { live := Function.update record.live key none
    issued := record.issued
    mem_issued := by
      intro other old hLive
      by_cases hKey : other = key
      · simp [hKey] at hLive
      · rw [Function.update_of_ne hKey] at hLive
        exact record.mem_issued other old hLive }

/- Change the values behind the live handles, and nothing else. -/
def update
    (record : Lifetimes K V)
    (f : K → V → V) : Lifetimes K V :=
  { live := fun key => (record.live key).map (f key)
    issued := record.issued
    mem_issued := by
      intro key value hLive
      rcases Option.map_eq_some_iff.mp hLive with ⟨old, hOld, _⟩
      exact record.mem_issued key old hOld }

omit [HandleKey K] in
theorem live_store
    (record : Lifetimes K V)
    (key : K)
    (value : V)
    (other : K) :
    (record.store key value).live other =
      if other = key then some value else record.live other :=
  Function.update_apply ..

omit [HandleKey K] in
theorem mem_issued_store_iff
    (record : Lifetimes K V)
    (key : K)
    (value : V)
    (other : K) :
    other ∈ (record.store key value).issued ↔
      other = key ∨ other ∈ record.issued :=
  Finset.mem_insert

omit [HandleKey K] in
theorem live_drop
    (record : Lifetimes K V)
    (key other : K) :
    (record.drop key).live other =
      if other = key then none else record.live other :=
  Function.update_apply ..

/-
  The refusal of a handle that is not live. It names the
  operation and the handle, and says `released` for a handle
  that was issued and `unknown` for any other.
-/
def refusal
    (record : Lifetimes K V)
    (key : K)
    (operation : String) : BackendError :=
  .contractViolation operation (HandleKey.toHandle key)
    (if key ∈ record.issued then .released else .unknown)

/-
  What a call may do to a record. Only `insert` leaves a choice:
  it issues any handle that is not live, and one never issued
  before unless handles are recycled.
-/
inductive Step
    (recycles : Bool)
    (record : Lifetimes K V) :
    TableCall K V → TableOutcome K V → Lifetimes K V → Prop
  | insert
      (value : V)
      (key : K)
      (hDead : record.live key = none)
      (hFresh : recycles = false → key ∉ record.issued) :
      Step recycles record (.insert value)
        (.ok (.key key)) (record.store key value)
  | get
      (key : K)
      (operation : String)
      (value : V)
      (hLive : record.live key = some value) :
      Step recycles record (.get key operation)
        (.ok (.value value)) record
  | getRefused
      (key : K)
      (operation : String)
      (hDead : record.live key = none) :
      Step recycles record (.get key operation)
        (.error (record.refusal key operation)) record
  | write
      (key : K)
      (operation : String)
      (value old : V)
      (hLive : record.live key = some old) :
      Step recycles record (.write key operation value)
        (.ok (.value old)) (record.store key value)
  | writeRefused
      (key : K)
      (operation : String)
      (value : V)
      (hDead : record.live key = none) :
      Step recycles record (.write key operation value)
        (.error (record.refusal key operation)) record
  | release
      (key : K)
      (operation : String)
      (value : V)
      (hLive : record.live key = some value) :
      Step recycles record (.release key operation)
        (.ok (.value value)) (record.drop key)
  | releaseRefused
      (key : K)
      (operation : String)
      (hDead : record.live key = none) :
      Step recycles record (.release key operation)
        (.error (record.refusal key operation)) record
  | isLive
      (key : K) :
      Step recycles record (.isLive key)
        (.ok (.bit (record.live key).isSome)) record
  | update
      (f : K → V → V) :
      Step recycles record (.update f)
        (.ok .done) (record.update f)
  | liveCount :
      Step recycles record .liveCount
        (.ok (.count record.liveKeys.card)) record
  | liveHandles
      (keys : List K)
      (hAscending : keys.Pairwise fun k₁ k₂ =>
        HandleKey.raw k₁ < HandleKey.raw k₂)
      (hKeys : ∀ key, key ∈ keys ↔ key ∈ record.liveKeys) :
      Step recycles record .liveHandles
        (.ok (.keys keys)) record
  | slotCount :
      Step recycles record .slotCount
        (.ok (.count record.issued.card)) record

/- What calls one after the other may do to a record. -/
inductive Run
    (recycles : Bool) :
    Lifetimes K V → List (TableCall K V) →
      List (TableOutcome K V) → Lifetimes K V → Prop
  | nil
      (record : Lifetimes K V) :
      Run recycles record [] [] record
  | cons
      {record next final : Lifetimes K V}
      {call : TableCall K V}
      {outcome : TableOutcome K V}
      {calls : List (TableCall K V)}
      {outcomes : List (TableOutcome K V)}
      (hStep : Step recycles record call outcome next)
      (hRun : Run recycles next calls outcomes final) :
      Run recycles record (call :: calls)
        (outcome :: outcomes) final

end Lifetimes

------------------------------------------------------------
-- Representation
------------------------------------------------------------

/-
  A table represents a record when it is coherent, each handle
  finds its value of the record, and the issued handles are the
  raw values from `base` to the number of slots.
-/
structure Represents
    (recycles : Bool)
    (base : Nat)
    (record : Lifetimes K V)
    (table : HandleTable K V) : Prop where
  coherent : table.Coherent
  recycles_eq : table.free.isSome = recycles
  base_eq : table.base = base
  live : ∀ key, table.get? key = record.live key
  issued : ∀ key, key ∈ record.issued ↔ table.Issued key

namespace Represents

variable {recycles : Bool} {base : Nat}
variable {record : Lifetimes K V} {table : HandleTable K V}

/- A new table represents the record without lifetimes. -/
theorem start
    (recycles : Bool)
    (base : Nat) :
    Represents recycles base (Lifetimes.start : Lifetimes K V)
      ((HandleTable.make recycles).withBase base) := by
  refine ⟨HandleTable.coherent_make recycles base, ?_, rfl,
    HandleTable.get?_make recycles base, ?_⟩
  · cases recycles <;> rfl
  · intro key
    have hSlots :
        ((HandleTable.make recycles : HandleTable K V).withBase
          base).slotCount = 0 := by
      cases recycles <;> rfl
    simp only [Lifetimes.start, Finset.notMem_empty, false_iff,
      HandleTable.Issued, hSlots]
    omega

variable [DecidableEq K]

/- The slots are as many as the issued handles. -/
theorem card_issued
    (hTable : Represents recycles base record table) :
    record.issued.card = table.slotCount := by
  have hImage :
      record.issued =
        (Finset.range table.slotCount).image fun index =>
          HandleKey.ofRaw (table.base + index) := by
    ext key
    rw [hTable.issued, Finset.mem_image]
    constructor
    · intro hIssued
      refine ⟨HandleKey.raw key - table.base, ?_, ?_⟩
      · have hLt := hIssued.2
        have hBase := hIssued.1
        exact Finset.mem_range.mpr (by omega)
      · rw [Nat.add_sub_cancel' hIssued.1, HandleKey.ofRaw_raw]
    · rintro ⟨index, hIndex, rfl⟩
      have hLt := Finset.mem_range.mp hIndex
      simp only [HandleTable.Issued, HandleKey.raw_ofRaw]
      omega
  have hInjective :
      Function.Injective fun index =>
        (HandleKey.ofRaw (table.base + index) : K) := by
    intro i₁ i₂ hEq
    have hRaw := congrArg HandleKey.raw hEq
    simp only [HandleKey.raw_ofRaw] at hRaw
    omega
  rw [hImage, Finset.card_image_of_injective _ hInjective,
    Finset.card_range]

/- The listed live handles are those of the record. -/
omit [DecidableEq K] in
theorem mem_liveHandles
    (hTable : Represents recycles base record table)
    (key : K) :
    key ∈ table.liveHandles ↔ key ∈ record.liveKeys := by
  rw [HandleTable.mem_liveHandles_iff, record.mem_liveKeys_iff,
    ← hTable.live]
  rfl

/- The counter is the number of live handles. -/
theorem card_liveKeys
    (hTable : Represents recycles base record table) :
    record.liveKeys.card = table.liveCount := by
  have hNodup : (table.liveHandles : List K).Nodup := by
    refine table.pairwise_liveHandles.imp ?_
    intro k₁ k₂ hLt hEq
    exact absurd (congrArg HandleKey.raw hEq) (Nat.ne_of_lt hLt)
  have hKeys :
      record.liveKeys = (table.liveHandles : List K).toFinset := by
    ext key
    rw [List.mem_toFinset, hTable.mem_liveHandles]
  rw [hKeys, List.toFinset_card_of_nodup hNodup,
    hTable.coherent.length_liveHandles]

/- Handles that are not live are refused in the same words. -/
theorem violation_eq_refusal
    (hTable : Represents recycles base record table)
    (key : K)
    (operation : String) :
    table.violation key operation =
      record.refusal key operation := by
  rw [HandleTable.violation_eq, Lifetimes.refusal]
  simp only [hTable.issued]

/- A table that stored a new value represents the larger record. -/
theorem insert
    (hTable : Represents recycles base record table)
    (value : V) :
    Represents recycles base
      (record.store (table.insert value).1 value)
      (table.insert value).2 := by
  refine ⟨hTable.coherent.insert value, ?_, ?_, ?_, ?_⟩
  · rw [HandleTable.isSome_free_insert, hTable.recycles_eq]
  · rw [HandleTable.base_insert, hTable.base_eq]
  · intro key
    rw [hTable.coherent.get?_insert, Lifetimes.live_store,
      hTable.live]
  · intro key
    rw [hTable.coherent.issued_insert_iff,
      Lifetimes.mem_issued_store_iff, hTable.issued]

/- A table that released a handle represents the shorter record. -/
theorem without
    (hTable : Represents recycles base record table)
    {key : K}
    {value : V}
    (hLive : table.get? key = some value) :
    Represents recycles base
      (record.drop key) (table.without key) := by
  refine ⟨hTable.coherent.without hLive, ?_, hTable.base_eq,
    ?_, ?_⟩
  · rw [HandleTable.isSome_free_without, hTable.recycles_eq]
  · intro other
    rw [HandleTable.get?_without
        (HandleTable.issued_of_get?_eq_some table hLive),
      Lifetimes.live_drop, hTable.live]
  · intro other
    rw [HandleTable.issued_without_iff]
    exact hTable.issued other

/- A written table represents the record with the new value. -/
theorem overwrite
    (hTable : Represents recycles base record table)
    {key : K}
    {old : V}
    (hLive : table.get? key = some old)
    (value : V) :
    Represents recycles base
      (record.store key value) (table.overwrite key value) := by
  have hIssued := HandleTable.issued_of_get?_eq_some table hLive
  have hShape := HandleTable.shape_overwrite hLive value
  refine ⟨HandleTable.coherent_of_shape_eq hShape
      hTable.coherent, hTable.recycles_eq, hTable.base_eq,
    ?_, ?_⟩
  · intro other
    rw [HandleTable.get?_overwrite hIssued,
      Lifetimes.live_store, hTable.live]
  · intro other
    rw [HandleTable.issued_iff_of_shape_eq hShape,
      Lifetimes.mem_issued_store_iff, hTable.issued]
    constructor
    · rintro (rfl | hOther)
      · exact hIssued
      · exact hOther
    · exact Or.inr

/- An updated table represents the updated record. -/
omit [DecidableEq K] in
theorem updateLive
    (hTable : Represents recycles base record table)
    (f : K → V → V) :
    Represents recycles base
      (record.update f) (table.updateLive f) := by
  have hShape := table.shape_updateLive f
  refine ⟨HandleTable.coherent_of_shape_eq hShape
      hTable.coherent, hTable.recycles_eq, hTable.base_eq,
    ?_, ?_⟩
  · intro key
    rw [HandleTable.get?_updateLive, hTable.live]
    rfl
  · intro key
    rw [HandleTable.issued_iff_of_shape_eq hShape]
    exact hTable.issued key

------------------------------------------------------------
-- Steps and runs
------------------------------------------------------------

/-
  A call to a table is a step of the record that the table
  represents, with the same outcome.
-/
theorem step
    (hTable : Represents recycles base record table)
    (call : TableCall K V) :
    ∃ next,
      Lifetimes.Step recycles record call
          (call.perform table).1 next ∧
        Represents recycles base next
          (call.perform table).2 := by
  cases call with
  | insert value =>
      refine ⟨_, .insert value (table.insert value).1 ?_ ?_,
        hTable.insert value⟩
      · rw [← hTable.live, hTable.coherent.get?_insert_fst]
      · intro hRecycles
        rw [hTable.issued]
        apply HandleTable.not_issued_insert_fst
        rw [← Option.not_isSome_iff_eq_none, hTable.recycles_eq,
          hRecycles]
        exact Bool.false_ne_true
  | get key operation =>
      refine ⟨record, ?_, hTable⟩
      cases hKey : table.get? key with
      | some value =>
          rw [TableCall.perform, HandleTable.get_of_live hKey]
          exact .get key operation value
            (by rw [← hTable.live, hKey])
      | none =>
          rw [TableCall.perform, HandleTable.get_of_dead hKey,
            hTable.violation_eq_refusal]
          exact .getRefused key operation
            (by rw [← hTable.live, hKey])
  | write key operation value =>
      cases hKey : table.get? key with
      | some old =>
          simp only [TableCall.perform,
            HandleTable.get_of_live hKey,
            HandleTable.replace_of_live hKey]
          exact ⟨_, .write key operation value old
              (by rw [← hTable.live, hKey]),
            hTable.overwrite hKey value⟩
      | none =>
          simp only [TableCall.perform,
            HandleTable.get_of_dead hKey,
            hTable.violation_eq_refusal]
          exact ⟨_, .writeRefused key operation value
              (by rw [← hTable.live, hKey]),
            hTable⟩
  | release key operation =>
      cases hKey : table.get? key with
      | some value =>
          simp only [TableCall.perform,
            HandleTable.release_of_live hKey]
          exact ⟨_, .release key operation value
              (by rw [← hTable.live, hKey]),
            hTable.without hKey⟩
      | none =>
          simp only [TableCall.perform,
            HandleTable.release_of_dead hKey,
            hTable.violation_eq_refusal]
          exact ⟨_, .releaseRefused key operation
              (by rw [← hTable.live, hKey]),
            hTable⟩
  | isLive key =>
      refine ⟨record, ?_, hTable⟩
      have hLive :
          decide (table.Live key) =
            (record.live key).isSome := by
        rw [← hTable.live]
        exact Bool.decide_eq_true
      rw [TableCall.perform, hLive]
      exact .isLive key
  | update f => exact ⟨_, .update f, hTable.updateLive f⟩
  | liveCount =>
      refine ⟨record, ?_, hTable⟩
      rw [TableCall.perform, ← hTable.card_liveKeys]
      exact .liveCount
  | liveHandles =>
      exact ⟨record, .liveHandles _ table.pairwise_liveHandles
        hTable.mem_liveHandles, hTable⟩
  | slotCount =>
      refine ⟨record, ?_, hTable⟩
      rw [TableCall.perform, ← hTable.card_issued]
      exact .slotCount

/- Calls to a table are a run of the record it represents. -/
theorem run
    (hTable : Represents recycles base record table)
    (calls : List (TableCall K V)) :
    ∃ final,
      Lifetimes.Run recycles record calls
          (runCalls table calls).1 final ∧
        Represents recycles base final
          (runCalls table calls).2 := by
  induction calls generalizing record table with
  | nil => exact ⟨record, .nil record, hTable⟩
  | cons call rest ih =>
      rcases hTable.step call with ⟨next, hStep, hNext⟩
      rcases ih hNext with ⟨final, hRun, hFinal⟩
      exact ⟨final, .cons hStep hRun, hFinal⟩

end Represents

/-
  A handle table refines a record of lifetimes. Whatever calls
  are put to a new table, with or without recycling and from
  any first raw value, their outcomes are those of a run of the
  record from its start, the table keeps finding what the
  record says, and a refused call leaves it as it was. All
  issued handles lie between the first raw value and the number
  of slots, so none overflows while that sum is within the
  range of raw values.
-/
theorem runCalls_refines_lifetimes
    [DecidableEq K]
    (recycles : Bool)
    (base : Nat)
    (calls : List (TableCall K V)) :
    let table : HandleTable K V :=
      (HandleTable.make recycles).withBase base
    let run := runCalls table calls
    ∃ final : Lifetimes K V,
      Lifetimes.Run recycles Lifetimes.start calls run.1 final ∧
        (∀ key, run.2.get? key = final.live key) ∧
        (∀ key,
          key ∈ final.issued ↔
            base ≤ HandleKey.raw key ∧
              HandleKey.raw key < base + run.2.slotCount) ∧
        ∀ (call : TableCall K V) (e : BackendError),
          (call.perform run.2).1 = .error e →
            (call.perform run.2).2 = run.2 := by
  intro table run
  rcases (Represents.start recycles base).run calls with
    ⟨final, hRun, hFinal⟩
  refine ⟨final, hRun, hFinal.live, ?_, ?_⟩
  · intro key
    rw [hFinal.issued, HandleTable.Issued, hFinal.base_eq]
  · intro call e hRefused
    exact call.perform_of_error hRefused

end QuantumRuntime
