import QuantumRuntime.Proofs.Backend.Holdings
import QuantumRuntime.Proofs.HandleTable.KeyLists

/-
  This file compares two tables that hold the same values behind
  keys of their own. A list of names and two ways of giving keys
  to names say which keys belong together. Whatever is done to
  both tables under the same names keeps them aligned, however
  each of them chooses its keys.

  Key definitions include:
    * `HandleTable.Keyed`
    * `HandleTable.Aligned`

  Key theorems include:
    * `HandleTable.Aligned.foldlM_get_eq`
    * `HandleTable.Aligned.insert`
    * `HandleTable.Aligned.without`
    * `HandleTable.Aligned.overwrite`
    * `HandleTable.Aligned.mapLive`
-/

namespace QuantumRuntime

namespace HandleTable

variable {N K V : Type} [HandleKey K]

------------------------------------------------------------
-- Names
------------------------------------------------------------

/- Some names have live keys in a table, and no two the same key. -/
structure Keyed
    (names : List N)
    (key : N → K)
    (table : HandleTable K V) : Prop where
  coherent : table.Coherent
  live :
    ∀ n ∈ names, table.Live (key n)
  injective :
    ∀ n ∈ names, ∀ m ∈ names, key n = key m → n = m

namespace Keyed

variable {names : List N} {key : N → K}
variable {table : HandleTable K V}

/- The keys of names are live, however many are asked for. -/
theorem checkLive_map
    (hKeyed : Keyed names key table)
    {qs : List N}
    (hNames : ∀ n ∈ qs, n ∈ names)
    (operation : String) :
    table.checkLive operation (qs.map key) = .ok () := by
  rw [checkLive_eq_ok_iff]
  intro k hMem
  rcases List.mem_map.mp hMem with ⟨n, hName, rfl⟩
  exact hKeyed.live n (hNames n hName)

/- A key is among others when its name is among theirs. -/
theorem mem_map_iff
    (hKeyed : Keyed names key table)
    {n : N}
    {qs : List N}
    (hName : n ∈ names)
    (hNames : ∀ m ∈ qs, m ∈ names) :
    key n ∈ qs.map key ↔ n ∈ qs := by
  constructor
  · intro hMem
    rcases List.mem_map.mp hMem with ⟨m, hOther, hSame⟩
    have hEq :=
      hKeyed.injective m (hNames m hOther) n hName hSame
    rwa [hEq] at hOther
  · exact List.mem_map_of_mem

/- No key comes twice when no name does. -/
theorem nodup_map_iff
    (hKeyed : Keyed names key table)
    {qs : List N}
    (hNames : ∀ m ∈ qs, m ∈ names) :
    (qs.map key).Nodup ↔ qs.Nodup := by
  constructor
  · exact List.Nodup.of_map key
  · intro hNodup
    refine hNodup.map_on fun n hFirst m hSecond hSame => ?_
    exact hKeyed.injective n (hNames n hFirst) m
      (hNames m hSecond) hSame

/- The key that is issued next belongs to no name. -/
theorem ne_insert_fst
    (hKeyed : Keyed names key table)
    (value : V)
    {n : N}
    (hName : n ∈ names) :
    key n ≠ (table.insert value).1 := by
  intro hSame
  have hLive := hKeyed.live n hName
  rw [hSame, Live, hKeyed.coherent.get?_insert_fst value] at hLive
  cases hLive

/- A new name gets the key that is issued. -/
theorem insert
    [DecidableEq K]
    (hKeyed : Keyed names key table)
    (value : V)
    {new : N}
    {next : N → K}
    (hNew : next new = (table.insert value).1)
    (hOld : ∀ n ∈ names, next n = key n) :
    Keyed (new :: names) next
      (table.insert value : K × HandleTable K V).2 := by
  have hOther :
      ∀ n ∈ names, next n ≠ next new := by
    intro n hName
    rw [hNew, hOld n hName]
    exact hKeyed.ne_insert_fst value hName
  constructor
  case coherent => exact hKeyed.coherent.insert value
  case live =>
    intro n hMem
    rw [hKeyed.coherent.live_insert_iff]
    rcases List.mem_cons.mp hMem with rfl | hName
    · exact .inl hNew
    · rw [hOld n hName]
      exact .inr (hKeyed.live n hName)
  case injective =>
    intro n hFirst m hSecond hSame
    rcases List.mem_cons.mp hFirst with rfl | hOldFirst
    · rcases List.mem_cons.mp hSecond with rfl | hOldSecond
      · rfl
      · exact absurd hSame.symm (hOther m hOldSecond)
    · rcases List.mem_cons.mp hSecond with rfl | hOldSecond
      · exact absurd hSame (hOther n hOldFirst)
      · rw [hOld n hOldFirst, hOld m hOldSecond] at hSame
        exact hKeyed.injective n hOldFirst m hOldSecond hSame

/- A name whose key is released is gone. -/
theorem without
    [DecidableEq N]
    [DecidableEq K]
    (hKeyed : Keyed names key table)
    {old : N}
    (hName : old ∈ names) :
    Keyed (names.filter (· ≠ old)) key
      (table.without (key old)) := by
  have hLive := hKeyed.live old hName
  rcases (table.live_iff _).mp hLive with ⟨value, hValue⟩
  constructor
  case coherent => exact hKeyed.coherent.without hValue
  case live =>
    intro n hMem
    rcases List.mem_filter.mp hMem with ⟨hKept, hOther⟩
    rw [live_without_iff hLive]
    constructor
    · intro hSame
      exact of_decide_eq_true hOther
        (hKeyed.injective n hKept old hName hSame)
    · exact hKeyed.live n hKept
  case injective =>
    intro n hFirst m hSecond
    exact hKeyed.injective n (List.mem_of_mem_filter hFirst) m
      (List.mem_of_mem_filter hSecond)

/- Names can be forgotten. -/
theorem mono
    {fewer : List N}
    (hKeyed : Keyed names key table)
    (hFewer : ∀ n ∈ fewer, n ∈ names) :
    Keyed fewer key table where
  coherent := hKeyed.coherent
  live n hName := hKeyed.live n (hFewer n hName)
  injective n hFirst m hSecond :=
    hKeyed.injective n (hFewer n hFirst) m (hFewer m hSecond)

/- Only the shape of a table matters. -/
theorem of_shape_eq
    {W : Type}
    {other : HandleTable K W}
    (hKeyed : Keyed names key table)
    (hShape : other.shape = table.shape) :
    Keyed names key other where
  coherent := coherent_of_shape_eq hShape hKeyed.coherent
  live n hName := by
    unfold Live
    rw [isSome_get?_of_shape_eq hShape]
    exact hKeyed.live n hName
  injective := hKeyed.injective

end Keyed

------------------------------------------------------------
-- Aligned tables
------------------------------------------------------------

/-
  Two tables hold the same values behind the keys of some names,
  and as many keys are live in one as in the other.
-/
structure Aligned
    (names : List N)
    (key key' : N → K)
    (table table' : HandleTable K V) : Prop where
  own : Keyed names key table
  other : Keyed names key' table'
  liveCount_eq : table'.liveCount = table.liveCount
  get?_eq :
    ∀ n ∈ names, table'.get? (key' n) = table.get? (key n)

namespace Aligned

variable {names : List N} {key key' : N → K}
variable {table table' : HandleTable K V}

/- A name finds one value in both tables. -/
theorem exists_get?
    (hAligned : Aligned names key key' table table')
    {n : N}
    (hName : n ∈ names) :
    ∃ value,
      table.get? (key n) = some value ∧
        table'.get? (key' n) = some value := by
  rcases (table.live_iff _).mp (hAligned.own.live n hName) with
    ⟨value, hValue⟩
  exact ⟨value, hValue, (hAligned.get?_eq n hName).trans hValue⟩

/- Reading the keys of names gives the same in both tables. -/
theorem foldlM_get_eq
    [Inhabited V]
    {α : Type}
    (hAligned : Aligned names key key' table table')
    {qs : List N}
    (hNames : ∀ n ∈ qs, n ∈ names)
    (operation : String)
    (f : α → V → α)
    (start : α) :
    ∃ result,
      (qs.map key).foldlM
          (fun result k => do
            let value ← table.get k operation
            Except.ok (f result value))
          start = .ok result ∧
        (qs.map key').foldlM
          (fun result k => do
            let value ← table'.get k operation
            Except.ok (f result value))
          start = .ok result := by
  rw [foldlM_get, foldlM_get, hAligned.own.checkLive_map hNames,
    hAligned.other.checkLive_map hNames, List.foldl_map,
    List.foldl_map]
  refine ⟨_, rfl, congrArg Except.ok ?_⟩
  apply List.foldl_ext
  intro result n hMem
  rw [hAligned.get?_eq n (hNames n hMem)]

/- A value that is stored in both tables gets a name. -/
theorem insert
    [DecidableEq K]
    (hAligned : Aligned names key key' table table')
    (value : V)
    {new : N}
    {next next' : N → K}
    (hNew : next new = (table.insert value).1)
    (hNew' : next' new = (table'.insert value).1)
    (hOld : ∀ n ∈ names, next n = key n)
    (hOld' : ∀ n ∈ names, next' n = key' n) :
    Aligned (new :: names) next next'
      (table.insert value : K × HandleTable K V).2
      (table'.insert value : K × HandleTable K V).2 where
  own := hAligned.own.insert value hNew hOld
  other := hAligned.other.insert value hNew' hOld'
  liveCount_eq := by
    rw [liveCount_insert, liveCount_insert, hAligned.liveCount_eq]
  get?_eq n hMem := by
    rw [hAligned.own.coherent.get?_insert,
      hAligned.other.coherent.get?_insert]
    rcases List.mem_cons.mp hMem with rfl | hName
    · rw [if_pos hNew, if_pos hNew']
    · rw [hOld n hName, hOld' n hName,
        if_neg (hAligned.own.ne_insert_fst value hName),
        if_neg (hAligned.other.ne_insert_fst value hName),
        hAligned.get?_eq n hName]

/- A name can be released in both tables. -/
theorem without
    [DecidableEq N]
    [DecidableEq K]
    (hAligned : Aligned names key key' table table')
    {old : N}
    (hName : old ∈ names) :
    Aligned (names.filter (· ≠ old)) key key'
      (table.without (key old)) (table'.without (key' old)) where
  own := hAligned.own.without hName
  other := hAligned.other.without hName
  liveCount_eq :=
    congrArg (· - 1) hAligned.liveCount_eq
  get?_eq n hMem := by
    rcases List.mem_filter.mp hMem with ⟨hKept, hOther⟩
    rcases hAligned.exists_get? hName with
      ⟨value, hValue, hValue'⟩
    have hNe : key n ≠ key old := fun hSame =>
      of_decide_eq_true hOther
        (hAligned.own.injective n hKept old hName hSame)
    have hNe' : key' n ≠ key' old := fun hSame =>
      of_decide_eq_true hOther
        (hAligned.other.injective n hKept old hName hSame)
    rw [get?_without (issued_of_get?_eq_some _ hValue),
      get?_without (issued_of_get?_eq_some _ hValue'),
      if_neg hNe, if_neg hNe', hAligned.get?_eq n hKept]

/- A value can be stored behind a name in both tables. -/
theorem overwrite
    [DecidableEq K]
    (hAligned : Aligned names key key' table table')
    {n : N}
    (hName : n ∈ names)
    (value : V) :
    Aligned names key key'
      (table.overwrite (key n) value)
      (table'.overwrite (key' n) value) := by
  rcases hAligned.exists_get? hName with ⟨old, hOld, hOld'⟩
  constructor
  case own =>
    exact hAligned.own.of_shape_eq (shape_overwrite hOld value)
  case other =>
    exact hAligned.other.of_shape_eq (shape_overwrite hOld' value)
  case liveCount_eq => exact hAligned.liveCount_eq
  case get?_eq =>
    intro m hOther
    rw [get?_overwrite (issued_of_get?_eq_some _ hOld),
      get?_overwrite (issued_of_get?_eq_some _ hOld')]
    by_cases hSame : m = n
    · rw [hSame, if_pos rfl, if_pos rfl]
    · have hNe : key m ≠ key n := fun hEq =>
        hSame (hAligned.own.injective m hOther n hName hEq)
      have hNe' : key' m ≠ key' n := fun hEq =>
        hSame (hAligned.other.injective m hOther n hName hEq)
      rw [if_neg hNe, if_neg hNe', hAligned.get?_eq m hOther]

/- All values can be changed in both tables in the same way. -/
theorem mapLive
    (hAligned : Aligned names key key' table table')
    (f : V → V) :
    Aligned names key key' (table.mapLive f) (table'.mapLive f) where
  own := hAligned.own.of_shape_eq (shape_updateLive _ _)
  other := hAligned.other.of_shape_eq (shape_updateLive _ _)
  liveCount_eq := hAligned.liveCount_eq
  get?_eq n hName := by
    unfold HandleTable.mapLive
    rw [get?_updateLive, get?_updateLive,
      hAligned.get?_eq n hName]

/- Tables that have just been made are aligned, without names. -/
theorem make
    (recycle recycle' : Bool)
    (key key' : N → K) :
    Aligned [] key key'
      (make recycle : HandleTable K V)
      (HandleTable.make recycle' : HandleTable K V) := by
  have hCoherent :
      ∀ recycle, (HandleTable.make recycle :
        HandleTable K V).Coherent := by
    intro recycle
    rw [← withBase_zero_make]
    exact coherent_make recycle 0
  have hCount :
      ∀ recycle, (HandleTable.make recycle :
        HandleTable K V).liveCount = 0 := by
    intro recycle
    cases recycle <;> rfl
  constructor
  case own => exact ⟨hCoherent recycle, by simp, by simp⟩
  case other => exact ⟨hCoherent recycle', by simp, by simp⟩
  case liveCount_eq => rw [hCount, hCount]
  case get?_eq => simp

end Aligned

end HandleTable

end QuantumRuntime
