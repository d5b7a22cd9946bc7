import Mathlib.Algebra.GroupWithZero.Nat
import Mathlib.Data.List.Nodup
import QuantumRuntime.Simulator.Tracer

/-
  This file proves how counts grow by one name after the other
  and defines how the metrics of two parts of a program are
  taken together: counts are added name by name, and of the
  width and the depth the larger one counts.

  Key definitions include:
    * `Counts.number`
    * `Counts.add`
    * `Metrics.combine`
    * `Metrics.combineAll`

  Key theorems include:
    * `Counts.total_increment`
    * `Counts.increment_comm`
    * `Counts.add_increment`
    * `Metrics.combine_zero`
-/

namespace QuantumRuntime

------------------------------------------------------------
-- Counts
------------------------------------------------------------

namespace Counts

/- How often a name was counted. -/
def number
    (name : String)
    (counts : Counts) : Nat :=
  counts[name]?.getD 0

@[simp] theorem number_empty
    (name : String) :
    number name ∅ = 0 := by
  rw [number, Std.ExtTreeMap.getElem?_empty, Option.getD_none]

theorem getElem?_increment
    (name other : String)
    (counts : Counts) :
    (counts.increment name)[other]? =
      if other = name then
        some (counts.number name + 1)
      else
        counts[other]? := by
  rw [increment, Std.ExtTreeMap.getElem?_alter]
  refine if_congr ?_ rfl rfl
  rw [Std.LawfulEqCmp.compare_eq_iff_eq, eq_comm]

theorem number_increment
    (name other : String)
    (counts : Counts) :
    (counts.increment name).number other =
      counts.number other + if other = name then 1 else 0 := by
  rw [number, getElem?_increment]
  by_cases hName : other = name
  · simp [hName]
  · simp [hName, number]

/- Names can be counted in either order. -/
theorem increment_comm
    (first second : String)
    (counts : Counts) :
    (counts.increment first).increment second =
      (counts.increment second).increment first := by
  apply Std.ExtTreeMap.ext_getElem?
  intro other
  simp only [getElem?_increment, number_increment]
  by_cases hFirst : other = first
  · subst hFirst
    by_cases hSecond : other = second
    · rw [hSecond]
    · simp [hSecond]
  · by_cases hSecond : other = second
    · subst hSecond
      simp [hFirst]
    · simp [hFirst, hSecond]

/- Every name that was counted has a positive count. -/
def Positive
    (counts : Counts) : Prop :=
  ∀ (name : String) (n : Nat), counts[name]? = some n → 0 < n

theorem positive_empty :
    Positive ∅ := by
  intro name n hCount
  rw [Std.ExtTreeMap.getElem?_empty] at hCount
  cases hCount

theorem Positive.increment
    {counts : Counts}
    (hPositive : counts.Positive)
    (name : String) :
    (counts.increment name).Positive := by
  intro other n hCount
  rw [getElem?_increment] at hCount
  split at hCount
  · cases hCount
    exact Nat.succ_pos _
  · exact hPositive other n hCount

/- A count is what a name was counted, if it was. -/
theorem Positive.getElem?_eq_some_iff
    {counts : Counts}
    (hPositive : counts.Positive)
    (name : String)
    (n : Nat) :
    counts[name]? = some n ↔ 0 < n ∧ n = counts.number name := by
  constructor
  · intro hCount
    refine ⟨hPositive name n hCount, ?_⟩
    rw [number, hCount, Option.getD_some]
  · rintro ⟨hLt, rfl⟩
    cases hCount : counts[name]? with
    | none => simp [number, hCount] at hLt
    | some m => rw [number, hCount, Option.getD_some]

------------------------------------------------------------
-- Totals
------------------------------------------------------------

/- The counts of all names but one. -/
def others
    (name : String)
    (counts : Counts) : List (String × Nat) :=
  counts.toList.filter fun entry => entry.1 ≠ name

theorem nodup_toList
    (counts : Counts) :
    counts.toList.Nodup := by
  apply List.Nodup.of_map Prod.fst
  rw [Std.ExtTreeMap.map_fst_toList_eq_keys]
  exact Std.ExtTreeMap.nodup_keys

theorem mem_others_iff
    (name : String)
    (counts : Counts)
    (entry : String × Nat) :
    entry ∈ counts.others name ↔
      counts[entry.1]? = some entry.2 ∧ entry.1 ≠ name := by
  rw [others, List.mem_filter, decide_eq_true_iff,
    ← Std.ExtTreeMap.mem_toList_iff_getElem?_eq_some]

/- The entries are that of a name, if it was counted, and the others. -/
theorem toList_perm
    (name : String)
    (counts : Counts) :
    counts.toList.Perm
      ((counts[name]?.map fun n => (name, n)).toList ++
        counts.others name) := by
  refine (List.perm_ext_iff_of_nodup counts.nodup_toList ?_).mpr ?_
  · refine List.nodup_append.mpr
      ⟨?_, counts.nodup_toList.filter _, ?_⟩
    · cases counts[name]? <;> simp
    · intro entry hOwn other hOther hSame
      have hNe := ((mem_others_iff name counts other).mp hOther).2
      rw [← hSame] at hNe
      rw [Option.mem_toList, Option.map_eq_some_iff] at hOwn
      rcases hOwn with ⟨n, -, rfl⟩
      exact hNe rfl
  · rintro ⟨other, n⟩
    rw [Std.ExtTreeMap.mem_toList_iff_getElem?_eq_some,
      List.mem_append, mem_others_iff, Option.mem_toList,
      Option.map_eq_some_iff]
    constructor
    · intro hCount
      by_cases hName : other = name
      · exact .inl ⟨n, hName ▸ hCount, by rw [hName]⟩
      · exact .inr ⟨hCount, hName⟩
    · rintro (⟨m, hCount, hSame⟩ | ⟨hCount, -⟩)
      · cases hSame
        exact hCount
      · exact hCount

theorem total_eq_sum
    (counts : Counts) :
    counts.total = (counts.toList.map Prod.snd).sum :=
  List.sum_eq_foldl.symm

/- The total is what one name was counted, and all others. -/
theorem total_eq_number_add
    (name : String)
    (counts : Counts) :
    counts.total =
      counts.number name +
        ((counts.others name).map Prod.snd).sum := by
  rw [total_eq_sum, ((counts.toList_perm name).map Prod.snd).sum_nat,
    List.map_append, List.sum_append, number]
  cases counts[name]? <;> simp

/- Counting a name once more adds one to the total. -/
theorem total_increment
    (name : String)
    (counts : Counts) :
    (counts.increment name).total = counts.total + 1 := by
  have hOthers :
      ((counts.increment name).others name).Perm
        (counts.others name) := by
    refine (List.perm_ext_iff_of_nodup
      ((nodup_toList _).filter _)
      ((nodup_toList _).filter _)).mpr fun entry => ?_
    rw [← others, ← others, mem_others_iff, mem_others_iff]
    refine and_congr_left fun hName => ?_
    rw [getElem?_increment, if_neg hName]
  rw [total_eq_number_add name, total_eq_number_add name counts,
    (hOthers.map Prod.snd).sum_nat, number_increment, if_pos rfl]
  omega

------------------------------------------------------------
-- Adding counts
------------------------------------------------------------

/- The counts of two parts of a program, added name by name. -/
def add
    (first second : Counts) : Counts :=
  (first ∪ second).map fun name _ =>
    first.number name + second.number name

theorem getElem?_add
    (first second : Counts)
    (name : String) :
    (first.add second)[name]? =
      (second[name]?.or first[name]?).map fun _ =>
        first.number name + second.number name := by
  rw [add, Std.ExtTreeMap.getElem?_map,
    Std.ExtTreeMap.getElem?_union]

@[simp] theorem empty_add
    (counts : Counts) :
    add ∅ counts = counts := by
  apply Std.ExtTreeMap.ext_getElem?
  intro name
  rw [getElem?_add]
  cases hCount : counts[name]? <;> simp [number, hCount]

@[simp] theorem add_empty
    (counts : Counts) :
    counts.add ∅ = counts := by
  apply Std.ExtTreeMap.ext_getElem?
  intro name
  rw [getElem?_add]
  cases hCount : counts[name]? <;> simp [number, hCount]

/- A name that is counted in the second part is counted in both. -/
theorem add_increment
    (first second : Counts)
    (name : String) :
    first.add (second.increment name) =
      (first.add second).increment name := by
  apply Std.ExtTreeMap.ext_getElem?
  intro other
  rw [getElem?_add, getElem?_increment, getElem?_increment]
  by_cases hName : other = name
  · subst hName
    have hNumber :
        (first.add second).number other =
          first.number other + second.number other := by
      rw [number, getElem?_add]
      cases hFirst : first[other]? <;>
        cases hSecond : second[other]? <;>
          simp [number, hFirst, hSecond]
    simp [number_increment, hNumber, Nat.add_assoc]
  · simp [hName, number_increment, getElem?_add]

end Counts

------------------------------------------------------------
-- Metrics
------------------------------------------------------------

namespace Metrics

/-
  The metrics of two parts of a program together. Counts add up,
  and the width and the depth are the larger ones.
-/
def combine
    (first second : Metrics) : Metrics :=
  { gateCounts := first.gateCounts.add second.gateCounts
    controlledCounts :=
      first.controlledCounts.add second.controlledCounts
    measurements := first.measurements + second.measurements
    qubitsAllocated := first.qubitsAllocated + second.qubitsAllocated
    peakWidth := max first.peakWidth second.peakWidth
    depth := max first.depth second.depth }

/- The metrics of all parts of a program together. -/
def combineAll
    (parts : List Metrics) : Metrics :=
  parts.foldl combine zero

@[simp] theorem zero_combine
    (metrics : Metrics) :
    zero.combine metrics = metrics := by
  simp [combine, zero]

@[simp] theorem combine_zero
    (metrics : Metrics) :
    metrics.combine zero = metrics := by
  simp [combine, zero]

end Metrics

end QuantumRuntime
