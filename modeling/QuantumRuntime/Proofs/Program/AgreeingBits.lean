import Mathlib
import QuantumRuntime.Proofs.Program.StateStages
import QuantumRuntime.Proofs.Simulator.LaterDraws

/-
  This file proves that the bits of an entangled chain agree. The
  chain of flips makes the qubits follow the first one, which is
  in equal parts zero and one, and the first measurement settles
  all of them on its outcome. Every later measurement and reset
  finds its qubit settled.

  Key definitions include:
    * `StateVector.Follows`
    * `FullState.evenBit`
    * `Protocol.GivesBit`

  Key theorems include:
    * `StateVector.Follows.controlled_flip`
    * `StateVector.Follows.settled_collapse`
    * `FullState.JustLent.ghzOn`
    * `Protocol.entangled_bits_agree`
-/

namespace QuantumRuntime

------------------------------------------------------------
-- Qubits that follow another one
------------------------------------------------------------

namespace StateVector

variable {s : StateVector ℝ} {position : Nat} {bit : Bool}
variable {first target control : Nat} {all rest : List Nat}

/-
  Some qubits follow the first one, except for those that are
  zero as yet: no amplitude is left where their bits differ. The
  two branches of the first qubit have the same weight.
-/
structure Follows
    (all : List Nat)
    (first : Nat)
    (rest : List Nat)
    (s : StateVector ℝ) : Prop where
  agree :
    ∀ position ∈ all, position ∉ rest →
      ∀ i, i.testBit position ≠ i.testBit first →
        s.amplitude i = 0
  settled :
    ∀ position ∈ rest, s.Settled position false
  weight_eq :
    s.branchWeight first true = s.branchWeight first false

/- After a half turn of the first qubit the others are zero. -/
theorem follows_half_turn
    (hSettled : ∀ position ∈ first :: rest,
      s.Settled position false)
    (hFirst : first < s.qubitCount)
    (hNew : first ∉ rest) :
    (s.applyGate .h 0 first).Follows (first :: rest) first rest where
  agree position hMem hOutside i hBit := by
    rcases List.mem_cons.mp hMem with rfl | hRest
    · exact absurd rfl hBit
    · exact absurd hRest hOutside
  settled position hMem := by
    have hOther : position ≠ first := by
      rintro rfl
      exact hNew hMem
    exact (hSettled position (List.mem_cons_of_mem _ hMem)).applyGate
      .h hFirst hOther
  weight_eq :=
    (hSettled first (List.mem_cons_self ..)).even_half_turn hFirst
      |>.branchWeight_eq (by simpa)

/-
  A qubit that is zero follows once it is flipped under one that
  follows.
-/
theorem Follows.controlled_flip
    (hFollows : s.Follows all first (target :: rest))
    (hTarget : target < s.qubitCount)
    (hControl : control ∈ all)
    (hReady : control ∉ target :: rest)
    (hOther : target ≠ first)
    (hNew : target ∉ rest) :
    (s.applyGate .x (2 ^ control) target).Follows all first rest := by
  have hApart : control ≠ target := by
    rintro rfl
    exact hReady (List.mem_cons_self ..)
  have hOutside : (2 ^ control).testBit target = false := by
    rw [Nat.testBit_two_pow, decide_eq_false hApart]
  refine ⟨fun position hMem hRest i hBit => ?_, ?_, ?_⟩
  · rw [amplitude_flip hOutside hTarget]
    -- All bits are kept but that of the target.
    have hKept (k : Nat) (hk : k ≠ target) :
        (flipUnder (2 ^ control) target i).testBit k =
          i.testBit k := by
      rw [testBit_flipUnder, if_neg (fun hAt => hk hAt.1)]
    by_cases hAt : position = target
    · subst hAt
      by_cases hFollowed : i.testBit control = i.testBit first
      · apply (hFollows.settled position
          (List.mem_cons_self ..)).amplitude_eq_zero
        rw [testBit_flipUnder]
        simp only [holds_two_pow_iff, true_and]
        rw [hFollowed]
        revert hBit
        cases i.testBit position <;> cases i.testBit first <;> simp
      · apply hFollows.agree control hControl hReady
        rw [hKept control hApart, hKept first hOther.symm]
        exact hFollowed
    · apply hFollows.agree position hMem
      · rw [List.mem_cons, not_or]
        exact ⟨hAt, hRest⟩
      · rw [hKept position hAt, hKept first hOther.symm]
        exact hBit
  · intro position hMem
    have hElse : position ≠ target := by
      rintro rfl
      exact hNew hMem
    exact (hFollows.settled position
      (List.mem_cons_of_mem _ hMem)).applyGate .x hTarget hElse
  · rw [branchWeight_applyGate_of_ne .x _ hTarget hOther.symm,
      branchWeight_applyGate_of_ne .x _ hTarget hOther.symm]
    exact hFollows.weight_eq

/- When the first qubit is measured, all have its outcome. -/
theorem Follows.settled_collapse
    (hFollows : s.Follows all first [])
    (bit : Bool)
    (hMem : position ∈ all) :
    (s.collapse first bit).Settled position bit := by
  intro i _ hBit
  rw [amplitude_collapse_eq]
  by_cases hFirst : i.testBit first = bit
  · have hNone : s.amplitude i = 0 := by
      apply hFollows.agree position hMem List.not_mem_nil
      rw [hFirst]
      exact hBit
    rw [hNone, ite_self, normalized_zero]
  · rw [if_neg hFirst, normalized_zero]

/- A reset of another qubit keeps a qubit settled. -/
theorem Settled.reset
    (hSettled : s.Settled position bit)
    (hTarget : target < s.qubitCount)
    (hOther : position ≠ target)
    (outcome : Bool) :
    (s.reset target outcome).Settled position bit := by
  have hQuotients : Scalar.DividesZero ℝ := fun x _ => zero_div x
  intro i _ hBit
  have hNone : s.amplitude (putBit target outcome i) = 0 := by
    apply hSettled.amplitude_eq_zero
    rw [testBit_putBit, if_neg hOther]
    exact hBit
  rw [amplitude_reset hQuotients s hTarget, hNone,
    normalized_zero, ite_self]

end StateVector

------------------------------------------------------------
-- Outcomes of settled qubits
------------------------------------------------------------

namespace FullState

variable {lent : FullState ℝ} {spent position : Nat} {bit : Bool}
variable {s : StateVector ℝ}

/- The bit of an even qubit when some draws have been spent. -/
noncomputable def evenBit
    (lent : FullState ℝ)
    (spent : Nat) : Bool :=
  decide (lent.draws (lent.drawn + spent) < Scalar.half)

theorem evenBit_eq_decide
    (lent : FullState ℝ)
    (spent : Nat) :
    lent.evenBit spent =
      decide (lent.draws (lent.drawn + spent) < 1 / 2) := by
  rw [evenBit, StateVector.half_real]

/- A settled qubit is found as it is, whatever the draw. -/
theorem Decides.outcomeOf_eq
    (hDecides : lent.Decides spent position s)
    (hDraws : lent.DrawsInUnit)
    (hSettled : s.Settled position bit) :
    lent.outcomeOf spent position s = bit := by
  have hOutcome :
      nextOutcome position
          { lent with
            state := s
            drawn := lent.drawn + spent } =
        bit :=
    nextOutcome_of_certain ⟨hSettled, hDecides.weight_eq⟩ hDraws
  exact hOutcome

/- One that is even is found as the draw says. -/
theorem Decides.outcomeOf_of_even
    (hDecides : lent.Decides spent position s)
    (hSame :
      s.branchWeight position true = s.branchWeight position false) :
    lent.outcomeOf spent position s = lent.evenBit spent := by
  rw [outcomeOf, evenBit_eq_decide,
    StateVector.branchWeight_eq_half hSame hDecides.weight_eq]

end FullState

------------------------------------------------------------
-- Chains of qubits
------------------------------------------------------------

namespace FullState.JustLent

variable {sim lent : FullState ℝ} {qs : List QubitId}

/- The qubits have different places. -/
theorem nodup_places
    (hLent : sim.JustLent qs lent) :
    (qs.map lent.place).Nodup := by
  refine hLent.nodup.map_on fun q hMem q' hMem' hSame => ?_
  by_contra hOther
  exact hLent.place_ne q hMem q' hMem' hOther hSame

end FullState.JustLent

namespace Mount.Evolves

variable {n : Nat} {β : Type} [Backend ℝ β] {mount : Mount ℝ n β}
variable {lent : FullState ℝ} {spent : Nat} {bit : Bool}
variable {first q : QubitId} {all rest : List QubitId}
variable {Before : StateVector ℝ → Prop}

/- Every qubit of a chain follows the first one in the end. -/
theorem chain
    (hLive : ∀ c ∈ q :: rest,
      lent.qubits.get? c = some (lent.place c))
    (hAll : ∀ c ∈ q :: rest, lent.place c ∈ all.map lent.place)
    (hNodup : ((q :: rest).map lent.place).Nodup)
    (hFirst : lent.place first ∉ rest.map lent.place) :
    mount.Evolves lent spent
      (StateVector.Follows (all.map lent.place)
        (lent.place first) (rest.map lent.place))
      (Protocol.chain (q :: rest)) spent
      fun _ =>
        StateVector.Follows (all.map lent.place)
          (lent.place first) [] := by
  induction rest generalizing q with
  | nil => exact pure fun _ hFollows => hFollows
  | cons next rest ih =>
      rcases List.forall_mem_cons.mp hLive with ⟨hLiveHere, hLiveRest⟩
      rcases List.forall_mem_cons.mp hAll with ⟨hHere, hAllRest⟩
      rw [List.map_cons, List.nodup_cons] at hNodup
      rw [List.map_cons, List.mem_cons, not_or] at hFirst
      rcases hNodup with ⟨hReady, hNodupRest⟩
      have hNew := (List.nodup_cons.mp hNodupRest).1
      have hOther : q ≠ next := by
        rintro rfl
        exact hReady (List.mem_cons_self ..)
      refine (cnot hLiveHere (hLiveRest next (List.mem_cons_self ..))
        hOther fun s hTarget hFollows => ?_).bind fun _ =>
          ih hLiveRest hAllRest hNodupRest hFirst.2
      exact hFollows.controlled_flip hTarget hHere hReady
        (Ne.symm hFirst.1) hNew

/- A settled qubit is measured with its bit, and all stay settled. -/
theorem measureBit_settled
    {qs : List QubitId}
    (hDraws : lent.DrawsInUnit)
    (hLive : lent.qubits.get? q = some (lent.place q))
    (hMem : q ∈ qs) :
    mount.Evolves lent spent (lent.AllSettled qs bit)
      (Intrinsic.measureBit q) (spent + 1)
      fun found s => found = bit ∧ lent.AllSettled qs bit s :=
  measureBit hDraws hLive fun _ hDecides hSettled =>
    ⟨hDecides.outcomeOf_eq hDraws (hSettled q hMem),
      fun c hThere => (hSettled c hThere).collapse _ _⟩

/- A reset keeps the other qubits settled. -/
theorem reset_settled
    (hDraws : lent.DrawsInUnit)
    (hLive : lent.qubits.get? q = some (lent.place q))
    (hNew : lent.place q ∉ rest.map lent.place) :
    mount.Evolves lent spent (lent.AllSettled (q :: rest) bit)
      (Intrinsic.reset q) (spent + 1)
      fun _ => lent.AllSettled rest bit := by
  refine reset hDraws hLive fun s hDecides hSettled c hMem => ?_
  have hOther : lent.place c ≠ lent.place q := by
    intro hSame
    exact hNew (List.mem_map.mpr ⟨c, hMem, hSame⟩)
  exact (hSettled c (List.mem_cons_of_mem _ hMem)).reset
    hDecides.position_lt hOther _

/- Once a measurement has settled all, each gives the same bit. -/
theorem measureAndReset_cons
    {later : Nat}
    (hDraws : lent.DrawsInUnit)
    (hLive : lent.qubits.get? q = some (lent.place q))
    (hNew : lent.place q ∉ rest.map lent.place)
    (hMeasure :
      mount.Evolves lent spent Before (Intrinsic.measureBit q)
        (spent + 1) fun found s =>
          found = bit ∧ lent.AllSettled (q :: rest) bit s)
    (hRest :
      mount.Evolves lent (spent + 2) (lent.AllSettled rest bit)
        (Protocol.measureAndReset (R := ℝ) rest) later
        fun bits _ => bits = List.replicate rest.length bit) :
    mount.Evolves lent spent Before
      (Protocol.measureAndReset (R := ℝ) (q :: rest)) later
      fun bits _ =>
        bits = List.replicate (q :: rest).length bit := by
  refine hMeasure.bind fun found => assuming ?_
  rintro rfl
  exact (reset_settled hDraws hLive hNew).bind fun _ =>
    hRest.bind fun _ =>
      pure fun _ hBits => congrArg (found :: ·) hBits

/- Settled qubits give one bit as often as there are qubits. -/
theorem measureAndReset_settled
    (hDraws : lent.DrawsInUnit)
    (hLive : ∀ c ∈ rest, lent.qubits.get? c = some (lent.place c))
    (hNodup : (rest.map lent.place).Nodup) :
    mount.Evolves lent spent (lent.AllSettled rest bit)
      (Protocol.measureAndReset (R := ℝ) rest)
      (spent + 2 * rest.length)
      fun bits _ => bits = List.replicate rest.length bit := by
  induction rest generalizing spent with
  | nil => exact pure fun _ _ => rfl
  | cons q rest ih =>
      rcases List.forall_mem_cons.mp hLive with ⟨hHere, hLiveRest⟩
      rcases List.nodup_cons.mp hNodup with ⟨hNew, hNodupRest⟩
      have hSpent :
          spent + 2 * (q :: rest).length =
            spent + 2 + 2 * rest.length := by
        rw [List.length_cons]
        omega
      rw [hSpent]
      exact measureAndReset_cons hDraws hHere hNew
        (measureBit_settled hDraws hHere (List.mem_cons_self ..))
        (ih hLiveRest hNodupRest)

end Mount.Evolves

------------------------------------------------------------
-- Bodies of entangling programs
------------------------------------------------------------

namespace FullState.JustLent

variable {sim lent : FullState ℝ} {qs rest : List QubitId}
variable {first : QubitId}
variable {n : Nat} {β : Type} [Backend ℝ β] {mount : Mount ℝ n β}

/- A half turn of the first qubit leaves the others to follow. -/
theorem half_turn
    (hLent : sim.JustLent (first :: rest) lent) :
    mount.Evolves lent 0 (lent.AllSettled (first :: rest) false)
      (Context.apply (R := ℝ) .h first) 0
      fun _ =>
        StateVector.Follows ((first :: rest).map lent.place)
          (lent.place first) (rest.map lent.place) := by
  refine .apply (hLent.live first (List.mem_cons_self ..)) ?_
  intro s hFirst hSettled
  refine StateVector.follows_half_turn ?_ hFirst
    (List.nodup_cons.mp hLent.nodup_places).1
  rw [← List.map_cons]
  exact List.forall_mem_map.mpr hSettled

/- The first measurement settles all qubits that follow. -/
theorem first_measurement
    (hLent : sim.JustLent (first :: rest) lent)
    (hDraws : lent.DrawsInUnit) :
    mount.Evolves lent 0
      (StateVector.Follows ((first :: rest).map lent.place)
        (lent.place first) [])
      (Intrinsic.measureBit first) 1
      fun found s =>
        found = lent.evenBit 0 ∧
          lent.AllSettled (first :: rest) (lent.evenBit 0) s := by
  refine .measureBit hDraws
    (hLent.live first (List.mem_cons_self ..)) ?_
  intro s hDecides hFollows
  have hOutcome :
      lent.outcomeOf 0 (lent.place first) s = lent.evenBit 0 :=
    hDecides.outcomeOf_of_even hFollows.weight_eq
  rw [hOutcome]
  exact ⟨rfl, fun q hMem =>
    hFollows.settled_collapse _ (List.mem_map_of_mem hMem)⟩

/- The bits of a chain are all that of the first draw. -/
theorem ghzOn
    (mount : Mount ℝ n β)
    (hLent : sim.JustLent (first :: rest) lent)
    (hDraws : lent.DrawsInUnit) :
    mount.Evolves lent 0 (lent.AllSettled (first :: rest) false)
      (Protocol.ghzOn (R := ℝ) (first :: rest))
      (2 + 2 * rest.length)
      fun bits _ =>
        bits =
          List.replicate (first :: rest).length (lent.evenBit 0) := by
  rcases List.nodup_cons.mp hLent.nodup_places with
    ⟨hNew, hNodupRest⟩
  have hHere := hLent.live first (List.mem_cons_self ..)
  have hRest (q : QubitId) (hMem : q ∈ rest) :=
    hLent.live q (List.mem_cons_of_mem _ hMem)
  refine .fromQubitAt rfl ?_
  exact hLent.half_turn.bind fun _ =>
    (Mount.Evolves.chain hLent.live
        (fun _ hMem => List.mem_map_of_mem hMem)
        hLent.nodup_places hNew).bind fun _ =>
      .measureAndReset_cons hDraws hHere hNew
        (hLent.first_measurement hDraws)
        (.measureAndReset_settled hDraws hRest hNodupRest)

/- Both bits of a pair are that of the first draw. -/
theorem bellPairOn
    (mount : Mount ℝ n β)
    {second : QubitId}
    (hLent : sim.JustLent [first, second] lent)
    (hDraws : lent.DrawsInUnit) :
    mount.Evolves lent 0 (lent.AllSettled [first, second] false)
      (Protocol.bellPairOn (R := ℝ) [first, second]) 4
      fun bits _ => bits = (lent.evenBit 0, lent.evenBit 0) := by
  have hFirst := hLent.live first (by simp)
  have hSecond := hLent.live second (by simp)
  have hNodup := hLent.nodup_places
  have hOther : first ≠ second := by simpa using hLent.nodup
  have hApart : lent.place second ≠ lent.place first := by
    simpa [eq_comm] using hNodup
  refine .fromQubitAt rfl (.fromQubitAt rfl ?_)
  refine hLent.half_turn.bind fun _ => ?_
  refine (Mount.Evolves.cnot hFirst hSecond hOther
    fun s hTarget hFollows => hFollows.controlled_flip hTarget
      (by simp) (by simpa using hApart.symm) hApart
      List.not_mem_nil).bind fun _ => ?_
  refine (hLent.first_measurement hDraws).bind fun bitA =>
    .assuming ?_
  rintro rfl
  refine (Mount.Evolves.measureBit_settled hDraws hSecond
    (by simp)).bind fun bitB => .assuming ?_
  rintro rfl
  have hLast :
      mount.Evolves lent 3 (fun _ => True)
        (Intrinsic.reset (R := ℝ) second) 4 fun _ _ => True :=
    .reset hDraws hSecond fun _ _ _ => trivial
  exact (Mount.Evolves.reset hDraws hFirst
    fun _ _ _ => trivial).bind fun _ =>
      hLast.bind fun _ => .pure fun _ _ => rfl

end FullState.JustLent

------------------------------------------------------------
-- Entangling programs
------------------------------------------------------------

namespace FullState.JustLent

variable {sim lent : FullState ℝ} {qs : List QubitId}

/- Lending qubits changes no draw. -/
theorem drawsInUnit
    (hLent : sim.JustLent qs lent)
    (hDraws : sim.DrawsInUnit) :
    lent.DrawsInUnit := by
  intro k
  rw [hLent.draws_eq]
  exact hDraws k

theorem evenBit_eq
    (hLent : sim.JustLent qs lent)
    (spent : Nat) :
    lent.evenBit spent = sim.evenBit spent := by
  rw [evenBit, hLent.draws_eq, hLent.drawn_eq]
  rfl

end FullState.JustLent

namespace Protocol

variable {n : Nat} {β : Type} [Backend ℝ β]
variable {sim : FullState ℝ}

/- A chain that finds room answers with the bit of the next draw. -/
theorem exists_balanced_ghz
    (mount : Mount ℝ n β)
    (hReachable : (Builtin.fullState sim).Reachable)
    (hDraws : sim.DrawsInUnit)
    {count : Nat}
    (hCount : 0 < count)
    (hRoom : sim.qubits.liveCount + count ≤ sim.maxQubits) :
    ∃ requests last,
      mount.Balanced (ghz count) (.fullState sim)
        (List.replicate count (sim.evenBit 0)) requests last := by
  rw [ghz_eq hCount]
  apply Builtin.exists_balanced_withQubits mount hReachable hRoom
  rintro qs lent rfl hLent
  rcases List.exists_cons_of_length_pos hCount with
    ⟨first, rest, rfl⟩
  rw [← hLent.evenBit_eq]
  exact ⟨_, hLent.ghzOn mount (hLent.drawsInUnit hDraws)⟩

/- So does a pair, with two bits. -/
theorem exists_balanced_bellPair
    (mount : Mount ℝ n β)
    (hReachable : (Builtin.fullState sim).Reachable)
    (hDraws : sim.DrawsInUnit)
    (hRoom : sim.qubits.liveCount + 2 ≤ sim.maxQubits) :
    ∃ requests last,
      mount.Balanced bellPair (.fullState sim)
        (sim.evenBit 0, sim.evenBit 0) requests last := by
  rw [bellPair_eq]
  apply Builtin.exists_balanced_withQubits mount hReachable hRoom
  rintro qs lent hLength hLent
  rcases List.length_eq_two.mp hLength with ⟨first, second, rfl⟩
  rw [← hLent.evenBit_eq]
  exact ⟨_, hLent.bellPairOn mount (hLent.drawsInUnit hDraws)⟩

/-
  In a context the bits of all entangled chains and pairs that
  find room on the simulator are the same.
-/
structure GivesBit
    (ctx : Context n β)
    (sim : FullState ℝ)
    (bit : Bool) : Prop where
  ghz_eq :
    ∀ count,
      0 < count →
      sim.qubits.liveCount + count ≤ sim.maxQubits →
        ((ghz count).perform ctx).1 =
          .ok (List.replicate count bit)
  bellPair_eq :
    sim.qubits.liveCount + 2 ≤ sim.maxQubits →
      (bellPair.perform ctx).1 = .ok (bit, bit)

/- The bit is the one that an even qubit has by the next draw. -/
theorem givesBit_evenBit
    {mount : Mount ℝ n β}
    (hReachable : (Builtin.fullState sim).Reachable)
    (hDraws : sim.DrawsInUnit)
    {ctx : Context n β}
    (hShows : mount.Shows (.fullState sim) ctx) :
    GivesBit ctx sim (sim.evenBit 0) where
  ghz_eq count hCount hRoom := by
    rcases exists_balanced_ghz mount hReachable hDraws hCount hRoom
      with ⟨requests, last, hBalanced⟩
    rw [hBalanced.perform_eq ctx hShows]
  bellPair_eq hRoom := by
    rcases exists_balanced_bellPair mount hReachable hDraws hRoom
      with ⟨requests, last, hBalanced⟩
    rw [hBalanced.perform_eq ctx hShows]

/- Another draw may come when some have been spent. -/
theorem exists_redrawn
    (hDraws : sim.DrawsInUnit)
    (spent : Nat)
    (bit : Bool) :
    ∃ draws : Draws ℝ,
      (∀ k, k ≠ sim.drawn + spent → draws k = sim.draws k) ∧
        (sim.redrawn draws).DrawsInUnit ∧
        (sim.redrawn draws).evenBit spent = bit := by
  let next : ℝ := if bit then 0 else 1 / 2
  have hUnit : 0 ≤ next ∧ next < 1 := by
    cases bit <;> norm_num [next]
  let draws : Draws ℝ :=
    Function.update sim.draws (sim.drawn + spent) next
  have hNext :
      (sim.redrawn draws).draws
          ((sim.redrawn draws).drawn + spent) =
        next :=
    Function.update_self ..
  refine ⟨draws, fun k hk => Function.update_of_ne hk .., ?_, ?_⟩
  · intro k
    by_cases hTurn : k = sim.drawn + spent
    · subst hTurn
      exact hNext ▸ hUnit
    · have hOld : (sim.redrawn draws).draws k = sim.draws k :=
        Function.update_of_ne hTurn ..
      rw [hOld]
      exact hDraws k
  · rw [FullState.evenBit_eq_decide, hNext]
    cases bit <;> norm_num [next]

/-
  On every state of the simulator of the full state that can be
  reached with draws in the unit interval, whatever the other
  live qubits are in, an entangled chain that finds room gives
  equal bits, as many as it has qubits, and an entangled pair
  gives two. The bits are one if and only if the next draw lies
  below one half, and both values are possible: for each of them
  the same state can be reached with a stream of draws that
  differs only in what is still to come and gives this value.
-/
theorem entangled_bits_agree
    {embed : Builtin ℝ → β}
    (hEmbed : Backend.Morphism embed)
    {device : Fin n}
    (ctx : Context n β)
    (hReachable : (Builtin.fullState sim).Reachable)
    (hDraws : sim.DrawsInUnit)
    (hCurrent : ctx.currentDevice = .ok device)
    (hBackend :
      ctx.devices.get device = embed (.fullState sim)) :
    GivesBit ctx sim (decide (sim.draws sim.drawn < 1 / 2)) ∧
      ∀ bit, ∃ draws : Draws ℝ,
        let again := sim.redrawn draws
        (∀ k < sim.drawn, draws k = sim.draws k) ∧
          again.DrawsInUnit ∧
          (Builtin.fullState again).Reachable ∧
          GivesBit
            (ctx.withDevice device (embed (.fullState again)))
            again bit := by
  let mount : Mount ℝ n β := ⟨device, embed, hEmbed⟩
  refine ⟨?_, fun bit => ?_⟩
  · have hShows : mount.Shows (.fullState sim) ctx :=
      ⟨hCurrent, hBackend⟩
    have hGives := givesBit_evenBit hReachable hDraws hShows
    rwa [FullState.evenBit_eq_decide] at hGives
  · rcases exists_redrawn hDraws 0 bit with
      ⟨draws, hElse, hUnit, hBit⟩
    have hSame (k : Nat) (hk : k < sim.drawn) :
        draws k = sim.draws k :=
      hElse k hk.ne
    have hAgain := hReachable.redrawn rfl hSame
    have hShows :
        mount.Shows (.fullState (sim.redrawn draws))
          (ctx.withDevice device
            (embed (.fullState (sim.redrawn draws)))) :=
      ⟨hCurrent, Context.get_devices_withDevice_self device _ ctx⟩
    have hGives := givesBit_evenBit hAgain hUnit hShows
    rw [hBit] at hGives
    exact ⟨draws, hSame, hUnit, hAgain, hGives⟩

/-
  Beside an entangled pair a chain of three qubits and a further
  pair give ones when the next draw is zero.
-/
theorem bits_beside_entangled_pair :
    let init : FullState ℝ := .start fun _ => 0
    let requests : List (Request ℝ) :=
      [.allocateQubit, .allocateQubit, .apply .h ⟨0⟩,
        .applyControlled .x [⟨0⟩] ⟨1⟩]
    let sim := (runRequests init requests).2
    let ctx : Context 1 (Builtin ℝ) :=
      (Context.start RunConfig.standard
        #v[.fullState sim]).opened (some 0) true
    (Builtin.fullState sim).Reachable ∧
      sim.DrawsInUnit ∧
      ((ghz 3).perform ctx).1 = .ok [true, true, true] ∧
      (bellPair.perform ctx).1 = .ok (true, true) := by
  intro init requests sim ctx
  have hInit : (Builtin.fullState init).Reachable :=
    .fullState init (.start fun _ => 0)
  have hReachable := hInit.run_fullState requests
  have hDraws : sim.DrawsInUnit :=
    fun _ => ⟨le_refl (0 : ℝ), zero_lt_one⟩
  have hBit : decide (sim.draws sim.drawn < 1 / 2) = true := by
    show decide ((0 : ℝ) < 1 / 2) = true
    norm_num
  have hThree : sim.qubits.liveCount + 3 ≤ sim.maxQubits := by
    decide
  have hTwo : sim.qubits.liveCount + 2 ≤ sim.maxQubits := by
    decide
  have hGives :=
    (entangled_bits_agree Backend.morphism_id ctx hReachable hDraws
      rfl rfl).1
  rw [hBit] at hGives
  exact ⟨hReachable, hDraws,
    hGives.ghz_eq 3 (by decide) hThree,
    hGives.bellPair_eq hTwo⟩

end Protocol

end QuantumRuntime
