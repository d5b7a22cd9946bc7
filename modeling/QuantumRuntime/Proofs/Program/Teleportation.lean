import Mathlib
import QuantumRuntime.Proofs.Program.AgreeingBits
import QuantumRuntime.Proofs.Simulator.SentStates

/-
  This file proves that the teleportation brings the state of
  the first qubit to the last one, whatever the two measurements
  on the way give. Each gate takes the three qubits from one
  stage of the transfer to the next, and each correction undoes
  what the outcome before it has done.

  Key definitions include:
    * `Protocol.sending`
    * `Protocol.receiving`
    * `Protocol.Arrives`

  Key theorems include:
    * `FullState.JustLent.encode`
    * `FullState.JustLent.decode`
    * `FullState.JustLent.teleportOn`
    * `Protocol.teleportation_transmits_the_state`
-/

namespace QuantumRuntime

------------------------------------------------------------
-- States made by a turn
------------------------------------------------------------

namespace StateVector

/- The amplitude of zero after a turn about the first axis. -/
noncomputable def turnedZero
    (angle : ℝ) : Amplitude ℝ :=
  (gateMatrix (.rx angle)).m00

/- The amplitude of one after this turn. -/
noncomputable def turnedOne
    (angle : ℝ) : Amplitude ℝ :=
  (gateMatrix (.rx angle)).m10

/- The chance of one is the squared sine of half the angle. -/
theorem normSq_turnedOne
    (angle : ℝ) :
    (turnedOne angle).normSq = Real.sin (angle / 2) ^ 2 := by
  have hTwo : (Scalar.two : ℝ) = 2 := one_add_one_eq_two
  show (0 : ℝ) * 0 +
      -Real.sin (angle / Scalar.two) *
        -Real.sin (angle / Scalar.two) = _
  rw [hTwo]
  ring

/- The two amplitudes make up the whole weight. -/
theorem normSq_turnedZero_add_turnedOne
    (angle : ℝ) :
    (turnedZero angle).normSq + (turnedOne angle).normSq = 1 := by
  have hCircle :=
    cos_mul_self_add_sin_mul_self (angle / (Scalar.two : ℝ))
  show Real.cos (angle / Scalar.two) * Real.cos (angle / Scalar.two) +
      0 * 0 +
      ((0 : ℝ) * 0 +
        -Real.sin (angle / Scalar.two) *
          -Real.sin (angle / Scalar.two)) = 1
  linear_combination hCircle

end StateVector

------------------------------------------------------------
-- Transfers between lent qubits
------------------------------------------------------------

namespace FullState.JustLent

open StateVector

variable {sim lent : FullState ℝ} {m a b : QubitId} {angle : ℝ}
variable {n : Nat} {β : Type} [Backend ℝ β]

/- Three qubits are different, and so are their places. -/
theorem apart
    (hLent : sim.JustLent [m, a, b] lent) :
    (m ≠ a ∧ a ≠ b) ∧
      Apart (lent.place m) (lent.place a) (lent.place b) := by
  have hQubits := hLent.nodup
  have hPlaces := hLent.nodup_places
  simp only [List.map_cons, List.map_nil, List.nodup_cons,
    List.mem_cons, not_or, List.not_mem_nil, not_false_eq_true,
    and_true] at hQubits hPlaces
  exact ⟨⟨hQubits.1.1, hQubits.2.1⟩, hPlaces.1.1, hPlaces.1.2,
    hPlaces.2.1⟩

/- The gates encode the state of the message in the last qubit. -/
theorem encode
    (mount : Mount ℝ n β)
    (angle : ℝ)
    (hLent : sim.JustLent [m, a, b] lent) :
    mount.Evolves lent 0 (lent.AllSettled [m, a, b] false)
      (Protocol.encode angle m a b) 0
      fun _ =>
        Encoded (turnedZero angle) (turnedOne angle)
          (lent.place m) (lent.place a) (lent.place b) := by
  rcases hLent.apart with ⟨⟨hFirst, hOther⟩, hApart⟩
  have hLiveM := hLent.live m (by simp)
  have hLiveA := hLent.live a (by simp)
  have hLiveB := hLent.live b (by simp)
  have hTurned (s : StateVector ℝ)
      (hTarget : lent.place m < s.qubitCount)
      (hSettled : lent.AllSettled [m, a, b] false s) :
      (s.applyGate (.rx angle) 0 (lent.place m)).Turned
        (turnedZero angle) (turnedOne angle) (lent.place m)
        (lent.place a) (lent.place b) := by
    apply turned_of_settled _ _ hTarget hApart
    simpa [AllSettled] using hSettled
  exact (Mount.Evolves.apply hLiveM hTurned).bind fun _ =>
    (Mount.Evolves.apply hLiveA fun s hTarget hTurned =>
      hTurned.halved hTarget hApart).bind fun _ =>
    (Mount.Evolves.cnot hLiveA hLiveB hOther
      fun s hTarget hHalved =>
        hHalved.shared hTarget hApart).bind fun _ =>
    (Mount.Evolves.cnot hLiveM hLiveA hFirst
      fun s hTarget hShared =>
        hShared.spread hTarget hApart).bind fun _ =>
    .apply hLiveM fun s hTarget hSpread =>
      hSpread.encoded hTarget hApart

/-
  The two outcomes are those of even qubits, and the corrections
  leave the last qubit with the state.
-/
theorem decode
    (mount : Mount ℝ n β)
    {u v : Amplitude ℝ}
    (hLent : sim.JustLent [m, a, b] lent)
    (hDraws : lent.DrawsInUnit) :
    mount.Evolves lent 0
      (Encoded u v (lent.place m) (lent.place a) (lent.place b))
      (Protocol.decode (R := ℝ) m a b) 2
      fun sent s =>
        sent =
            { receiver := b
              aliceBit := lent.evenBit 0
              messageBit := lent.evenBit 1 } ∧
          s.Carries u v (lent.place b) := by
  rcases hLent.apart with ⟨-, hApart⟩
  have hLiveM := hLent.live m (by simp)
  have hLiveA := hLent.live a (by simp)
  have hLiveB := hLent.live b (by simp)
  have hAlice :
      mount.Evolves lent 0
        (Encoded u v (lent.place m) (lent.place a) (lent.place b))
        (Intrinsic.measureBit (R := ℝ) a) 1 fun found s =>
          found = lent.evenBit 0 ∧
            s.Flipped u v (lent.place m) (lent.place b) found :=
    .measureBit hDraws hLiveA fun s hDecides hEncoded =>
      ⟨hDecides.outcomeOf_of_even hEncoded.alice_even,
        hEncoded.flipped hApart _⟩
  have hCorrected (found : Bool) :
      mount.Evolves lent 1
        (Flipped u v (lent.place m) (lent.place b) found)
        (Intrinsic.applyIf (R := ℝ) found .x b) 1 fun _ =>
          Flipped u v (lent.place m) (lent.place b) false := by
    refine .applyIf hLiveB ?_ ?_
    · rintro rfl s hTarget hFlipped
      exact hFlipped.correct hTarget hApart
    · rintro rfl s hFlipped
      exact hFlipped
  have hMessage :
      mount.Evolves lent 1
        (Flipped u v (lent.place m) (lent.place b) false)
        (Intrinsic.measureBit (R := ℝ) m) 2 fun found s =>
          found = lent.evenBit 1 ∧
            s.CarriesUpTo (fun _ => false) (fun _ => found) u v
              (lent.place b) :=
    .measureBit hDraws hLiveM fun s hDecides hFlipped =>
      ⟨hDecides.outcomeOf_of_even
          (hFlipped.message_even.branchWeight_eq
            hDecides.position_lt),
        hFlipped.carriesUpTo hApart _⟩
  have hTurned (found : Bool) :
      mount.Evolves lent 2
        (CarriesUpTo (fun _ => false) (fun _ => found) u v
          (lent.place b))
        (Intrinsic.applyIf (R := ℝ) found .z b) 2 fun _ =>
          Carries u v (lent.place b) := by
    refine .applyIf hLiveB ?_ ?_
    · rintro rfl s hTarget hCarries
      exact carriesUpTo_iff_carries.mp
        (hCarries.correct_sign hTarget)
    · rintro rfl s hCarries
      exact carriesUpTo_iff_carries.mp hCarries
  refine hAlice.bind fun bitA => .assuming ?_
  rintro rfl
  refine (hCorrected _).bind fun _ => ?_
  refine hMessage.bind fun bitM => .assuming ?_
  rintro rfl
  exact (hTurned _).bind fun _ => .pure fun s hCarries =>
    ⟨rfl, hCarries⟩

/- The state of the message is sent to the last qubit. -/
theorem send
    (mount : Mount ℝ n β)
    (angle : ℝ)
    (hLent : sim.JustLent [m, a, b] lent)
    (hDraws : lent.DrawsInUnit) :
    mount.Evolves lent 0 (lent.AllSettled [m, a, b] false)
      (Protocol.send angle [m, a, b]) 2
      fun sent s =>
        sent =
            { receiver := b
              aliceBit := lent.evenBit 0
              messageBit := lent.evenBit 1 } ∧
          s.Carries (turnedZero angle) (turnedOne angle)
            (lent.place b) := by
  refine .fromQubitAt rfl (.fromQubitAt rfl (.fromQubitAt rfl ?_))
  exact (hLent.encode mount angle).bind fun _ =>
    hLent.decode mount hDraws

/- A qubit that carries the state is one with its chance. -/
theorem branchWeight_of_carries
    {spent : Nat}
    {s : StateVector ℝ}
    (hDecides : lent.Decides spent (lent.place b) s)
    (hCarries :
      s.Carries (turnedZero angle) (turnedOne angle)
        (lent.place b)) :
    s.branchWeight (lent.place b) true =
      Real.sin (angle / 2) ^ 2 := by
  rw [hCarries.branchWeight_eq hDecides.position_lt
    (normSq_turnedZero_add_turnedOne angle) hDecides.weight_eq,
    normSq_turnedOne]

end FullState.JustLent

------------------------------------------------------------
-- The last measurement
------------------------------------------------------------

namespace Mount.Evolves

variable {n : Nat} {β : Type} [Backend ℝ β] {mount : Mount ℝ n β}
variable {lent : FullState ℝ} {spent : Nat} {qs : List QubitId}

/- Resets spend one draw each. -/
theorem resetAll
    (hDraws : lent.DrawsInUnit)
    (hLive : ∀ q ∈ qs, lent.qubits.get? q = some (lent.place q)) :
    mount.Evolves lent spent (fun _ => True)
      (Protocol.resetAll (R := ℝ) qs) (spent + qs.length)
      fun _ _ => True := by
  induction qs generalizing spent with
  | nil => exact pure fun _ _ => trivial
  | cons q rest ih =>
      rcases List.forall_mem_cons.mp hLive with ⟨hHere, hRest⟩
      have hReset :
          mount.Evolves lent spent (fun _ => True)
            (Intrinsic.reset (R := ℝ) q) (spent + 1)
            fun _ _ => True :=
        reset hDraws hHere fun _ _ _ => trivial
      rw [List.length_cons, Nat.add_comm rest.length, ← Nat.add_assoc]
      exact hReset.bind fun _ => ih hRest

end Mount.Evolves

namespace FullState.JustLent

open StateVector

variable {sim lent : FullState ℝ} {m a b : QubitId}
variable {n : Nat} {β : Type} [Backend ℝ β]

/- The answer is one if the third draw is below the chance. -/
theorem teleportOn
    (mount : Mount ℝ n β)
    (angle : ℝ)
    (hLent : sim.JustLent [m, a, b] lent)
    (hDraws : lent.DrawsInUnit) :
    mount.Evolves lent 0 (lent.AllSettled [m, a, b] false)
      (Protocol.teleportOn angle [m, a, b]) 6
      fun received _ =>
        received =
          decide
            (lent.draws (lent.drawn + 2) <
              Real.sin (angle / 2) ^ 2) := by
  refine (hLent.send mount angle hDraws).bind fun sent =>
    .assuming ?_
  rintro rfl
  have hLast :
      mount.Evolves lent 2
        (Carries (turnedZero angle) (turnedOne angle)
          (lent.place b))
        (Intrinsic.measureBit (R := ℝ) b) 3 fun received _ =>
          received =
              decide
                (lent.draws (lent.drawn + 2) <
                  Real.sin (angle / 2) ^ 2) ∧
            True := by
    refine .measureBit hDraws (hLent.live b (by simp))
      fun s hDecides hCarries => ⟨?_, trivial⟩
    rw [outcomeOf, branchWeight_of_carries hDecides hCarries]
  refine hLast.bind fun received => .assuming ?_
  rintro rfl
  exact (Mount.Evolves.resetAll hDraws hLent.live).bind fun _ =>
    .pure fun _ _ => rfl

end FullState.JustLent

------------------------------------------------------------
-- Teleportation
------------------------------------------------------------

namespace Protocol

section

variable {R : Type} [Scalar R] {n : Nat} {β : Type} [Backend R β]

/- The teleportation up to its last measurement. -/
def sending
    (angle : R) : Program n β (List QubitId × Sent) := do
  let qs ← Allocation.allocateArray 3
  let sent ← send angle qs
  pure (qs, sent)

/- The rest of it, which begins with this measurement. -/
def receiving
    (qs : List QubitId)
    (sent : Sent) : Program n β Bool := do
  let received ← Intrinsic.measureBit sent.receiver
  resetAll qs
  Allocation.releaseArray qs
  pure received

theorem teleport_eq_sending
    (angle : R) :
    (teleport angle : Program n β Bool) =
      sending angle >>= fun (qs, sent) => receiving qs sent := by
  rw [teleport_eq]
  simp only [Allocation.withQubits, teleportOn, receive, sending,
    receiving, bind_assoc, pure_bind]

end

variable {n : Nat} {β : Type} [Backend ℝ β] {sim : FullState ℝ}

/-
  The teleportation arrives at its last measurement with two
  bits, and there the receiving qubit is one with a probability.
-/
def Arrives
    (embed : Builtin ℝ → β)
    (device : Fin n)
    (angle chance : ℝ)
    (aliceBit messageBit : Bool)
    (ctx : Context n β) : Prop :=
  ∃ qs receiver there after,
    (sending angle).perform ctx =
        (.ok (qs,
            { receiver := receiver
              aliceBit := aliceBit
              messageBit := messageBit }),
          there) ∧
      there.currentDevice = .ok device ∧
      there.devices.get device = embed (.fullState after) ∧
      after.probabilityOne receiver = .ok chance

/- It arrives with the bits of the first two draws. -/
theorem arrives_evenBits
    {mount : Mount ℝ n β}
    (hReachable : (Builtin.fullState sim).Reachable)
    (hDraws : sim.DrawsInUnit)
    (hRoom : sim.qubits.liveCount + 3 ≤ sim.maxQubits)
    {ctx : Context n β}
    (hShows : mount.Shows (.fullState sim) ctx)
    (angle : ℝ) :
    Arrives mount.embed mount.device angle
      (Real.sin (angle / 2) ^ 2) (sim.evenBit 0) (sim.evenBit 1)
      ctx := by
  rcases Builtin.exists_lends (b := .fullState sim) hRoom with
    ⟨qs, after, hLength, hLends⟩
  rcases hLends.exists_justLent hReachable with ⟨lent, rfl, hLent⟩
  have hLentReachable := hLends.reachable hReachable
  have hLentDraws := hLent.drawsInUnit hDraws
  rcases hShows.perform_allocateArray hLends with
    ⟨hAllocate, hThere⟩
  rw [hLength] at hAllocate hThere
  rcases List.length_eq_three.mp hLength with ⟨m, a, b, rfl⟩
  rcases hLent.send mount angle hLentDraws _ hLentReachable
      (FullState.stage_self hLent.settled) with
    ⟨sent, requests, used, hBalanced, hStage⟩
  cases used with
  | fullState after =>
      rcases hStage.shown with ⟨rfl, hCarries⟩
      rcases (hBalanced.reachable hLentReachable).decides hStage
          hLentDraws (hLent.live b (by simp)) with
        ⟨hLive, hDecides⟩
      have hLast := hBalanced.shows_ran hThere
      refine ⟨[m, a, b], b, _, after, ?_, hLast.current_eq,
        hLast.backend_eq, ?_⟩
      · rw [sending, Action.perform_bind, hAllocate]
        dsimp only
        rw [Action.perform_bind, hBalanced.perform_eq _ hThere,
          hLent.evenBit_eq, hLent.evenBit_eq]
        rfl
      · rw [FullState.probabilityOne, HandleTable.get_of_live hLive]
        exact congrArg Except.ok
          (FullState.JustLent.branchWeight_of_carries hDecides
            hCarries)
  | _ => exact hStage.elim

/- Any two bits may be those of the first two draws. -/
theorem exists_redrawn_twice
    (hDraws : sim.DrawsInUnit)
    (aliceBit messageBit : Bool) :
    ∃ draws : Draws ℝ,
      (∀ k < sim.drawn, draws k = sim.draws k) ∧
        (sim.redrawn draws).DrawsInUnit ∧
        (sim.redrawn draws).evenBit 0 = aliceBit ∧
        (sim.redrawn draws).evenBit 1 = messageBit := by
  rcases exists_redrawn hDraws 0 aliceBit with
    ⟨first, hFirst, hUnit, hAlice⟩
  rcases exists_redrawn hUnit 1 messageBit with
    ⟨second, hSecond, hUnitAgain, hMessage⟩
  have hKept :
      second (sim.drawn + 0) = first (sim.drawn + 0) :=
    hSecond _ (Nat.ne_of_lt (Nat.lt_succ_self _))
  refine ⟨second, fun k hk => ?_, hUnitAgain, ?_, hMessage⟩
  · have hThere : k ≠ (sim.redrawn first).drawn + 1 :=
      (hk.trans (Nat.lt_succ_self _)).ne
    exact (hSecond k hThere).trans (hFirst k hk.ne)
  · rw [← hAlice]
    exact congrArg (fun draw : ℝ => decide (draw < Scalar.half))
      hKept

/- The last measurement is decided by the third draw. -/
theorem exists_balanced_teleport
    (mount : Mount ℝ n β)
    (hReachable : (Builtin.fullState sim).Reachable)
    (hDraws : sim.DrawsInUnit)
    (hRoom : sim.qubits.liveCount + 3 ≤ sim.maxQubits)
    (angle : ℝ) :
    ∃ requests last,
      mount.Balanced (teleport angle) (.fullState sim)
        (decide
          (sim.draws (sim.drawn + 2) < Real.sin (angle / 2) ^ 2))
        requests last := by
  rw [teleport_eq]
  apply Builtin.exists_balanced_withQubits mount hReachable hRoom
  rintro qs lent hLength hLent
  rcases List.length_eq_three.mp hLength with ⟨m, a, b, rfl⟩
  rw [← hLent.draws_eq, ← hLent.drawn_eq]
  exact ⟨_, hLent.teleportOn mount angle (hLent.drawsInUnit hDraws)⟩

/-
  On every state of the simulator of the full state that can be
  reached with draws in the unit interval and that finds room
  for three qubits, the teleportation arrives at its last
  measurement for every angle, and there the receiving qubit is
  one with the squared sine of half the angle as its probability.
  The two bits measured on the way are one if and only if their
  draws lie below one half. All four pairs of them are possible:
  for each pair the same state can be reached with a stream of
  draws that differs only in what is still to come, and gives
  this pair and the same probability. The answer follows from
  the third draw. It is zero for the angle zero and one for half
  a circle, whatever the draws are.
-/
theorem teleportation_transmits_the_state
    {embed : Builtin ℝ → β}
    (hEmbed : Backend.Morphism embed)
    {device : Fin n}
    (ctx : Context n β)
    (hReachable : (Builtin.fullState sim).Reachable)
    (hDraws : sim.DrawsInUnit)
    (hCurrent : ctx.currentDevice = .ok device)
    (hBackend :
      ctx.devices.get device = embed (.fullState sim))
    (hRoom : sim.qubits.liveCount + 3 ≤ sim.maxQubits)
    (angle : ℝ) :
    let chance := Real.sin (angle / 2) ^ 2
    let received := ((teleport angle).perform ctx).1
    (teleport angle : Program n β Bool) =
        (sending angle >>= fun (qs, sent) => receiving qs sent) ∧
      Arrives embed device angle chance
        (decide (sim.draws sim.drawn < 1 / 2))
        (decide (sim.draws (sim.drawn + 1) < 1 / 2)) ctx ∧
      (∀ aliceBit messageBit, ∃ draws : Draws ℝ,
        let again := sim.redrawn draws
        (∀ k < sim.drawn, draws k = sim.draws k) ∧
          again.DrawsInUnit ∧
          (Builtin.fullState again).Reachable ∧
          Arrives embed device angle chance aliceBit messageBit
            (ctx.withDevice device (embed (.fullState again)))) ∧
      received =
        .ok (decide (sim.draws (sim.drawn + 2) < chance)) ∧
      (angle = 0 → received = .ok false) ∧
      (angle = Real.pi → received = .ok true) := by
  intro chance received
  let mount : Mount ℝ n β := ⟨device, embed, hEmbed⟩
  have hShows : mount.Shows (.fullState sim) ctx :=
    ⟨hCurrent, hBackend⟩
  have hArrives :=
    arrives_evenBits hReachable hDraws hRoom hShows angle
  rw [FullState.evenBit_eq_decide, FullState.evenBit_eq_decide]
    at hArrives
  rcases exists_balanced_teleport mount hReachable hDraws hRoom
      angle with
    ⟨requests, last, hBalanced⟩
  have hReceived :
      received =
        .ok (decide (sim.draws (sim.drawn + 2) < chance)) :=
    congrArg Prod.fst (hBalanced.perform_eq ctx hShows)
  rcases hDraws (sim.drawn + 2) with ⟨hNotNegative, hBelowOne⟩
  refine ⟨teleport_eq_sending angle, hArrives,
    fun aliceBit messageBit => ?_, hReceived, fun hZero => ?_,
    fun hHalf => ?_⟩
  · rcases exists_redrawn_twice hDraws aliceBit messageBit with
      ⟨draws, hSame, hUnit, rfl, rfl⟩
    have hAgain := hReachable.redrawn rfl hSame
    have hShowsAgain :
        mount.Shows (.fullState (sim.redrawn draws))
          (ctx.withDevice device
            (embed (.fullState (sim.redrawn draws)))) :=
      ⟨hCurrent, Context.get_devices_withDevice_self device _ ctx⟩
    exact ⟨draws, hSame, hUnit, hAgain,
      arrives_evenBits hAgain hUnit hRoom hShowsAgain angle⟩
  · have hNever : chance = 0 := by
      simp [chance, hZero]
    rw [hReceived, hNever, decide_eq_false (not_lt.mpr hNotNegative)]
  · have hAlways : chance = 1 := by
      simp [chance, hHalf]
    rw [hReceived, hAlways, decide_eq_true hBelowOne]

/-
  Beside an entangled pair half a circle arrives as one and no
  turn as zero, when both bits on the way are one.
-/
theorem half_circle_sent_beside_entangled_pair :
    let init : FullState ℝ := .start fun _ => 0
    let requests : List (Request ℝ) :=
      [.allocateQubit, .allocateQubit, .apply .h ⟨0⟩,
        .applyControlled .x [⟨0⟩] ⟨1⟩]
    let sim := (runRequests init requests).2
    let ctx : Context 1 (Builtin ℝ) :=
      (Context.start RunConfig.standard
        #v[.fullState sim]).opened (some 0) true
    (Builtin.fullState sim).Reachable ∧
      sim.DrawsInUnit ∧
      Arrives id 0 Real.pi (Real.sin (Real.pi / 2) ^ 2) true true
        ctx ∧
      ((teleport Real.pi).perform ctx).1 = .ok true ∧
      ((teleport 0).perform ctx).1 = .ok false := by
  intro init requests sim ctx
  have hInit : (Builtin.fullState init).Reachable :=
    .fullState init (.start fun _ => 0)
  have hReachable := hInit.run_fullState requests
  have hDraws : sim.DrawsInUnit :=
    fun _ => ⟨le_refl (0 : ℝ), zero_lt_one⟩
  have hBit (k : Nat) : decide (sim.draws k < 1 / 2) = true := by
    show decide ((0 : ℝ) < 1 / 2) = true
    norm_num
  have hRoom : sim.qubits.liveCount + 3 ≤ sim.maxQubits := by
    decide
  have hSends (angle : ℝ) :=
    teleportation_transmits_the_state Backend.morphism_id ctx
      hReachable hDraws rfl rfl hRoom angle
  rcases hSends Real.pi with ⟨-, hArrives, -, -, -, hHalf⟩
  rcases hSends 0 with ⟨-, -, -, -, hNone, -⟩
  rw [hBit, hBit] at hArrives
  exact ⟨hReachable, hDraws, hArrives, hHalf rfl, hNone rfl⟩

end Protocol

end QuantumRuntime
