import QuantumRuntime.Program.Protocols
import QuantumRuntime.Proofs.Program.BorrowedQubits
import QuantumRuntime.Proofs.Program.ResetQubits
import QuantumRuntime.Proofs.Simulator.ExchangedQubits
import QuantumRuntime.Proofs.Simulator.IndependentGates

/-
  This file proves that the three protocols give back all that
  they take, whatever they measure on the way. The body of each
  is made of gates, read-outs and resets of the qubits that it
  has borrowed. Each of these succeeds as long as these qubits
  are live, and leaves all other qubits alone.

  Key definitions include:
    * `Builtin.InUse`
    * `Mount.Uses`
    * `Protocol.Demonstration`

  Key theorems include:
    * `Mount.Uses.gate`
    * `Mount.Uses.measureBit`
    * `Mount.Uses.reset`
    * `Protocol.Demonstration.exists_balanced`
    * `Protocol.gives_back_what_it_takes`
-/

namespace QuantumRuntime

variable {R : Type} [Scalar R] {n : Nat} {β α γ : Type}
variable [Backend R β]

------------------------------------------------------------
-- Borrowed qubits in use
------------------------------------------------------------

namespace Builtin

variable {lent b after : Builtin R} {qs : List QubitId}
variable {q : QubitId} {bit : Bool} {call : GateCall R}

omit [Scalar R] in
theorem KeepsOthers.trans
    (hFirst : lent.KeepsOthers qs b)
    (hNext : b.KeepsOthers qs after) :
    lent.KeepsOthers qs after := by
  cases hFirst with
  | fullState _ _ hQubits =>
      cases hNext with
      | fullState _ _ hQubits' =>
          exact .fullState _ _ (hQubits'.trans hQubits)
  | tracer _ _ hLayer =>
      cases hNext with
      | tracer _ _ hLayer' =>
          exact .tracer _ _ fun q hOther =>
            (hLayer' q hOther).trans (hLayer q hOther)

/- A qubit that was lent may be measured. -/
theorem AfterReadOut.keepsOthers
    (hAfter : AfterReadOut q b bit after)
    (hOthers : lent.KeepsOthers qs b)
    (hMem : q ∈ qs) :
    b.KeepsOthers qs after := by
  cases hAfter with
  | fullState sim position results hLive =>
      exact .fullState _ _ rfl
  | toffoli => cases hOthers
  | tracer t layer hLive =>
      refine .tracer _ _ fun other hOther => ?_
      have hLiveAll : ∀ key ∈ [q], t.qubits.Live key := by
        rintro key hKey
        rw [List.mem_singleton.mp hKey]
        exact (t.qubits.live_iff q).mpr ⟨layer, hLive⟩
      refine (HandleTable.get?_overwriteAll hLiveAll _ other).trans
        (if_neg ?_)
      rw [List.mem_singleton]
      rintro rfl
      exact hOther hMem

/- It may be reset as well. -/
theorem ResetTo.keepsOthers
    (hReset : b.ResetTo q after)
    (hOthers : lent.KeepsOthers qs b)
    (hMem : q ∈ qs) :
    b.KeepsOthers qs after := by
  cases hReset with
  | fullState sim after position hLive hReset =>
      rw [hReset.rest]
      exact .fullState _ _ rfl
  | toffoli => cases hOthers
  | tracer t layer hLive =>
      exact (AfterReadOut.tracer t layer hLive).keepsOthers hOthers
        hMem

/- A gate call on qubits that are lent is taken. -/
theorem KeepsOthers.exists_gate
    (hOthers : lent.KeepsOthers qs b)
    (hMem : ∀ q ∈ call.qubits, q ∈ qs)
    (hLive : ∀ q ∈ call.qubits, b.Holds (.qubit q))
    (hDistinct :
      checkDistinct call.controls call.target = .ok ()) :
    ∃ after,
      call.request.run.perform b = (.ok .done, after) ∧
        b.KeepsOthers qs after := by
  rcases List.forall_mem_cons.mp hLive with ⟨hTarget, hControls⟩
  cases hOthers with
  | fullState _ sim hQubits =>
      rcases (sim.qubits.live_iff _).mp hTarget with
        ⟨position, hPosition⟩
      have hMask :=
        FullState.map_controlMask sim.qubits call.controls
      rw [(sim.qubits.checkLive_eq_ok_iff _ _).mpr hControls]
        at hMask
      cases hControlMask :
          FullState.controlMask sim.qubits call.controls with
      | error e =>
          rw [hControlMask] at hMask
          cases hMask
      | ok mask =>
          have hTakes : sim.Takes call mask position :=
            ⟨hPosition, hControlMask, hDistinct⟩
          refine ⟨_, ?_, .fullState sim
            (sim.applied call.gate mask position) rfl⟩
          rw [fullState_morphism.run_eq, hTakes.perform_run]
  | tracer _ t hLayer =>
      rcases (t.qubits.live_iff _).mp hTarget with
        ⟨layer, hLayerOf⟩
      have hTakes : t.Takes call layer :=
        ⟨hLayerOf, hControls, hDistinct⟩
      refine ⟨_, ?_, .tracer t (t.gated call layer) ?_⟩
      · rw [tracer_morphism.run_eq, hTakes.perform_run]
      · intro q hOther
        exact Tracer.get?_gated_of_not_mem hTakes
          (mt (hMem q) hOther)

/-
  The qubits that were lent are live, and no other qubit has
  been touched since.
-/
structure InUse
    (lent : Builtin R)
    (qs : List QubitId)
    (b : Builtin R) : Prop where
  others : lent.KeepsOthers qs b
  live : ∀ q ∈ qs, b.Holds (.qubit q)

/- This is so when the qubits have just been lent. -/
theorem Lends.inUse
    (hLends : b.Lends qs lent)
    (hReachable : b.Reachable)
    {count : Nat}
    (hRoom : b.HasRoomFor count) :
    lent.InUse qs lent where
  others := by
    have hKind := hLends.kind_eq
    cases b with
    | fullState =>
        cases lent with
        | fullState sim => exact .fullState sim sim rfl
        | _ => cases hKind
    | tracer =>
        cases lent with
        | tracer t => exact .tracer t t fun _ _ => rfl
        | _ => cases hKind
    | _ => exact hRoom.elim
  live _ hMem := hLends.live hReachable hMem

end Builtin

------------------------------------------------------------
-- Programs on borrowed qubits
------------------------------------------------------------

namespace Intrinsic

/- Apply a gate under a condition that is known. -/
def applyIf
    (condition : Bool)
    (g : Gate R)
    (target : QubitId) : Program n β Unit :=
  if condition then Context.apply g target else pure ()

theorem applyIf_bind
    (condition : Bool)
    (g : Gate R)
    (target : QubitId)
    (next : Unit → Program n β α) :
    applyIf condition g target >>= next =
      if condition then
        Context.apply g target >>= next
      else
        next () := by
  cases condition <;> rfl

end Intrinsic

namespace Mount

variable {mount : Mount R n β} {lent : Builtin R}
variable {qs : List QubitId} {q : QubitId}

variable (mount lent qs)

/-
  A program uses no other qubits than those that are lent to it,
  leaves these live and gives an answer of some kind.
-/
def Uses
    (program : Program n β α)
    (Answers : α → Prop) : Prop :=
  mount.Establishes (lent.InUse qs) program fun a after =>
    Answers a ∧ lent.InUse qs after

variable {mount lent qs}

namespace Uses

variable {program : Program n β α} {next : α → Program n β γ}
variable {Answers : α → Prop} {Last : γ → Prop}

theorem pure
    {a : α}
    (hAnswer : Answers a) :
    mount.Uses lent qs (Pure.pure a) Answers :=
  Establishes.pure fun _ hInUse => ⟨hAnswer, hInUse⟩

theorem bind
    (hFirst : mount.Uses lent qs program Answers)
    (hNext :
      ∀ a, Answers a → mount.Uses lent qs (next a) Last) :
    mount.Uses lent qs (program >>= next) Last :=
  Establishes.bind hFirst fun a b hReachable hHere =>
    hNext a hHere.1 b hReachable hHere.2

/- A balanced program that leaves other qubits alone is a use. -/
theorem of_balanced
    (hProgram :
      ∀ b, b.Reachable → lent.InUse qs b →
        ∃ a requests after,
          mount.Balanced program b a requests after ∧
            b.KeepsOthers qs after ∧
            Answers a) :
    mount.Uses lent qs program Answers := by
  intro b hReachable hInUse
  rcases hProgram b hReachable hInUse with
    ⟨a, requests, after, hBalanced, hOthers, hAnswer⟩
  exact ⟨a, requests, after, hBalanced, hAnswer,
    hInUse.others.trans hOthers, fun q hMem =>
      (hBalanced.holds_iff _).mpr (hInUse.live q hMem)⟩

/- A gate may be applied to qubits that are lent. -/
theorem gate
    (call : GateCall R)
    (hMem : ∀ q ∈ call.qubits, q ∈ qs)
    (hDistinct :
      checkDistinct call.controls call.target = .ok ()) :
    mount.Uses lent qs call.program fun _ => True := by
  apply of_balanced
  intro b hReachable hInUse
  rcases hInUse.others.exists_gate hMem
      (fun q hNamed => hInUse.live q (hMem q hNamed))
      hDistinct with
    ⟨after, hRun, hOthers⟩
  exact ⟨(), _, after, .of_gate hReachable hRun, hOthers, trivial⟩

theorem apply
    (g : Gate R)
    (hMem : q ∈ qs) :
    mount.Uses lent qs (Context.apply g q) fun _ => True :=
  gate (.plain g q) (List.forall_mem_singleton.mpr hMem) rfl

theorem cnot
    {control target : QubitId}
    (hControl : control ∈ qs)
    (hTarget : target ∈ qs)
    (hOther : control ≠ target) :
    mount.Uses lent qs
      (Intrinsic.cnot (R := R) control target) fun _ => True :=
  gate (.controlled .x [control] target)
    (List.forall_mem_cons.mpr
      ⟨hTarget, List.forall_mem_singleton.mpr hControl⟩)
    (checkDistinct_singleton hOther)

/- A qubit that is lent may be measured. -/
theorem measureBit
    (hMem : q ∈ qs) :
    mount.Uses lent qs (Intrinsic.measureBit (R := R) q)
      fun _ => True := by
  apply of_balanced
  intro b hReachable hInUse
  rcases Balanced.exists_measureBit mount hReachable
      (hInUse.live q hMem) with
    ⟨bit, requests, after, hBalanced, hAfter⟩
  exact ⟨bit, requests, after, hBalanced,
    hAfter.keepsOthers hInUse.others hMem, trivial⟩

/- It may be reset. -/
theorem reset
    (hMem : q ∈ qs) :
    mount.Uses lent qs (Intrinsic.reset (R := R) q)
      fun _ => True := by
  apply of_balanced
  intro b hReachable hInUse
  rcases Balanced.exists_reset mount hReachable
      (hInUse.live q hMem) with
    ⟨requests, after, hBalanced, hReset⟩
  exact ⟨(), requests, after, hBalanced,
    hReset.keepsOthers hInUse.others hMem, trivial⟩

theorem resetAll
    {some : List QubitId}
    (hMem : ∀ q ∈ some, q ∈ qs) :
    mount.Uses lent qs (Protocol.resetAll (R := R) some)
      fun _ => True := by
  induction some with
  | nil => exact pure trivial
  | cons q rest ih =>
      rcases List.forall_mem_cons.mp hMem with ⟨hFirst, hRest⟩
      exact (reset hFirst).bind fun _ _ => ih hRest

/- Neighbours in a chain are different qubits. -/
theorem chain
    {some : List QubitId}
    (hMem : ∀ q ∈ some, q ∈ qs)
    (hNodup : some.Nodup) :
    mount.Uses lent qs (Protocol.chain (R := R) some)
      fun _ => True := by
  induction some with
  | nil => exact pure trivial
  | cons a rest ih =>
      rcases List.forall_mem_cons.mp hMem with ⟨hFirst, hRest⟩
      rcases List.nodup_cons.mp hNodup with ⟨hNew, hNodupRest⟩
      cases rest with
      | nil => exact pure trivial
      | cons b rest =>
          have hOther : a ≠ b := by
            rintro rfl
            exact hNew (List.mem_cons_self ..)
          have hNext : b ∈ qs := hRest b (List.mem_cons_self ..)
          exact (cnot hFirst hNext hOther).bind fun _ _ =>
            ih hRest hNodupRest

/- Each qubit gives one bit. -/
theorem measureAndReset
    {some : List QubitId}
    (hMem : ∀ q ∈ some, q ∈ qs) :
    mount.Uses lent qs (Protocol.measureAndReset (R := R) some)
      fun bits => bits.length = some.length := by
  induction some with
  | nil => exact pure rfl
  | cons q rest ih =>
      rcases List.forall_mem_cons.mp hMem with ⟨hFirst, hRest⟩
      exact (measureBit hFirst).bind fun _ _ =>
        (reset hFirst).bind fun _ _ =>
          (ih hRest).bind fun _ hLength =>
            pure (congrArg (· + 1) hLength)

/- A gate may depend on an outcome. -/
theorem applyIf
    (condition : Bool)
    (g : Gate R)
    (hMem : q ∈ qs) :
    mount.Uses lent qs (Intrinsic.applyIf condition g q)
      fun _ => True := by
  cases condition with
  | false => exact pure trivial
  | true => exact apply g hMem

end Uses

end Mount

------------------------------------------------------------
-- Bodies of the protocols
------------------------------------------------------------

namespace Protocol

open Intrinsic Allocation

/- The evenly entangled pair on two qubits. -/
def bellPairOn
    (qs : List QubitId) : Program n β (Bool × Bool) := do
  let a ← qubitAt qs 0
  let b ← qubitAt qs 1
  Context.apply .h a
  cnot a b
  let bitA ← measureBit a
  let bitB ← measureBit b
  reset a
  reset b
  pure (bitA, bitB)

theorem bellPair_eq :
    (bellPair : Program n β (Bool × Bool)) =
      withQubits 2 bellPairOn := by
  simp only [bellPair, withQubits, bellPairOn, bind_assoc,
    pure_bind]

/- The entangled chain on some qubits. -/
def ghzOn
    (qs : List QubitId) : Program n β (List Bool) := do
  let first ← qubitAt qs 0
  Context.apply .h first
  chain qs
  measureAndReset qs

theorem ghz_eq
    {count : Nat}
    (hCount : 0 < count) :
    (ghz count : Program n β (List Bool)) =
      withQubits count ghzOn := by
  simp only [ghz, withQubits, ghzOn, bind_assoc,
    if_neg hCount.ne']

/-
  What is known when a state has been sent: the qubit that has
  it, and the bits of the other two.
-/
structure Sent where
  receiver : QubitId
  aliceBit : Bool
  messageBit : Bool

/-
  Turn the message by an angle and entangle it with one half of
  a pair.
-/
def encode
    (angle : R)
    (message alice bob : QubitId) : Program n β Unit := do
  Context.apply (.rx angle) message
  Context.apply .h alice
  cnot alice bob
  cnot message alice
  Context.apply .h message

/- Measure two qubits and correct the third by their bits. -/
def decode
    (message alice bob : QubitId) : Program n β Sent := do
  let bitA ← measureBit alice
  applyIf bitA .x bob
  let bitM ← measureBit message
  applyIf bitM .z bob
  pure { receiver := bob, aliceBit := bitA, messageBit := bitM }

/- Send the state of the first of three qubits to the last one. -/
def send
    (angle : R)
    (qs : List QubitId) : Program n β Sent := do
  let message ← qubitAt qs 0
  let alice ← qubitAt qs 1
  let bob ← qubitAt qs 2
  encode angle message alice bob
  decode message alice bob

/- Measure the receiving qubit and reset all. -/
def receive
    (sent : Sent)
    (qs : List QubitId) : Program n β Bool := do
  let received ← measureBit sent.receiver
  resetAll qs
  pure received

/- The teleportation on three qubits. -/
def teleportOn
    (angle : R)
    (qs : List QubitId) : Program n β Bool := do
  let sent ← send angle qs
  receive sent qs

theorem teleport_eq
    (angle : R) :
    (teleport angle : Program n β Bool) =
      withQubits 3 (teleportOn angle) := by
  -- The branches are joined only once all else is in sequence.
  simp only [teleport, withQubits, teleportOn, send, encode,
    decode, receive, bind_assoc, pure_bind]
  simp only [applyIf_bind]

end Protocol

------------------------------------------------------------
-- The protocols on borrowed qubits
------------------------------------------------------------

namespace Mount.Uses

variable {mount : Mount R n β} {lent : Builtin R}
variable {qs : List QubitId}

/- A program may start from a place of the array that was lent. -/
theorem fromQubitAt
    {index : Nat}
    {q : QubitId}
    {next : QubitId → Program n β α}
    {Answers : α → Prop}
    (hAt : qs[index]? = some q)
    (hNext : mount.Uses lent qs (next q) Answers) :
    mount.Uses lent qs (Protocol.qubitAt qs index >>= next)
      Answers := by
  rw [Protocol.qubitAt, hAt]
  exact hNext

theorem bellPairOn
    (hLength : qs.length = 2)
    (hNodup : qs.Nodup) :
    mount.Uses lent qs (Protocol.bellPairOn (R := R) qs)
      fun _ => True := by
  rcases List.length_eq_two.mp hLength with ⟨a, b, rfl⟩
  have hA : a ∈ [a, b] := by simp
  have hB : b ∈ [a, b] := by simp
  have hOther : a ≠ b := by simpa using hNodup
  refine fromQubitAt rfl ?_
  refine fromQubitAt rfl ?_
  exact (apply .h hA).bind fun _ _ =>
    (cnot hA hB hOther).bind fun _ _ =>
      (measureBit hA).bind fun _ _ =>
        (measureBit hB).bind fun _ _ =>
          (reset hA).bind fun _ _ =>
            (reset hB).bind fun _ _ => pure trivial

theorem ghzOn
    (hLength : 0 < qs.length)
    (hNodup : qs.Nodup) :
    mount.Uses lent qs (Protocol.ghzOn (R := R) qs)
      fun bits => bits.length = qs.length := by
  rcases List.exists_cons_of_length_pos hLength with
    ⟨first, rest, rfl⟩
  refine fromQubitAt rfl ?_
  exact (apply .h (List.mem_cons_self ..)).bind fun _ _ =>
    (chain (fun _ hMem => hMem) hNodup).bind fun _ _ =>
      measureAndReset fun _ hMem => hMem

theorem encode
    (angle : R)
    {m a b : QubitId}
    (hM : m ∈ qs)
    (hA : a ∈ qs)
    (hB : b ∈ qs)
    (hFirst : m ≠ a)
    (hOther : a ≠ b) :
    mount.Uses lent qs (Protocol.encode angle m a b)
      fun _ => True :=
  (apply (.rx angle) hM).bind fun _ _ =>
    (apply .h hA).bind fun _ _ =>
      (cnot hA hB hOther).bind fun _ _ =>
        (cnot hM hA hFirst).bind fun _ _ => apply .h hM

/- The qubit that receives is one of those that are lent. -/
theorem decode
    {m a b : QubitId}
    (hM : m ∈ qs)
    (hA : a ∈ qs)
    (hB : b ∈ qs) :
    mount.Uses lent qs (Protocol.decode (R := R) m a b)
      fun sent => sent.receiver ∈ qs :=
  (measureBit hA).bind fun bitA _ =>
    (applyIf bitA .x hB).bind fun _ _ =>
      (measureBit hM).bind fun bitM _ =>
        (applyIf bitM .z hB).bind fun _ _ => pure hB

theorem send
    (angle : R)
    (hLength : qs.length = 3)
    (hNodup : qs.Nodup) :
    mount.Uses lent qs (Protocol.send angle qs)
      fun sent => sent.receiver ∈ qs := by
  rcases List.length_eq_three.mp hLength with ⟨m, a, b, rfl⟩
  have hM : m ∈ [m, a, b] := by simp
  have hA : a ∈ [m, a, b] := by simp
  have hB : b ∈ [m, a, b] := by simp
  have hFirst : m ≠ a := by
    rintro rfl
    simp at hNodup
  have hOther : a ≠ b := by
    rintro rfl
    simp at hNodup
  refine fromQubitAt rfl (fromQubitAt rfl (fromQubitAt rfl ?_))
  exact (encode angle hM hA hB hFirst hOther).bind fun _ _ =>
    decode hM hA hB

theorem teleportOn
    (angle : R)
    (hLength : qs.length = 3)
    (hNodup : qs.Nodup) :
    mount.Uses lent qs (Protocol.teleportOn angle qs)
      fun _ => True :=
  (send angle hLength hNodup).bind fun _ hBob =>
    (measureBit hBob).bind fun _ _ =>
      (resetAll fun _ hMem => hMem).bind fun _ _ => pure trivial

end Mount.Uses

------------------------------------------------------------
-- Protocols as programs
------------------------------------------------------------

namespace Protocol

/-
  A protocol, with how many qubits it borrows and what is known
  of its answer.
-/
inductive Demonstration :
    Nat → {α : Type} → Program n β α → (α → Prop) → Prop
  | bellPair :
      Demonstration 2 bellPair fun _ => True
  | ghz
      (count : Nat)
      (hCount : 0 < count) :
      Demonstration count (ghz count) fun bits =>
        bits.length = count
  | teleport
      (angle : R) :
      Demonstration 3 (teleport angle) fun _ => True

/- Each protocol is a body that uses what is lent to it. -/
theorem Demonstration.exists_body
    {count : Nat}
    {program : Program n β α}
    {Answers : α → Prop}
    (hProtocol : Demonstration (R := R) count program Answers) :
    ∃ body : List QubitId → Program n β α,
      program = Allocation.withQubits count body ∧
        ∀ (mount : Mount R n β) lent qs,
          qs.length = count →
          qs.Nodup →
          mount.Uses lent qs (body qs) Answers := by
  cases hProtocol with
  | bellPair =>
      exact ⟨_, bellPair_eq, fun _ _ _ => Mount.Uses.bellPairOn⟩
  | ghz count hCount =>
      refine ⟨_, ghz_eq hCount, ?_⟩
      rintro mount lent qs rfl hNodup
      exact Mount.Uses.ghzOn hCount hNodup
  | teleport angle =>
      exact ⟨_, teleport_eq angle, fun _ _ _ =>
        Mount.Uses.teleportOn angle⟩

/-
  A protocol that finds room is balanced, and every qubit from
  before stays where it is.
-/
theorem Demonstration.exists_balanced
    {count : Nat}
    {program : Program n β α}
    {Answers : α → Prop}
    (hProtocol : Demonstration (R := R) count program Answers)
    (mount : Mount R n β)
    {b : Builtin R}
    (hReachable : b.Reachable)
    (hRoom : b.HasRoomFor count) :
    ∃ a requests after,
      mount.Balanced program b a requests after ∧
        b.KeepsQubits after ∧
        Answers a := by
  rcases hProtocol.exists_body with ⟨body, rfl, hBody⟩
  apply Builtin.exists_withQubits mount hReachable hRoom
  intro qs lent hLength hLends
  have hUses :=
    hBody mount lent qs hLength (hLends.nodup hReachable)
  rcases hUses lent (hLends.reachable hReachable)
      (hLends.inUse hReachable hRoom) with
    ⟨a, requests, used, hBalanced, hAnswer, hInUse⟩
  exact ⟨a, requests, used, hBalanced, hInUse.others, hAnswer⟩

end Protocol

------------------------------------------------------------
-- Programs in a scope of their own
------------------------------------------------------------

theorem Tracker.report_empty :
    Tracker.empty.report = LeakReport.clean := by
  simp [report, empty, LeakReport.clean]

namespace Context

/- A scope that owes nothing ends clean under every policy. -/
theorem perform_finish_of_empty
    (ctx : Context n β)
    {device : Option (Fin n)}
    {outer : List (Frame n)}
    (hFrames :
      ctx.frames =
        { device := device
          tracker := some Tracker.empty } :: outer) :
    (finish : Program n β LeakReport).perform ctx =
      (.ok LeakReport.clean, { ctx with frames := outer }) := by
  have hKeeps :
      ∀ tracker owner,
        ¬ Frame.Reclaims
          { device := device
            tracker := some Tracker.empty } ctx.config tracker
          owner := by
    intro tracker owner hReclaims
    cases hReclaims.tracker_eq
    have hOwes := hReclaims.owes
    rw [Tracker.report_empty] at hOwes
    exact absurd hOwes (by decide)
  rw [finish, ctx.perform_closeScope hFrames, closed,
    Frame.settle_of_not_reclaims hKeeps]
  dsimp only
  rw [Tracker.report_empty, LeakPolicy.verdict_clean,
    LeakPolicy.notices_clean, List.append_nil, List.append_nil]

end Context

/-
  A balanced program that has a scope of its own ends clean, and
  nothing but the backend has changed.
-/
theorem Mount.Balanced.perform_runProgram
    {mount : Mount R n β}
    {program : Program n β α}
    {b after : Builtin R}
    {a : α}
    {requests : List (Request R)}
    (hBalanced : mount.Balanced program b a requests after)
    (hReachable : b.Reachable)
    {ctx : Context n β}
    (hBackend :
      ctx.devices.get mount.device = mount.embed b) :
    (Context.runProgram mount.device true program).perform ctx =
      (.ok (a, LeakReport.clean),
        ctx.withDevice mount.device (mount.embed after)) := by
  let inside := ctx.opened (some mount.device) true
  have hScope :
      InScope mount.embed mount.device Tracker.empty b inside :=
    { frames_eq := ⟨ctx.frames, rfl⟩
      backend_eq := hBackend
      reachable := hReachable
      live_of_tracked := fun handle hTracked =>
        absurd hTracked (Tracker.not_holds_empty handle) }
  have hFinish :=
    (inside.withDevice mount.device
      (mount.embed after)).perform_finish_of_empty rfl
  rw [Context.runProgram, Action.perform_bind,
    Context.perform_openScope]
  dsimp only
  rw [Action.perform_bind, Action.perform_attempt,
    hBalanced.perform_of_inScope hScope]
  dsimp only
  rw [Context.concludeProgram_eq, Action.perform_bind,
    Action.perform_attempt, hFinish]
  rfl

------------------------------------------------------------
-- Protocols in a scope
------------------------------------------------------------

namespace Protocol

/-
  At every moment of a recorded scope on the simulator of the
  full state or on the tracer, a protocol that finds room for
  its qubits succeeds, whatever it measures, and changes the
  backend alone: the record of the scope is as before, the same
  qubits and results are live, and every qubit is at its
  position or in its layer. A chain answers with as many bits as
  it has qubits. In a scope of its own a protocol ends clean
  under every leak policy, without any notice.
-/
theorem gives_back_what_it_takes
    {embed : Builtin R → β}
    (hEmbed : Backend.Morphism embed)
    {device : Fin n}
    {routine : Routine R n γ}
    (hComposed : Routine.Composed .recorded {device} routine)
    (ctx : Context n β)
    {start : Builtin R}
    (hReachable : start.Reachable)
    (hBackend : ctx.devices.get device = embed start)
    {count : Nat}
    {program : Program n β α}
    {Answers : α → Prop}
    (hProtocol : Demonstration (R := R) count program Answers) :
    let inside := ctx.opened (some device) true
    let events := routine.history inside device
    let here := ((routine β).perform inside).2
    let b := (runRequests start (events.map Prod.fst)).2
    here.devices.get device = embed b ∧
      (b.HasRoomFor count →
        ∃ a after,
          Answers a ∧
            program.perform here =
              (.ok a, here.withDevice device (embed after)) ∧
            (∀ handle, after.Holds handle ↔ b.Holds handle) ∧
            b.KeepsQubits after) ∧
      (start.HasRoomFor count →
        ∃ a after,
          Answers a ∧
            (Context.runProgram device true program).perform ctx =
              (.ok (a, LeakReport.clean),
                ctx.withDevice device (embed after)) ∧
            (∀ handle,
              after.Holds handle ↔ start.Holds handle) ∧
            start.KeepsQubits after) := by
  intro inside events here b
  let mount : Mount R n β := ⟨device, embed, hEmbed⟩
  have hScope :
      InScope embed device (Tracker.empty.followAll events) b
        here :=
    .of_composed hEmbed hComposed hReachable hBackend
  refine ⟨hScope.backend_eq, fun hRoom => ?_, fun hRoom => ?_⟩
  · rcases hProtocol.exists_balanced mount hScope.reachable hRoom
      with ⟨a, requests, after, hBalanced, hKeeps, hAnswer⟩
    exact ⟨a, after, hAnswer,
      hBalanced.perform_of_inScope hScope, hBalanced.holds_iff,
      hKeeps⟩
  · rcases hProtocol.exists_balanced mount hReachable hRoom with
      ⟨a, requests, after, hBalanced, hKeeps, hAnswer⟩
    exact ⟨a, after, hAnswer,
      hBalanced.perform_runProgram hReachable hBackend,
      hBalanced.holds_iff, hKeeps⟩

/-
  A chain of five qubits gives five bits beside a qubit that is
  in equal parts zero and one, and that qubit stays the first.
  Run alone where leaks are failures, it ends clean.
-/
theorem chain_beside_half_turned_qubit :
    let sim : FullState ℝ := .start fun _ => 0
    let config : RunConfig :=
      { RunConfig.standard with leakPolicy := .fail }
    let ctx : Context 1 (Builtin ℝ) :=
      Context.start config #v[.fullState sim]
    let routine : Routine ℝ 1 Unit := fun _ =>
      Context.allocateQubit >>= fun q => Context.apply .h q
    let inside := ctx.opened (some 0) true
    let here := ((routine _).perform inside).2
    (Builtin.fullState sim).Reachable ∧
      Routine.Composed .recorded {0} routine ∧
      (∃ (bits : List Bool) (after : FullState ℝ),
        bits.length = 5 ∧
          (ghz 5).perform here =
            (.ok bits, here.withDevice 0 (.fullState after)) ∧
          after.qubits.get? ⟨0⟩ = some 0) ∧
      ∃ bits after,
        (Context.runProgram 0 true (ghz 5)).perform ctx =
          (.ok (bits, LeakReport.clean),
            ctx.withDevice 0 after) := by
  intro sim config ctx routine inside here
  have hReachable : (Builtin.fullState sim).Reachable :=
    .fullState sim (.start fun _ => 0)
  have hComposed : Routine.Composed .recorded {0} routine :=
    .bind .allocateQubit fun q => .apply .h q
  have hTurned :
      ∃ turned : FullState ℝ,
        here.devices.get 0 = .fullState turned ∧
          turned.qubits.get? ⟨0⟩ = some 0 ∧
          turned.qubits.liveCount + 5 ≤ turned.maxQubits :=
    ⟨_, rfl, rfl, by decide⟩
  rcases hTurned with ⟨turned, hBackend, hPosition, hRoom⟩
  rcases gives_back_what_it_takes Backend.morphism_id hComposed
      ctx hReachable rfl (.ghz 5 (by decide)) with
    ⟨hHere, hNow, hAlone⟩
  have hThere := hHere.symm.trans hBackend
  rw [id_eq] at hThere
  rw [hThere] at hNow
  rcases hNow hRoom with ⟨bits, last, hLength, hRun, -, hKeeps⟩
  have hEmpty : (Builtin.fullState sim).HasRoomFor 5 := by
    show sim.qubits.liveCount + 5 ≤ sim.maxQubits
    decide
  rcases hAlone hEmpty with ⟨bits', last', -, hClean, -, -⟩
  refine ⟨hReachable, hComposed, ?_, bits', last', hClean⟩
  cases hKeeps with
  | fullState _ after hSame =>
      exact ⟨bits, after, hLength, hRun,
        (hSame ⟨0⟩).trans hPosition⟩

end Protocol

end QuantumRuntime
