import QuantumRuntime.Proofs.Simulator.Acceptance
import QuantumRuntime.Proofs.Simulator.ClassicalAgreement

/-
  This file proves that one sequence of requests makes the three
  simulators issue the same qubits, if handles are not recycled
  and no allocation finds the limit reached. What a request does
  to a table of qubits depends only on whether it is accepted,
  and whether it is accepted only on the table, so the tables
  stay abreast.

  Key definitions include:
    * `Request.reshape`
    * `Builtin.Abreast`
    * `AnsweredAlike`

  Key theorems include:
    * `Holdings.Step.qubits_eq`
    * `Request.verdict_check_of_fit`
    * `Builtin.Abreast.step`
    * `Builtin.Abreast.run`
    * `simulators_accept_alike`
-/

namespace QuantumRuntime

variable {R : Type}

------------------------------------------------------------
-- Tables
------------------------------------------------------------

/- What a request does to a table of qubits, if it is accepted. -/
def Request.reshape
    (accepted : Bool)
    (qubits : HandleTable QubitId Unit) :
    Request R → HandleTable QubitId Unit
  | allocateQubit =>
      if accepted then (qubits.insert () : QubitId × _).2 else qubits
  | releaseQubit q => if accepted then qubits.without q else qubits
  | _ => qubits

/- A refused request does nothing. -/
theorem Request.reshape_false
    (request : Request R)
    (qubits : HandleTable QubitId Unit) :
    request.reshape false qubits = qubits := by
  cases request <;> rfl

/- Neither does one that keeps all handles. -/
theorem Request.reshape_of_keepsHandles
    {request : Request R}
    (hKeeps : request.KeepsHandles)
    (accepted : Bool)
    (qubits : HandleTable QubitId Unit) :
    request.reshape accepted qubits = qubits := by
  cases request with
  | allocateQubit => exact hKeeps.elim
  | releaseQubit q => exact hKeeps.elim
  | _ => rfl

/- All that matters for the qubits is whether a request is accepted. -/
theorem Holdings.Step.qubits_eq
    {holdings after : Holdings}
    {request : Request R}
    {answer : Except BackendError Reply}
    (hStep : holdings.Step request answer after) :
    after.qubits = request.reshape answer.isOk holdings.qubits := by
  cases hStep with
  | refused request e => exact (request.reshape_false _).symm
  | kept request reply hKeeps =>
      exact (Request.reshape_of_keepsHandles hKeeps _ _).symm
  | _ => rfl

/- An allocation that is accepted issues the next qubit. -/
theorem Holdings.Step.answer_eq_of_allocated
    {holdings after : Holdings}
    {answer : Except BackendError Reply}
    (hStep :
      holdings.Step (.allocateQubit : Request R) answer after)
    (hAccepted : answer.isOk) :
    answer = .ok (.qubit (holdings.qubits.insert ()).1) := by
  cases hStep with
  | refused request e => cases hAccepted
  | allocated => rfl
  | kept request reply hKeeps => exact hKeeps.elim

------------------------------------------------------------
-- Verdicts
------------------------------------------------------------

/-
  The verdict of an answer: whether it accepts, and otherwise
  the error without the name of the backend.
-/
def verdict
    {α : Type}
    (answer : Except BackendError α) : Except BackendError Unit :=
  anonymousAnswer (answer.map fun _ => ())

/- What is made of an answer does not change the verdict. -/
theorem verdict_map
    {α β : Type}
    (f : α → β)
    (answer : Except BackendError α) :
    verdict (answer.map f) = verdict answer := by
  cases answer <;> rfl

/- A verdict accepts what the answer accepts. -/
theorem isOk_verdict
    {α : Type}
    (answer : Except BackendError α) :
    (verdict answer).isOk = answer.isOk := by
  cases answer <;> rfl

/- The error says that something is not supported. -/
def IsRefusedAsUnsupported
    {α : Type}
    (answer : Except BackendError α) : Prop :=
  ∃ backend reason, answer = .error (.unsupported backend reason)

theorem isRefusedAsUnsupported_map_iff
    {α β : Type}
    (f : α → β)
    (answer : Except BackendError α) :
    IsRefusedAsUnsupported (answer.map f) ↔
      IsRefusedAsUnsupported answer := by
  cases answer <;> simp [IsRefusedAsUnsupported, Except.map]

/- A check of limits passes or says that something is not supported. -/
theorem Objection.Governs.isRefusedAsUnsupported
    {operation : String}
    {condition : Prop}
    [Decidable condition]
    {answer : Except BackendError Unit}
    (hGoverns :
      Governs operation (Objection.unsupported.when condition)
        answer) :
    answer = .ok () ∨ IsRefusedAsUnsupported answer := by
  unfold Objection.when at hGoverns
  split at hGoverns
  · cases hGoverns with
    | refused objection e hExplains =>
        cases hExplains with
        | unsupported backend reason =>
            exact .inr ⟨backend, reason, rfl⟩
  · cases hGoverns with
    | accepted a => exact .inl rfl

/- A check of limits that comes last cannot change more than that. -/
theorem verdict_bind_of_limit
    {limit : Except BackendError Unit}
    (hLimit : limit = .ok () ∨ IsRefusedAsUnsupported limit)
    (earlier : Except BackendError Unit) :
    verdict (earlier >>= fun _ => limit) =
        verdict (earlier >>= fun _ => .ok ()) ∨
      IsRefusedAsUnsupported (earlier >>= fun _ => limit) := by
  cases earlier with
  | error e => exact .inl rfl
  | ok _ =>
      rcases hLimit with hPass | hRefused
      · exact .inl (congrArg verdict hPass)
      · exact .inr hRefused

/-
  The limits of a simulator make a difference only where it says
  that something is not supported.
-/
theorem Request.verdict_check_of_fit
    {limits : Limits R}
    {kind : BuiltinKind}
    (hFit : limits.Fit kind)
    (name : String)
    (qubits : HandleTable QubitId Unit)
    (request : Request R) :
    verdict (request.check limits qubits) =
        verdict (request.check (.unlimited name) qubits) ∨
      IsRefusedAsUnsupported (request.check limits qubits) := by
  cases request with
  | apply g target =>
      exact verdict_bind_of_limit
        (hFit.gate "apply" g).isRefusedAsUnsupported
        (qubits.checkLive "apply" [target])
  | applyControlled g controls target =>
      rw [check, check, ← bind_assoc, ← bind_assoc]
      exact verdict_bind_of_limit
        (hFit.gate "apply_controlled" g).isRefusedAsUnsupported
        (qubits.checkLive "apply_controlled" (target :: controls) >>=
          fun _ => checkDistinct controls target)
  | measure bases targets =>
      simp only [check, Limits.unlimited]
      rcases singleMeasurement_cases limits.name name bases
          targets with
        ⟨⟨basis, target⟩, hOwn, hOther⟩ |
          ⟨e, e', hOwn, hOther, hSame⟩
      · rw [hOwn, hOther]
        exact verdict_bind_of_limit
          (hFit.basis basis).isRefusedAsUnsupported
          (qubits.checkLive "measure" [target])
      · rw [hOwn, hOther]
        exact .inl (congrArg Except.error hSame)
  | _ => exact .inl rfl

/- Without limits only the name can make a difference. -/
theorem Request.verdict_check_unlimited
    (name name' : String)
    (qubits : HandleTable QubitId Unit)
    (request : Request R) :
    verdict (request.check (.unlimited name) qubits) =
      verdict (request.check (.unlimited name') qubits) := by
  cases request with
  | measure bases targets =>
      simp only [check, Limits.unlimited]
      rcases singleMeasurement_cases name name' bases targets with
        ⟨⟨basis, target⟩, hOwn, hOther⟩ |
          ⟨e, e', hOwn, hOther, hSame⟩
      · rw [hOwn, hOther]
      · rw [hOwn, hOther]
        exact congrArg Except.error hSame
  | _ => rfl

------------------------------------------------------------
-- Simulators abreast
------------------------------------------------------------

namespace Builtin

variable [Scalar R]

/- Two simulators whose tables of qubits agree up to their values. -/
structure Abreast
    (b b' : Builtin R) : Prop where
  simulator : b.kind ≠ .stub
  simulator' : b'.kind ≠ .stub
  sound : bookkeeping.Sound b
  sound' : bookkeeping.Sound b'
  qubits_eq :
    (bookkeeping.holdings b').qubits =
      (bookkeeping.holdings b).qubits

/- Simulators with histories are abreast when their tables are. -/
theorem HasHistory.abreast
    {b b' : Builtin R}
    {history history' : List (Exchange R)}
    (hHistory : b.HasHistory history)
    (hHistory' : b'.HasHistory history')
    (hQubits :
      (bookkeeping.holdings b').qubits =
        (bookkeeping.holdings b).qubits) :
    Abreast b b' where
  simulator := hHistory.kind_ne_stub
  simulator' := hHistory'.kind_ne_stub
  sound := hHistory.reachable.sound
  sound' := hHistory'.reachable.sound
  qubits_eq := hQubits

/- Every allocation of a run is accepted. -/
def NeverFull
    (b : Builtin R)
    (requests : List (Request R)) : Prop :=
  ∀ first rest, requests = first ++ .allocateQubit :: rest →
    ((Request.allocateQubit : Request R).run.perform
      (runRequests b first).2).1.isOk

/- Only the simulator of bits has limits. -/
theorem limits_eq_unlimited
    {b : Builtin R}
    (hKind : b.kind ≠ .toffoli) :
    b.limits = .unlimited (Backend.name b) := by
  cases b with
  | toffoli sim => exact absurd rfl hKind
  | _ => rfl

/- The verdict of a simulator is that of its checks. -/
theorem verdict_eq_check
    {b : Builtin R}
    (hSimulator : b.kind ≠ .stub)
    {request : Request R}
    (hUses : request.UsesQubits) :
    verdict (request.run.perform b).1 =
      verdict
        (request.check b.limits (bookkeeping.holdings b).qubits) := by
  rw [← answer_eq_check hSimulator hUses, verdict_map]

namespace Abreast

variable {b b' : Builtin R}

/- Simulators that are abreast accept the same releases. -/
theorem isOk_releaseQubit
    (hAbreast : Abreast b b')
    (q : QubitId) :
    ((Request.releaseQubit q : Request R).run.perform b').1.isOk =
      ((Request.releaseQubit q : Request R).run.perform b).1.isOk := by
  let request : Request R := .releaseQubit q
  have hUses : request.UsesQubits := trivial
  have hOwn := verdict_eq_check hAbreast.simulator hUses
  have hOther := verdict_eq_check hAbreast.simulator' hUses
  rw [hAbreast.qubits_eq] at hOther
  have hSame := congrArg Except.isOk (hOther.trans hOwn.symm)
  rwa [isOk_verdict, isOk_verdict] at hSame

/-
  A request keeps simulators abreast, if neither or both accept
  it as an allocation.
-/
theorem step
    (hAbreast : Abreast b b')
    {request : Request R}
    (hRoom :
      request = .allocateQubit →
        (request.run.perform b).1.isOk)
    (hRoom' :
      request = .allocateQubit →
        (request.run.perform b').1.isOk) :
    Abreast (request.run.perform b).2
      (request.run.perform b').2 where
  simulator := by
    rw [kind_run]
    exact hAbreast.simulator
  simulator' := by
    rw [kind_run]
    exact hAbreast.simulator'
  sound := bookkeeping.sound_run request b hAbreast.sound
  sound' := bookkeeping.sound_run request b' hAbreast.sound'
  qubits_eq := by
    have hStep := bookkeeping.step request b hAbreast.sound
    have hStep' := bookkeeping.step request b' hAbreast.sound'
    rw [hStep.qubits_eq, hStep'.qubits_eq, hAbreast.qubits_eq]
    cases request with
    | allocateQubit => rw [hRoom rfl, hRoom' rfl]
    | releaseQubit q => rw [hAbreast.isOk_releaseQubit q]
    | _ => rfl

/- A run keeps simulators abreast while allocations are accepted. -/
theorem run
    (hAbreast : Abreast b b')
    {requests : List (Request R)}
    (hRoom : b.NeverFull requests)
    (hRoom' : b'.NeverFull requests)
    {first rest : List (Request R)}
    (hSplit : requests = first ++ rest) :
    Abreast (runRequests b first).2 (runRequests b' first).2 := by
  induction first using List.reverseRecOn generalizing rest with
  | nil => exact hAbreast
  | append_singleton init request ih =>
      rw [List.append_assoc, List.singleton_append] at hSplit
      rw [runRequests_append, runRequests_append]
      refine (ih hSplit).step ?_ ?_
      · rintro rfl
        exact hRoom init rest hSplit
      · rintro rfl
        exact hRoom' init rest hSplit

/- Simulators that are abreast issue the same qubit next. -/
theorem issue
    (hAbreast : Abreast b b')
    (hRoom :
      ((Request.allocateQubit : Request R).run.perform b).1.isOk)
    (hRoom' :
      ((Request.allocateQubit : Request R).run.perform b').1.isOk) :
    ((Request.allocateQubit : Request R).run.perform b').1 =
      ((Request.allocateQubit : Request R).run.perform b).1 := by
  have hStep :=
    bookkeeping.step (.allocateQubit : Request R) b hAbreast.sound
  have hStep' :=
    bookkeeping.step (.allocateQubit : Request R) b' hAbreast.sound'
  rw [hStep.answer_eq_of_allocated hRoom,
    hStep'.answer_eq_of_allocated hRoom', hAbreast.qubits_eq]

/- Without limits the verdicts are the same. -/
theorem verdict_eq_of_unlimited
    (hAbreast : Abreast b b')
    (hKind : b.kind ≠ .toffoli)
    (hKind' : b'.kind ≠ .toffoli)
    {request : Request R}
    (hUses : request.UsesQubits) :
    verdict (request.run.perform b').1 =
      verdict (request.run.perform b).1 := by
  rw [verdict_eq_check hAbreast.simulator hUses,
    verdict_eq_check hAbreast.simulator' hUses,
    limits_eq_unlimited hKind, limits_eq_unlimited hKind',
    hAbreast.qubits_eq]
  exact request.verdict_check_unlimited _ _ _

/-
  Simulators that are abreast give the same verdict on a request
  that names qubits, if the first has no limits of its own,
  unless the other says that something is not supported.
-/
theorem verdict_eq
    (hAbreast : Abreast b b')
    (hKind : b.kind ≠ .toffoli)
    {request : Request R}
    (hUses : request.UsesQubits) :
    verdict (request.run.perform b').1 =
        verdict (request.run.perform b).1 ∨
      IsRefusedAsUnsupported (request.run.perform b').1 := by
  have hAnswer' := answer_eq_check hAbreast.simulator' hUses
  rw [verdict_eq_check hAbreast.simulator hUses,
    verdict_eq_check hAbreast.simulator' hUses,
    ← isRefusedAsUnsupported_map_iff fun _ => (), hAnswer',
    limits_eq_unlimited hKind, hAbreast.qubits_eq]
  exact request.verdict_check_of_fit b'.fit_limits _ _

end Abreast

end Builtin

------------------------------------------------------------
-- The three simulators
------------------------------------------------------------

/- What the three simulators have in common in their answers. -/
structure AnsweredAlike
    (request : Request R)
    (full bits tracer : Except BackendError Reply) : Prop where
  issued :
    request = .allocateQubit →
      ∃ q, full = .ok (.qubit q) ∧ bits = full ∧ tracer = full
  tracer_eq :
    request.UsesQubits → verdict tracer = verdict full
  bits_eq :
    request.UsesQubits →
      verdict bits = verdict full ∨ IsRefusedAsUnsupported bits

/- Simulators that are abreast answer alike. -/
theorem answeredAlike_of_abreast
    [Scalar R]
    {full bits tracer : Builtin R}
    (hBits : Builtin.Abreast full bits)
    (hTracer : Builtin.Abreast full tracer)
    (hFullKind : full.kind ≠ .toffoli)
    (hTracerKind : tracer.kind ≠ .toffoli)
    {request : Request R}
    (hRoom :
      request = .allocateQubit →
        (request.run.perform full).1.isOk ∧
          (request.run.perform bits).1.isOk ∧
          (request.run.perform tracer).1.isOk) :
    AnsweredAlike request (request.run.perform full).1
      (request.run.perform bits).1
      (request.run.perform tracer).1 where
  issued := by
    rintro rfl
    rcases hRoom rfl with ⟨hFullOk, hBitsOk, hTracerOk⟩
    have hStep :=
      Builtin.bookkeeping.step (.allocateQubit : Request R) full
        hBits.sound
    exact ⟨_, hStep.answer_eq_of_allocated hFullOk,
      hBits.issue hFullOk hBitsOk,
      hTracer.issue hFullOk hTracerOk⟩
  tracer_eq := hTracer.verdict_eq_of_unlimited hFullKind hTracerKind
  bits_eq := hBits.verdict_eq hFullKind

/- A table that was made without recycling has an empty shape. -/
theorem HandleTable.shape_eq_empty
    {K V : Type}
    {table : HandleTable K V}
    (hMade : ∃ recycle, table = make recycle)
    (hFree : table.free = none) :
    table.shape = empty := by
  rcases hMade with ⟨recycle, rfl⟩
  cases recycle with
  | false => exact shape_make false
  | true => cases hFree

section

variable [Scalar R]

/- The simulator of the full state allocates while it has room. -/
theorem FullState.HasRoom.neverFull
    {full : FullState R}
    {requests : List (Request R)}
    (hRoom : full.HasRoom requests) :
    (Builtin.fullState full).NeverFull requests := by
  intro first rest hSplit
  rw [Builtin.fullState_morphism.runRequests_eq,
    Builtin.fullState_morphism.run_eq]
  simp only [Request.run, Action.perform_map,
    Backend.allocateQubit,
    perform_allocateQubit_of_room (hRoom first rest hSplit)]
  rfl

/- The simulator of bits and the tracer always allocate. -/
theorem Toffoli.neverFull
    (bits : Toffoli R)
    (requests : List (Request R)) :
    (Builtin.toffoli bits).NeverFull requests := by
  intro first rest _
  rw [Builtin.toffoli_morphism.runRequests_eq,
    Builtin.toffoli_morphism.run_eq]
  rfl

theorem Tracer.neverFull
    (tracer : Tracer R)
    (requests : List (Request R)) :
    (Builtin.tracer tracer).NeverFull requests := by
  intro first rest _
  rw [Builtin.tracer_morphism.runRequests_eq,
    Builtin.tracer_morphism.run_eq]
  rfl

/-
  One sequence of requests is answered alike, from each request
  to the next, by simulators that have just been made and do not
  recycle, if no allocation finds the limit reached.
-/
theorem answeredAlike_of_fresh
    {full : FullState R}
    {bits : Toffoli R}
    (hFull : full.Fresh)
    (hBits : bits.Fresh)
    (hFullFree : full.qubits.free = none)
    (hBitsFree : bits.qubits.free = none)
    (name : String)
    {first rest : List (Request R)}
    {request : Request R}
    (hRoom : full.HasRoom (first ++ request :: rest)) :
    let tracer : Tracer R :=
      { (Tracer.start : Tracer R) with name := name }
    AnsweredAlike request
      (request.run.perform (runRequests full first).2).1
      (request.run.perform (runRequests bits first).2).1
      (request.run.perform (runRequests tracer first).2).1 := by
  intro tracer
  have hFullShape :=
    HandleTable.shape_eq_empty hFull.untouched.qubits_eq hFullFree
  have hBitsShape :=
    HandleTable.shape_eq_empty hBits.untouched.qubits_eq hBitsFree
  have hTracerShape : tracer.qubits.shape = .empty :=
    HandleTable.shape_make false
  have hStartBits :=
    Builtin.HasHistory.abreast (.fullState full hFull)
      (.toffoli bits hBits) (hBitsShape.trans hFullShape.symm)
  have hStartTracer :=
    Builtin.HasHistory.abreast (.fullState full hFull)
      (.tracer name) (hTracerShape.trans hFullShape.symm)
  have hRoomFull := hRoom.neverFull
  have hRoomBits := bits.neverFull (first ++ request :: rest)
  have hRoomTracer := tracer.neverFull (first ++ request :: rest)
  have hFullKind :
      (runRequests (Builtin.fullState full) first).2.kind ≠
        .toffoli := by
    rw [Builtin.kind_runRequests]
    exact BuiltinKind.noConfusion
  have hTracerKind :
      (runRequests (Builtin.tracer tracer) first).2.kind ≠
        .toffoli := by
    rw [Builtin.kind_runRequests]
    exact BuiltinKind.noConfusion
  have hNowBits := hStartBits.run hRoomFull hRoomBits rfl
  have hNowTracer := hStartTracer.run hRoomFull hRoomTracer rfl
  have hAccepted (hAllocate : request = .allocateQubit) :
      (request.run.perform
          (runRequests (Builtin.fullState full) first).2).1.isOk ∧
        (request.run.perform
          (runRequests (Builtin.toffoli bits) first).2).1.isOk ∧
        (request.run.perform
          (runRequests (Builtin.tracer tracer) first).2).1.isOk := by
    cases hAllocate
    exact ⟨hRoomFull first rest rfl, hRoomBits first rest rfl,
      hRoomTracer first rest rfl⟩
  have hAlike :=
    answeredAlike_of_abreast hNowBits hNowTracer hFullKind
      hTracerKind hAccepted
  simpa only [Builtin.fullState_morphism.runRequests_eq,
    Builtin.toffoli_morphism.runRequests_eq,
    Builtin.tracer_morphism.runRequests_eq,
    Builtin.fullState_morphism.run_eq,
    Builtin.toffoli_morphism.run_eq,
    Builtin.tracer_morphism.run_eq] using hAlike

/-
  The rule of acceptance is the same for all simulators, in
  every state that they can get into. So one sequence of
  requests makes the three simulators issue the same qubits and
  refuse the same requests for the same reasons, but for what
  the simulator of bits does not support.
-/
theorem simulators_accept_alike :
    (∀ (b : Builtin R) (history : List (Exchange R))
        (request : Request R),
      b.HasHistory history → request.UsesQubits →
        Objection.Governs request.operation
          ((Census.ofHistory history).objection b.kind request)
          (request.run.perform b).1) ∧
      ∀ (full : FullState R) (bits : Toffoli R) (name : String)
          (requests : List (Request R)),
        full.Fresh → bits.Fresh →
        full.qubits.free = none → bits.qubits.free = none →
        full.HasRoom requests →
        ∀ first request rest, requests = first ++ request :: rest →
          let tracer : Tracer R :=
            { (Tracer.start : Tracer R) with name := name }
          AnsweredAlike request
            (request.run.perform (runRequests full first).2).1
            (request.run.perform (runRequests bits first).2).1
            (request.run.perform (runRequests tracer first).2).1 := by
  constructor
  · intro b history request hHistory hUses
    exact hHistory.governs hUses
  · rintro full bits name _ hFull hBits hFullFree hBitsFree hRoom
      first request rest rfl
    exact answeredAlike_of_fresh hFull hBits hFullFree hBitsFree
      name hRoom

end

/-
  A control that was released and is given twice is reported as
  released by all, before the gate is looked at, which the
  simulator of bits would not support.
-/
theorem released_control_is_refused_alike :
    let full : FullState Float := .start fun _ => 0
    let bits : Toffoli Float := .start .tracked
    let tracer : Tracer Float := .start
    let first : List (Request Float) :=
      [.allocateQubit, .allocateQubit, .releaseQubit ⟨1⟩]
    let request : Request Float :=
      .applyControlled .h [⟨1⟩, ⟨1⟩] ⟨0⟩
    let b := (runRequests (Builtin.toffoli bits) first).2
    Objection.Governs "apply_controlled"
        (some (.notLive ⟨1⟩ .released))
        (request.run.perform b).1 ∧
      AnsweredAlike request
        (request.run.perform (runRequests full first).2).1
        (request.run.perform (runRequests bits first).2).1
        (request.run.perform (runRequests tracer first).2).1 := by
  intro full bits tracer first request b
  have hBits : bits.Fresh := .start .tracked
  have hRoom : full.HasRoom (first ++ [request]) :=
    FullState.hasRoom_of_length_le (by decide)
  constructor
  · exact simulators_accept_alike.1 b _ request
      (Builtin.HasHistory.run (.toffoli bits hBits) first) trivial
  · exact simulators_accept_alike.2 full bits "tracer" _ (.start _)
      hBits rfl rfl hRoom first request [] rfl

end QuantumRuntime
