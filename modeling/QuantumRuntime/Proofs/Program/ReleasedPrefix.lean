import QuantumRuntime.Proofs.Program.QubitArrays
import QuantumRuntime.Proofs.Simulator.Acceptance
import QuantumRuntime.Proofs.Simulator.Refusals

/-
  This file proves that the release of several qubits gives
  back a prefix of them: all up to the first that is not live
  or is named for the second time. Whether a qubit is accepted
  depends on the releases before it, but where the prefix ends
  is known from the qubits that were live at the start.

  Key definitions include:
    * `Census.reasonAgainst`

  Key theorems include:
    * `exists_longest_prefix`
    * `Builtin.HasHistory.refuses_release`
    * `Builtin.HasHistory.refuses_next`
    * `release_gives_back_a_prefix`
-/

namespace QuantumRuntime

------------------------------------------------------------
-- Prefixes
------------------------------------------------------------

/-
  The longest prefix of a list without repetition whose members
  have a property. If it is not the whole list, the next member
  repeats one of the prefix or does not have the property.
-/
theorem exists_longest_prefix
    {K : Type}
    (P : K → Prop)
    (keys : List K) :
    ∃ before rest,
      keys = before ++ rest ∧
        before.Nodup ∧
        (∀ key ∈ before, P key) ∧
        ∀ key tail, rest = key :: tail → key ∈ before ∨ ¬ P key := by
  induction keys using List.reverseRecOn with
  | nil => exact ⟨[], [], rfl, List.nodup_nil, by simp, by simp⟩
  | append_singleton keys key ih =>
      rcases ih with ⟨before, rest, rfl, hNodup, hGood, hStop⟩
      cases rest with
      | cons first tail =>
          refine ⟨before, first :: (tail ++ [key]), by simp, hNodup,
            hGood, ?_⟩
          rintro _ _ ⟨⟩
          exact hStop first tail rfl
      | nil =>
          rw [List.append_nil]
          by_cases hNext : key ∈ before ∨ ¬ P key
          · refine ⟨before, [key], rfl, hNodup, hGood, ?_⟩
            rintro _ _ ⟨⟩
            exact hNext
          · rcases not_or.mp hNext with ⟨hNew, hNotBad⟩
            refine ⟨before ++ [key], [], by simp, ?_, ?_, by simp⟩
            · exact List.nodup_append.mpr
                ⟨hNodup, List.nodup_singleton key, by
                  intro first hFirst other hOther hEq
                  cases List.mem_singleton.mp hOther
                  exact hNew (hEq ▸ hFirst)⟩
            · intro other hMem
              rcases List.mem_append.mp hMem with hHere | hHere
              · exact hGood other hHere
              · cases List.mem_singleton.mp hHere
                exact not_not.mp hNotBad

------------------------------------------------------------
-- Refused releases
------------------------------------------------------------

variable {R : Type} [Scalar R]

namespace Census

/- Why a qubit that is not live cannot be used. -/
def reasonAgainst
    (census : Census)
    (q : QubitId) : Violation :=
  if q ∈ census.issued then .released else .unknown

omit [Scalar R] in
/- Releases issue no qubit. -/
theorem issued_ofHistory_releases
    (history : List (Exchange R))
    (qs : List QubitId)
    (answers : List (Except BackendError Reply)) :
    (ofHistory
        (history ++ (qs.map .releaseQubit).zip answers)).issued =
      (ofHistory history).issued := by
  induction qs generalizing history answers with
  | nil => simp
  | cons q rest ih =>
      cases answers with
      | nil => simp
      | cons answer answers =>
          have hRest :=
            ih (history ++ [(.releaseQubit q, answer)]) answers
          rw [List.append_assoc, ofHistory_concat] at hRest
          refine hRest.trans ?_
          cases answer <;> rfl

end Census

namespace Builtin

variable {b : Builtin R} {history : List (Exchange R)}

/- A qubit that is not live cannot be released. -/
theorem HasHistory.refuses_release
    (hHistory : b.HasHistory history)
    {q : QubitId}
    (hDead : ¬ b.Holds (.qubit q)) :
    ((Request.releaseQubit q).run.perform b).1 =
      .error (.contractViolation "release_qubit" (.qubit q)
        ((Census.ofHistory history).reasonAgainst q)) := by
  have hNot : q ∉ (Census.ofHistory history).live := by
    rw [hHistory.agrees.mem_live_iff]
    exact fun hLive =>
      hDead ((holds_bookkeeping_iff b (.qubit q)).mp hLive)
  have hDeadFirst :
      (Census.ofHistory history).firstDead [q] =
        some (.notLive q
          ((Census.ofHistory history).reasonAgainst q)) := by
    simp [Census.firstDead, Census.reasonAgainst, hNot]
  have hGoverns :
      Objection.Governs "release_qubit"
        ((Census.ofHistory history).firstDead [q])
        ((Request.releaseQubit q).run.perform b).1 :=
    @HasHistory.governs R _ b history hHistory
      (.releaseQubit q) trivial
  rw [hDeadFirst] at hGoverns
  generalize ((Request.releaseQubit q).run.perform b).1 = answer
    at hGoverns ⊢
  cases hGoverns with
  | refused _ e hExplains => cases hExplains; rfl

/- A live qubit has been issued. -/
theorem HasHistory.mem_issued_of_holds
    (hHistory : b.HasHistory history)
    {q : QubitId}
    (hLive : b.Holds (.qubit q)) :
    q ∈ (Census.ofHistory history).issued := by
  rw [hHistory.agrees.mem_issued_iff]
  have hThere := (holds_bookkeeping_iff b (.qubit q)).mpr hLive
  rcases Option.isSome_iff_exists.mp hThere with ⟨_, hValue⟩
  exact HandleTable.issued_of_get?_eq_some _ hValue

/- Distinct live qubits are taken back, and nothing else is. -/
theorem Reachable.accepts_releases
    (hReachable : b.Reachable)
    {qs : List QubitId}
    (hNodup : qs.Nodup)
    (hLive : ∀ q ∈ qs, b.Holds (.qubit q)) :
    let run := runRequests b (qs.map .releaseQubit)
    run.1 = accepting qs ∧
      ∀ handle,
        run.2.Holds handle ↔
          (∀ q ∈ qs, handle ≠ .qubit q) ∧ b.Holds handle := by
  simp only [← holds_bookkeeping_iff] at hLive ⊢
  exact bookkeeping.releases_qubits hReachable.sound hNodup hLive

/-
  After that a qubit is refused that was among them, or was not
  live before. The reason is known before the first release.
-/
theorem HasHistory.refuses_next
    (hHistory : b.HasHistory history)
    {before : List QubitId}
    {q : QubitId}
    (hNodup : before.Nodup)
    (hLive : ∀ q ∈ before, b.Holds (.qubit q))
    (hBad : q ∈ before ∨ ¬ b.Holds (.qubit q)) :
    let last := (runRequests b (before.map .releaseQubit)).2
    runRequests b ((before ++ [q]).map .releaseQubit) =
      (accepting before ++
          [.error (.contractViolation "release_qubit" (.qubit q)
            ((Census.ofHistory history).reasonAgainst q))],
        last) := by
  intro last
  rcases hHistory.reachable.accepts_releases hNodup hLive with
    ⟨hAccepted, hHolds⟩
  have hDead : ¬ last.Holds (.qubit q) := by
    intro hThere
    rcases (hHolds _).mp hThere with ⟨hOther, hHere⟩
    rcases hBad with hRepeated | hDead
    · exact hOther q hRepeated rfl
    · exact hDead hHere
  have hRefused :=
    (hHistory.run (before.map .releaseQubit)).refuses_release hDead
  rw [Census.reasonAgainst, Census.issued_ofHistory_releases]
    at hRefused
  rw [List.map_append, runRequests_append, hAccepted,
    List.map_singleton, runRequests_cons,
    perform_run_of_error hRefused]
  rfl

end Builtin

------------------------------------------------------------
-- Releasing several qubits
------------------------------------------------------------

/-
  The release of several qubits gives back the longest prefix
  of live qubits without repetition, each of them once, and
  nothing else. It succeeds when that is all of them, which is
  when all are live and distinct, and else fails for the next
  qubit: one that was given back before, or one that was not
  live at the start, which the history tells from one that was
  never issued. All other handles stay live and recorded.
-/
theorem release_gives_back_a_prefix
    {n : Nat}
    {β : Type}
    [Backend R β]
    {embed : Builtin R → β}
    (hEmbed : Backend.Morphism embed)
    {b : Builtin R}
    {history : List (Exchange R)}
    (hHistory : b.HasHistory history)
    {ctx : Context n β}
    {device : Fin n}
    (hCurrent : ctx.currentDevice = .ok device)
    (hBackend : ctx.devices.get device = embed b)
    (qs : List QubitId) :
    let run := (Allocation.releaseArray qs).perform ctx
    let events : List (Exchange R) :=
      Routine.history (fun _ => Allocation.releaseArray qs)
        ctx device
    ∃ before rest last,
      qs = before ++ rest ∧
        before.Nodup ∧
        (∀ q ∈ before, b.Holds (.qubit q)) ∧
        run.2 =
          (ctx.withDevice device (embed last)).recorded
            (Tracker.untrackQubits before) ∧
        (∀ handle,
          last.Holds handle ↔
            (∀ q ∈ before, handle ≠ .qubit q) ∧
              b.Holds handle) ∧
        (run.1 = .ok () ↔
          (∀ q ∈ qs, b.Holds (.qubit q)) ∧ qs.Nodup) ∧
        ((rest = [] ∧
            run.1 = .ok () ∧
            events =
              before.map fun q => (.releaseQubit q, .ok .done)) ∨
          ∃ q tail reason,
            let cause : BackendError :=
              .contractViolation "release_qubit" (.qubit q) reason
            rest = q :: tail ∧
              run.1 = .error (.backend cause) ∧
              (q ∈ before ∧ reason = .released ∨
                ¬ b.Holds (.qubit q) ∧
                  reason =
                    (Census.ofHistory history).reasonAgainst q) ∧
              events =
                (before.map fun q =>
                    (.releaseQubit q, .ok .done)) ++
                  [(.releaseQubit q, .error cause)]) := by
  rcases exists_longest_prefix (fun q => b.Holds (.qubit q)) qs with
    ⟨before, rest, rfl, hNodup, hLive, hStop⟩
  rcases hHistory.reachable.accepts_releases hNodup hLive with
    ⟨hAccepted, hHolds⟩
  cases rest with
  | nil =>
      rw [List.append_nil]
      intro run events
      have hAcceptedThere :
          (runRequests (ctx.devices.get device)
              (before.map .releaseQubit)).1 =
            accepting before := by
        rw [hBackend, hEmbed.runRequests_eq, hAccepted]
      have hRun :
          run = (.ok (), ctx.ran device (before.map .releaseQubit)) :=
        Allocation.perform_releaseArray_of_accepted hCurrent
          hAcceptedThere
      rw [Context.ran_of_accepted_releases hAcceptedThere, hBackend,
        hEmbed.runRequests_eq] at hRun
      have hEvents :
          events =
            before.map fun q => (.releaseQubit q, .ok .done) :=
        Allocation.history_releaseArray_of_accepted hCurrent
          hAcceptedThere
      have hDone : run.1 = .ok () := by rw [hRun]
      exact ⟨before, [], _, (List.append_nil before).symm, hNodup,
        hLive, congrArg Prod.snd hRun, hHolds,
        iff_of_true hDone ⟨hLive, hNodup⟩,
        .inl ⟨rfl, hDone, hEvents⟩⟩
  | cons q tail =>
      intro run events
      have hBad := hStop q tail rfl
      let cause : BackendError :=
        .contractViolation "release_qubit" (.qubit q)
          ((Census.ofHistory history).reasonAgainst q)
      have hRefusedThere :
          (runRequests (ctx.devices.get device)
              ((before ++ [q]).map .releaseQubit)).1 =
            accepting before ++ [.error cause] := by
        rw [hBackend, hEmbed.runRequests_eq,
          hHistory.refuses_next hNodup hLive hBad]
      have hRun :
          run =
            (.error (.backend cause),
              ctx.ran device
                ((before ++ [q]).map .releaseQubit)) :=
        Allocation.perform_releaseArray_of_refused hCurrent
          hRefusedThere tail
      rw [Context.ran_of_refused_release hRefusedThere, hBackend,
        hEmbed.runRequests_eq,
        hHistory.refuses_next hNodup hLive hBad] at hRun
      have hEvents :
          events =
            (before.map fun q => (.releaseQubit q, .ok .done)) ++
              [(.releaseQubit q, .error cause)] :=
        Allocation.history_releaseArray_of_refused hCurrent
          hRefusedThere tail
      have hFails : run.1 = .error (.backend cause) := by rw [hRun]
      have hNotAll :
          ¬ ((∀ q' ∈ before ++ q :: tail, b.Holds (.qubit q')) ∧
            (before ++ q :: tail).Nodup) := by
        rintro ⟨hAllLive, hDistinct⟩
        rcases hBad with hRepeated | hDead
        · exact List.disjoint_of_nodup_append hDistinct hRepeated
            List.mem_cons_self
        · exact hDead (hAllLive q (by simp))
      refine ⟨before, q :: tail, _, rfl, hNodup, hLive,
        congrArg Prod.snd hRun, hHolds,
        iff_of_false (by simp [hFails]) hNotAll,
        .inr ⟨q, tail, _, rfl, hFails, ?_, hEvents⟩⟩
      exact hBad.imp
        (fun hRepeated =>
          ⟨hRepeated,
            if_pos (hHistory.mem_issued_of_holds
              (hLive q hRepeated))⟩)
        fun hDead => ⟨hDead, rfl⟩

/-
  Of three names the second repeats the first. The first qubit
  is given back, and the one that is named last stays live.
-/
theorem repeated_name_stops_the_release :
    let requests : List (Request Float) :=
      List.replicate 2 .allocateQubit
    let start : Builtin Float := .tracer .start
    let b := (runRequests start requests).2
    let history := requests.zip (runRequests start requests).1
    let ctx : Context 1 (Builtin Float) :=
      (Context.start RunConfig.standard #v[b]).opened (some 0) true
    let run :=
      (Allocation.releaseArray [⟨0⟩, ⟨0⟩, ⟨1⟩]).perform ctx
    b.HasHistory history ∧
      ctx.currentDevice = .ok 0 ∧
      run.1 =
        .error (.backend
          (.contractViolation "release_qubit" (.qubit ⟨0⟩)
            .released)) ∧
      ∃ last,
        run.2 =
            (ctx.withDevice 0 last).recorded
              (Tracker.untrackQubits [⟨0⟩]) ∧
          last.Holds (.qubit ⟨1⟩) ∧
          ¬ last.Holds (.qubit ⟨0⟩) := by
  intro requests start b history ctx run
  have hHistory : b.HasHistory history :=
    (Builtin.HasHistory.tracer "tracer").run requests
  have hError :
      run.1 =
        .error (.backend
          (.contractViolation "release_qubit" (.qubit ⟨0⟩)
            .released)) := by
    decide +kernel
  have hCurrent : ctx.currentDevice = .ok 0 := rfl
  rcases release_gives_back_a_prefix Backend.morphism_id hHistory
      hCurrent rfl [⟨0⟩, ⟨0⟩, ⟨1⟩] with
    ⟨before, rest, last, hSplit, hNodup, -, hAfter, hHolds, -,
      ⟨-, hDone, -⟩ | ⟨q, tail, reason, rfl, hStop, hWhy, -⟩⟩
  · cases hError.symm.trans hDone
  · have hSame := hError.symm.trans hStop
    cases hSame
    have hBefore : before = [⟨0⟩] := by
      rcases before with _ | ⟨first, _ | ⟨second, more⟩⟩
      · rcases hWhy with ⟨hMem, -⟩ | ⟨hDead, -⟩
        · cases hMem
        · exact absurd rfl hDead
      · cases hSplit
        rfl
      · simp only [List.cons_append, List.cons.injEq] at hSplit
        rcases hSplit with ⟨rfl, rfl, -⟩
        simp at hNodup
    subst hBefore
    refine ⟨hHistory, hCurrent, hError, last, hAfter, ?_, ?_⟩
    · exact (hHolds _).mpr ⟨by simp, rfl⟩
    · exact fun hLive =>
        ((hHolds _).mp hLive).1 ⟨0⟩ List.mem_cons_self rfl

end QuantumRuntime
