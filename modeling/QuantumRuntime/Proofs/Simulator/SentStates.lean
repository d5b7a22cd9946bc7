import QuantumRuntime.Proofs.Simulator.CarriedStates

/-
  This file follows the state of one qubit while it is sent to
  another. The gates take three qubits through five stages. In
  the end the last qubit carries the state up to a flip if the
  second qubit is one and a change of sign if the first one is,
  and both outcomes of these two are equally likely. Once the
  two are measured, the last qubit is corrected.

  Key definitions include:
    * `StateVector.Paired`
    * `StateVector.Spread`
    * `StateVector.Encoded`

  Key theorems include:
    * `StateVector.Halved.shared`
    * `StateVector.Shared.spread`
    * `StateVector.Spread.encoded`
    * `StateVector.Encoded.flipped`
    * `StateVector.Flipped.carriesUpTo`
-/

namespace QuantumRuntime

namespace StateVector

variable {s : StateVector ℝ} {target control : Nat}
variable {message alice bob : Nat} {u v : Amplitude ℝ}

------------------------------------------------------------
-- Entangled pairs
------------------------------------------------------------

/-
  Two qubits are an entangled pair: they agree, and the
  amplitudes with both at one are those with both at zero.
-/
structure Paired
    (first second : Nat)
    (s : StateVector ℝ) : Prop where
  second_lt :
    second < s.qubitCount
  agree :
    ∀ i, i.testBit first ≠ i.testBit second → s.amplitude i = 0
  same :
    ∀ bit i,
      s.amplitude (putBit first (!bit) (putBit second (!bit) i)) =
        s.amplitude (putBit first bit (putBit second bit i))

/- A qubit is in equal parts zero and one. -/
def EqualParts
    (position : Nat)
    (s : StateVector ℝ) : Prop :=
  ∀ bit i,
    s.amplitude (putBit position bit i) =
      s.amplitude (putBit position false i)

/- It is so after a half turn of zero. -/
theorem Settled.equalParts_half_turn
    (hSettled : s.Settled target false)
    (hTarget : target < s.qubitCount) :
    (s.applyGate .h 0 target).EqualParts target := by
  intro bit i
  rw [hSettled.amplitude_half_turn hTarget,
    hSettled.amplitude_half_turn hTarget]

/- Then a flip of a qubit that is zero makes a pair. -/
theorem EqualParts.paired
    (hEqual : s.EqualParts control)
    (hSettled : s.Settled target false)
    (hTarget : target < s.qubitCount)
    (hOther : control ≠ target) :
    (s.applyGate .x (2 ^ control) target).Paired control target where
  second_lt := by simpa
  agree i hBits := by
    rw [← putBit_testBit target i,
      amplitude_controlled_flip_putBit hTarget hOther]
    apply hSettled.amplitude_eq_zero
    rw [testBit_putBit_self]
    revert hBits
    cases i.testBit target <;> cases i.testBit control <;> simp
  same bit i := by
    have hHere (bit : Bool) :
        (s.applyGate .x (2 ^ control) target).amplitude
            (putBit control bit (putBit target bit i)) =
          s.amplitude (putBit control false (putBit target false i)) := by
      rw [putBit_comm hOther,
        amplitude_controlled_flip_putBit hTarget hOther,
        testBit_putBit_self, Bool.xor_self, putBit_comm hOther.symm,
        hEqual]
    rw [hHere, hHere]

------------------------------------------------------------
-- Stages of a transfer
------------------------------------------------------------

/- Three qubits are at different positions. -/
structure Apart
    (message alice bob : Nat) : Prop where
  message_ne_alice : message ≠ alice
  message_ne_bob : message ≠ bob
  alice_ne_bob : alice ≠ bob

section

variable (u v : Amplitude ℝ) (message alice bob : Nat)

/- The message carries the state and the other two are zero. -/
structure Turned
    (s : StateVector ℝ) : Prop where
  carries :
    s.Carries u v message
  alice_zero :
    s.Settled alice false
  bob_zero :
    s.Settled bob false

/- The second qubit is in equal parts zero and one. -/
structure Halved
    (s : StateVector ℝ) : Prop where
  carries :
    s.Carries u v message
  alice_equal :
    s.EqualParts alice
  bob_zero :
    s.Settled bob false

/- The message carries the state beside an entangled pair. -/
structure Shared
    (s : StateVector ℝ) : Prop where
  carries :
    s.Carries u v message
  paired :
    s.Paired alice bob

/-
  The state of the message is spread over three qubits: the
  message is one where the other two differ, nothing changes
  when these two are flipped together, and the amplitudes are
  in the proportion of the state.
-/
structure Spread
    (s : StateVector ℝ) : Prop where
  alice_lt :
    alice < s.qubitCount
  bob_lt :
    bob < s.qubitCount
  parity :
    ∀ i,
      i.testBit message ≠ (i.testBit alice ^^ i.testBit bob) →
        s.amplitude i = 0
  same :
    ∀ bit other i,
      s.amplitude (putBit alice (!bit) (putBit bob (!other) i)) =
        s.amplitude (putBit alice bit (putBit bob other i))
  carries :
    ∀ bit i,
      v * s.amplitude
          (putBit message false
            (putBit alice bit (putBit bob bit i))) =
        u * s.amplitude
          (putBit message true
            (putBit alice (!bit) (putBit bob bit i)))

/-
  The last qubit carries the state up to a flip if the second
  one is one and a change of sign if the first one is. Both of
  them are even.
-/
structure Encoded
    (s : StateVector ℝ) : Prop where
  carries :
    s.CarriesUpTo (fun i => i.testBit alice)
      (fun i => i.testBit message) u v bob
  alice_even :
    s.branchWeight alice true = s.branchWeight alice false
  message_even :
    s.Even message

/- The flip is known, but the message is not yet measured. -/
structure Flipped
    (flip : Bool)
    (s : StateVector ℝ) : Prop where
  carries :
    s.CarriesUpTo (fun _ => flip) (fun i => i.testBit message) u v
      bob
  message_even :
    s.Even message

end

------------------------------------------------------------
-- Steps of a transfer
------------------------------------------------------------

/- A gate on the message gives it the state. -/
theorem turned_of_settled
    (hSettled :
      ∀ position ∈ [message, alice, bob], s.Settled position false)
    (g : Gate ℝ)
    (hMessage : message < s.qubitCount)
    (hApart : Apart message alice bob) :
    (s.applyGate g 0 message).Turned (gateMatrix g).m00
      (gateMatrix g).m10 message alice bob where
  carries := (hSettled message (by simp)).carries_applyGate g hMessage
  alice_zero :=
    (hSettled alice (by simp)).applyGate g hMessage
      hApart.message_ne_alice.symm
  bob_zero :=
    (hSettled bob (by simp)).applyGate g hMessage
      hApart.message_ne_bob.symm

/- A half turn of the second qubit makes it even. -/
theorem Turned.halved
    (hTurned : s.Turned u v message alice bob)
    (hAlice : alice < s.qubitCount)
    (hApart : Apart message alice bob) :
    (s.applyGate .h 0 alice).Halved u v message alice bob where
  carries :=
    hTurned.carries.applyGate_of_ne .h hAlice
      hApart.message_ne_alice.symm
  alice_equal := hTurned.alice_zero.equalParts_half_turn hAlice
  bob_zero :=
    hTurned.bob_zero.applyGate .h hAlice hApart.alice_ne_bob.symm

/- A flip of the third under the second makes them a pair. -/
theorem Halved.shared
    (hHalved : s.Halved u v message alice bob)
    (hBob : bob < s.qubitCount)
    (hApart : Apart message alice bob) :
    (s.applyGate .x (2 ^ alice) bob).Shared u v message alice
      bob where
  carries :=
    hHalved.carries.controlled_flip_of_ne hBob hApart.alice_ne_bob
      hApart.message_ne_alice.symm hApart.message_ne_bob.symm
  paired :=
    hHalved.alice_equal.paired hHalved.bob_zero hBob
      hApart.alice_ne_bob

/- The flip of one half of a pair under the message spreads it. -/
theorem Shared.spread
    (hShared : s.Shared u v message alice bob)
    (hAlice : alice < s.qubitCount)
    (hApart : Apart message alice bob) :
    (s.applyGate .x (2 ^ message) alice).Spread u v message alice
      bob := by
  rcases hApart with ⟨hFirst, hSecond, hOther⟩
  rcases hShared with ⟨hCarries, hPaired⟩
  have hFlip (bit : Bool) (i : Nat) :=
    amplitude_controlled_flip_putBit (s := s) hAlice hFirst bit i
  have hBob := hPaired.second_lt
  refine ⟨by simpa, by simpa, fun i hBits => ?_,
    fun bit other i => ?_, fun bit i => ?_⟩
  · rw [← putBit_testBit alice i, hFlip]
    apply hPaired.agree
    rw [testBit_putBit_self, testBit_putBit, if_neg hOther.symm]
    revert hBits
    cases i.testBit message <;> cases i.testBit alice <;>
      cases i.testBit bob <;> simp
  · rw [hFlip, hFlip]
    simp only [testBit_putBit, if_neg hSecond]
    -- Either the two bits agree or no amplitude is left.
    by_cases hAgree : (bit ^^ i.testBit message) = other
    · have hSame := hPaired.same other i
      rw [← hAgree] at hSame ⊢
      rw [← hSame, Bool.not_xor]
    · rw [hPaired.agree, hPaired.agree]
      · simpa [testBit_putBit, hOther.symm] using hAgree
      · simpa [testBit_putBit, hOther.symm] using hAgree
  · have hMessage (x y : Bool) :
        (s.applyGate .x (2 ^ message) alice).amplitude
            (putBit message x (putBit alice y (putBit bob bit i))) =
          s.amplitude
            (putBit message x
              (putBit alice (y ^^ x) (putBit bob bit i))) := by
      rw [putBit_comm hFirst, hFlip, testBit_putBit_self,
        putBit_comm hFirst]
    rw [hMessage, hMessage, Bool.xor_false, Bool.xor_true,
      Bool.not_not]
    exact hCarries (putBit alice bit (putBit bob bit i))

/- A half turn of the message keeps that nothing changes. -/
theorem Spread.same_half_turn
    (hSpread : s.Spread u v message alice bob)
    (hMessage : message < s.qubitCount)
    (hApart : Apart message alice bob)
    (bit other : Bool)
    (i : Nat) :
    (s.applyGate .h 0 message).amplitude
        (putBit alice (!bit) (putBit bob (!other) i)) =
      (s.applyGate .h 0 message).amplitude
        (putBit alice bit (putBit bob other i)) := by
  rcases hApart with ⟨hFirst, hSecond, -⟩
  have hHere (bit other : Bool) :
      (s.applyGate .h 0 message).amplitude
          (putBit alice bit (putBit bob other i)) =
        halfTurn *
          (s.amplitude
              (putBit alice bit
                (putBit bob other (putBit message false i))) +
            signFactor (i.testBit message) *
              s.amplitude
                (putBit alice bit
                  (putBit bob other (putBit message true i)))) := by
    have hTurn :=
      amplitude_half_turn_putBit hMessage (i.testBit message)
        (putBit alice bit (putBit bob other i))
    simpa only [putBit_comm hFirst, putBit_comm hSecond,
      putBit_testBit] using hTurn
  rw [hHere, hHere, hSpread.same, hSpread.same]

/- The message is even after its half turn. -/
theorem Spread.even_half_turn
    (hSpread : s.Spread u v message alice bob)
    (hMessage : message < s.qubitCount)
    (hApart : Apart message alice bob) :
    (s.applyGate .h 0 message).Even message := by
  rcases hApart with ⟨hFirst, hSecond, -⟩
  intro i
  have hNone (bit : Bool)
      (hBits : bit ≠ (i.testBit alice ^^ i.testBit bob)) :
      s.amplitude (putBit message bit i) = 0 := by
    apply hSpread.parity
    rwa [testBit_putBit_self, testBit_putBit, if_neg hFirst.symm,
      testBit_putBit, if_neg hSecond.symm]
  rw [amplitude_half_turn_putBit hMessage,
    amplitude_half_turn_putBit hMessage, Amplitude.normSq_mul,
    Amplitude.normSq_mul]
  -- One of the two sides of the pair is empty.
  cases hBits : i.testBit alice ^^ i.testBit bob with
  | false =>
      rw [hNone true (by simp [hBits])]
      simp
  | true =>
      rw [hNone false (by simp [hBits]), Amplitude.zero_add,
        Amplitude.zero_add, Amplitude.normSq_mul,
        Amplitude.normSq_mul, normSq_signFactor,
        normSq_signFactor]

/- The last qubit carries the state up to the other two bits. -/
theorem Spread.carriesUpTo_half_turn
    (hSpread : s.Spread u v message alice bob)
    (hMessage : message < s.qubitCount)
    (hApart : Apart message alice bob) :
    (s.applyGate .h 0 message).CarriesUpTo
      (fun i => i.testBit alice) (fun i => i.testBit message) u v
      bob := by
  rcases hApart with ⟨hFirst, hSecond, hOther⟩
  let := Amplitude.ringLaws_real.commRing
  intro i
  have hHere (bit : Bool) :
      (s.applyGate .h 0 message).amplitude (putBit bob bit i) =
        halfTurn *
          (s.amplitude (putBit message false (putBit bob bit i)) +
            signFactor (i.testBit message) *
              s.amplitude
                (putBit message true (putBit bob bit i))) := by
    have hTurn :=
      amplitude_half_turn_putBit hMessage (i.testBit message)
        (putBit bob bit i)
    rwa [putBit_comm hSecond, putBit_testBit] at hTurn
  have hNone (side bit : Bool)
      (hBits : side ≠ (i.testBit alice ^^ bit)) :
      s.amplitude (putBit message side (putBit bob bit i)) = 0 := by
    apply hSpread.parity
    simpa [testBit_putBit, hFirst.symm, hSecond.symm, hOther]
      using hBits
  have hProportion :
      v * s.amplitude
          (putBit message false
            (putBit bob (i.testBit alice) i)) =
        u * s.amplitude
          (putBit message true
            (putBit bob (!i.testBit alice) i)) := by
    have hCarries := hSpread.carries (i.testBit alice) i
    have hSame :=
      hSpread.same (i.testBit alice) (!i.testBit alice)
        (putBit message true i)
    have hThere :
        putBit alice (i.testBit alice) (putBit message true i) =
          putBit message true i := by
      rw [← putBit_comm hFirst, putBit_testBit]
    simp only [putBit_comm hFirst, putBit_comm hSecond, Bool.not_not,
      putBit_comm hOther, putBit_testBit] at hCarries hSame ⊢
    rw [hCarries, hSame, hThere]
  have hSquare := signFactor_mul_self (i.testBit message)
  dsimp only
  rw [hHere, hHere, hNone true (i.testBit alice) (by simp),
    hNone false (!i.testBit alice) (by simp)]
  linear_combination
    halfTurn * hProportion -
      u * halfTurn *
          s.amplitude
            (putBit message true
              (putBit bob (!i.testBit alice) i)) *
        hSquare

/- The half turn of the message encodes the state. -/
theorem Spread.encoded
    (hSpread : s.Spread u v message alice bob)
    (hMessage : message < s.qubitCount)
    (hApart : Apart message alice bob) :
    (s.applyGate .h 0 message).Encoded u v message alice bob where
  carries := hSpread.carriesUpTo_half_turn hMessage hApart
  alice_even := by
    have hAlice := hSpread.alice_lt
    have hBob := hSpread.bob_lt
    -- A flip of the last qubit exchanges the two branches.
    rw [← branchWeight_applyGate_of_ne (s := s.applyGate .h 0 message)
      .x 0 (by simpa) hApart.alice_ne_bob]
    apply branchWeight_congr (by simpa) (by simp)
    intro i
    have hFlip :=
      amplitude_flip_putBit (s := s.applyGate .h 0 message)
        (by simpa) (i.testBit bob) (putBit alice true i)
    rw [putBit_comm hApart.alice_ne_bob.symm,
      putBit_comm hApart.alice_ne_bob.symm, putBit_testBit] at hFlip
    have hSame :=
      hSpread.same_half_turn hMessage hApart false (i.testBit bob) i
    rw [putBit_testBit] at hSame
    rw [hFlip, ← hSame]
    rfl
  message_even := hSpread.even_half_turn hMessage hApart

/- The outcome of the second qubit says whether there is a flip. -/
theorem Encoded.flipped
    (hEncoded : s.Encoded u v message alice bob)
    (hApart : Apart message alice bob)
    (bit : Bool) :
    (s.collapse alice bit).Flipped u v message bob bit where
  carries :=
    hEncoded.carries.collapse hApart.alice_ne_bob
      fun _ hBit => ⟨hBit, rfl⟩
  message_even :=
    hEncoded.message_even.collapse hApart.message_ne_alice.symm bit

/- A flip of the last qubit makes it good. -/
theorem Flipped.correct
    (hFlipped : s.Flipped u v message bob true)
    (hBob : bob < s.qubitCount)
    (hApart : Apart message alice bob) :
    (s.applyGate .x 0 bob).Flipped u v message bob false where
  carries := hFlipped.carries.correct_flip hBob
  message_even :=
    hFlipped.message_even.flip hBob hApart.message_ne_bob.symm

/- The outcome of the message says whether the sign is changed. -/
theorem Flipped.carriesUpTo
    (hFlipped : s.Flipped u v message bob false)
    (hApart : Apart message alice bob)
    (bit : Bool) :
    (s.collapse message bit).CarriesUpTo (fun _ => false)
      (fun _ => bit) u v bob :=
  hFlipped.carries.collapse hApart.message_ne_bob
    fun _ hBit => ⟨rfl, hBit⟩

end StateVector

end QuantumRuntime
