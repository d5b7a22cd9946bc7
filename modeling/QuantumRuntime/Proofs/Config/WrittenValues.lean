import Mathlib.Data.List.Forall2
import Mathlib.Data.List.Induction
import Mathlib.Tactic.IntervalCases
import QuantumRuntime.Config.RunConfig

/-
  This file says which texts are written values of variables,
  apart from how they are read: words in letters of either case
  for truth values and policies, and decimal numbers below
  `2 ^ 64` for seeds. Reading accepts exactly these.

  Key definitions include:
    * `IsCaseOf`
    * `SpelledAs`
    * `WritesBool`
    * `WritesPolicy`
    * `Numeral`
    * `WritesSeed`

  Key theorems include:
    * `asciiLower_eq_iff`
    * `numeral_iff`
    * `RunConfig.boolOfText_eq_ok_iff`
    * `LeakPolicy.ofText_eq_ok_iff`
    * `RunConfig.seedOfText_eq_ok_iff`
-/

namespace QuantumRuntime

------------------------------------------------------------
-- Words in letters of either case
------------------------------------------------------------

/- A character is another one, or the capital of a small letter. -/
def IsCaseOf
    (c d : Char) : Prop :=
  c = d ∨ ('a' ≤ d ∧ d ≤ 'z' ∧ c.toNat + 32 = d.toNat)

/- A text is a word in letters of either case. -/
def SpelledAs
    (s word : String) : Prop :=
  List.Forall₂ IsCaseOf s.toList word.toList

theorem isUpper_iff_val
    (c : Char) :
    c.isUpper = true ↔ c.val ≥ 'A'.val ∧ c.val ≤ 'Z'.val :=
  decide_eq_true_iff

theorem isUpper_iff
    (c : Char) :
    c.isUpper = true ↔ 65 ≤ c.toNat ∧ c.toNat ≤ 90 := by
  rw [isUpper_iff_val, ge_iff_le, UInt32.le_iff_toNat_le,
    UInt32.le_iff_toNat_le]
  rfl

/- The code point of a character in lower case. -/
theorem toNat_toLower
    (c : Char) :
    c.toLower.toNat =
      if c.isUpper then c.toNat + 32 else c.toNat := by
  by_cases hCase : c.val ≥ 'A'.val ∧ c.val ≤ 'Z'.val
  · have hUpper := (isUpper_iff_val c).mpr hCase
    have hBound : c.val.toNat ≤ 90 := ((isUpper_iff c).mp hUpper).2
    have hLower : c.toLower.val = c.val + ('a'.val - 'A'.val) :=
      congrArg Char.val (dif_pos hCase)
    have hShift : ('a'.val - 'A'.val).toNat = 32 := rfl
    rw [if_pos hUpper]
    show c.toLower.val.toNat = c.val.toNat + 32
    rw [hLower, UInt32.toNat_add, hShift]
    omega
  · have hLower : c.toLower = c := dif_neg hCase
    rw [hLower, if_neg (mt (isUpper_iff_val c).mp hCase)]

/- A character that is no capital is the lower case of its cases. -/
theorem toLower_eq_iff
    {c d : Char}
    (hSmall : d.isUpper = false) :
    c.toLower = d ↔ IsCaseOf c d := by
  have hNoCapital := mt (isUpper_iff d).mpr (by simp [hSmall])
  have hLetter :
      ('a' ≤ d ∧ d ≤ 'z') ↔ 97 ≤ d.toNat ∧ d.toNat ≤ 122 := by
    rw [Char.le_def, Char.le_def, UInt32.le_iff_toNat_le,
      UInt32.le_iff_toNat_le]
    rfl
  rw [IsCaseOf, ← and_assoc, hLetter, ← Char.toNat_inj,
    ← Char.toNat_inj, toNat_toLower]
  simp only [isUpper_iff]
  split <;> omega

theorem map_toLower_eq_iff
    (cs : List Char)
    {ds : List Char}
    (hSmall : ∀ d ∈ ds, d.isUpper = false) :
    cs.map Char.toLower = ds ↔ List.Forall₂ IsCaseOf cs ds := by
  induction cs generalizing ds with
  | nil => cases ds <;> simp
  | cons c rest ih =>
      cases ds with
      | nil => simp
      | cons d ds =>
          rcases List.forall_mem_cons.mp hSmall with
            ⟨hHead, hRest⟩
          rw [List.map_cons, List.cons_eq_cons,
            toLower_eq_iff hHead, ih hRest, List.forall₂_cons]

/- A word without capitals is the lower case of its spellings. -/
theorem asciiLower_eq_iff
    {word : String}
    (hSmall : ∀ d ∈ word.toList, d.isUpper = false)
    (s : String) :
    asciiLower s = word ↔ SpelledAs s word := by
  rw [asciiLower, ← String.toList_inj, String.toList_map,
    map_toLower_eq_iff _ hSmall, SpelledAs]

------------------------------------------------------------
-- Truth values
------------------------------------------------------------

/- The words for each truth value. -/
def boolWords : Bool → List String
  | true => ["1", "true", "yes", "on"]
  | false => ["0", "false", "no", "off"]

/- A text is a word for a truth value. -/
def WritesBool
    (s : String)
    (b : Bool) : Prop :=
  ∃ word ∈ boolWords b, SpelledAs s word

/- The words for truth values have no capitals. -/
theorem isUpper_boolWords
    (b : Bool) :
    ∀ word ∈ boolWords b, ∀ d ∈ word.toList, d.isUpper = false := by
  cases b <;> simp [boolWords]

theorem writesBool_iff
    (s : String)
    (b : Bool) :
    WritesBool s b ↔ asciiLower s ∈ boolWords b := by
  constructor
  · rintro ⟨word, hWord, hSpelled⟩
    rwa [(asciiLower_eq_iff (isUpper_boolWords b word hWord) s).mpr
      hSpelled]
  · intro hWord
    exact ⟨asciiLower s, hWord,
      (asciiLower_eq_iff (isUpper_boolWords b _ hWord) s).mp rfl⟩

/- A truth value is read from the words for it. -/
theorem RunConfig.boolOfText_eq_ok_iff
    (key s : String)
    (b : Bool) :
    boolOfText key s = .ok b ↔ WritesBool s b := by
  have hApart :
      ∀ word ∈ boolWords true, word ∉ boolWords false := by
    decide +kernel
  rw [writesBool_iff]
  show
    (if asciiLower s ∈ boolWords true then
        Except.ok true
      else if asciiLower s ∈ boolWords false then
        Except.ok false
      else
        Except.error _) = Except.ok b ↔ _
  by_cases hTrue : asciiLower s ∈ boolWords true
  · have hFalse := hApart _ hTrue
    cases b <;> simp [hTrue, hFalse]
  · by_cases hFalse : asciiLower s ∈ boolWords false <;>
      cases b <;> simp [hTrue, hFalse]

------------------------------------------------------------
-- Policies
------------------------------------------------------------

/- A text is the word for a policy. -/
def WritesPolicy
    (s : String)
    (policy : LeakPolicy) : Prop :=
  SpelledAs s policy.text

theorem LeakPolicy.ofWord?_eq_some_iff
    (word : String)
    (policy : LeakPolicy) :
    ofWord? word = some policy ↔ word = policy.text := by
  constructor
  · unfold ofWord?
    split <;> rintro ⟨⟩ <;> rfl
  · rintro rfl
    cases policy <;> rfl

/- A policy is read from the word for it. -/
theorem LeakPolicy.ofText_eq_ok_iff
    (s : String)
    (policy : LeakPolicy) :
    ofText s = .ok policy ↔ WritesPolicy s policy := by
  have hSmall : ∀ d ∈ policy.text.toList, d.isUpper = false := by
    cases policy <;> simp [text]
  rw [WritesPolicy, ← asciiLower_eq_iff hSmall,
    ← ofWord?_eq_some_iff, ofText]
  cases ofWord? (asciiLower s) <;> simp

------------------------------------------------------------
-- Seeds
------------------------------------------------------------

/- Some characters are the decimal digits of a number. -/
inductive Numeral : List Char → Nat → Prop
  | digit
      (d : Nat)
      (hDigit : d < 10) :
      Numeral [Nat.digitChar d] d
  | append
      (digits : List Char)
      (n d : Nat)
      (hDigits : Numeral digits n)
      (hDigit : d < 10) :
      Numeral (digits ++ [Nat.digitChar d]) (10 * n + d)

/-
  A text is a decimal number below `2 ^ 64`, perhaps with a plus
  sign before it.
-/
def WritesSeed
    (s : String)
    (seed : Nat) : Prop :=
  ∃ digits,
    Numeral digits seed ∧
      seed < UInt64.size ∧
      (s.toList = digits ∨ s.toList = '+' :: digits)

theorem isDigit_iff
    (c : Char) :
    c.isDigit = true ↔ 48 ≤ c.toNat ∧ c.toNat ≤ 57 := by
  simp [Char.isDigit, UInt32.le_iff_toNat_le, ← Char.toNat_val]

/- The character of a digit is the one with its value. -/
theorem digitChar_eq_iff
    {d : Nat}
    (hDigit : d < 10)
    (c : Char) :
    Nat.digitChar d = c ↔
      c.isDigit = true ∧ c.toNat - 48 = d := by
  have hCode : (Nat.digitChar d).toNat = d + 48 := by
    interval_cases d <;> rfl
  rw [← Char.toNat_inj, hCode, isDigit_iff]
  omega

@[simp] theorem RunConfig.digitsValue_concat
    (digits : List Char)
    (c : Char) :
    digitsValue (digits ++ [c]) =
      10 * digitsValue digits + (c.toNat - 48) := by
  simp [digitsValue]

/- Digits are read as the number that they write. -/
theorem numeral_iff
    (digits : List Char)
    (n : Nat) :
    Numeral digits n ↔
      digits ≠ [] ∧ digits.all Char.isDigit = true ∧
        RunConfig.digitsValue digits = n := by
  constructor
  · intro hNumeral
    induction hNumeral with
    | digit d hDigit =>
        have hChar := (digitChar_eq_iff hDigit _).mp rfl
        simp [RunConfig.digitsValue, hChar.1, hChar.2]
    | append digits n d hDigits hDigit ih =>
        have hChar := (digitChar_eq_iff hDigit _).mp rfl
        simp [ih.2.1, ih.2.2, hChar.1, hChar.2]
  · rintro ⟨hSome, hAll, rfl⟩
    induction digits using List.reverseRecOn with
    | nil => exact absurd rfl hSome
    | append_singleton digits c ih =>
        rw [List.all_append, Bool.and_eq_true, List.all_cons,
          List.all_nil, Bool.and_true] at hAll
        have hCode : c.toNat - 48 < 10 := by
          have hRange := (isDigit_iff c).mp hAll.2
          omega
        have hChar := (digitChar_eq_iff hCode c).mpr ⟨hAll.2, rfl⟩
        rw [RunConfig.digitsValue_concat]
        conv => arg 1; rw [← hChar]
        cases digits with
        | nil =>
            simpa [RunConfig.digitsValue] using Numeral.digit _ hCode
        | cons first rest =>
            exact .append _ _ _
              (ih (List.cons_ne_nil first rest) hAll.1) hCode

/- A plus sign is no digit. -/
theorem not_numeral_plus
    (rest : List Char)
    (n : Nat) :
    ¬ Numeral ('+' :: rest) n := by
  rw [numeral_iff]
  rintro ⟨-, hAll, -⟩
  simp at hAll

/- A number is read from its digits, after a plus sign if any. -/
theorem RunConfig.natOfText?_eq_some_iff
    (s : String)
    (n : Nat) :
    natOfText? s = some n ↔ WritesSeed s n := by
  have hRead (digits : List Char) :
      (if digits ≠ [] ∧ digits.all Char.isDigit ∧
            digitsValue digits < UInt64.size then
          some (digitsValue digits)
        else
          none) = some n ↔
        Numeral digits n ∧ n < UInt64.size := by
    rw [numeral_iff, Option.ite_none_right_eq_some]
    constructor
    · rintro ⟨⟨hSome, hAll, hBound⟩, hValue⟩
      cases hValue
      exact ⟨⟨hSome, hAll, rfl⟩, hBound⟩
    · rintro ⟨⟨hSome, hAll, rfl⟩, hBound⟩
      exact ⟨⟨hSome, hAll, hBound⟩, rfl⟩
  unfold natOfText? WritesSeed
  dsimp only
  rw [hRead]
  split
  · next rest hText =>
      constructor
      · rintro ⟨hNumeral, hBound⟩
        exact ⟨rest, hNumeral, hBound, Or.inr hText⟩
      · rintro ⟨digits, hNumeral, hBound, hSame | hPlus⟩
        · rw [← hSame, hText] at hNumeral
          exact absurd hNumeral (not_numeral_plus rest n)
        · rw [hText, List.cons_eq_cons] at hPlus
          rw [hPlus.2]
          exact ⟨hNumeral, hBound⟩
  · next hText =>
      constructor
      · rintro ⟨hNumeral, hBound⟩
        exact ⟨s.toList, hNumeral, hBound, Or.inl rfl⟩
      · rintro ⟨digits, hNumeral, hBound, rfl | hPlus⟩
        · exact ⟨hNumeral, hBound⟩
        · exact absurd hPlus (hText digits)

/- A seed is read from the numbers that are written. -/
theorem RunConfig.seedOfText_eq_ok_iff
    (s : String)
    (seed : Nat) :
    seedOfText s = .ok seed ↔ WritesSeed s seed := by
  rw [← natOfText?_eq_some_iff, seedOfText]
  cases natOfText? s <;> simp

end QuantumRuntime
