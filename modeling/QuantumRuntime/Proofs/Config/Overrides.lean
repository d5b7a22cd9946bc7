import Mathlib.Data.List.TakeWhile
import QuantumRuntime.Proofs.Config.WrittenValues
import QuantumRuntime.Proofs.Performance

/-
  This file says what overriding does to a configuration. The
  variables are read in a fixed order, each one into a field of
  its own, and the first one that cannot be read ends it. What
  they leave is described field by field, so overriding twice
  can be compared with overriding once.

  Key definitions include:
    * `Variable`
    * `Variable.Means`
    * `Variable.Readable`
    * `Variable.Overridden`
    * `Layered`

  Key theorems include:
    * `Variable.perform_overrides`
    * `RunConfig.perform_applyOverrides`
    * `RunConfig.perform_applyOverrides_eq_ok_iff`
    * `RunConfig.overrides_layer`
-/

namespace QuantumRuntime

------------------------------------------------------------
-- Variables and their fields
------------------------------------------------------------

/- The variables that override a configuration. -/
inductive Variable where
  | trackAllocations
  | leakPolicy
  | releaseOnTeardown
  | backend
  | seed
deriving DecidableEq, Repr

namespace Variable

/- The key under which a variable is looked up. -/
def key : Variable → String
  | trackAllocations => "QIRT_TRACK_ALLOCATIONS"
  | leakPolicy => "QIRT_LEAK_POLICY"
  | releaseOnTeardown => "QIRT_RELEASE_ON_TEARDOWN"
  | backend => "QIRT_BACKEND"
  | seed => "QIRT_SEED"

/- The variables in the order in which they are read. -/
def all : List Variable :=
  [trackAllocations, leakPolicy, releaseOnTeardown, backend, seed]

theorem mem_all
    (v : Variable) :
    v ∈ all := by
  cases v <;> decide

theorem nodup_all :
    all.Nodup := by
  decide

/- What the field of a variable holds. -/
def Value : Variable → Type
  | trackAllocations => Bool
  | leakPolicy => LeakPolicy
  | releaseOnTeardown => Bool
  | backend => String
  | seed => Option Nat

/- The field that a variable overrides. -/
def field : (v : Variable) → RunConfig → v.Value
  | trackAllocations, config => config.trackAllocations
  | leakPolicy, config => config.leakPolicy
  | releaseOnTeardown, config => config.releaseOnTeardown
  | backend, config => config.backend
  | seed, config => config.seed

/- The configuration with another value in a field. -/
def put : (v : Variable) → v.Value → RunConfig → RunConfig
  | trackAllocations, b, config =>
      { config with trackAllocations := b }
  | leakPolicy, policy, config =>
      { config with leakPolicy := policy }
  | releaseOnTeardown, b, config =>
      { config with releaseOnTeardown := b }
  | backend, name, config => { config with backend := name }
  | seed, number, config => { config with seed := number }

@[simp] theorem field_put
    (v : Variable)
    (x : v.Value)
    (config : RunConfig) :
    v.field (v.put x config) = x := by
  cases v <;> rfl

theorem field_put_of_ne
    {v w : Variable}
    (hOther : w ≠ v)
    (x : v.Value)
    (config : RunConfig) :
    w.field (v.put x config) = w.field config := by
  cases v <;> cases w <;> first
    | rfl
    | exact absurd rfl hOther

end Variable

/- A configuration is determined by the fields of the variables. -/
theorem RunConfig.eq_of_fields
    {config config' : RunConfig}
    (hFields : ∀ v : Variable, v.field config = v.field config') :
    config = config' := by
  rcases config with ⟨track, policy, release, name, number⟩
  rcases config' with ⟨track', policy', release', name', number'⟩
  have hTrack : track = track' := hFields .trackAllocations
  have hPolicy : policy = policy' := hFields .leakPolicy
  have hRelease : release = release' := hFields .releaseOnTeardown
  have hName : name = name' := hFields .backend
  have hNumber : number = number' := hFields .seed
  rw [hTrack, hPolicy, hRelease, hName, hNumber]

------------------------------------------------------------
-- Values of variables
------------------------------------------------------------

namespace Variable

/- A text is a written value for the field of a variable. -/
def Means : (v : Variable) → String → v.Value → Prop
  | trackAllocations, text, b => WritesBool text b
  | leakPolicy, text, policy => WritesPolicy text policy
  | releaseOnTeardown, text, b => WritesBool text b
  | backend, text, name => text = name
  | seed, text, number => ∃ n, WritesSeed text n ∧ number = some n

/- The value that a text is read as. -/
def read : (v : Variable) → String → Except ProgramError v.Value
  | trackAllocations, text =>
      RunConfig.boolOfText "QIRT_TRACK_ALLOCATIONS" text
  | leakPolicy, text => LeakPolicy.ofText text
  | releaseOnTeardown, text =>
      RunConfig.boolOfText "QIRT_RELEASE_ON_TEARDOWN" text
  | backend, text => .ok text
  | seed, text => (RunConfig.seedOfText text).map some

/- Reading accepts the written values and no other text. -/
theorem read_eq_ok_iff
    (v : Variable)
    (text : String)
    (x : v.Value) :
    v.read text = .ok x ↔ v.Means text x := by
  cases v with
  | trackAllocations => exact RunConfig.boolOfText_eq_ok_iff _ text x
  | leakPolicy => exact LeakPolicy.ofText_eq_ok_iff text x
  | releaseOnTeardown => exact RunConfig.boolOfText_eq_ok_iff _ text x
  | backend => exact Except.ok.injEq text x ▸ Iff.rfl
  | seed =>
      have hSeed := RunConfig.seedOfText_eq_ok_iff text
      show (RunConfig.seedOfText text).map some = .ok x ↔
        ∃ n, WritesSeed text n ∧ x = some n
      simp only [← hSeed]
      cases RunConfig.seedOfText text with
      | error e => simp [Except.map]
      | ok n =>
          constructor
          · rintro ⟨⟩
            exact ⟨n, rfl, rfl⟩
          · rintro ⟨m, ⟨⟩, rfl⟩
            rfl

/- A text is a written value of one value at most. -/
theorem Means.unique
    {v : Variable}
    {text : String}
    {x y : v.Value}
    (hFirst : v.Means text x)
    (hSecond : v.Means text y) :
    x = y := by
  have hSame :=
    ((v.read_eq_ok_iff text x).mpr hFirst).symm.trans
      ((v.read_eq_ok_iff text y).mpr hSecond)
  exact Except.ok.inj hSame

------------------------------------------------------------
-- Variables that can be read
------------------------------------------------------------

variable (lookup : String → Option String)

/- A variable is absent or holds a written value. -/
def Readable
    (v : Variable) : Prop :=
  ∀ text, lookup v.key = some text → ∃ x, v.Means text x

/- What reading a variable answers, apart from its value. -/
def check
    (v : Variable) : Except ProgramError Unit :=
  match lookup v.key with
  | none => .ok ()
  | some text => (v.read text).map fun _ => ()

theorem check_eq_ok_iff
    (v : Variable) :
    check lookup v = .ok () ↔ Readable lookup v := by
  unfold check Readable
  cases lookup v.key with
  | none => simp
  | some text =>
      simp only [Option.some.injEq, forall_eq', ← read_eq_ok_iff]
      cases v.read text <;> simp [Except.map]

instance
    (v : Variable) :
    Decidable (Readable lookup v) :=
  decidable_of_iff _ (check_eq_ok_iff lookup v)

theorem forM_check_cons
    (v : Variable)
    (rest : List Variable) :
    (v :: rest).forM (check lookup) =
      check lookup v >>= fun _ => rest.forM (check lookup) :=
  rfl

/- A list of variables is read when each one is. -/
theorem forM_check_eq_ok_iff
    (vs : List Variable) :
    vs.forM (check lookup) = .ok () ↔
      ∀ v ∈ vs, Readable lookup v := by
  induction vs with
  | nil => simp [pure, Except.pure]
  | cons v rest ih =>
      rw [forM_check_cons, List.forall_mem_cons,
        ← check_eq_ok_iff, ← ih]
      cases check lookup v <;> simp [bind, Except.bind]

/- The variables before the first one that cannot be read. -/
def beforeUnreadable
    (vs : List Variable) : List Variable :=
  vs.takeWhile fun v => decide (Readable lookup v)

theorem beforeUnreadable_cons
    (v : Variable)
    (rest : List Variable) :
    beforeUnreadable lookup (v :: rest) =
      if Readable lookup v then
        v :: beforeUnreadable lookup rest
      else
        [] := by
  simp [beforeUnreadable, List.takeWhile_cons]

theorem beforeUnreadable_subset
    (vs : List Variable) :
    beforeUnreadable lookup vs ⊆ vs :=
  List.takeWhile_subset _

theorem beforeUnreadable_eq_self
    {vs : List Variable}
    (hReadable : ∀ v ∈ vs, Readable lookup v) :
    beforeUnreadable lookup vs = vs :=
  List.takeWhile_eq_self_iff.mpr fun v hMember =>
    decide_eq_true (hReadable v hMember)

------------------------------------------------------------
-- Fields that are overridden
------------------------------------------------------------

/- A field is what its variable says, if the variable is present. -/
def Overridden
    (v : Variable)
    (config config' : RunConfig) : Prop :=
  match lookup v.key with
  | none => v.field config' = v.field config
  | some text => v.Means text (v.field config')

variable {lookup}

theorem overridden_iff_of_none
    {v : Variable}
    (hKey : lookup v.key = none)
    (config config' : RunConfig) :
    Overridden lookup v config config' ↔
      v.field config' = v.field config := by
  rw [Overridden, hKey]

theorem overridden_iff_of_some
    {v : Variable}
    {text : String}
    (hKey : lookup v.key = some text)
    (config config' : RunConfig) :
    Overridden lookup v config config' ↔
      v.Means text (v.field config') := by
  rw [Overridden, hKey]

/- An overridden field has one value only. -/
theorem Overridden.unique
    {v : Variable}
    {config first second : RunConfig}
    (hFirst : Overridden lookup v config first)
    (hSecond : Overridden lookup v config second) :
    v.field first = v.field second := by
  cases hKey : lookup v.key with
  | none =>
      rw [overridden_iff_of_none hKey] at hFirst hSecond
      exact hFirst.trans hSecond.symm
  | some text =>
      rw [overridden_iff_of_some hKey] at hFirst hSecond
      exact Means.unique hFirst hSecond

/- Where the later value is absent, the earlier one counts. -/
theorem Overridden.trans
    {earlier later : String → Option String}
    {v : Variable}
    {config middle config' : RunConfig}
    (hEarlier : Overridden earlier v config middle)
    (hLater : Overridden later v middle config') :
    Overridden (fun key => (later key).or (earlier key))
      v config config' := by
  unfold Overridden at *
  cases hKey : later v.key with
  | some text => simpa [hKey] using hLater
  | none =>
      have hSame : v.field config' = v.field middle := by
        simpa [hKey] using hLater
      simpa [hKey, hSame] using hEarlier

theorem Readable.or
    {earlier later : String → Option String}
    {v : Variable}
    (hEarlier : Readable earlier v)
    (hLater : Readable later v) :
    Readable (fun key => (later key).or (earlier key)) v := by
  intro text hText
  rcases Option.or_eq_some_iff.mp hText with hText | ⟨-, hText⟩
  · exact hLater text hText
  · exact hEarlier text hText

end Variable

------------------------------------------------------------
-- Layers of overrides
------------------------------------------------------------

open Variable

/-
  One configuration is another one with the fields of some
  variables overridden and all others kept.
-/
structure Layered
    (lookup : String → Option String)
    (vs : List Variable)
    (config config' : RunConfig) : Prop where
  overridden : ∀ v ∈ vs, Overridden lookup v config config'
  kept : ∀ v, v ∉ vs → v.field config' = v.field config

namespace Layered

variable {lookup : String → Option String}
variable {vs : List Variable}
variable {config middle config' : RunConfig}

theorem nil :
    Layered lookup [] config config where
  overridden := by simp
  kept _ _ := rfl

/- Variables with fields of their own add up. -/
theorem cons
    {v : Variable}
    (hNew : v ∉ vs)
    (hHead : Layered lookup [v] config middle)
    (hRest : Layered lookup vs middle config') :
    Layered lookup (v :: vs) config config' where
  overridden w hMember := by
    rcases List.mem_cons.mp hMember with rfl | hMember
    · have hField := hRest.kept w hNew
      have hOverridden :=
        hHead.overridden w (List.mem_singleton_self w)
      unfold Overridden at *
      rwa [hField]
    · have hOther : w ≠ v := fun hSame => hNew (hSame ▸ hMember)
      have hField :=
        hHead.kept w (mt List.mem_singleton.mp hOther)
      have hOverridden := hRest.overridden w hMember
      unfold Overridden at *
      rwa [← hField]
  kept w hOther := by
    rw [List.mem_cons, not_or] at hOther
    rw [hRest.kept w hOther.2,
      hHead.kept w (mt List.mem_singleton.mp hOther.1)]

/- A second layer of the same overrides changes nothing. -/
theorem eq_of_again
    (hFirst : Layered lookup vs config middle)
    (hSecond : Layered lookup vs middle config') :
    config' = middle := by
  refine RunConfig.eq_of_fields fun v => ?_
  by_cases hMember : v ∈ vs
  · have hBoth :=
      (hFirst.overridden v hMember).trans
        (hSecond.overridden v hMember)
    simp only [Option.or_self] at hBoth
    exact hBoth.unique (hFirst.overridden v hMember)
  · exact hSecond.kept v hMember

/- When all variables can be read, all fields are overridden. -/
theorem overridden_of_readable
    (hLayered :
      Layered lookup (beforeUnreadable lookup Variable.all)
        config config')
    (hReadable : ∀ v, Readable lookup v)
    (v : Variable) :
    Overridden lookup v config config' := by
  refine hLayered.overridden v ?_
  rw [beforeUnreadable_eq_self lookup fun w _ => hReadable w]
  exact v.mem_all

end Layered

namespace Variable

variable (lookup : String → Option String)

/- Override the field of a variable. -/
def override
    (v : Variable) : Action RunConfig ProgramError Unit :=
  RunConfig.overrideField lookup v.key v.read v.put

theorem perform_override_eq
    (v : Variable)
    (config : RunConfig) :
    (override lookup v).perform config =
      match lookup v.key with
      | none => (.ok (), config)
      | some text =>
          match v.read text with
          | .ok x => (.ok (), v.put x config)
          | .error e => (.error e, config) := by
  unfold override RunConfig.overrideField
  cases lookup v.key with
  | none => rfl
  | some text =>
      simp only [Action.perform_bind, Action.perform_ofExcept]
      cases v.read text <;> rfl

/-
  Overriding one field answers what reading its variable does,
  and changes this field at most.
-/
theorem perform_override
    (v : Variable)
    (config : RunConfig) :
    ∃ config',
      (override lookup v).perform config =
          (check lookup v, config') ∧
        Layered lookup (beforeUnreadable lookup [v])
          config config' := by
  rw [perform_override_eq, check, beforeUnreadable_cons]
  cases hKey : lookup v.key with
  | none =>
      have hReadable : Readable lookup v := by
        simp [Readable, hKey]
      rw [if_pos hReadable]
      refine ⟨config, rfl, ?_, fun _ _ => rfl⟩
      intro w hMember
      obtain rfl := List.mem_singleton.mp hMember
      exact (overridden_iff_of_none hKey _ _).mpr rfl
  | some text =>
      have hReadable :
          Readable lookup v ↔ ∃ x, v.read text = .ok x := by
        simp [Readable, hKey, read_eq_ok_iff]
      cases hRead : v.read text with
      | error e =>
          rw [if_neg (by simp [hReadable, hRead])]
          exact ⟨config, by simp [hRead, Except.map], .nil⟩
      | ok x =>
          rw [if_pos (hReadable.mpr ⟨x, hRead⟩)]
          refine
            ⟨v.put x config, by simp [hRead, Except.map], ?_, ?_⟩
          · intro w hMember
            obtain rfl := List.mem_singleton.mp hMember
            rw [overridden_iff_of_some hKey, field_put,
              ← read_eq_ok_iff, hRead]
          · intro w hOther
            exact field_put_of_ne
              (mt List.mem_singleton.mpr hOther) x config

theorem perform_overrides_cons
    (v : Variable)
    (rest : List Variable)
    (config : RunConfig) :
    ((v :: rest).forM (override lookup)).perform config =
      match (override lookup v).perform config with
      | (.ok _, middle) =>
          (rest.forM (override lookup)).perform middle
      | (.error e, middle) => (.error e, middle) := by
  show
    (override lookup v >>= fun _ =>
      rest.forM (override lookup)).perform config = _
  rw [Action.perform_bind]
  rcases (override lookup v).perform config with ⟨_ | _, _⟩ <;> rfl

/-
  Overriding field after field ends at the first variable that
  cannot be read, with the fields before it overridden.
-/
theorem perform_overrides
    (vs : List Variable)
    (hOnce : vs.Nodup)
    (config : RunConfig) :
    ∃ config',
      (vs.forM (override lookup)).perform config =
          (vs.forM (check lookup), config') ∧
        Layered lookup (beforeUnreadable lookup vs)
          config config' := by
  induction vs generalizing config with
  | nil => exact ⟨config, rfl, Layered.nil⟩
  | cons v rest ih =>
      rcases List.nodup_cons.mp hOnce with ⟨hNew, hRest⟩
      rcases perform_override lookup v config with
        ⟨middle, hPerform, hHead⟩
      rw [perform_overrides_cons, hPerform, forM_check_cons,
        beforeUnreadable_cons]
      rw [beforeUnreadable_cons] at hHead
      by_cases hReadable : Readable lookup v
      · rw [if_pos hReadable] at hHead ⊢
        rcases ih hRest middle with ⟨config', hLater, hLayered⟩
        have hAbsent : v ∉ beforeUnreadable lookup rest :=
          fun hMember =>
            hNew (beforeUnreadable_subset lookup rest hMember)
        rw [(check_eq_ok_iff lookup v).mpr hReadable]
        exact ⟨config', hLater, hHead.cons hAbsent hLayered⟩
      · rw [if_neg hReadable] at hHead ⊢
        cases hOutcome : check lookup v with
        | error e => exact ⟨middle, rfl, hHead⟩
        | ok _ =>
            exact absurd
              ((check_eq_ok_iff lookup v).mp hOutcome) hReadable

end Variable

------------------------------------------------------------
-- Overriding a configuration
------------------------------------------------------------

namespace RunConfig

theorem validate_eq_ok_iff
    (config : RunConfig) :
    config.validate = .ok () ↔ ¬ IsBlank config.backend := by
  unfold validate
  split <;> simp [*]

/- A seed that is read is put as a present one. -/
theorem override_seed
    (lookup : String → Option String) :
    override lookup .seed =
      overrideField lookup "QIRT_SEED" seedOfText
        (fun number config => { config with seed := some number }) := by
  unfold override overrideField
  show (match lookup "QIRT_SEED" with | none => _ | some _ => _) = _
  cases lookup "QIRT_SEED" with
  | none => rfl
  | some text =>
      show (Action.ofExcept ((seedOfText text).map some) >>= _) = _
      dsimp only
      cases seedOfText text <;> rfl

/- Overrides are those of the variables in order, and a check. -/
theorem applyOverrides_eq
    (lookup : String → Option String) :
    applyOverrides lookup = (do
      Variable.all.forM (override lookup)
      let config ← get
      Action.ofExcept config.validate) := by
  unfold applyOverrides
  rw [← override_seed]
  show _ =
    ((do
      override lookup .trackAllocations
      override lookup .leakPolicy
      override lookup .releaseOnTeardown
      override lookup .backend
      override lookup .seed
      pure ()) >>= fun _ => _)
  simp only [bind_assoc, pure_bind]
  rfl

/-
  Applying overrides reads the variables in order, overrides
  the fields before the first one that cannot be read, and
  checks the configuration when all are read.
-/
theorem perform_applyOverrides
    (lookup : String → Option String)
    (config : RunConfig) :
    ∃ config',
      (applyOverrides lookup).perform config =
          ((do Variable.all.forM (check lookup); config'.validate),
            config') ∧
        Layered lookup (beforeUnreadable lookup Variable.all)
          config config' := by
  rcases perform_overrides lookup Variable.all nodup_all config with
    ⟨config', hPerform, hLayered⟩
  refine ⟨config', ?_, hLayered⟩
  rw [applyOverrides_eq, Action.perform_bind, hPerform]
  cases Variable.all.forM (check lookup) <;> rfl

theorem read_and_validate_eq_ok_iff
    (lookup : String → Option String)
    (config : RunConfig) :
    (do Variable.all.forM (check lookup); config.validate) =
        Except.ok () ↔
      (∀ v, Readable lookup v) ∧ ¬ IsBlank config.backend := by
  have hAll :
      (∀ v ∈ Variable.all, Readable lookup v) ↔
        ∀ v, Readable lookup v :=
    ⟨fun hRead v => hRead v v.mem_all, fun hRead v _ => hRead v⟩
  rw [← hAll, ← forM_check_eq_ok_iff, ← validate_eq_ok_iff]
  cases Variable.all.forM (check lookup) <;> simp [bind, Except.bind]

/-
  Overrides succeed with the configuration that has every field
  overridden, if all variables can be read and the backend then
  has a name.
-/
theorem perform_applyOverrides_eq_ok_iff
    (lookup : String → Option String)
    (config config' : RunConfig) :
    (applyOverrides lookup).perform config = (.ok (), config') ↔
      (∀ v, Readable lookup v) ∧
        (∀ v, Overridden lookup v config config') ∧
        ¬ IsBlank config'.backend := by
  rcases perform_applyOverrides lookup config with
    ⟨reached, hPerform, hLayered⟩
  rw [hPerform, Prod.mk.injEq, read_and_validate_eq_ok_iff]
  constructor
  · rintro ⟨⟨hReadable, hNamed⟩, rfl⟩
    exact
      ⟨hReadable, hLayered.overridden_of_readable hReadable, hNamed⟩
  · rintro ⟨hReadable, hOverridden, hNamed⟩
    obtain rfl : reached = config' :=
      eq_of_fields fun v =>
        (hLayered.overridden_of_readable hReadable v).unique
          (hOverridden v)
    exact ⟨⟨hReadable, hNamed⟩, rfl⟩

/- The name of the backend is the one given, or the old one. -/
theorem backend_of_overridden
    {lookup : String → Option String}
    {config config' : RunConfig}
    (hOverridden : Overridden lookup .backend config config') :
    config'.backend =
      (lookup Variable.backend.key).getD config.backend := by
  cases hKey : lookup Variable.backend.key with
  | none =>
      exact (overridden_iff_of_none hKey _ _).mp hOverridden
  | some text =>
      exact ((overridden_iff_of_some hKey _ _).mp hOverridden).symm

/- Applying the same overrides again changes nothing. -/
theorem perform_applyOverrides_again
    (lookup : String → Option String)
    (config : RunConfig) :
    (applyOverrides lookup).perform
        ((applyOverrides lookup).perform config).2 =
      (applyOverrides lookup).perform config := by
  rcases perform_applyOverrides lookup config with
    ⟨first, hFirst, hLayered⟩
  rcases perform_applyOverrides lookup first with
    ⟨second, hSecond, hAgain⟩
  rw [hFirst, hSecond, hLayered.eq_of_again hAgain]

/-
  Overrides layer. They succeed exactly when every variable that
  is present holds a written value and the backend then has a
  name; each field is then what its variable says, or as before.
  On failure this holds of the variables before the first one
  that cannot be read, and the other fields are kept. Two
  successful layers are one with the later variables first, and
  a layer applied twice is a layer applied once.
-/
theorem overrides_layer
    (config : RunConfig) :
    (∀ lookup outcome config',
      (applyOverrides lookup).perform config = (outcome, config') →
        (outcome = .ok () ↔
          (∀ v, Readable lookup v) ∧
            ¬ IsBlank
              ((lookup Variable.backend.key).getD config.backend)) ∧
        (outcome = .ok () →
          ∀ v, Overridden lookup v config config') ∧
        (∀ e, outcome = .error e →
          Layered lookup (beforeUnreadable lookup Variable.all)
            config config')) ∧
    (∀ earlier later middle config',
      (applyOverrides earlier).perform config = (.ok (), middle) →
      (applyOverrides later).perform middle = (.ok (), config') →
        (applyOverrides fun key =>
          (later key).or (earlier key)).perform config =
            (.ok (), config')) ∧
    (∀ lookup,
      (applyOverrides lookup).perform
          ((applyOverrides lookup).perform config).2 =
        (applyOverrides lookup).perform config) := by
  refine ⟨?_, ?_, fun lookup => ?_⟩
  · intro lookup outcome config' hPerform
    rcases perform_applyOverrides lookup config with
      ⟨reached, hReached, hLayered⟩
    obtain ⟨rfl, rfl⟩ :=
      Prod.mk.inj (hReached.symm.trans hPerform)
    rw [read_and_validate_eq_ok_iff]
    refine ⟨and_congr_right fun hReadable => ?_, ?_,
      fun _ _ => hLayered⟩
    · rw [backend_of_overridden
        (hLayered.overridden_of_readable hReadable .backend)]
    · rintro ⟨hReadable, -⟩
      exact hLayered.overridden_of_readable hReadable
  · intro earlier later middle config' hEarlier hLater
    rw [perform_applyOverrides_eq_ok_iff] at hEarlier hLater ⊢
    exact
      ⟨fun v => (hEarlier.1 v).or (hLater.1 v),
        fun v => (hEarlier.2.1 v).trans (hLater.2.1 v),
        hLater.2.2⟩
  · exact perform_applyOverrides_again lookup config

/- A seed given later wins, and a broken one keeps what came first. -/
theorem later_seed_wins :
    (applyOverrides fun key =>
        (List.lookup key [("QIRT_SEED", "+7")]).or
          (List.lookup key
            [("QIRT_LEAK_POLICY", "Fail"), ("QIRT_SEED", "1")])).perform
        standard =
      (.ok (), { standard with leakPolicy := .fail, seed := some 7 }) ∧
    Layered
      (List.lookup · [("QIRT_BACKEND", "stub"), ("QIRT_SEED", "-1")])
      [.trackAllocations, .leakPolicy, .releaseOnTeardown, .backend]
      standard { standard with backend := "stub" } := by
  have hEarlier :
      (applyOverrides (List.lookup ·
          [("QIRT_LEAK_POLICY", "Fail"), ("QIRT_SEED", "1")])).perform
          standard =
        (.ok (),
          { standard with leakPolicy := .fail, seed := some 1 }) := by
    decide +kernel
  have hLater :
      (applyOverrides (List.lookup · [("QIRT_SEED", "+7")])).perform
          { standard with leakPolicy := .fail, seed := some 1 } =
        (.ok (),
          { standard with leakPolicy := .fail, seed := some 7 }) := by
    decide +kernel
  have hBroken :
      (applyOverrides (List.lookup ·
          [("QIRT_BACKEND", "stub"), ("QIRT_SEED", "-1")])).perform
          standard =
        (.error (.configuration "QIRT_SEED: '-1' is not a u64"),
          { standard with backend := "stub" }) := by
    decide +kernel
  have hBefore :
      beforeUnreadable
          (List.lookup ·
            [("QIRT_BACKEND", "stub"), ("QIRT_SEED", "-1")])
          Variable.all =
        [.trackAllocations, .leakPolicy, .releaseOnTeardown,
          .backend] := by
    decide +kernel
  have hKept :=
    ((overrides_layer standard).1 _ _ _ hBroken).2.2 _ rfl
  rw [hBefore] at hKept
  exact
    ⟨(overrides_layer standard).2.1 _ _ _ _ hEarlier hLater, hKept⟩

end RunConfig

end QuantumRuntime
