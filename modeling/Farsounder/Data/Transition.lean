import Mathlib.Logic.Relation

namespace Farsounder.Data

/-! Partial labelled transition functions.  A label that is not enabled in a
state has no successor there. -/

universe u v w

abbrev StepFn (σ : Type u) (α : Type v) := σ → α → Option σ

/-- `Reach next allowed start state`: some run leads from `start` to `state`,
each of its labels being allowed in the state it leaves. -/
inductive Reach {σ : Type u} {α : Type v} (next : StepFn σ α)
    (allowed : σ → α → Prop) (start : σ) : σ → Prop
  | refl : Reach next allowed start start
  | step {before after : σ} {label : α} :
      Reach next allowed start before → allowed before label →
      next before label = some after → Reach next allowed start after

/-- Every label is allowed everywhere. -/
def Unrestricted (σ : Type u) (α : Type v) : σ → α → Prop :=
  fun _ _ => True

namespace Reach

variable {σ : Type u} {α : Type v} {next : StepFn σ α}
  {allowed : σ → α → Prop} {start middle state : σ}

theorem invariant {Inv : σ → Prop} (initial : Inv start)
    (preserved : ∀ {before after label}, Inv before → allowed before label →
      next before label = some after → Inv after)
    (reach : Reach next allowed start state) : Inv state := by
  induction reach with
  | refl => exact initial
  | step _ permitted taken induction =>
      exact preserved induction permitted taken

/-- The rule of `invariant` for an invariant whose preservation needs another
one that is already known to hold along the run. -/
theorem invariant_of {Known Inv : σ → Prop} (initial : Inv start)
    (known : ∀ {reached}, Reach next allowed start reached → Known reached)
    (preserved : ∀ {before after label}, Known before → Inv before →
      allowed before label → next before label = some after → Inv after)
    (reach : Reach next allowed start state) : Inv state := by
  induction reach with
  | refl => exact initial
  | step prefixReach permitted taken induction =>
      exact preserved (known prefixReach) induction permitted taken

theorem mono {weaker : σ → α → Prop}
    (weaken : ∀ before label, allowed before label → weaker before label)
    (reach : Reach next allowed start state) :
    Reach next weaker start state := by
  induction reach with
  | refl => exact .refl
  | step _ permitted taken induction =>
      exact .step induction (weaken _ _ permitted) taken

theorem trans (first : Reach next allowed start middle)
    (second : Reach next allowed middle state) :
    Reach next allowed start state := by
  induction second with
  | refl => exact first
  | step _ permitted taken induction => exact .step induction permitted taken

theorem single {label : α} (permitted : allowed start label)
    (taken : next start label = some state) :
    Reach next allowed start state :=
  .step .refl permitted taken

/-- A run whose every step is matched by finitely many steps of a relation
between abstractions is matched as a whole. -/
theorem simulates {τ : Type w} {Known : σ → Prop} {abstraction : σ → τ}
    {relation : τ → τ → Prop}
    (known : ∀ {reached}, Reach next allowed start reached → Known reached)
    (simulated : ∀ {before after label}, Known before →
      allowed before label → next before label = some after →
      Relation.ReflTransGen relation (abstraction before) (abstraction after))
    (reach : Reach next allowed start state) :
    Relation.ReflTransGen relation (abstraction start) (abstraction state) := by
  induction reach with
  | refl => exact .refl
  | step prefixReach permitted taken induction =>
      exact induction.trans (simulated (known prefixReach) permitted taken)

end Reach

/-! Executable runs. -/

def runLabels {σ : Type u} {α : Type v} (next : StepFn σ α) :
    σ → List α → Option σ
  | state, [] => some state
  | state, label :: rest => (next state label).bind (runLabels next · rest)

section Runs

variable {σ : Type u} {α : Type v} {next : StepFn σ α}

@[simp] theorem runLabels_nil (state : σ) :
    runLabels next state [] = some state := rfl

@[simp] theorem runLabels_cons (state : σ) (label : α) (rest : List α) :
    runLabels next state (label :: rest) =
      (next state label).bind (runLabels next · rest) := rfl

theorem runLabels_append (state : σ) (first second : List α) :
    runLabels next state (first ++ second) =
      (runLabels next state first).bind (runLabels next · second) := by
  induction first generalizing state with
  | nil => rfl
  | cons label rest induction =>
      cases taken : next state label with
      | none => simp [taken]
      | some after => simp [taken, induction]

/-- A run all of whose labels pass an executable check in the state they
leave. -/
def runChecked (next : StepFn σ α) (check : σ → α → Bool) :
    σ → List α → Option σ :=
  runLabels fun state label =>
    if check state label then next state label else none

theorem reach_of_runChecked {check : σ → α → Bool} {allowed : σ → α → Prop}
    (sound : ∀ state label, check state label = true → allowed state label) :
    ∀ {labels : List α} {start state : σ},
      runChecked next check start labels = some state →
      Reach next allowed start state
  | [], start, state, executed => by
      cases executed
      exact .refl
  | label :: rest, start, state, executed => by
      simp only [runChecked, runLabels_cons, Option.bind_eq_some_iff]
        at executed
      obtain ⟨after, taken, remaining⟩ := executed
      split at taken
      · rename_i checked
        exact (Reach.single (sound _ _ checked) taken).trans
          (reach_of_runChecked sound remaining)
      · contradiction

/-- What an executed run shows of its last state holds of a reachable one. -/
theorem reach_of_observed {β : Type w} {observe : σ → β} {seen : β}
    {allowed : σ → α → Prop} [∀ state label, Decidable (allowed state label)]
    {labels : List α} {start : σ}
    (executed : (runChecked next (fun state label =>
      decide (allowed state label))
      start labels).map observe = some seen) :
    ∃ state, Reach next allowed start state ∧ observe state = seen := by
  obtain ⟨state, run, observed⟩ := Option.map_eq_some_iff.mp executed
  exact ⟨state, reach_of_runChecked (fun _ _ => of_decide_eq_true) run,
    observed⟩

theorem reach_of_runLabels {labels : List α} {start state : σ}
    (executed : runLabels next start labels = some state) :
    Reach next (Unrestricted σ α) start state := by
  induction labels generalizing start with
  | nil =>
      cases executed
      exact .refl
  | cons label rest induction =>
      simp only [runLabels_cons, Option.bind_eq_some_iff] at executed
      obtain ⟨after, taken, remaining⟩ := executed
      exact (Reach.single trivial taken).trans (induction remaining)

end Runs

end Farsounder.Data
