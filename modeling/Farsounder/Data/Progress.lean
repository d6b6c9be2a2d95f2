import Farsounder.Data.Transition

namespace Farsounder.Data

/-! What is bound to happen.  Steps that are not ordinary are disturbances:
nothing is said about when they are taken, except that there are finitely
many. -/

universe u v w

variable {σ : Type u} {α : Type v}

/-- Every run with at most `budget` disturbances that does not end while another
step can be taken reaches the goal. -/
inductive Inevitable (next : StepFn σ α) (allowed ordinary : σ → α → Prop)
    (goal : σ → Prop) : Nat → σ → Prop
  | reached {budget state} (reached : goal state) :
      Inevitable next allowed ordinary goal budget state
  | proceeds {budget state}
      (enabled : ∃ label after, allowed state label ∧ ordinary state label ∧
        next state label = some after)
      (undisturbed : ∀ label after, allowed state label → ordinary state label →
        next state label = some after →
          Inevitable next allowed ordinary goal budget after)
            (disturbed : ∀ fewer, budget = fewer + 1 → ∀ label after,
              allowed state label →
        ¬ ordinary state label → next state label = some after →
        Inevitable next allowed ordinary goal fewer after) :
      Inevitable next allowed ordinary goal budget state

/-- `Lasts next allowed start count state`: a run of `count` steps leads from
`start` to `state`. -/
inductive Lasts (next : StepFn σ α) (allowed : σ → α → Prop) (start : σ) :
    Nat → σ → Prop
  | refl : Lasts next allowed start 0 start
  | step {count before after label} : Lasts next allowed start count before →
      allowed before label → next before label = some after →
      Lasts next allowed start (count + 1) after

/-- An invariant under which some step other than a disturbance can be taken as
long as the goal is not reached, and each such step lowers the rank. -/
structure Ranked (next : StepFn σ α) (allowed ordinary : σ → α → Prop)
    (goal Inv : σ → Prop) (rank : σ → Nat) : Prop where
  keeps : ∀ {before after label}, Inv before → ¬ goal before →
    allowed before label →
    next before label = some after → ¬ goal after → Inv after
  enabled : ∀ {state}, Inv state → ¬ goal state → ∃ label after,
    allowed state label ∧ ordinary state label ∧ next state label = some after
  descends : ∀ {before after label}, Inv before → ¬ goal before →
    allowed before label →
    ordinary before label → next before label = some after → ¬ goal after →
    rank after < rank before

namespace Ranked

variable {next : StepFn σ α} {allowed ordinary : σ → α → Prop}
  {goal Inv : σ → Prop} {rank : σ → Nat}

theorem inevitable (ranked : Ranked next allowed ordinary goal Inv rank)
    (budget : Nat) {state : σ} (holds : Inv state) :
    Inevitable next allowed ordinary goal budget state := by
  -- A disturbance may raise the rank, but it lowers the budget.
  induction budget using Nat.strongRecOn generalizing state with
  | ind budget spends =>
  induction bounded : rank state using Nat.strongRecOn generalizing state with
  | ind bound descends =>
  subst bounded
  by_cases reached : goal state
  · exact .reached reached
  · apply Inevitable.proceeds (ranked.enabled holds reached)
    · intro label after permitted usual taken
      by_cases reached' : goal after
      · exact .reached reached'
      · exact descends _
          (ranked.descends holds reached permitted usual taken reached')
          (ranked.keeps holds reached permitted taken reached') rfl
    · intro fewer spent label after permitted _ taken
      by_cases reached' : goal after
      · exact .reached reached'
      · exact spends fewer (by omega)
          (ranked.keeps holds reached permitted taken reached')

/-- Without disturbances the goal is at most one step further than the rank. -/
theorem lasts_le (ranked : Ranked next allowed ordinary goal Inv rank)
    {start state : σ} (holds : Inv start) {count : Nat}
    (lasts : Lasts next (fun before label => ¬ goal before ∧
      allowed before label ∧
      ordinary before label) start count state) : count ≤ rank start + 1 := by
  have descended : count ≤ rank start + 1 ∧
      (¬ goal state → Inv state ∧ count + rank state ≤ rank start) := by
    induction lasts with
    | refl => exact ⟨Nat.zero_le _, fun _ => ⟨holds, by omega⟩⟩
    | step _ permitted taken induction =>
        obtain ⟨unreached, permitted, usual⟩ := permitted
        obtain ⟨holds, descended⟩ := induction.2 unreached
        refine ⟨by omega, fun unreached' => ⟨?_, ?_⟩⟩
        · exact ranked.keeps holds unreached permitted taken unreached'
        · have descends :=
            ranked.descends holds unreached permitted usual taken unreached'
          omega
  exact descended.1

end Ranked

/-! Runs together with what is seen of them. -/

inductive Observed {β : Type w} (next : StepFn σ α) (allowed : σ → α → Prop)
    (observe : σ → α → Option β) (start : σ) : List β → σ → Prop
  | refl : Observed next allowed observe start [] start
  | step {trace before after label} :
  Observed next allowed observe start trace before →
      allowed before label → next before label = some after →
      Observed next allowed observe start (trace ++
        (observe before label).toList) after

namespace Observed

variable {β : Type w} {next : StepFn σ α} {allowed : σ → α → Prop}
  {observe : σ → α → Option β} {start state : σ} {trace : List β}

theorem reach (observed : Observed next allowed observe start trace state) :
    Reach next allowed start state := by
  induction observed with
  | refl => exact .refl
  | step _ permitted taken induction => exact .step induction permitted taken

/-- An executed run and what is seen of it. -/
def run (next : StepFn σ α) (observe : σ → α → Option β) :
    σ → List α → Option (List β × σ)
  | state, [] => some ([], state)
  | state, label :: rest =>
      (next state label).bind fun after =>
        (run next observe after rest).map fun (trace, last) =>
        ((observe state label).toList ++ trace, last)

theorem extend {labels : List α} {later : List β} {last : σ}
    (observed : Observed next (Unrestricted σ α) observe start trace state)
    (executed : run next observe state labels = some (later, last)) :
    Observed next (Unrestricted σ α) observe start (trace ++ later) last := by
  induction labels generalizing trace state later with
  | nil =>
      obtain ⟨rfl, rfl⟩ := Prod.mk.inj (Option.some.inj executed)
      rw [List.append_nil]
      exact observed
  | cons label rest induction =>
      simp only [run, Option.bind_eq_some_iff, Option.map_eq_some_iff]
        at executed
      obtain ⟨after, taken, ⟨seen, reached⟩, remaining, same⟩ := executed
      obtain ⟨rfl, rfl⟩ := Prod.mk.inj same
      rw [← List.append_assoc]
      exact induction (observed.step trivial taken) remaining

theorem of_run {labels : List α}
    (executed : run next observe start labels = some (trace, state)) :
    Observed next (Unrestricted σ α) observe start trace state :=
  extend .refl executed

end Observed

end Farsounder.Data
