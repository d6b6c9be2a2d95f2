import Mathlib.Order.WellFounded
import Farsounder.Subscriber.RunningFlag

namespace Farsounder.Subscriber.System

open Config
open Farsounder.Data

variable {κ : Type}

/-! Threads that wait to join one another. -/

/-- The two join sites: `worker.join()` in `stop`, and the loop over the workers
in `~ThreadPool`. -/
inductive WaitsFor (system : System κ) : Thread → Thread → Prop
  | stop {thread} (joining : system.call? thread = some .stopJoining) :
      WaitsFor system thread .runLoop
  | pool {index} (joining : system.loop = .joiningPool index) :
      WaitsFor system .runLoop (.poolWorker index)

def JoinCycle (system : System κ) : Prop :=
  ∃ thread, Relation.TransGen (WaitsFor system) thread thread

/-- A relation that climbs a rank has no cycle. -/
theorem no_cycle_of_rank {α : Type} {relation : α → α → Prop} (rank : α → Nat)
    (climbs : ∀ first second, relation first second → rank first < rank second)
    (element : α) : ¬ Relation.TransGen relation element element := by
  have wellFounded : WellFounded relation :=
    Subrelation.wf (fun {first second} => climbs first second) (measure rank).wf
  exact wellFounded.transGen.irrefl.irrefl element

/-- A cycle is a worker that joins itself, or a worker of the pool that waits
for the thread that is joining it. -/
theorem joinCycle_iff {system : System κ} : system.JoinCycle ↔
    system.call? .runLoop = some .stopJoining ∨
      ∃ index, system.loop = .joiningPool index ∧
        system.call? (.poolWorker index) = some .stopJoining := by
  constructor
  · rintro ⟨thread, cycle⟩
    by_contra none
    obtain ⟨notSelf, notBack⟩ := not_or.mp none
    let rank : Thread → Nat
      | .runLoop => 1
      | .poolWorker index =>
          if system.call? (.poolWorker index) = some .stopJoining then 0 else 2
      | .controller => 0
    refine no_cycle_of_rank rank ?_ thread cycle
    intro first second waits
    cases waits with
    | @stop first joining =>
        cases first with
        | controller => simp [rank]
        | runLoop => exact absurd joining notSelf
        | poolWorker index => simp [rank, joining]
    | @pool index joining =>
        have free : system.call? (.poolWorker index) ≠ some .stopJoining :=
          fun waiting => notBack ⟨index, joining, waiting⟩
        simp [rank, free]
  · rintro (joining | ⟨index, joining, waiting⟩)
    · exact ⟨.runLoop, .single (.stop joining)⟩
    · exact ⟨.runLoop, .tail (.single (.pool joining)) (.stop waiting)⟩

/-! Runs in which no callback's `stop` finds the worker running. -/

def CallbacksKeepRunning (system : System κ) : Label κ → Prop
  | .callStep thread .completes =>
      system.call? thread = some .stopEntered →
        system.lifecycle.running = true →
        thread = .controller
  | _ => True

instance (system : System κ) (label : Label κ) :
    Decidable (system.CallbacksKeepRunning label) :=
  match label with
  | .callStep _ .completes => inferInstanceAs (Decidable (_ → _))
  | .callStep _ .throws | .call _ _ | .on _ | .loop _ | .worker _ _
  | .dispatch _ _ =>
      .isTrue trivial

variable {environment : Environment} {system after : System κ}

theorem stops_of_reach
    (reach : Reach (System.next environment) CallbacksKeepRunning {} system) :
    ∀ thread phase, system.call? thread = some phase → phase.ofStop = true →
      phase.acts = true → thread = .controller := by
  induction reach with
  | refl =>
      intro thread phase found
      cases thread <;> contradiction
  | @step before after label earlier permitted taken induction =>
      intro other current found ofStop acts
      cases callsChange_of_reach earlier taken with
      | keeps lifecycle calls =>
          exact induction other current (calls other ▸ found) ofStop acts
      | @enters thread operation idle lifecycle calls =>
          rw [calls] at found
          split at found
          · obtain rfl := Option.some.inj found
            cases operation <;> contradiction
          · exact induction other current found ofStop acts
      | @advances thread event phase outcome called advanced lifecycle calls =>
          rw [calls] at found
          split at found
          · rename_i same
            subst same
            have phaseStops : phase.ofStop = true :=
              ((CallPhase.advances advanced).ofStop found).symm.trans ofStop
            cases phaseActs : phase.acts with
            | true => exact induction other phase called phaseStops phaseActs
            | false =>
                obtain ⟨rfl, rfl, _⟩ | ⟨rfl, rfl, running⟩ :=
                  (CallPhase.advances advanced).begins found phaseActs
                · contradiction
                · exact permitted called running
          · exact induction other current found ofStop acts
      | terminates called advanced ends =>
          rw [ends] at found
          refine induction other current ?_ ofStop acts
          cases other <;> exact found

/-- No join deadlock, unless a callback's `stop` finds the worker running. -/
theorem no_join_cycle
    (reach : Reach (System.next environment) CallbacksKeepRunning {} system) :
    ¬ system.JoinCycle := by
  rw [joinCycle_iff]
  rintro (joining | ⟨index, _, joining⟩)
  · exact absurd (stops_of_reach reach _ _ joining rfl rfl) (by simp)
  · exact absurd (stops_of_reach reach _ _ joining rfl rfl) (by simp)

/-- The owner stops the subscriber while a callback runs, and `run_loop` gets as
far as joining the worker of the pool. -/
def destroyingPool : List (Label Nat) :=
  stoppingRun ++ List.replicate 4 (.loop .proceed)

theorem no_join_cycle_destroyingPool : ∃ system : System Nat,
    system.controller = some .stopJoining ∧ system.loop = .joiningPool 0 ∧
      ¬ system.JoinCycle := by
  have executed : (runChecked (System.next (vesselEnvironment .ThreadPool))
      (fun system label => decide (system.CallbacksKeepRunning label)) {}
      destroyingPool).map (fun system => (system.controller, system.loop)) =
      some (some .stopJoining, .joiningPool 0) := by
    decide +kernel
  obtain ⟨system, reach, facts⟩ := reach_of_observed executed
  obtain ⟨controller, loop⟩ := Prod.mk.inj facts
  exact ⟨system, controller, loop, no_join_cycle reach⟩

/-- A callback in the pool stops the subscriber, and `run_loop` destroys the
pool. -/
def poolStop : List (Label Nat) :=
  .on ⟨.VesselInfo, .name "VesselInfo", some 7⟩ :: startRun ++
    receiveRun draftFrame ++
    [.loop .proceed, .loop (.notify none), .worker 0 .acquire,
      .dispatch (.poolWorker 0) .snapshot, .dispatch (.poolWorker 0) .invoke] ++
    callRun (.poolWorker 0) .stop ++ List.replicate 4 (.loop .proceed)

/-- A callback on the worker itself stops the subscriber. -/
def workerStop : List (Label Nat) :=
  .on ⟨.VesselInfo, .name "VesselInfo", some 7⟩ :: startRun ++
    receiveRun draftFrame ++
    [.dispatch .runLoop .snapshot, .dispatch .runLoop .invoke] ++
    callRun .runLoop .stop

/-- With either executor a `stop` from a callback waits for itself. -/
theorem callback_stop_joins_itself : ∃ pooled inlined : System Nat,
    Reach (System.next (vesselEnvironment .ThreadPool)) (Unrestricted _ _)
      {} pooled ∧
    pooled.JoinCycle ∧
    Reach (System.next (vesselEnvironment .Inline)) (Unrestricted _ _)
      {} inlined ∧
    inlined.JoinCycle := by
  have pooledRun : (runLabels (System.next (vesselEnvironment .ThreadPool)) {}
      poolStop).map (fun system =>
        (system.loop, system.call? (.poolWorker 0))) =
      some (.joiningPool 0, some .stopJoining) := by
    decide +kernel
  have inlinedRun : (runLabels (System.next (vesselEnvironment .Inline)) {}
      workerStop).map (·.call? .runLoop) = some (some .stopJoining) := by
    decide +kernel
  obtain ⟨pooled, pooledReach, pooledFacts⟩ :=
    Option.map_eq_some_iff.mp pooledRun
  obtain ⟨inlined, inlinedReach, joining⟩ :=
    Option.map_eq_some_iff.mp inlinedRun
  obtain ⟨loop, waiting⟩ := Prod.mk.inj pooledFacts
  exact ⟨pooled, inlined, reach_of_runLabels pooledReach,
    joinCycle_iff.mpr (.inr ⟨0, loop, waiting⟩),
    reach_of_runLabels inlinedReach, joinCycle_iff.mpr (.inl joining)⟩

end Farsounder.Subscriber.System
