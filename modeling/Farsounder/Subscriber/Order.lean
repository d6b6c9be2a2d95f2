import Farsounder.Subscriber.Drain
import Farsounder.Subscriber.Plans

namespace Farsounder.Subscriber.System

open Config
open Farsounder.Data

variable {κ : Type}

/-! The order in which the callbacks see the messages. -/

/-- The frames, by number, that a callback has been invoked on as messages of a
type. -/
def framesSeen [DecidableEq κ] (system : System κ) (callback : Callback κ)
    (type : PubSubMessage) : List Nat :=
  (system.invocations.filter fun entry =>
    entry.2.callback = callback ∧ entry.2.message.type = type).map Prod.fst

/-- Worker 1 overtakes worker 0 between its `pop` and its first invocation. -/
def overtakingRun : List (Label Nat) :=
  .on ⟨.VesselInfo, .name "VesselInfo", some 7⟩ :: startRun ++
    receiveRun draftFrame ++ [.loop .proceed, .loop (.notify none),
      .loop .proceed] ++
    receiveRun [] ++ [.loop .proceed, .loop (.notify none)] ++
    [.worker 0 .acquire, .worker 1 .acquire,
      .dispatch (.poolWorker 1) .snapshot, .dispatch (.poolWorker 1) .invoke,
      .dispatch (.poolWorker 0) .snapshot, .dispatch (.poolWorker 0) .invoke]

theorem overtakingRun_reaches : ∃ system : System Nat,
    Reach (System.next (vesselEnvironment .ThreadPool)) OwnerCalls {} system ∧
      system.invocations = [(1, ⟨some 7, .vesselInfo {}⟩),
        (0, ⟨some 7, .vesselInfo { draft := 0x3f800000 }⟩)] := by
  have executed : (runChecked (System.next (vesselEnvironment .ThreadPool))
      (fun system label => decide (system.OwnerCalls label)) {}
        overtakingRun).map
        (·.invocations) = some [(1, ⟨some 7, .vesselInfo {}⟩),
          (0, ⟨some 7, .vesselInfo { draft := 0x3f800000 }⟩)] := by
    decide +kernel
  exact reach_of_observed executed

/-- With the pool a callback can be left with the older of two messages. -/
theorem pool_can_reorder :
    ¬ ∀ (environment : Environment) (system : System Nat),
      environment.config.callbackExecutor = .ThreadPool →
      Reach (System.next environment) OwnerCalls {} system →
      ∀ callback type, (system.framesSeen callback type).Pairwise (· ≤ ·) := by
  intro ordered
  obtain ⟨system, reach, invocations⟩ := overtakingRun_reaches
  have seen := ordered _ system rfl reach (some 7) .VesselInfo
  rw [framesSeen, invocations] at seen
  revert seen
  decide

variable {environment : Environment} {system : System κ}
  {allowed : System κ → Label κ → Prop}

theorem inline_ascending
    (inline : environment.config.callbackExecutor = .Inline)
    (reach : Reach (System.next environment) allowed {} system) :
    system.invocations.Pairwise fun first second => first.1 ≤ second.1 := by
  obtain ⟨ledger, run, mirrors⟩ := (mirrored_of_reach reach).ledger
  have bounded := Ledger.reach_boundedOvertaking run
  rw [Environment.overtaking, inline] at bounded
  have ordered := bounded.ordered
  rwa [mirrors.log] at ordered

/-- In every run: inline, the callbacks are invoked in the order of the frames.
With the pool the tasks are taken in that order, and after an invocation for one
frame at most one older frame can still cause invocations. -/
theorem invocations_follow_frames
    (reach : Reach (System.next environment) allowed {} system) :
    (environment.config.callbackExecutor = .Inline →
      system.invocations.Pairwise fun first second => first.1 ≤ second.1) ∧
    (∀ earlier entry later, system.invocations = earlier ++ entry :: later →
      ((later.map Prod.fst ++
        (system.running ++ system.waiting).map Task.frame).filter
        (· < entry.1)).toFinset.card ≤ environment.overtaking) ∧
    (system.waiting.Pairwise fun first second => first.frame < second.frame) ∧
    (∀ task ∈ system.running, ∀ other ∈ system.waiting,
      task.frame < other.frame) := by
  obtain ⟨ordered, _, ledger, run, mirrors⟩ := mirrored_of_reach reach
  have bounded := Ledger.reach_boundedOvertaking run
  refine ⟨fun inline => inline_ascending inline reach, ?_, ordered.ascending,
    ordered.ahead⟩
  intro earlier entry later split
  have late := bounded earlier entry later (mirrors.log.trans split)
  rw [mirrors.pending] at late
  simpa [Ledger.lateBefore, Flight.pending, flight, Function.comp_def]
    using late

theorem invocations_follow_frames_overtakingRun : ∃ system : System Nat,
    system.invocations.map Prod.fst = [1, 0] ∧
      (([0] ++ (system.running ++ system.waiting).map Task.frame).filter
        (· < 1)).toFinset.card ≤ 1 := by
  obtain ⟨system, reach, invocations⟩ := overtakingRun_reaches
  obtain ⟨_, bounded, _⟩ := invocations_follow_frames reach
  exact ⟨system, by simp [invocations], bounded [] _ _ invocations⟩

end Farsounder.Subscriber.System
