import Farsounder.Data.Progress
import Farsounder.Subscriber.Joins
import Farsounder.Subscriber.Readiness

namespace Farsounder.Subscriber.System

open Config
open Farsounder.Data

/-! `stop` returns, and what has been received is dispatched, as long as every
thread goes on when it can. -/

variable {κ : Type} {environment : Environment} {system after : System κ}

/-- Callbacks neither start nor stop their Subscriber. -/
def CallsFromOwner (_ : System κ) : Label κ → Prop
  | .call thread _ | .callStep thread _ => thread = .controller
  | .on _ | .loop _ | .worker _ _ | .dispatch _ _ => True

instance (system : System κ) (label : Label κ) :
    Decidable (system.CallsFromOwner label) :=
  match label with
  | .call thread _ | .callStep thread _ =>
      inferInstanceAs (Decidable (thread = .controller))
  | .on _ | .loop _ | .worker _ _ | .dispatch _ _ => .isTrue trivial

/-- Where the owner's calls are, and that nobody else is in one. -/
structure OwnerStops (system : System κ) : Prop where
  quiet : ∀ thread, thread ≠ .controller → system.call? thread = none
  stored : system.controller = some .stopStored ∨
    system.controller = some .stopJoining →
    system.lifecycle.running = false
  joining : system.controller = some .stopJoining →
    system.lifecycle.joinable = true

theorem OwnerStops.step (owner : OwnerStops system) {label : Label κ}
    (change : CallsChange system after label)
    (permitted : system.CallsFromOwner label) :
    OwnerStops after := by
  cases change with
  | keeps lifecycle calls =>
      have same : after.controller = system.controller := calls .controller
      refine ⟨fun thread callback => ?_, ?_, ?_⟩
      · rw [calls]
        exact owner.quiet thread callback
      · rw [same, lifecycle]
        exact owner.stored
      · rw [same, lifecycle]
        exact owner.joining
  | @enters thread operation idle lifecycle calls =>
      obtain rfl : thread = .controller := permitted
      have entered : after.controller = some operation.entry :=
        (calls .controller).trans (if_pos rfl)
      refine ⟨fun other callback => ?_, ?_, ?_⟩
      · rw [calls, if_neg callback]
        exact owner.quiet other callback
      · rw [entered]
        cases operation <;> simp [Operation.entry]
      · rw [entered]
        cases operation <;> simp [Operation.entry]
  | @advances thread event phase outcome found advanced lifecycle calls =>
      obtain rfl : thread = .controller := permitted
      have left : after.controller = outcome.phase? :=
        (calls .controller).trans (if_pos rfl)
      refine ⟨fun other callback => ?_, ?_, ?_⟩
      · rw [calls, if_neg callback]
        exact owner.quiet other callback
      all_goals
        rw [left, lifecycle]
        have stored := owner.stored
        have joining := owner.joining
        change system.controller = some phase at found
        rw [found] at stored joining
        cases phase <;> cases event
          <;> simp only [CallPhase.advance] at advanced <;>
          grind [CallOutcome.lifecycle, CallOutcome.phase?]
  | terminates _ _ ends =>
      rw [ends]
      refine ⟨fun thread callback => ?_, owner.stored, owner.joining⟩
      have quiet := owner.quiet thread callback
      cases thread <;> exact quiet

theorem ownerStops_of_reach
    (reach : Reach (System.next environment) CallsFromOwner {} system) :
    OwnerStops system := by
  induction reach with
  | refl =>
      refine ⟨fun thread callback => ?_, fun stored => ?_, nofun⟩
      · cases thread with
        | controller => contradiction
        | runLoop | poolWorker => rfl
      · rcases stored with stored | stored <;> contradiction
  | step earlier permitted taken induction =>
      exact induction.step (callsChange_of_reach earlier taken) permitted

/-! What each thread can do next. -/

theorem dispatch_enabled {thread : Thread} {task : Task κ}
    (found : system.task? thread = some task) (idle : task.call = none) :
    ∃ event, (system.dispatchNext thread event).isSome := by
  cases phase : task.phase with
  | snapshotting =>
      exact ⟨.snapshot, by
        simp [dispatchNext, found, phase, DispatchPhase.snapshot]⟩
  | inCallback todo =>
      exact ⟨.returns, by
        simp [dispatchNext, found, phase, DispatchPhase.callbackReturns, idle]⟩
  | looping todo =>
      cases todo with
      | cons callback todo =>
          refine ⟨.invoke, ?_⟩
          cases callback
            <;> simp [dispatchNext, found, phase, DispatchPhase.invoke]
      | nil =>
          refine ⟨.finish, ?_⟩
          cases thread with
          | controller => contradiction
          | runLoop =>
              obtain ⟨index, revents, loop⟩ := task?_runLoop found
              simp [dispatchNext, found, phase, clearTask, loop]
          | poolWorker index =>
              obtain ⟨pool, poolEq, workerEq⟩ := task?_poolWorker found
              simp [dispatchNext, found, phase, clearTask, poolEq,
                ThreadPool.finish, workerEq]

theorem notifyOne_enabled {τ : Type} {pool : ThreadPool τ}
    (pending : 0 < pool.notifyOnePending) :
    ∃ target, (pool.notifyOne target).isSome := by
  obtain ⟨fewer, pendingEq⟩ := Nat.exists_eq_succ_of_ne_zero
      (Nat.ne_of_gt pending)
  by_cases waits : pool.workers.any PoolWorker.isWaiting = true
  · obtain ⟨worker, member, waiting⟩ := List.any_eq_true.mp waits
    obtain ⟨index, found⟩ := List.mem_iff_getElem?.mp member
    cases worker with
    | waiting =>
        exact ⟨some index, by simp [ThreadPool.notifyOne, pendingEq, found]⟩
    | acquiring | executing | exited => contradiction
  · exact ⟨none, by simp [ThreadPool.notifyOne, pendingEq, waits]⟩

/-- While `run_loop` is neither dispatching a message nor joining anybody, its
thread can go on. -/
theorem loop_enabled (control : Control environment system)
    (ready : system.Ready) (idle : system.loop.dispatched? = none)
    (present : system.loop ≠ .absent) (unfinished : system.loop ≠ .finished)
    (unjoined : ∀ index, system.loop ≠ .joiningPool index) :
    ∃ event, (system.loopNext environment event).isSome := by
  have fits := control.fits
  cases loop : system.loop with
  | absent => contradiction
  | finished => contradiction
  | joiningPool index => exact absurd loop (unjoined index)
  | dispatching => simp [loop, LoopPhase.dispatched?] at idle
  | connecting rest =>
      refine ⟨.proceed, ?_⟩
      cases rest with
      | nil => simp [loopNext, loop]
      | cons message rest =>
          simp only [loopNext, loop]
          cases openSocket environment.config message <;> rfl
  | creatingPool =>
      refine ⟨.proceed, ?_⟩
      simp only [loopNext, loop]
      cases environment.config.callbackExecutor <;> rfl
  | testing =>
      refine ⟨.proceed, ?_⟩
      simp only [loopNext, loop]
      cases system.lifecycle.running <;> rfl
  | polling =>
      exact ⟨.poll (List.replicate system.sockets.length false), by
        simp [loopNext, loop]⟩
  | scanning index revents =>
      cases flagged : revents[index]? with
      | none => exact ⟨.proceed, by simp [loopNext, loop, flagged]⟩
      | some flag =>
          cases flag with
          | false => exact ⟨.proceed, by simp [loopNext, loop, flagged]⟩
          | true =>
              have inside : index < system.sockets.length :=
                ready.scanned loop ▸ getElem?_inside flagged
              exact ⟨.recv none, by simp [loopNext, loop, flagged, inside]⟩
  | enqueuing index revents task => exact ⟨.proceed, by simp [loopNext, loop]⟩
  | notifying index revents =>
      rw [loop] at fits
      obtain ⟨executor, openPool⟩ := fits
      rw [executor] at openPool
      obtain ⟨working, poolEq, _⟩ := openPool
      have pending : working.notifyOnePending = 1 :=
        (ready.pending poolEq loop).1
      obtain ⟨target, notified⟩ := notifyOne_enabled (pending ▸ Nat.one_pos)
      obtain ⟨next, notified⟩ := Option.isSome_iff_exists.mp notified
      exact ⟨.notify target, by simp [loopNext, loop, poolEq, notified]⟩
  | stoppingPool =>
      refine ⟨.proceed, ?_⟩
      simp only [loopNext, loop]
      cases system.pool <;> rfl
  | notifyingAll =>
      rw [loop] at fits
      obtain ⟨_, closing, poolEq, _⟩ := fits
      have pending : closing.notifyAllPending = true :=
        (ready.pending poolEq loop).2
      exact ⟨.proceed, by
        simp [loopNext, loop, poolEq, ThreadPool.notifyAll, pending]⟩

/-- A worker that does not wait can go on. -/
theorem worker_enabled {pool : ThreadPool (Task κ)}
    (poolEq : system.pool = some pool) {index : Nat}
    {worker : PoolWorker (Task κ)} (found : pool.workers[index]? = some worker)
    (awake : worker ≠ .waiting) (live : worker ≠ .exited)
    (quiet : system.call? (.poolWorker index) = none) :
    (system.workerNext index .acquire).isSome ∨
      ∃ event, (system.dispatchNext (.poolWorker index) event).isSome := by
  cases worker with
  | waiting | exited => contradiction
  | acquiring =>
      refine .inl ?_
      simp only [workerNext, poolEq, Option.bind_eq_bind, Option.bind_some,
        ThreadPool.acquire, found]
      cases pool.stop <;> cases pool.tasks <;> rfl
  | executing task =>
      have running : system.task? (.poolWorker index) = some task := by
        rw [task?, poolEq]
        exact ThreadPool.task?_eq_some.mpr found
      rw [call?_eq (by simp), running] at quiet
      exact .inr (dispatch_enabled running quiet)

/-- The thread queues a message, or tells the pool of one. -/
def handsOver (system : System κ) : Bool :=
  match system.loop with
  | .enqueuing _ _ _ | .notifying _ _ => true
  | _ => false

/-- The steps that bring the messages forward that have been received. -/
def Serves (system : System κ) : Label κ → Prop
  | .worker _ .acquire | .dispatch _ _ => True
  | .loop _ => system.handsOver = true
  | .call _ _ | .callStep _ _ | .on _ | .worker _ .wake => False

/-- Some thread can go on, without being disturbed. -/
def CanProceed (environment : Environment)
    (ordinary : System κ → Label κ → Prop) (system : System κ) : Prop :=
  ∃ label after, system.CallsFromOwner label ∧ ordinary system label ∧
    System.next environment system label = some after

section CanProceed

variable {ordinary : System κ → Label κ → Prop}

theorem canProceed_of_isSome (label : Label κ)
    (permitted : system.CallsFromOwner label) (usual : ordinary system label)
    (taken : (System.next environment system label).isSome) :
    CanProceed environment ordinary system := by
  obtain ⟨after, taken⟩ := Option.isSome_iff_exists.mp taken
  exact ⟨label, after, permitted, usual, taken⟩

theorem canProceed_of_loop (alive : system.terminated = none)
    (usual : ∀ event, ordinary system (.loop event))
    (enabled : ∃ event, (system.loopNext environment event).isSome) :
    CanProceed environment ordinary system := by
  obtain ⟨event, taken⟩ := enabled
  refine canProceed_of_isSome (.loop event) trivial (usual event) ?_
  simpa [System.next, alive] using taken

theorem canProceed_of_dispatch (alive : system.terminated = none)
    (usual : ∀ label, system.Serves label → ordinary system label)
    {thread : Thread}
    (enabled : ∃ event, (system.dispatchNext thread event).isSome) :
    CanProceed environment ordinary system := by
  obtain ⟨event, taken⟩ := enabled
  refine canProceed_of_isSome (.dispatch thread event) trivial
    (usual _ trivial) ?_
  simpa [System.next, alive] using taken

theorem canProceed_of_worker (alive : system.terminated = none)
    (usual : ∀ label, system.Serves label → ordinary system label) {index : Nat}
    (enabled : (system.workerNext index .acquire).isSome ∨
      ∃ event, (system.dispatchNext (.poolWorker index) event).isSome) :
    CanProceed environment ordinary system := by
  rcases enabled with taken | enabled
  · refine canProceed_of_isSome (.worker index .acquire) trivial
      (usual _ trivial) ?_
    simpa [System.next, alive] using taken
  · exact canProceed_of_dispatch alive usual enabled

end CanProceed

/-! `stop` returns. -/

/-- Nothing says how often callbacks are registered or a worker wakes up for no
reason. -/
def Ordinary (_ : System κ) : Label κ → Prop
  | .on _ | .worker _ .wake => False
  | .call _ _ | .callStep _ _ | .loop _ | .worker _ .acquire
  | .dispatch _ _ => True

theorem Serves.ordinary {label : Label κ} (serves : system.Serves label) :
    system.Ordinary label := by
  cases label with
  | worker index event =>
      cases event with
      | acquire => trivial
      | wake => contradiction
  | call | callStep | on => contradiction
  | loop | dispatch => trivial

/-- The owner's `stop` has made `running` false and has not returned yet. -/
def Stopping (system : System κ) : Prop :=
  system.controller = some .stopStored ∨ system.controller = some .stopJoining

/-- The owner's call is over, or the process is. -/
def Stopped (system : System κ) : Prop :=
  system.controller = none ∨ system.terminated ≠ none

/-- Until `run_loop` has returned, its thread or one that it waits for can go
on. -/
theorem finished_or_canProceed
    (reach : Reach (System.next environment) CallsFromOwner {} system)
    (alive : system.terminated = none) (present : system.loop ≠ .absent) :
    system.loop = .finished ∨ CanProceed environment Ordinary system := by
  have control := control_of_reach reach
  have ready := ready_of_reach reach
  have owner := ownerStops_of_reach reach
  cases dispatched : system.loop.dispatched? with
  | some task =>
      have running : system.task? .runLoop = some task := dispatched
      have quiet := owner.quiet .runLoop (by simp)
      rw [call?_eq (by simp), running] at quiet
      exact .inr (canProceed_of_dispatch alive (fun _ => Serves.ordinary)
        (dispatch_enabled running quiet))
  | none =>
      by_cases finished : system.loop = .finished
      · exact .inl finished
      · refine .inr ?_
        by_cases joining : ∃ index, system.loop = .joiningPool index
        · obtain ⟨index, loop⟩ := joining
          have fits := control.fits
          rw [loop] at fits
          obtain ⟨_, closing, poolEq, stopped, _⟩ := fits
          have issued : closing.notifyAllPending = false :=
            (ready.pending poolEq loop).2
          have awake := (notified_of_reach reach poolEq).stopped stopped issued
          cases found : closing.workers[index]? with
          | none =>
              refine canProceed_of_loop alive (fun _ => trivial) ⟨.proceed, ?_⟩
              simp [loopNext, loop, poolEq, found]
          | some worker =>
              by_cases exited : worker = .exited
              · refine canProceed_of_loop alive (fun _ =>
                  trivial) ⟨.proceed, ?_⟩
                simp [loopNext, loop, poolEq, found, exited]
              · have member := List.mem_of_getElem? found
                exact canProceed_of_worker alive (fun _ => Serves.ordinary)
                  (worker_enabled poolEq found (fun waiting =>
                    awake (waiting ▸ member)) exited
                    (owner.quiet _ (by simp)))
        · exact canProceed_of_loop alive (fun _ =>
            trivial) (loop_enabled control ready dispatched
            present finished fun index loop => joining ⟨index, loop⟩)

/-- What is left to be done before `stop` returns. -/
def shutdownWork (system : System κ) : Nat :=
  system.remaining + system.controller.elim 0 CallPhase.work

theorem shutdownWork_lt (same : after.controller = system.controller)
    (lowered : after.remaining < system.remaining) :
    after.shutdownWork < system.shutdownWork := by
  rw [shutdownWork, shutdownWork, same]
  exact Nat.add_lt_add_right lowered _

theorem Stopping.advance {finished : Bool} {lifecycle : Lifecycle}
    {phase next : CallPhase} {event : CallEvent} {outcome : CallOutcome}
    (stopping : phase = .stopStored ∨ phase = .stopJoining)
    (advances : Advances false finished lifecycle phase event outcome)
    (continues : outcome.phase? = some next) :
    phase = .stopStored ∧ outcome = .continues lifecycle .stopJoining ∧
      next = .stopJoining := by
  cases advances with
  | findsJoinable =>
      obtain rfl := Option.some.inj continues
      exact ⟨rfl, rfl, rfl⟩
  | startPasses | startStores | constructs | stopPasses | stopStores =>
      simp at stopping
  | _ => contradiction

theorem stopping_ranked :
    Ranked (System.next environment) CallsFromOwner Ordinary
    (Stopped : System κ → Prop)
    (fun system => Reach (System.next environment) CallsFromOwner {} system ∧
      system.Stopping)
    shutdownWork where
  keeps := by
    intro before after label ⟨reach, stopping⟩ unstopped permitted taken
      unstopped'
    refine ⟨reach.step permitted taken, ?_⟩
    cases callsChange_of_reach reach taken with
    | keeps lifecycle calls =>
        have same : after.controller = before.controller := calls .controller
        rwa [Stopping, same]
    | enters idle =>
        obtain rfl := permitted
        exact absurd (.inl idle) unstopped
    | @advances thread event phase outcome found advanced lifecycle calls =>
        obtain rfl : thread = .controller := permitted
        have left : after.controller = outcome.phase? :=
          (calls .controller).trans (if_pos rfl)
        have found : before.controller = some phase := found
        rw [Stopping, found, Option.some.injEq, Option.some.injEq] at stopping
        cases continues : outcome.phase? with
        | none => exact absurd (.inl (left.trans continues)) unstopped'
        | some next =>
            obtain ⟨_, _, rfl⟩ := Stopping.advance stopping
                (CallPhase.advances advanced) continues
            exact .inr (left.trans continues)
    | terminates _ _ ends =>
        rw [ends] at unstopped'
        exact absurd (.inr (by simp [terminate])) unstopped'
  enabled := by
    intro system ⟨reach, stopping⟩ unstopped
    have alive : system.terminated = none := by
      by_contra ended
      exact unstopped (.inr ended)
    rcases stopping with stored | joining
    · apply canProceed_of_isSome (.callStep .controller .completes) rfl trivial
      simp [System.next, alive, callNext, call?, stored, CallPhase.advance]
    · have joinable := (ownerStops_of_reach reach).joining joining
      have present : system.loop ≠ .absent := by
        intro absent
        have free := (control_of_reach reach).thread.mpr absent
        simp [Lifecycle.joinable, free] at joinable
      rcases finished_or_canProceed reach alive present with finished | proceeds
      · apply canProceed_of_isSome (.callStep .controller .completes)
          rfl trivial
        simp [System.next, alive, callNext, call?, joining, CallPhase.advance,
          joinable, finished, LoopPhase.isFinished]
      · exact proceeds
  descends := by
    intro before after label ⟨reach, stopping⟩ unstopped permitted usual taken
      unstopped'
    have alive : after.terminated = none := by
      by_contra ended
      exact unstopped' (.inr ended)
    have halted : before.loop = .testing → before.lifecycle.running = false :=
      fun _ => (ownerStops_of_reach reach).stored stopping
    have change := callsChange_of_reach reach taken
    cases next_step taken with
    | call user =>
        obtain rfl := permitted
        exact absurd (.inl (Option.isNone_iff_eq_none.mp user)) unstopped
    | @callStep thread event phase outcome found advanced =>
        obtain rfl : thread = .controller := permitted
        have found : before.controller = some phase := found
        rw [Stopping, found, Option.some.injEq, Option.some.injEq] at stopping
        cases outcome with
        | continues lifecycle next =>
            obtain ⟨rfl, same, rfl⟩ := Stopping.advance stopping
                (CallPhase.advances advanced) rfl
            have less : (CallPhase.stopJoining).work <
                (CallPhase.stopStored).work := by decide
            simp only [shutdownWork, found, Option.elim_some]
            exact Nat.add_lt_add_left less _
        | spawned =>
            obtain ⟨rfl, _⟩ := (CallPhase.advances advanced).spawned
            simp at stopping
        | returns | assigned | throws | joined =>
            exact absurd (.inl rfl) unstopped'
        | terminates => simp [settleCall, terminate] at alive
    | on => contradiction
    | loop step =>
        have lowered := step.remaining halted alive
        cases change with
        | keeps _ calls => exact shutdownWork_lt (calls .controller) lowered
    | @worker index event _ step =>
        cases event with
        | wake => contradiction
        | acquire =>
            have acquired : before.workerNext index .acquire = some after := by
              simpa [System.next, next_alive taken] using taken
            have lowered := remaining_acquire acquired
            cases change with
            | keeps _ calls => exact shutdownWork_lt (calls .controller) lowered
    | dispatch step =>
        have lowered := step.remaining alive
        cases change with
        | keeps _ calls => exact shutdownWork_lt (calls .controller) lowered

/-- A `stop` that has told `run_loop` to end returns, if callbacks return and do
not start or stop their Subscriber themselves: no run comes to rest before, and
none goes on for ever, however often callbacks are registered and workers wake
up meanwhile.  Otherwise an exception has ended the process. -/
theorem stop_returns
    (reach : Reach (System.next environment) CallsFromOwner {} system)
    (stopping : system.Stopping) :
    (∀ budget, Inevitable (System.next environment) CallsFromOwner Ordinary
      Stopped budget
      system) ∧
    ∀ count later, Lasts (System.next environment)
      (fun before label => ¬ before.Stopped ∧ before.CallsFromOwner label ∧
        before.Ordinary label) system count later →
        count ≤ system.shutdownWork + 1 := by
  constructor
  · exact fun budget => stopping_ranked.inevitable budget ⟨reach, stopping⟩
  · exact fun count later lasts =>
      stopping_ranked.lasts_le ⟨reach, stopping⟩ lasts

/-- The worker that is being joined is in a callback. -/
theorem stop_returns_destroyingPool : ∃ system : System Nat,
    system.loop = .joiningPool 0 ∧ system.running.map Task.frame = [0] ∧
      ∀ budget,
        Inevitable (System.next (vesselEnvironment .ThreadPool)) CallsFromOwner
        Ordinary Stopped budget system := by
  have executed : (runChecked (System.next (vesselEnvironment .ThreadPool))
      (fun system label => decide (system.CallsFromOwner label)) {}
        destroyingPool).map
        (fun system =>
          (system.controller, system.loop, system.running.map Task.frame)) =
      some (some .stopJoining, .joiningPool 0, [0]) := by
    decide +kernel
  obtain ⟨system, reach, facts⟩ := reach_of_observed executed
  obtain ⟨joining, loop, running⟩ := by simpa only [Prod.mk.injEq] using facts
  exact ⟨system, loop, running, (stop_returns reach (.inr joining)).1⟩

/-! What has been received is dispatched. -/

/-- No message is being dispatched or waits for it, or the process is over. -/
def Idle (system : System κ) : Prop :=
  (system.running = [] ∧ system.waiting = []) ∨ system.terminated ≠ none

theorem exists_executing {pool : ThreadPool (Task κ)}
    (busy : pool.running ≠ []) :
    ∃ (index : Nat) (worker : PoolWorker (Task κ)),
      pool.workers[index]? = some worker ∧
      worker ≠ .waiting ∧ worker ≠ .exited := by
  obtain ⟨task, member⟩ := List.exists_mem_of_ne_nil _ busy
  obtain ⟨worker, worked, running⟩ := List.mem_filterMap.mp member
  obtain ⟨index, found⟩ := List.mem_iff_getElem?.mp worked
  refine ⟨index, worker, found, ?_, ?_⟩
  · intro waiting
    simp [waiting, PoolWorker.task?] at running
  · intro exited
    simp [exited, PoolWorker.task?] at running

theorem idle_ranked : Ranked (System.next environment) CallsFromOwner
    Serves (Idle : System κ →
      Prop) (Reach (System.next environment) CallsFromOwner {}) remaining where
  keeps := fun reach _ permitted taken _ => reach.step permitted taken
  enabled := by
    intro system reach busy
    have control := control_of_reach reach
    have ready := ready_of_reach reach
    have owner := ownerStops_of_reach reach
    have alive : system.terminated = none := by
      by_contra ended
      exact busy (.inr ended)
    change CanProceed environment Serves system
    cases dispatched : system.loop.dispatched? with
    | some task =>
        have running : system.task? .runLoop = some task := dispatched
        have quiet := owner.quiet .runLoop (by simp)
        rw [call?_eq (by simp), running] at quiet
        exact canProceed_of_dispatch alive (fun _ =>
          id) (dispatch_enabled running quiet)
    | none =>
        cases handing : system.handsOver with
        | true =>
            refine canProceed_of_loop alive (fun _ => handing) ?_
            refine loop_enabled control ready dispatched ?_ ?_ ?_ <;>
              intros <;> intro loop <;> simp [handsOver, loop] at handing
        | false =>
            have unqueued : system.loop.unqueued? = none := by
              cases loop : system.loop
                <;> simp_all [handsOver, LoopPhase.unqueued?]
            have settled : system.loop.notices.1 = 0 := by
              cases loop : system.loop
                <;> simp_all [handsOver, LoopPhase.notices]
            cases poolEq : system.pool with
            | none =>
                refine absurd (.inl ⟨?_, ?_⟩) busy
                · simp [System.running, poolEq, dispatched]
                · simp [System.waiting, poolEq, unqueued]
            | some pool =>
                have awake : ∃ (index : Nat) (worker : PoolWorker (Task κ)),
                    pool.workers[index]? = some worker ∧ worker ≠ .waiting ∧
                      worker ≠ .exited := by
                  by_cases executing : pool.running = []
                  · have populated : pool.workers ≠ [] := by
                      have two := control.workers pool poolEq
                      intro empty
                      simp [empty] at two
                    refine ThreadPool.exists_awake
                      (notified_of_reach reach poolEq)
                      (control.drained pool poolEq) populated
                      ((ready.pending poolEq rfl).1.trans settled)
                        fun unqueuedPool => ?_
                    refine busy (.inl ⟨?_, ?_⟩)
                    · simp [System.running, poolEq, dispatched, executing]
                    · simp [System.waiting, poolEq, unqueued, unqueuedPool]
                  · exact exists_executing executing
                obtain ⟨index, worker, found, awake, live⟩ := awake
                exact canProceed_of_worker alive (fun _ => id)
                  (worker_enabled poolEq found awake live
                    (owner.quiet _ (by simp)))
  descends := by
    intro before after label reach busy permitted serves taken busy'
    have alive : after.terminated = none := by
      by_contra ended
      exact busy' (.inr ended)
    cases next_step taken with
    | call | callStep | on => contradiction
    | loop step =>
        refine step.remaining (fun loop => ?_) alive
        simp [Serves, handsOver, loop] at serves
    | @worker index event _ step =>
        cases event with
        | wake => contradiction
        | acquire =>
            have acquired : before.workerNext index .acquire = some after := by
              simpa [System.next, next_alive taken] using taken
            exact remaining_acquire acquired
    | dispatch step => exact step.remaining alive

/-- Messages that have been received do not stay in the queue: whatever else
happens, if only finitely often, they are all dispatched, by steps of the
workers and of the dispatches alone once each has been handed over, or an
exception ends the process. -/
theorem received_messages_are_dispatched
    (reach : Reach (System.next environment) CallsFromOwner {} system) :
    (∀ budget, Inevitable (System.next environment) CallsFromOwner
      Serves Idle budget system) ∧
    ∀ count later, Lasts (System.next environment)
      (fun before label => ¬ before.Idle ∧ before.CallsFromOwner label ∧
        before.Serves label) system count later →
        count ≤ system.remaining + 1 := by
  constructor
  · exact fun budget => idle_ranked.inevitable budget reach
  · exact fun count later lasts => idle_ranked.lasts_le reach lasts

/-- A message is queued while both workers wait, and neither has been told. -/
def unannouncedRun : List (Label Nat) :=
  .on ⟨.VesselInfo, .name "VesselInfo", some 7⟩ :: startRun ++
    [.worker 0 .acquire, .worker 1 .acquire] ++ receiveRun draftFrame ++
    [.loop .proceed]

theorem received_messages_are_dispatched_unannouncedRun : ∃ system : System Nat,
    system.waiting.map Task.frame = [0] ∧ system.invocations = [] ∧
      ∀ budget,
        Inevitable (System.next (vesselEnvironment .ThreadPool)) CallsFromOwner
        Serves Idle budget system := by
  have executed : (runChecked (System.next (vesselEnvironment .ThreadPool))
      (fun system label => decide (system.CallsFromOwner label)) {}
        unannouncedRun).map
        (fun system => (system.waiting.map Task.frame, system.invocations)) =
      some ([0], []) := by
    decide +kernel
  obtain ⟨system, reach, facts⟩ := reach_of_observed executed
  obtain ⟨waiting, invocations⟩ := Prod.mk.inj facts
  exact ⟨system, waiting, invocations,
    (received_messages_are_dispatched reach).1⟩

end Farsounder.Subscriber.System
