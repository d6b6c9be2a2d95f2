import Farsounder.Subscriber.PoolHistory
import Farsounder.Subscriber.Work

namespace Farsounder.Subscriber

open Config
open Farsounder.Data

/-! In every state of a run each thread can take its next step, or waits for
another one that can. -/

variable {κ : Type}

namespace LoopPhase

/-- What the poll has returned, while the loop over it goes on. -/
def revents? : LoopPhase κ → Option (List Bool)
  | scanning _ revents | enqueuing _ revents _ | notifying _ revents
  | dispatching _ revents _ => some revents
  | absent | connecting _ | creatingPool | testing | polling | stoppingPool
  | notifyingAll
  | joiningPool _ | finished => none

/-- The calls of `notify_one` and `notify_all` that are the thread's next
step. -/
def notices : LoopPhase κ → Nat × Bool
  | notifying _ _ => (1, false)
  | notifyingAll => (0, true)
  | absent | connecting _ | creatingPool | testing | polling | scanning _ _
  | enqueuing _ _ _
  | dispatching _ _ _ | stoppingPool | joiningPool _ | finished => (0, false)

@[simp] theorem setDispatched_revents? (task : Task κ) (phase : LoopPhase κ) :
    (phase.setDispatched task).revents? = phase.revents? := by
  cases phase <;> rfl

@[simp] theorem setDispatched_notices (task : Task κ) (phase : LoopPhase κ) :
    (phase.setDispatched task).notices = phase.notices := by
  cases phase <;> rfl

end LoopPhase

def ThreadPool.notices {τ : Type} (pool : ThreadPool τ) : Nat × Bool :=
  (pool.notifyOnePending, pool.notifyAllPending)

namespace System

variable {environment : Environment} {system after : System κ}

/-- What the next step of `run_loop` relies on. -/
structure Ready (system : System κ) : Prop where
  revents : ∀ revents, system.loop.revents? = some revents →
    revents.length = system.sockets.length
  notices : ∀ pool, system.pool = some pool → pool.notices = system.loop.notices

theorem Ready.pending (ready : system.Ready) {pool : ThreadPool (Task κ)}
    (poolEq : system.pool = some pool) {phase : LoopPhase κ}
    (loop : system.loop = phase) :
    pool.notifyOnePending = phase.notices.1 ∧
      pool.notifyAllPending = phase.notices.2 :=
  Prod.mk.inj
    ((ready.notices pool poolEq).trans (congrArg LoopPhase.notices loop))

theorem Ready.evolve (ready : system.Ready)
    (revents : after.loop.revents? = system.loop.revents?)
    (sockets : after.sockets = system.sockets)
    (notices : after.loop.notices = system.loop.notices)
    (same : ∀ next, after.pool = some next →
      ∃ current, system.pool = some current ∧ next.notices = current.notices) :
    after.Ready where
  revents := by
    rw [revents, sockets]
    exact ready.revents
  notices next found := by
    obtain ⟨current, currentEq, kept⟩ := same next found
    rw [kept, notices]
    exact ready.notices current currentEq

theorem Ready.setTask (ready : system.Ready) (task : Task κ) (thread : Thread) :
    (system.setTask task thread).Ready := by
  cases thread with
  | controller => exact ready
  | runLoop =>
      exact ready.evolve (LoopPhase.setDispatched_revents? _ _) rfl
        (LoopPhase.setDispatched_notices _ _) fun next found =>
          ⟨next, found, rfl⟩
  | poolWorker index =>
      refine ready.evolve rfl rfl rfl fun next found => ?_
      obtain ⟨current, currentEq, rfl⟩ := Option.map_eq_some_iff.mp found
      exact ⟨current, currentEq, rfl⟩

theorem Ready.setCall (ready : system.Ready) (call : Option CallPhase)
    (thread : Thread) :
    (system.setCall call thread).Ready := by
  cases thread with
  | controller => exact ⟨ready.revents, ready.notices⟩
  | runLoop | poolWorker =>
      rw [setCall_eq _ _ _ (by simp)]
      split
      · exact ready.setTask _ _
      · exact ready

theorem Ready.unscanned {loop : LoopPhase κ} {count : Nat}
    (none : loop.revents? = none) :
    ∀ revents, loop.revents? = some revents → revents.length = count := by
  intro revents found
  rw [none] at found
  contradiction

theorem Ready.unpooled {loop : LoopPhase κ}
    {pool : Option (ThreadPool (Task κ))} (none : pool = none) :
    ∀ current, pool = some current → current.notices = loop.notices := by
  intro current found
  rw [none] at found
  contradiction

theorem Ready.moved (ready : system.Ready) {loop : LoopPhase κ}
    (revents : ∀ revents, loop.revents? = some revents →
      revents.length = system.sockets.length)
    (notices : loop.notices = system.loop.notices) :
    System.Ready { system with loop } :=
  ⟨revents, fun pool found => (ready.notices pool found).trans notices.symm⟩

theorem Ready.scanned {index : Nat} {revents : List Bool} (ready : system.Ready)
    (loop : system.loop = .scanning index revents) :
    revents.length = system.sockets.length :=
  ready.revents revents (by rw [loop]; rfl)

theorem Ready.receive (ready : system.Ready) {index : Nat} {revents : List Bool}
    (loop : system.loop = .scanning index revents)
    (type : EnumValue PubSubMessage) (bytes : Wire.Bytes) :
    (system.receive environment index revents type bytes).Ready := by
  have notices : system.loop.notices = (0, false) := by
    rw [loop]
    rfl
  unfold System.receive
  refine ⟨?_, fun pool found =>
    (ready.notices pool found).trans (notices.trans ?_)⟩
  · simp only
    split
    · exact fun _ same => Option.some.inj same ▸ ready.scanned loop
    · split <;> exact fun _ same => Option.some.inj same ▸ ready.scanned loop
  · simp only
    split
    · rfl
    · split <;> rfl

theorem Ready.moves (ready : system.Ready) {loop : LoopPhase κ}
    (moves : system.LoopMoves loop) : System.Ready { system with loop } := by
  cases moves with
  | connected loop | enter loop | leave loop | scanned loop | noPool loop
  | joinedWorker loop =>
      exact ready.moved (Ready.unscanned rfl) (by rw [loop]; rfl)
  | polled loop length =>
      refine ready.moved (fun _ same => ?_) (by rw [loop]; rfl)
      exact Option.some.inj same ▸ length
  | skip loop =>
      refine ready.moved (fun _ same => ?_) (by rw [loop]; rfl)
      exact Option.some.inj same ▸ ready.scanned loop

theorem Ready.loopStep (ready : system.Ready)
    (step : LoopStep environment system after) :
    after.Ready := by
  have notices := ready.notices
  cases step with
  | moves moves => exact ready.moves moves
  | connects loop =>
      rw [loop] at notices
      exact ⟨Ready.unscanned rfl, notices⟩
  | createsPool =>
      refine ⟨Ready.unscanned rfl, fun pool found => ?_⟩
      rw [← Option.some.inj found]
      rfl
  | createsNoPool | destroysPool =>
      exact ⟨Ready.unscanned rfl, Ready.unpooled rfl⟩
  | receives loop => exact ready.receive loop _ _
  | @enqueues index revents task loop =>
      rw [loop] at notices
      refine ⟨fun _ same => ?_, fun pool found => ?_⟩
      · exact ready.revents _ (by rw [loop]; exact same)
      · obtain ⟨current, currentEq, rfl⟩ := Option.map_eq_some_iff.mp found
        have before := notices current currentEq
        simp only [ThreadPool.notices, LoopPhase.notices, Prod.mk.injEq]
          at before
        simp [ThreadPool.notices, ThreadPool.enqueue, LoopPhase.notices,
          before.1, before.2]
  | @notifies index revents target pool next loop poolEq notified =>
      rw [loop] at notices
      have before := notices pool poolEq
      simp only [ThreadPool.notices, LoopPhase.notices, Prod.mk.injEq] at before
      refine ⟨fun _ same => ?_, fun pool found => ?_⟩
      · exact ready.revents _ (by rw [loop]; exact same)
      · obtain rfl := Option.some.inj found
        obtain ⟨pending, pendingEq, ⟨_, _, _, rfl⟩ | ⟨_, rfl⟩⟩ :=
          ThreadPool.notifyOne_cases notified
        all_goals
          obtain rfl : pending = 0 := by omega
          exact Prod.ext rfl before.2
  | stopsPool loop poolEq =>
      rw [loop] at notices
      refine ⟨Ready.unscanned rfl, fun pool found => ?_⟩
      obtain rfl := Option.some.inj found
      exact Prod.ext (Prod.mk.inj (notices _ poolEq)).1 rfl
  | notifiesAll loop poolEq notified =>
      rw [loop] at notices
      refine ⟨Ready.unscanned rfl, fun pool found => ?_⟩
      obtain rfl := Option.some.inj found
      rw [ThreadPool.notifyAll_cases notified]
      exact Prod.ext (Prod.mk.inj (notices _ poolEq)).1 rfl
  | throws => exact ⟨ready.revents, notices⟩

theorem Ready.settleCall (ready : system.Ready)
    (control : Control environment system) {thread : Thread} {event : CallEvent}
    {phase : CallPhase} {outcome : CallOutcome}
    (advanced : phase.advance (thread = .runLoop) system.loop.isFinished
      system.lifecycle event = some outcome) :
    (system.settleCall environment thread outcome).Ready := by
  cases outcome with
  | continues lifecycle phase =>
      have called := ready.setCall (some phase) thread
      exact ⟨called.revents, called.notices⟩
  | returns | throws => exact ready.setCall none thread
  | spawned =>
      have free := (CallPhase.advances advanced).spawned.2
      have control' := control.setCall (some .startConstructed) thread
      have none := control'.absent_pool
          (control'.thread.mp (by simpa using free))
      exact ⟨Ready.unscanned rfl, Ready.unpooled none⟩
  | assigned =>
      have called := ready.setCall none thread
      exact ⟨called.revents, called.notices⟩
  | joined =>
      obtain ⟨_, _, _, finished⟩ := (CallPhase.advances advanced).joined
      have none := (control.setCall none thread).finished_pool
          (by simpa using finished)
      exact ⟨Ready.unscanned rfl, Ready.unpooled none⟩
  | terminates => exact ⟨ready.revents, ready.notices⟩

theorem Ready.step (ready : system.Ready) (control : Control environment system)
    {label : Label κ} (step : Step environment system label after) :
    after.Ready := by
  cases step with
  | call => exact ready.setCall _ _
  | callStep found advanced => exact ready.settleCall control advanced
  | on => exact ⟨ready.revents, ready.notices⟩
  | loop step => exact ready.loopStep step
  | worker step =>
      cases step with
      | takes poolEq | moves poolEq =>
          refine ready.evolve rfl rfl rfl fun next found => ⟨_, poolEq, ?_⟩
          rw [← Option.some.inj found]
          rfl
  | @dispatch thread event _ step =>
      cases step with
      | snapshot | returns => exact ready.setTask _ _
      | @invoke task callback todo | @invokeEmpty task todo =>
          have moved := ready.setTask
              { task with phase := .inCallback todo } thread
          exact ⟨moved.revents, moved.notices⟩
      | throws => exact ⟨ready.revents, ready.notices⟩
      | finish found done cleared =>
          obtain ⟨_, _, _, _, loop, rfl⟩ | ⟨_, _, _, _, poolEq, _, rfl⟩ :=
            clearTask_cases cleared
          · refine ready.moved (fun _ same => ?_) (by rw [loop]; rfl)
            exact ready.revents _ (by rw [loop]; exact same)
          · refine ready.evolve rfl rfl rfl fun next found => ⟨_, poolEq, ?_⟩
            rw [← Option.some.inj found]
            rfl

theorem ready_of_reach {allowed : System κ → Label κ → Prop}
    (reach : Reach (System.next environment) allowed {} system) :
    system.Ready := by
  induction reach with
  | refl => exact ⟨Ready.unscanned rfl, Ready.unpooled rfl⟩
  | step earlier _ taken induction =>
      exact induction.step (control_of_reach earlier) (next_step taken)

end System

/-! The workers of the pool of a Subscriber are woken when they have to be. -/

namespace ThreadPool

variable {τ υ : Type} (f : τ → υ) {pool : ThreadPool τ}

theorem map_waiting {worker : PoolWorker τ} : worker.map f = .waiting ↔
    worker = .waiting := by
  cases worker <;> simp [PoolWorker.map]

theorem map_ready : (pool.map f).ready = pool.ready := by
  have same :
      (PoolWorker.isAcquiring ∘ fun worker : PoolWorker τ => worker.map f) =
      PoolWorker.isAcquiring := by
    funext worker
    cases worker <;> rfl
  rw [ready, ready, map, List.countP_map, same]

theorem mem_map_waiting : .waiting ∈ (pool.map f).workers ↔
    .waiting ∈ pool.workers := by
  simp [map, map_waiting]

theorem notified_map : (pool.map f).Notified ↔ pool.Notified := by
  constructor
  · intro notified
    refine ⟨fun waiting => ?_, fun stopped settled waiting => ?_⟩
    · have queued := notified.queued ((mem_map_waiting f).mpr waiting)
      rwa [map_ready, map, List.length_map] at queued
    · exact notified.stopped stopped settled ((mem_map_waiting f).mpr waiting)
  · intro notified
    refine ⟨fun waiting => ?_, fun stopped settled waiting => ?_⟩
    · have queued := notified.queued ((mem_map_waiting f).mp waiting)
      rwa [map_ready, map, List.length_map]
    · exact notified.stopped stopped settled ((mem_map_waiting f).mp waiting)

/-- While a task is queued, some worker of the pool is on its way to it. -/
theorem exists_awake (notified : pool.Notified)
    (drained : pool.Drained) (populated : pool.workers ≠ [])
    (settled : pool.notifyOnePending = 0) (queued : pool.tasks ≠ []) :
    ∃ (index : Nat) (worker : PoolWorker τ),
      pool.workers[index]? = some worker ∧
      worker ≠ .waiting ∧ worker ≠ .exited := by
  by_contra asleep
  have present : ∀ worker ∈ pool.workers, worker = .waiting := by
    intro worker member
    by_contra awake
    obtain ⟨index, found⟩ := List.mem_iff_getElem?.mp member
    by_cases exited : worker = .exited
    · exact queued (drained (exited ▸ member)).2
    · exact asleep ⟨index, worker, found, awake, exited⟩
  obtain ⟨worker, member⟩ := List.exists_mem_of_ne_nil _ populated
  have enough := notified.queued (present worker member ▸ member)
  have unready : pool.ready = 0 := by
    rw [ThreadPool.ready, List.countP_eq_zero]
    intro worker member
    rw [present worker member]
    simp [PoolWorker.isAcquiring]
  rw [settled, unready] at enough
  exact queued (List.length_eq_zero_iff.mp (Nat.le_zero.mp enough))

end ThreadPool

namespace System

variable {environment : Environment} {system : System κ}

theorem notified_of_reach {allowed : System κ → Label κ → Prop}
    (reach : Reach (System.next environment) allowed {} system)
    {pool : ThreadPool (Task κ)} (poolEq : system.pool = some pool) :
    pool.Notified := by
  obtain ⟨run, history⟩ := poolRuns_of_reach reach pool poolEq
  have notified := (ThreadPool.notified_map Prod.snd).mpr
    (PoolRun.notified_of_reach history.reach)
  rw [history.tasks] at notified
  exact (ThreadPool.notified_map Task.frame).mp notified

end System

end Farsounder.Subscriber
