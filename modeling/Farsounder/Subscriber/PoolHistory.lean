import Farsounder.Subscriber.Delivery
import Farsounder.Subscriber.Wakeup

namespace Farsounder.Subscriber

open Farsounder.Data

/-! The pool of a Subscriber runs as a pool on its own does.  What the tasks
are makes no difference to a pool. -/

section Map

variable {τ υ : Type} (f : τ → υ)

def PoolWorker.map : PoolWorker τ → PoolWorker υ
  | acquiring => acquiring
  | waiting => waiting
  | executing task => executing (f task)
  | exited => exited

namespace ThreadPool

def map (pool : ThreadPool τ) : ThreadPool υ where
  tasks := pool.tasks.map f
  stop := pool.stop
  workers := pool.workers.map (·.map f)
  notifyOnePending := pool.notifyOnePending
  notifyAllPending := pool.notifyAllPending

variable (pool : ThreadPool τ) (index : Nat)

theorem map_setWorker (worker : PoolWorker τ) :
    (pool.setWorker index worker).map f =
      (pool.map f).setWorker index (worker.map f) := by
  simp [map, setWorker]

theorem map_create (threads : Nat) :
    (create threads : ThreadPool τ).map f = create threads := by
  simp [map, create, PoolWorker.map]

theorem map_enqueue (task : τ) :
    (pool.enqueue task).map f = (pool.map f).enqueue (f task) := by
  simp [map, enqueue]

theorem map_running : (pool.map f).running = pool.running.map f := by
  rw [running, running, map, List.filterMap_map, List.map_filterMap]
  apply List.filterMap_congr
  intro worker _
  cases worker <;> rfl

theorem map_notifyOne (target : Option Nat) :
    (pool.map f).notifyOne target = (pool.notifyOne target).map (map f) := by
  have waits :
      (PoolWorker.isWaiting ∘ fun worker : PoolWorker τ => worker.map f) =
      PoolWorker.isWaiting := by
    funext worker
    cases worker <;> rfl
  cases pending : pool.notifyOnePending with
  | zero => simp [notifyOne, map, pending]
  | succ fewer =>
      cases target with
      | none =>
          cases waiting : pool.workers.any PoolWorker.isWaiting <;>
            simp [notifyOne, map, pending, waits, waiting]
      | some index =>
          cases found : pool.workers[index]? with
          | none => simp [notifyOne, map, pending, found]
          | some worker =>
              cases worker <;>
                simp [notifyOne, map, pending, found, PoolWorker.map, setWorker]

theorem map_notifyAll :
    (pool.map f).notifyAll = pool.notifyAll.map (map f) := by
  have woken :
      ∀ worker : PoolWorker τ, (worker.map f).woken = worker.woken.map f := by
    intro worker
    cases worker <;> rfl
  cases pending : pool.notifyAllPending <;>
    simp [notifyAll, map, pending, Function.comp_def, woken]

theorem map_wake : (pool.map f).wake index = (pool.wake index).map (map f) := by
  cases found : pool.workers[index]? with
  | none => simp [wake, map, found]
  | some worker =>
      cases worker <;> simp [wake, map, found, PoolWorker.map, setWorker]

theorem map_finish :
    (pool.map f).finish index = (pool.finish index).map (map f) := by
  cases found : pool.workers[index]? with
  | none => simp [finish, map, found]
  | some worker =>
      cases worker <;> simp [finish, map, found, PoolWorker.map, setWorker]

theorem map_acquire :
    (pool.map f).acquire index = (pool.acquire index).map (map f) := by
  cases found : pool.workers[index]? with
  | none => simp [acquire, map, found]
  | some worker =>
      cases worker with
      | waiting | executing | exited =>
          simp [acquire, map, found, PoolWorker.map]
      | acquiring =>
          cases queued : pool.tasks with
          | nil =>
              cases stop : pool.stop <;>
                simp [acquire, map, found, queued, stop, PoolWorker.map,
                  setWorker]
          | cons task rest =>
              simp [acquire, map, found, queued, PoolWorker.map, setWorker]

/-- The pool's part in a step that queues nothing. -/
def follow (pool : ThreadPool τ) : PoolLabel υ → Option (ThreadPool τ)
  | .enqueue _ => none
  | .notifyOne target => pool.notifyOne target
  | .requestStop => if pool.stop then none else some pool.requestStop
  | .notifyAll => pool.notifyAll
  | .acquire index => pool.acquire index
  | .wake index => pool.wake index
  | .finish index => pool.finish index

theorem map_follow (label : PoolLabel υ) :
    (pool.map f).follow label = (pool.follow label).map (map f) := by
  cases label with
  | enqueue => rfl
  | notifyOne target => exact map_notifyOne f pool target
  | requestStop =>
      cases stop : pool.stop with
      | false => simp [follow, map, stop, requestStop]
      | true => simp [follow, map, stop]
  | notifyAll => exact map_notifyAll f pool
  | acquire index => exact map_acquire f pool index
  | wake index => exact map_wake f pool index
  | finish index => exact map_finish f pool index

theorem setWorker_self {pool : ThreadPool τ} {index : Nat}
    {worker : PoolWorker τ} (found : pool.workers[index]? = some worker) :
    pool.setWorker index worker = pool := by
  obtain ⟨inBounds, rfl⟩ := List.getElem?_eq_some_iff.mp found
  simp [setWorker]

end ThreadPool

end Map

theorem PoolRun.next_of_follow {τ : Type} {run : PoolRun τ}
    {label : PoolLabel τ} {pool : ThreadPool (Nat × τ)}
    (followed : run.pool.follow label = some pool) :
    run.EnqueuesBeforeStop label ∧ ∃ service,
      PoolRun.next run label = some ⟨pool, service⟩ ∧
        service.accepted = run.service.accepted := by
  cases label with
  | enqueue task => contradiction
  | notifyOne target =>
      exact ⟨trivial, _, congrArg (Option.map _) followed, rfl⟩
  | requestStop =>
      refine ⟨trivial, run.service, ?_, rfl⟩
      simp only [ThreadPool.follow] at followed
      split at followed
      · contradiction
      · rename_i live
        obtain rfl := Option.some.inj followed
        exact if_neg live
  | notifyAll =>
      exact ⟨trivial, _, congrArg (Option.map _) followed, rfl⟩
  | acquire index =>
      refine ⟨trivial, _, congrArg (Option.bind · _) followed, ?_⟩
      cases pool.task? index <;> rfl
  | wake index =>
      exact ⟨trivial, _, congrArg (Option.map _) followed, rfl⟩
  | finish index =>
      obtain ⟨job, found, _⟩ := ThreadPool.finish_cases followed
      refine ⟨trivial, run.service.complete job, ?_, rfl⟩
      simp only [PoolRun.next, ThreadPool.task?_eq_some.mpr found,
        show run.pool.finish index = some pool from followed,
          Option.bind_eq_bind, Option.bind_some]

namespace System

variable {κ : Type} {environment : Environment} {system after : System κ}

/-- The frames whose tasks have been queued, or are about to be. -/
def framesQueued (system : System κ) (run : PoolRun Nat) : List Nat :=
  run.service.accepted.map Prod.snd ++
    system.loop.unqueued?.toList.map Task.frame

/-- The pool has come about through `run`, whose tasks are the numbers of the
frames. -/
structure PoolHistory (system : System κ) (pool : ThreadPool (Task κ))
    (run : PoolRun Nat) : Prop where
  reach : Reach PoolRun.next PoolRun.EnqueuesBeforeStop (.create 2) run
  tasks : run.pool.map Prod.snd = pool.map Task.frame
  ascending : (system.framesQueued run).Pairwise (· < ·)
  known : ∀ frame ∈ system.framesQueued run, frame < system.received.length

def PoolRuns (system : System κ) : Prop :=
  ∀ pool, system.pool = some pool → ∃ run, PoolHistory system pool run

theorem PoolRuns.of_none (unpooled : after.pool = none) : PoolRuns after := by
  intro pool found
  rw [unpooled] at found
  contradiction

theorem PoolRuns.unchanged (runs : PoolRuns system)
    (pool : after.pool.map (ThreadPool.map Task.frame) =
      system.pool.map (ThreadPool.map Task.frame))
    (unqueued : after.loop.unqueued? = system.loop.unqueued?)
    (received : after.received = system.received) : PoolRuns after := by
  intro current found
  rw [found, Option.map_some] at pool
  obtain ⟨old, oldEq, same⟩ := Option.map_eq_some_iff.mp pool.symm
  obtain ⟨run, history⟩ := runs old oldEq
  have queued : after.framesQueued run = system.framesQueued run := by
    rw [framesQueued, framesQueued, unqueued]
  exact ⟨run, history.reach, history.tasks.trans same,
    queued ▸ history.ascending, queued ▸ received ▸ history.known⟩

theorem PoolRuns.follow (runs : PoolRuns system)
    {pool pool' : ThreadPool (Task κ)} (found : system.pool = some pool)
    (label : PoolLabel Nat) (followed : pool.follow label = some pool')
    (found' : after.pool = some pool')
    (unqueued : after.loop.unqueued? = system.loop.unqueued?)
    (received : after.received = system.received) : PoolRuns after := by
  intro current currentEq
  obtain rfl := Option.some.inj (found'.symm.trans currentEq)
  obtain ⟨run, history⟩ := runs pool found
  have mapped : (run.pool.map Prod.snd).follow label =
      some (pool'.map Task.frame) := by
    rw [history.tasks, ThreadPool.map_follow, followed, Option.map_some]
  rw [ThreadPool.map_follow] at mapped
  obtain ⟨next, moved, same⟩ := Option.map_eq_some_iff.mp mapped
  obtain ⟨permitted, service, taken, accepted⟩ := PoolRun.next_of_follow moved
  have queued :
      after.framesQueued ⟨next, service⟩ = system.framesQueued run := by
    rw [framesQueued, framesQueued, unqueued, accepted]
  exact ⟨⟨next, service⟩, history.reach.step permitted taken, same,
    queued ▸ history.ascending, queued ▸ received ▸ history.known⟩

/-! Every step of the system is one of the pool, or leaves it alone. -/

theorem setTask_unqueued? (task : Task κ) (thread : Thread) :
    (system.setTask task thread).loop.unqueued? = system.loop.unqueued? := by
  cases thread with
  | controller | poolWorker => rfl
  | runLoop => exact setDispatched_unqueued? task system.loop

theorem setCall_unqueued? (call : Option CallPhase) (thread : Thread) :
    (system.setCall call thread).loop.unqueued? = system.loop.unqueued? :=
  setCall_field system call thread (·.loop.unqueued?)
    (fun task => setTask_unqueued? task thread) rfl

theorem setTask_frames {thread : Thread} {task task' : Task κ}
    (found : system.task? thread = some task)
    (frame : task'.frame = task.frame) :
    (system.setTask task' thread).pool.map (ThreadPool.map Task.frame) =
      system.pool.map (ThreadPool.map Task.frame) := by
  cases thread with
  | controller | runLoop => rfl
  | poolWorker index =>
      obtain ⟨pool, poolEq, workerEq⟩ := task?_poolWorker found
      have held : (pool.map Task.frame).workers[index]? =
          some (.executing task.frame) := by
        simp [ThreadPool.map, workerEq, PoolWorker.map]
      simp only [setTask, poolEq, Option.map_some, ThreadPool.map_setWorker,
        PoolWorker.map, frame, ThreadPool.setWorker_self held]

theorem setCall_frames (call : Option CallPhase) (thread : Thread) :
    (system.setCall call thread).pool.map (ThreadPool.map Task.frame) =
      system.pool.map (ThreadPool.map Task.frame) := by
  cases thread with
  | controller => rfl
  | runLoop | poolWorker =>
      rw [setCall_eq _ _ _ (by simp)]
      split
      · rename_i found
        exact setTask_frames found rfl
      · rfl

theorem PoolRuns.setTask (runs : PoolRuns system) {thread : Thread}
    {task task' : Task κ} (found : system.task? thread = some task)
    (frame : task'.frame = task.frame) :
    PoolRuns (system.setTask task' thread) :=
  runs.unchanged (setTask_frames found frame) (setTask_unqueued? task' thread)
    (by simp)

theorem PoolRuns.setCall (runs : PoolRuns system) (call : Option CallPhase)
    (thread : Thread) : PoolRuns (system.setCall call thread) :=
  runs.unchanged (setCall_frames call thread) (setCall_unqueued? call thread)
    (by simp)

theorem PoolRuns.settleCall (runs : PoolRuns system)
    (control : Control environment system) {thread : Thread} {event : CallEvent}
    {phase : CallPhase} {outcome : CallOutcome}
    (advanced : phase.advance (thread = .runLoop) system.loop.isFinished
      system.lifecycle event = some outcome) :
    PoolRuns (system.settleCall environment thread outcome) := by
  cases outcome with
  | continues lifecycle phase' =>
      exact (runs.setCall (some phase') thread).unchanged rfl rfl rfl
  | returns | throws => exact runs.setCall none thread
  | assigned => exact (runs.setCall none thread).unchanged rfl rfl rfl
  | spawned =>
      have free := (CallPhase.advances advanced).spawned.2
      have control' := control.setCall (some .startConstructed) thread
      exact .of_none
        (control'.absent_pool (control'.thread.mp (by simpa using free)))
  | joined =>
      obtain ⟨_, _, _, finished⟩ := (CallPhase.advances advanced).joined
      have control' := control.setCall none thread
      exact .of_none (control'.finished_pool (by simpa using finished))
  | terminates => exact runs.unchanged rfl rfl rfl

theorem PoolRuns.receive (runs : PoolRuns system) {index : Nat}
    {revents : List Bool} (loop : system.loop = .scanning index revents)
    (type : EnumValue Config.PubSubMessage) (bytes : Wire.Bytes) :
    PoolRuns (system.receive environment index revents type bytes) := by
  intro pool found
  obtain ⟨run, history⟩ := runs pool found
  have before :
      system.framesQueued run = run.service.accepted.map Prod.snd := by
    simp [framesQueued, loop, LoopPhase.unqueued?]
  have ascending := history.ascending
  have known := history.known
  rw [before] at ascending known
  have longer :
      (system.receive environment index revents type bytes).received.length =
      system.received.length + 1 := by
    simp [System.receive]
  cases decoded : decodeFrame environment.parsers type bytes with
  | none =>
      have same :
          (system.receive environment index revents type bytes).framesQueued
          run =
          run.service.accepted.map Prod.snd := by
        simp [framesQueued, System.receive, decoded, LoopPhase.unqueued?]
      refine ⟨run, history.reach, history.tasks, same ▸ ascending, ?_⟩
      rw [same, longer]
      exact fun frame member => Nat.lt_succ_of_lt (known frame member)
  | some message =>
      have pooled : system.pool = some pool := found
      have same :
          (system.receive environment index revents type bytes).framesQueued
          run =
          run.service.accepted.map Prod.snd ++ [system.received.length] := by
        simp [framesQueued, System.receive, decoded, pooled,
          LoopPhase.unqueued?]
      refine ⟨run, history.reach, history.tasks, ?_, ?_⟩
      · rw [same]
        refine List.pairwise_append.mpr ⟨ascending, List.pairwise_singleton _ _,
          ?_⟩
        intro frame member last lastMember
        rw [List.mem_singleton.mp lastMember]
        exact known frame member
      · rw [same, longer]
        intro frame member
        rcases List.mem_append.mp member with old | new
        · exact Nat.lt_succ_of_lt (known frame old)
        · rw [List.mem_singleton.mp new]
          exact Nat.lt_succ_self _

theorem PoolRuns.enqueue (runs : PoolRuns system)
    (control : Control environment system) {index : Nat} {revents : List Bool}
    {task : Task κ} (loop : system.loop = .enqueuing index revents task) :
    PoolRuns { system with
      pool := system.pool.map (·.enqueue task), loop :=
  .notifying index revents } := by
  have fits := control.fits
  rw [loop] at fits
  obtain ⟨chosen, isOpen⟩ := fits
  rw [chosen] at isOpen
  obtain ⟨pool, poolEq, working⟩ := isOpen
  obtain ⟨run, history⟩ := runs pool poolEq
  intro current found
  obtain rfl : pool.enqueue task = current := by simpa [poolEq] using found
  have permitted : run.EnqueuesBeforeStop (.enqueue task.frame) :=
    (congrArg ThreadPool.stop history.tasks).trans working
  refine ⟨_, history.reach.step permitted rfl, ?_, ?_, ?_⟩
  · rw [ThreadPool.map_enqueue, ThreadPool.map_enqueue, history.tasks]
  · simpa [framesQueued, loop, LoopPhase.unqueued?, Service.accept] using
      history.ascending
  · simpa [framesQueued, loop, LoopPhase.unqueued?, Service.accept] using
      history.known

theorem PoolRuns.loopStep (runs : PoolRuns system)
    (control : Control environment system)
    (step : LoopStep environment system after) : PoolRuns after := by
  cases step with
  | moves moves => exact runs.unchanged rfl moves.tasks.2 rfl
  | connects loop opened => exact runs.unchanged rfl (by rw [loop]; rfl) rfl
  | createsPool loop executor =>
      intro pool found
      obtain rfl := Option.some.inj found
      refine ⟨.create 2, .refl, ?_, ?_, ?_⟩
      · exact (ThreadPool.map_create _ 2).trans (ThreadPool.map_create _ 2).symm
      · simp [framesQueued, PoolRun.create, LoopPhase.unqueued?]
      · simp [framesQueued, PoolRun.create, LoopPhase.unqueued?]
  | createsNoPool loop executor => exact .of_none rfl
  | receives loop flagged source => exact runs.receive loop _ _
  | enqueues loop => exact runs.enqueue control loop
  | @notifies index revents target pool next loop poolEq notified =>
      exact runs.follow poolEq (.notifyOne target) notified rfl
        (by rw [loop]; rfl) rfl
  | @stopsPool pool loop poolEq =>
      have fits := control.fits
      rw [loop, poolEq] at fits
      have working : pool.stop = false := by
        rw [(OpenPool.isSome_iff fits).mp rfl] at fits
        obtain ⟨_, ⟨⟩, working⟩ := fits
        exact working
      have followed : pool.follow (.requestStop : PoolLabel Nat) =
          some pool.requestStop := if_neg (by simp [working])
      exact runs.follow poolEq .requestStop followed rfl (by rw [loop]; rfl) rfl
  | notifiesAll loop poolEq notified =>
      exact runs.follow poolEq .notifyAll notified rfl (by rw [loop]; rfl) rfl
  | destroysPool => exact .of_none rfl
  | throws => exact runs.unchanged rfl rfl rfl

theorem PoolRuns.worker (runs : PoolRuns system) {index : Nat}
    {event : WorkerEvent} (taken : system.workerNext index event = some after) :
    PoolRuns after := by
  cases event with
  | acquire =>
      simp only [workerNext, Option.bind_eq_bind, Option.bind_eq_some_iff,
        Option.some.injEq] at taken
      obtain ⟨pool, poolEq, next, acquired, rfl⟩ := taken
      exact runs.follow poolEq (.acquire index) acquired rfl rfl rfl
  | wake =>
      simp only [workerNext, Option.bind_eq_bind, Option.bind_eq_some_iff,
        Option.some.injEq] at taken
      obtain ⟨pool, poolEq, next, woken, rfl⟩ := taken
      exact runs.follow poolEq (.wake index) woken rfl rfl rfl

theorem PoolRuns.dispatchStep (runs : PoolRuns system) {thread : Thread}
    (step : DispatchStep system thread after) : PoolRuns after := by
  cases step with
  | snapshot found phase => exact runs.setTask found rfl
  | @invoke task _ todo found phase | @invokeEmpty task todo found phase =>
      have called : PoolRuns
          (system.setTask { task with phase := .inCallback todo } thread) :=
        runs.setTask found rfl
      exact called.unchanged rfl rfl rfl
  | returns found phase => exact runs.setTask found rfl
  | throws => exact runs.unchanged rfl rfl rfl
  | finish found phase cleared =>
      obtain ⟨index, revents, task, rfl, loop, rfl⟩ |
        ⟨index, pool, task, rfl, poolEq, workerEq, rfl⟩ :=
        clearTask_cases cleared
      · exact runs.unchanged rfl (by rw [loop]; rfl) rfl
      · refine runs.follow poolEq (.finish index) ?_ rfl rfl rfl
        simp [ThreadPool.follow, ThreadPool.finish, workerEq]

theorem PoolRuns.step (runs : PoolRuns system)
    (control : Control environment system) {label : Label κ}
    (taken : System.next environment system label = some after) :
    PoolRuns after := by
  cases next_step taken with
  | call user => exact runs.setCall _ _
  | callStep found advanced => exact runs.settleCall control advanced
  | on => exact runs.unchanged rfl rfl rfl
  | loop step => exact runs.loopStep control step
  | worker step =>
      simp only [System.next] at taken
      split at taken
      · contradiction
      · exact runs.worker taken
  | dispatch step => exact runs.dispatchStep step

/-- The pool of a Subscriber is, whatever the Subscriber does, one that a pool
of two workers can become on its own. -/
theorem poolRuns_of_reach {allowed : System κ → Label κ → Prop}
    (reach : Reach (System.next environment) allowed {} system) :
    PoolRuns system := by
  induction reach with
  | refl => exact .of_none rfl
  | step earlier _ taken induction =>
      exact induction.step (control_of_reach earlier) taken

end System

end Farsounder.Subscriber
