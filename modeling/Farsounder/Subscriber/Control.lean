import Farsounder.Subscriber.Steps

namespace Farsounder.Subscriber

open Config
open Farsounder.Data

variable {κ : Type}

/-! What the phase of `run_loop` says about the pool, in every run. -/

/-- The pool that the loop over the frames works with. -/
def OpenPool (executor : CallbackExecutor)
    (pool : Option (ThreadPool (Task κ))) :
    Prop :=
  match executor with
  | .ThreadPool => ∃ working, pool = some working ∧ working.stop = false
  | .Inline => pool = none

def LoopPhase.PoolFits (executor : CallbackExecutor)
    (pool : Option (ThreadPool (Task κ))) : LoopPhase κ → Prop
  | absent | connecting _ | creatingPool | finished => pool = none
  | testing | polling | scanning _ _ | stoppingPool => OpenPool executor pool
  | enqueuing _ _ _ | notifying _ _ =>
      executor = .ThreadPool ∧ OpenPool executor pool
  | dispatching _ _ _ => executor = .Inline ∧ OpenPool executor pool
  | notifyingAll =>
      executor = .ThreadPool ∧ ∃ closing, pool = some closing ∧
        closing.stop = true
  | joiningPool index =>
      executor = .ThreadPool ∧ ∃ closing, pool = some closing ∧
        closing.stop = true ∧
        ∀ earlier < index, closing.workers[earlier]? = some .exited

namespace System

structure Control (environment : Environment) (system : System κ) : Prop where
  thread : system.lifecycle.thread = .none ↔ system.loop = .absent
  fits : system.loop.PoolFits environment.config.callbackExecutor system.pool
  workers : ∀ pool, system.pool = some pool → pool.workers.length = 2
  drained : ∀ pool, system.pool = some pool → pool.Drained

/-! Every step keeps `Control`. -/

theorem PoolFits.setDispatched {executor : CallbackExecutor}
    {pool : Option (ThreadPool (Task κ))} {phase : LoopPhase κ} {task : Task κ}
    (fits : phase.PoolFits executor pool) :
    (phase.setDispatched task).PoolFits executor pool := by
  cases phase <;> exact fits

theorem OpenPool.evolve {executor : CallbackExecutor}
    {pool after : ThreadPool (Task κ)} (isOpen : OpenPool executor (some pool))
    (stop : after.stop = pool.stop) : OpenPool executor (some after) := by
  cases executor with
  | ThreadPool =>
      obtain ⟨_, ⟨⟩, working⟩ := isOpen
      exact ⟨after, rfl, stop.trans working⟩
  | Inline => simp [OpenPool] at isOpen

theorem PoolFits.evolve {executor : CallbackExecutor}
    {pool after : ThreadPool (Task κ)} {phase : LoopPhase κ}
    (fits : phase.PoolFits executor (some pool))
    (evolves : pool.Evolves after) : phase.PoolFits executor (some after) := by
  cases phase with
  | absent | connecting | creatingPool | finished =>
      simp [LoopPhase.PoolFits] at fits
  | testing | polling | scanning | stoppingPool =>
      exact OpenPool.evolve fits evolves.stop
  | enqueuing | notifying | dispatching =>
      exact ⟨fits.1, OpenPool.evolve fits.2 evolves.stop⟩
  | notifyingAll =>
      obtain ⟨chosen, _, ⟨⟩, stopped⟩ := fits
      exact ⟨chosen, after, rfl, evolves.stop.trans stopped⟩
  | joiningPool index =>
      obtain ⟨chosen, _, ⟨⟩, stopped, gone⟩ := fits
      exact ⟨chosen, after, rfl, evolves.stop.trans stopped,
        fun earlier below => evolves.exited earlier (gone earlier below)⟩

section Preserved

variable {environment : Environment} {system after : System κ}

theorem Control.evolve (control : Control environment system)
    {pool next : ThreadPool (Task κ)} (found : system.pool = some pool)
    (evolves : pool.Evolves next) :
    Control environment { system with pool := some next } where
  thread := control.thread
  fits := PoolFits.evolve (found ▸ control.fits) evolves
  workers := by
    rintro _ ⟨⟩
    exact evolves.length.trans (control.workers pool found)
  drained := by
    rintro _ ⟨⟩
    exact evolves.drained (control.drained pool found)

theorem Control.setTask (control : Control environment system) {thread : Thread}
    {old : Task κ} (found : system.task? thread = some old) (task : Task κ) :
    Control environment (system.setTask task thread) := by
  cases thread with
  | controller => exact control
  | runLoop =>
      exact ⟨control.thread.trans setDispatched_eq_absent.symm,
        PoolFits.setDispatched control.fits, control.workers, control.drained⟩
  | poolWorker index =>
      obtain ⟨pool, poolEq, workerEq⟩ := task?_poolWorker found
      simp only [System.setTask, poolEq, Option.map_some]
      exact control.evolve poolEq
        (ThreadPool.evolves_setWorker workerEq (by simp) (by simp))

theorem Control.setCall (control : Control environment system)
    (call : Option CallPhase) (thread : Thread) :
    Control environment (system.setCall call thread) := by
  cases thread with
  | controller =>
      exact ⟨control.thread, control.fits, control.workers, control.drained⟩
  | runLoop | poolWorker =>
      rw [setCall_eq _ _ _ (by simp)]
      split
      · rename_i found
        exact control.setTask found _
      · exact control

theorem Control.clearTask (control : Control environment system)
    {thread : Thread} (cleared : system.clearTask thread = some after) :
    Control environment after := by
  obtain ⟨index, revents, task, _, loop, rfl⟩ |
      ⟨index, pool, task, _, poolEq, worker, rfl⟩ :=
    clearTask_cases cleared
  · have fits := control.fits
    rw [loop] at fits
    exact ⟨by simpa [loop] using control.thread, fits.2, control.workers,
      control.drained⟩
  · exact control.evolve poolEq
      (ThreadPool.evolves_setWorker worker (by simp) (by simp))

theorem Control.terminate (control : Control environment system)
    (termination : Termination) :
    Control environment (system.terminate termination) :=
  ⟨control.thread, control.fits, control.workers, control.drained⟩

theorem Control.absent_pool (control : Control environment system)
    (absent : system.loop = .absent) : system.pool = none := by
  have fits := control.fits
  rwa [absent] at fits

theorem Control.finished_pool (control : Control environment system)
    (finished : system.loop.isFinished = true) : system.pool = none := by
  have fits := control.fits
  cases loop : system.loop with
  | finished => rwa [loop] at fits
  | _ => simp [loop, LoopPhase.isFinished] at finished

theorem Control.settleCall (control : Control environment system)
    {thread : Thread} {event : CallEvent} {phase : CallPhase}
    {outcome : CallOutcome}
    (advanced : phase.advance (thread = .runLoop) system.loop.isFinished
      system.lifecycle event = some outcome) :
    Control environment (system.settleCall environment thread outcome) := by
  cases outcome with
  | continues lifecycle phase' =>
      have control' := control.setCall (some phase') thread
      refine ⟨?_, control'.fits, control'.workers, control'.drained⟩
      change lifecycle.thread = .none ↔ _
      rw [(CallPhase.advances advanced).continues,
        ← setCall_lifecycle system (some phase') thread]
      exact control'.thread
  | returns | throws => exact control.setCall none thread
  | spawned =>
      have free := (CallPhase.advances advanced).spawned.2
      have control' := control.setCall (some .startConstructed) thread
      have none := control'.absent_pool
          (control'.thread.mp (by simpa using free))
      exact ⟨by simp [System.settleCall], none, control'.workers,
        control'.drained⟩
  | assigned =>
      have constructed := (CallPhase.advances advanced).assigned.2
      have control' := control.setCall none thread
      refine ⟨?_, control'.fits, control'.workers, control'.drained⟩
      have present : (system.setCall none thread).loop ≠ .absent :=
        mt control'.thread.mpr (by simp [constructed])
      exact iff_of_false (by simp [System.settleCall]) present
  | joined =>
      obtain ⟨_, _, _, finished⟩ := (CallPhase.advances advanced).joined
      have control' := control.setCall none thread
      have none := control'.finished_pool (by simpa using finished)
      exact ⟨by simp [System.settleCall], none, control'.workers,
        control'.drained⟩
  | terminates => exact control.terminate _

/-- A step of the `run_loop` thread between two phases in which it exists. -/
theorem Control.moved (control : Control environment system)
    (present : system.loop ≠ .absent) (present' : after.loop ≠ .absent)
    (lifecycle : after.lifecycle = system.lifecycle) :
    after.lifecycle.thread = .none ↔ after.loop = .absent := by
  rw [lifecycle, control.thread]
  exact iff_of_false present present'

theorem LoopMoves.present {loop : LoopPhase κ} (moves : system.LoopMoves loop) :
    system.loop ≠ .absent ∧ loop ≠ .absent := by
  cases moves <;> simp [*]

theorem LoopMoves.fits {loop : LoopPhase κ} {executor : CallbackExecutor}
    (moves : system.LoopMoves loop)
    (fits : system.loop.PoolFits executor system.pool) :
    loop.PoolFits executor system.pool := by
  cases moves with
  | connected loop | enter loop | leave loop | polled loop | skip loop
  | scanned loop =>
      rwa [loop] at fits
  | noPool loop unpooled => exact unpooled
  | @joinedWorker index pool loop poolEq exited =>
      rw [loop] at fits
      obtain ⟨chosen, closing, closingEq, stopped, gone⟩ := fits
      obtain rfl := Option.some.inj (closingEq.symm.trans poolEq)
      refine ⟨chosen, closing, closingEq, stopped, ?_⟩
      intro earlier below
      rcases Nat.lt_succ_iff_lt_or_eq.mp below with before | rfl
      · exact gone earlier before
      · exact exited

theorem OpenPool.isSome_iff {executor : CallbackExecutor}
    {pool : Option (ThreadPool (Task κ))} (isOpen : OpenPool executor pool) :
    pool.isSome = true ↔ executor = .ThreadPool := by
  cases executor with
  | ThreadPool =>
      obtain ⟨_, rfl, _⟩ := isOpen
      simp
  | Inline =>
      obtain rfl := isOpen
      simp

theorem receive_present {index : Nat} {revents : List Bool}
    {type : EnumValue PubSubMessage} {bytes : Wire.Bytes} :
    (system.receive environment index revents type bytes).loop ≠ .absent := by
  simp only [System.receive]
  split
  · simp
  · split <;> simp

theorem OpenPool.receive {index : Nat} {revents : List Bool}
    {type : EnumValue PubSubMessage} {bytes : Wire.Bytes}
    (isOpen : OpenPool environment.config.callbackExecutor system.pool) :
    (system.receive environment index revents type bytes).loop.PoolFits
      environment.config.callbackExecutor system.pool := by
  simp only [System.receive]
  split
  · exact isOpen
  · split
    · rename_i pooled
      exact ⟨(OpenPool.isSome_iff isOpen).mp pooled, isOpen⟩
    · rename_i unpooled
      refine ⟨?_, isOpen⟩
      cases executor : environment.config.callbackExecutor with
      | ThreadPool =>
          exact absurd ((OpenPool.isSome_iff isOpen).mpr executor) unpooled
      | Inline => rfl

theorem Control.loopStep (control : Control environment system)
    (step : LoopStep environment system after) : Control environment after := by
  have fits := control.fits
  cases step with
  | moves moves =>
      obtain ⟨present, present'⟩ := moves.present
      exact ⟨control.moved present present' rfl, moves.fits fits,
        control.workers, control.drained⟩
  | connects loop opened =>
      rw [loop] at fits
      exact ⟨control.moved (by simp [loop]) (by simp) rfl, fits,
        control.workers, control.drained⟩
  | createsPool loop executor =>
      refine ⟨control.moved (by simp [loop]) (by simp) rfl, ?_, ?_, ?_⟩
      · simp [LoopPhase.PoolFits, OpenPool, executor, ThreadPool.create]
      · rintro _ ⟨⟩
        simp [ThreadPool.create]
      · rintro _ ⟨⟩ member
        simp [ThreadPool.create] at member
  | createsNoPool loop executor =>
      refine ⟨control.moved (by simp [loop]) (by simp) rfl, ?_, by
        simp, by simp⟩
      simp [LoopPhase.PoolFits, OpenPool, executor]
  | receives loop flagged source =>
      rw [loop] at fits
      exact ⟨control.moved (by simp [loop]) receive_present rfl,
        OpenPool.receive fits, control.workers, control.drained⟩
  | @enqueues index revents task loop =>
      rw [loop] at fits
      obtain ⟨chosen, isOpen⟩ := fits
      rw [chosen] at isOpen
      obtain ⟨pool, poolEq, working⟩ := isOpen
      refine ⟨control.moved (by simp [loop]) (by simp) rfl,
        ⟨chosen, ?_⟩, ?_, ?_⟩
      · simp [OpenPool, chosen, poolEq, ThreadPool.enqueue, working]
      · simpa [poolEq, ThreadPool.enqueue] using control.workers pool poolEq
      · rw [poolEq]
        rintro _ ⟨⟩ member
        have stopped := (control.drained pool poolEq member).1
        simp [working] at stopped
  | @notifies index revents target pool next loop poolEq notified =>
      have evolves := ThreadPool.evolves_notifyOne notified
      have control' := control.evolve poolEq evolves
      rw [loop, poolEq] at fits
      exact ⟨control.moved (by simp [loop]) (by simp) rfl,
        OpenPool.evolve fits.2 evolves.stop, control'.workers, control'.drained⟩
  | @stopsPool pool loop poolEq =>
      rw [loop] at fits
      have chosen := (OpenPool.isSome_iff fits).mp (by simp [poolEq])
      refine ⟨control.moved (by simp [loop]) (by simp) rfl,
        ⟨chosen, _, rfl, rfl⟩, ?_, ?_⟩
      · rintro _ ⟨⟩
        exact control.workers pool poolEq
      · rintro _ ⟨⟩ member
        exact ⟨rfl, (control.drained pool poolEq member).2⟩
  | @notifiesAll pool next loop poolEq notified =>
      have evolves := ThreadPool.evolves_notifyAll notified
      have control' := control.evolve poolEq evolves
      rw [loop, poolEq] at fits
      obtain ⟨chosen, _, ⟨⟩, stopped⟩ := fits
      exact ⟨control.moved (by simp [loop]) (by simp) rfl,
        ⟨chosen, next, rfl, evolves.stop.trans stopped, by simp⟩,
        control'.workers, control'.drained⟩
  | destroysPool loop poolEq past =>
      exact ⟨control.moved (by simp [loop]) (by simp) rfl, rfl, by
        simp, by simp⟩
  | throws => exact control.terminate _

theorem Control.workerStep (control : Control environment system) {index : Nat}
    (step : WorkerStep system index after) : Control environment after := by
  cases step with
  | @takes pool task rest poolEq workerEq queued =>
      have evolves : pool.Evolves (pool.setWorker index (.executing task)) :=
        ThreadPool.evolves_setWorker workerEq (by simp) (by simp)
      refine control.evolve poolEq (evolves.withTasks rfl rfl fun empty => ?_)
      simp [ThreadPool.setWorker, queued] at empty
  | moves poolEq workerEq live _ _ leaves =>
      exact control.evolve poolEq
        (ThreadPool.evolves_setWorker workerEq live leaves)

theorem Control.dispatchStep (control : Control environment system)
    {thread : Thread} (step : DispatchStep system thread after) :
    Control environment after := by
  cases step with
  | snapshot found | returns found => exact control.setTask found _
  | @invoke task callback todo found | @invokeEmpty task todo found =>
      have control' := control.setTask found
          { task with phase := .inCallback todo }
      exact ⟨control'.thread, control'.fits, control'.workers, control'.drained⟩
  | throws => exact control.terminate _
  | finish _ _ cleared => exact control.clearTask cleared

theorem Control.step (control : Control environment system) {label : Label κ}
    (step : Step environment system label after) :
    Control environment after := by
  cases step with
  | call user => exact control.setCall _ _
  | callStep found advanced => exact control.settleCall advanced
  | on => exact ⟨control.thread, control.fits, control.workers, control.drained⟩
  | loop step => exact control.loopStep step
  | worker step => exact control.workerStep step
  | dispatch step => exact control.dispatchStep step

theorem control_initial : Control environment ({} : System κ) :=
  ⟨by simp, rfl, by simp, by simp⟩

/-- `Control` holds in every state, whoever calls `start`, `stop` and `on`. -/
theorem control_of_reach {allowed : System κ → Label κ → Prop}
    (reach : Reach (System.next environment) allowed {} system) :
    Control environment system :=
  reach.invariant control_initial fun control _ taken =>
    control.step (next_step taken)

end Preserved

end System

end Farsounder.Subscriber
