import Farsounder.Subscriber.System

namespace Farsounder.Subscriber

open Config
open Farsounder.Data

variable {κ : Type}

namespace System

/-! Fields that the parts of a step leave alone. -/

section Fields

variable (system : System κ) (task : Task κ) (call : Option CallPhase)
  (thread : Thread)

@[simp] theorem setTask_registry :
    (system.setTask task thread).registry = system.registry := by
  cases thread <;> rfl

@[simp] theorem setTask_lifecycle :
    (system.setTask task thread).lifecycle = system.lifecycle := by
  cases thread <;> rfl

@[simp] theorem setTask_controller :
    (system.setTask task thread).controller = system.controller := by
  cases thread <;> rfl

@[simp] theorem setTask_received :
    (system.setTask task thread).received = system.received := by
  cases thread <;> rfl

@[simp] theorem setTask_invocations :
    (system.setTask task thread).invocations = system.invocations := by
  cases thread <;> rfl

@[simp] theorem setTask_sockets :
    (system.setTask task thread).sockets = system.sockets := by
  cases thread <;> rfl

@[simp] theorem setTask_terminated :
    (system.setTask task thread).terminated = system.terminated := by
  cases thread <;> rfl

theorem setCall_eq (callback : thread ≠ .controller) :
    system.setCall call thread =
      match system.task? thread with
      | some task => system.setTask { task with call } thread
      | none => system := by
  cases thread with
  | controller => exact absurd rfl callback
  | runLoop => rfl
  | poolWorker index => rfl

theorem setCall_field {α : Type} (field : System κ → α)
    (ofTask : ∀ task, field (system.setTask task thread) = field system)
    (ofController : field { system with controller := call } = field system) :
    field (system.setCall call thread) = field system := by
  cases thread with
  | controller => exact ofController
  | runLoop | poolWorker =>
      rw [setCall_eq _ _ _ (by simp)]
      split
      · exact ofTask _
      · rfl

@[simp] theorem setCall_lifecycle :
    (system.setCall call thread).lifecycle = system.lifecycle :=
  setCall_field system call thread (·.lifecycle) (fun _ => by simp) rfl

@[simp] theorem setCall_received :
    (system.setCall call thread).received = system.received :=
  setCall_field system call thread (·.received) (fun _ => by simp) rfl

@[simp] theorem setCall_terminated :
    (system.setCall call thread).terminated = system.terminated :=
  setCall_field system call thread (·.terminated) (fun _ => by simp) rfl

end Fields

/-! Where running tasks are found. -/

theorem task?_runLoop {system : System κ} {task : Task κ}
    (found : system.task? .runLoop = some task) :
    ∃ index revents, system.loop = .dispatching index revents task := by
  obtain ⟨_, _, _, loop, _⟩ := system
  cases loop with
  | dispatching index revents held =>
      obtain rfl : held = task := Option.some.inj found
      exact ⟨index, revents, rfl⟩
  | _ => contradiction

theorem task?_poolWorker {system : System κ} {index : Nat} {task : Task κ}
    (found : system.task? (.poolWorker index) = some task) :
    ∃ pool, system.pool = some pool ∧
      pool.workers[index]? = some (.executing task) := by
  obtain ⟨pool, poolEq, running⟩ := Option.bind_eq_some_iff.mp found
  exact ⟨pool, poolEq, ThreadPool.task?_eq_some.mp running⟩

@[simp] theorem setDispatched_isFinished (task : Task κ) (phase : LoopPhase κ) :
    (phase.setDispatched task).isFinished = phase.isFinished := by
  cases phase <;> rfl

theorem setDispatched_eq_absent {task : Task κ} {phase : LoopPhase κ} :
    phase.setDispatched task = .absent ↔ phase = .absent := by
  cases phase <;> simp [LoopPhase.setDispatched]

@[simp] theorem setCall_isFinished (system : System κ) (call : Option CallPhase)
    (thread : Thread) :
    (system.setCall call thread).loop.isFinished = system.loop.isFinished := by
  refine setCall_field system call thread (·.loop.isFinished) ?_ rfl
  intro task
  cases thread with
  | controller | poolWorker => rfl
  | runLoop => exact setDispatched_isFinished task system.loop

/-! What each part of a step can do. -/

theorem clearTask_cases {system after : System κ} {thread : Thread}
    (cleared : system.clearTask thread = some after) :
    (∃ index revents task, thread = .runLoop ∧
      system.loop = .dispatching index revents task ∧
      after = { system with loop := .scanning (index + 1) revents }) ∨
    ∃ index pool task, thread = .poolWorker index ∧ system.pool = some pool ∧
      pool.workers[index]? = some (.executing task) ∧
      after = { system with pool := some (pool.setWorker index .acquiring)
        } := by
  cases thread with
  | controller => contradiction
  | runLoop =>
      simp only [clearTask] at cleared
      split at cleared
      · rename_i index revents task loop
        exact .inl ⟨index, revents, task, rfl, loop,
          (Option.some.inj cleared).symm⟩
      · contradiction
  | poolWorker index =>
      simp only [clearTask, Option.bind_eq_bind, Option.bind_eq_some_iff,
        Option.some.injEq] at cleared
      obtain ⟨pool, poolEq, next, finished, rfl⟩ := cleared
      obtain ⟨task, workerEq, rfl⟩ := ThreadPool.finish_cases finished
      exact .inr ⟨index, pool, task, rfl, poolEq, workerEq, rfl⟩

section Cases

variable {environment : Environment} {system after : System κ}

/-- The steps of `run_loop` that only move it to another phase. -/
inductive LoopMoves (system : System κ) : LoopPhase κ → Prop
  | connected (loop : system.loop = .connecting []) :
  LoopMoves system .creatingPool
  | enter (loop : system.loop = .testing) (running : system.lifecycle.running =
    true) :
      LoopMoves system .polling
  | leave (loop : system.loop = .testing) (running : system.lifecycle.running =
    false) :
      LoopMoves system .stoppingPool
  | polled {revents} (loop : system.loop = .polling)
      (length : revents.length = system.sockets.length) :
      LoopMoves system (.scanning 0 revents)
  | skip {index revents flag} (loop : system.loop = .scanning index revents)
      (flagged : revents[index]? = some flag) :
      LoopMoves system (.scanning (index + 1) revents)
  | scanned {index revents} (loop : system.loop = .scanning index revents)
      (past : revents[index]? = none) : LoopMoves system .testing
  | noPool (loop : system.loop = .stoppingPool)
    (unpooled : system.pool = none) :
      LoopMoves system .finished
  | joinedWorker {index pool} (loop : system.loop = .joiningPool index)
      (poolEq : system.pool = some pool)
      (exited : pool.workers[index]? = some PoolWorker.exited) :
      LoopMoves system (.joiningPool (index + 1))

inductive LoopStep (environment : Environment) (system : System κ) :
    System κ → Prop
  | moves {loop} (moves : system.LoopMoves loop) :
      LoopStep environment system { system with loop }
  | connects {message rest socket} (loop : system.loop =
    .connecting (message :: rest))
      (opened : openSocket environment.config message = .ok socket) :
      LoopStep environment system
        { system with
          sockets := system.sockets ++ [socket], loop := .connecting rest }
  | createsPool (loop : system.loop = .creatingPool)
      (executor : environment.config.callbackExecutor = .ThreadPool) :
      LoopStep environment system
        { system with pool := some (.create 2), loop := .testing }
  | createsNoPool (loop : system.loop = .creatingPool)
      (executor : environment.config.callbackExecutor = .Inline) :
      LoopStep environment system { system with pool := none, loop := .testing }
  | receives {index revents socket bytes}
      (loop : system.loop = .scanning index revents)
      (flagged : revents[index]? = some true)
      (source : system.sockets[index]? = some socket) :
      LoopStep environment system
        (system.receive environment index revents socket.type bytes)
  | enqueues {index revents task}
      (loop : system.loop = .enqueuing index revents task) :
      LoopStep environment system
        { system with
          pool := system.pool.map (·.enqueue task), loop :=
            .notifying index revents }
  | notifies {index revents target pool next}
      (loop : system.loop = .notifying index revents)
      (poolEq : system.pool = some pool)
      (notified : pool.notifyOne target = some next) :
      LoopStep environment system
        { system with pool := some next, loop := .scanning (index + 1) revents }
  | stopsPool {pool} (loop : system.loop = .stoppingPool)
      (poolEq : system.pool = some pool) :
      LoopStep environment system
        { system with pool := some pool.requestStop, loop := .notifyingAll }
  | notifiesAll {pool next} (loop : system.loop = .notifyingAll)
      (poolEq : system.pool = some pool)
      (notified : pool.notifyAll = some next) :
      LoopStep environment system
        { system with pool := some next, loop := .joiningPool 0 }
  | destroysPool {index pool} (loop : system.loop = .joiningPool index)
      (poolEq : system.pool = some pool) (past : pool.workers[index]? = none) :
      LoopStep environment system
        { system with pool := none, loop := .finished }
  | throws (present : system.loop ≠ .absent)
      (idle : system.loop.dispatched? = none) :
      LoopStep environment system
        (system.terminate (.uncaughtException .runLoop))

theorem proceed_step
    (taken : system.loopNext environment .proceed = some after) :
    LoopStep environment system after := by
  cases loop : system.loop with
  | absent | polling | notifying | dispatching | finished =>
      simp [loopNext, loop] at taken
  | connecting rest =>
      cases rest with
      | nil =>
          simp only [loopNext, loop, Option.some.injEq] at taken
          exact taken ▸ .moves (.connected loop)
      | cons message rest =>
          simp only [loopNext, loop] at taken
          split at taken <;> obtain rfl := Option.some.inj taken
          · rename_i opened
            exact .connects loop opened
          · exact .throws (by simp [loop]) (by rw [loop]; rfl)
  | creatingPool =>
      simp only [loopNext, loop] at taken
      split at taken <;> obtain rfl := Option.some.inj taken
      · rename_i executor
        exact .createsPool loop executor
      · rename_i executor
        exact .createsNoPool loop executor
  | testing =>
      simp only [loopNext, loop] at taken
      split at taken <;> obtain rfl := Option.some.inj taken
      · rename_i running
        exact .moves (.enter loop running)
      · rename_i stopped
        exact .moves (.leave loop (by simpa using stopped))
  | scanning index revents =>
      simp only [loopNext, loop] at taken
      split at taken
      · rename_i past
        exact Option.some.inj taken ▸ .moves (.scanned loop past)
      · rename_i flagged
        exact Option.some.inj taken ▸ .moves (.skip loop flagged)
      · contradiction
  | enqueuing index revents task =>
      simp only [loopNext, loop, Option.some.injEq] at taken
      exact taken ▸ .enqueues loop
  | stoppingPool =>
      simp only [loopNext, loop] at taken
      split at taken <;> obtain rfl := Option.some.inj taken
      · rename_i pool
        exact .moves (.noPool loop pool)
      · rename_i pool
        exact .stopsPool loop pool
  | notifyingAll =>
      simp only [loopNext, loop, Option.bind_eq_bind, Option.bind_eq_some_iff,
        Option.some.injEq] at taken
      obtain ⟨pool, poolEq, next, notified, rfl⟩ := taken
      exact .notifiesAll loop poolEq notified
  | joiningPool index =>
      simp only [loopNext, loop, Option.bind_eq_bind, Option.bind_eq_some_iff]
        at taken
      obtain ⟨pool, poolEq, taken⟩ := taken
      split at taken
      · rename_i exited
        exact Option.some.inj taken ▸ .moves (.joinedWorker loop poolEq exited)
      · contradiction
      · rename_i past
        exact Option.some.inj taken ▸ .destroysPool loop poolEq past

theorem loopNext_step {event : LoopEvent}
    (taken : system.loopNext environment event = some after) :
    LoopStep environment system after := by
  cases event with
  | proceed => exact proceed_step taken
  | throws =>
      simp only [loopNext] at taken
      split at taken
      · rename_i loop
        exact Option.some.inj taken ▸ .throws (by simp [loop])
          (by rw [loop]; rfl)
      · rename_i loop
        exact Option.some.inj taken ▸ .throws (by simp [loop])
          (by rw [loop]; rfl)
      · rename_i loop
        exact Option.some.inj taken ▸ .throws (by simp [loop])
          (by rw [loop]; rfl)
      · rename_i loop
        split at taken
        · exact Option.some.inj taken ▸ .throws (by simp [loop])
            (by rw [loop]; rfl)
        · contradiction
      · contradiction
  | poll revents =>
      simp only [loopNext] at taken
      split at taken
      · rename_i loop
        split at taken
        · rename_i length
          exact Option.some.inj taken ▸ .moves (.polled loop length)
        · contradiction
      · contradiction
  | recv bytes =>
      simp only [loopNext] at taken
      split at taken
      · rename_i index revents loop
        split at taken
        · rename_i flagged _
          exact Option.some.inj taken ▸ .moves (.skip loop flagged)
        · rename_i flagged source
          exact Option.some.inj taken ▸ .receives loop flagged source
        · contradiction
      · contradiction
  | notify target =>
      simp only [loopNext] at taken
      split at taken
      · rename_i index revents loop
        simp only [Option.bind_eq_bind, Option.bind_eq_some_iff,
          Option.some.injEq] at taken
        obtain ⟨pool, poolEq, next, notified, rfl⟩ := taken
        exact .notifies loop poolEq notified
      · contradiction

inductive WorkerStep (system : System κ) (index : Nat) : System κ → Prop
  | takes {pool task rest} (poolEq : system.pool = some pool)
      (workerEq : pool.workers[index]? = some PoolWorker.acquiring)
      (queued : pool.tasks = task :: rest) :
      WorkerStep system index
        { system with
          pool := some
            { pool.setWorker index (.executing task) with tasks := rest } }
  | moves {pool worker worker'} (poolEq : system.pool = some pool)
      (workerEq : pool.workers[index]? = some worker) (live : worker ≠ .exited)
      (idle : worker.task? = none) (idle' : worker'.task? = none)
      (leaves : worker' = .exited → pool.stop = true ∧ pool.tasks = []) :
      WorkerStep system index
        { system with pool := some (pool.setWorker index worker') }

theorem workerNext_step {index : Nat} {event : WorkerEvent}
    (taken : system.workerNext index event = some after) :
    WorkerStep system index after := by
  cases event <;>
    simp only [workerNext, Option.bind_eq_bind, Option.bind_eq_some_iff,
      Option.some.injEq] at taken <;>
    obtain ⟨pool, poolEq, next, moved, rfl⟩ := taken
  case acquire =>
    obtain ⟨worker,
        ⟨stop, empty, rfl⟩ | ⟨task, rest, queued, rfl⟩ | ⟨_, _, rfl⟩⟩ :=
      ThreadPool.acquire_cases moved
    · exact .moves poolEq worker (by simp) rfl rfl fun _ => ⟨stop, empty⟩
    · exact .takes poolEq worker queued
    · exact .moves poolEq worker (by simp) rfl rfl (by simp)
  case wake =>
    obtain ⟨worker, rfl⟩ := ThreadPool.wake_cases moved
    exact .moves poolEq worker (by simp) rfl rfl (by simp)

inductive DispatchStep (system : System κ) (thread : Thread) : System κ → Prop
  | snapshot {task} (found : system.task? thread = some task)
      (phase : task.phase = .snapshotting) :
      DispatchStep system thread
        (system.setTask
          { task with
            phase :=
              .looping (system.registry.callbacks task.message.type) } thread)
  | invoke {task callback todo} (found : system.task? thread = some task)
      (phase : task.phase = .looping (some callback :: todo)) :
      DispatchStep system thread
        ((system.setTask { task with phase := .inCallback todo }
          thread).recordInvocation task (some callback))
  | invokeEmpty {task todo} (found : system.task? thread = some task)
      (phase : task.phase = .looping (none :: todo)) :
      DispatchStep system thread
        (((system.setTask { task with phase := .inCallback todo }
          thread).recordInvocation task none).terminate
            (.uncaughtException thread))
  | returns {task todo} (found : system.task? thread = some task)
      (phase : task.phase = .inCallback todo) (idle : task.call = none) :
      DispatchStep system thread
        (system.setTask { task with phase := .looping todo } thread)
  | throws {task todo} (found : system.task? thread = some task)
      (phase : task.phase = .inCallback todo) (idle : task.call = none) :
      DispatchStep system thread (system.terminate (.uncaughtException thread))
  | finish {task after} (found : system.task? thread = some task)
      (phase : task.phase = .looping [])
      (cleared : system.clearTask thread = some after) :
      DispatchStep system thread after

theorem dispatchNext_step {thread : Thread} {event : DispatchEvent}
    (taken : system.dispatchNext thread event = some after) :
    DispatchStep system thread after := by
  cases event <;>
    simp only [dispatchNext, Option.bind_eq_bind, Option.bind_eq_some_iff,
      Prod.exists] at taken <;>
    obtain ⟨task, found, taken⟩ := taken
  case snapshot =>
    obtain ⟨phase, copied, taken⟩ := taken
    cases current : task.phase <;> rw [current] at copied
    case snapshotting =>
      obtain rfl := Option.some.inj copied
      exact Option.some.inj taken ▸ .snapshot found current
    all_goals contradiction
  case invoke =>
    obtain ⟨callback, phase, invoked, taken⟩ := taken
    unfold DispatchPhase.invoke at invoked
    split at invoked
    · rename_i head todo current
      obtain ⟨rfl, rfl⟩ := Prod.mk.inj (Option.some.inj invoked)
      cases head with
      | some callback => exact Option.some.inj taken ▸ .invoke found current
      | none => exact Option.some.inj taken ▸ .invokeEmpty found current
    · contradiction
  case returns =>
    obtain ⟨phase, returned, taken⟩ := taken
    cases current : task.phase <;> rw [current] at returned
    case inCallback todo =>
      obtain rfl := Option.some.inj returned
      split at taken
      · contradiction
      · rename_i idle
        exact Option.some.inj taken ▸ .returns found current
          (by simpa using idle)
    all_goals contradiction
  case throws =>
    obtain ⟨phase, returned, taken⟩ := taken
    cases current : task.phase <;> rw [current] at returned
    case inCallback todo =>
      split at taken
      · contradiction
      · rename_i idle
        exact Option.some.inj taken ▸ .throws found current
          (by simpa using idle)
    all_goals contradiction
  case finish =>
    split at taken
    · rename_i current
      exact .finish found current taken
    · contradiction

inductive Step (environment : Environment) (system : System κ) :
    Label κ → System κ → Prop
  | call {thread operation} (user : system.inUserCode thread = true) :
      Step environment system (.call thread operation)
        (system.setCall (some operation.entry) thread)
  | callStep {thread event phase outcome} (found : system.call? thread =
    some phase)
      (advanced : phase.advance (thread = .runLoop) system.loop.isFinished
        system.lifecycle event = some outcome) :
      Step environment system (.callStep thread event)
        (system.settleCall environment thread outcome)
  | on {registration} :
      Step environment system (.on registration)
        { system with registry := registration.apply system.registry }
  | loop {event after} (step : LoopStep environment system after) :
      Step environment system (.loop event) after
  | worker {index event after} (step : WorkerStep system index after) :
      Step environment system (.worker index event) after
  | dispatch {thread event after} (step : DispatchStep system thread after) :
      Step environment system (.dispatch thread event) after

theorem next_step {label : Label κ}
    (taken : System.next environment system label = some after) :
    Step environment system label after := by
  simp only [System.next] at taken
  split at taken
  · contradiction
  · cases label with
    | call thread operation =>
        simp only at taken
        split at taken
        · rename_i user
          exact Option.some.inj taken ▸ .call user
        · contradiction
    | callStep thread event =>
        simp only [callNext, Option.bind_eq_bind, Option.bind_eq_some_iff,
          Option.some.injEq] at taken
        obtain ⟨phase, found, outcome, advanced, rfl⟩ := taken
        exact .callStep found advanced
    | on registration => exact Option.some.inj taken ▸ .on
    | loop event => exact .loop (loopNext_step taken)
    | worker index event => exact .worker (workerNext_step taken)
    | dispatch thread event => exact .dispatch (dispatchNext_step taken)

theorem next_alive {label : Label κ}
    (taken : System.next environment system label = some after) :
    system.terminated = none := by
  simp only [System.next] at taken
  split at taken
  · contradiction
  · rename_i alive
    simpa using alive

theorem DispatchStep.ends {thread : Thread}
    (step : DispatchStep system thread after) (alive : system.terminated = none)
    (ended : after.terminated ≠ none) :
    after.terminated = some (.uncaughtException thread) ∧
      ∃ task todo, system.task? thread = some task ∧
        (task.phase = .inCallback todo ∨
          task.phase = .looping (none :: todo)) := by
  cases step with
  | snapshot | returns | invoke => simp [recordInvocation, alive] at ended
  | throws found phase => exact ⟨rfl, _, _, found, .inl phase⟩
  | invokeEmpty found phase => exact ⟨rfl, _, _, found, .inr phase⟩
  | finish _ _ cleared =>
      obtain ⟨_, _, _, _, _, rfl⟩ | ⟨_, _, _, _, _, _, rfl⟩ :=
        clearTask_cases cleared <;>
        exact absurd alive ended

end Cases

end System

end Farsounder.Subscriber
