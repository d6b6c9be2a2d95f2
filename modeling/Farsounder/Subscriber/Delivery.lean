import Farsounder.Subscriber.Control
import Farsounder.Subscriber.Flight

namespace Farsounder.Subscriber

open Config
open Farsounder.Data

variable {κ : Type}

/-! Every run of the system is, seen from its deliveries, a run of the flight
and so of the ledger. -/

/-- How many other dispatches can be running when a callback is invoked. -/
def Environment.overtaking (environment : Environment) : Nat :=
  match environment.config.callbackExecutor with
  | .ThreadPool => 1
  | .Inline => 0

namespace System

def running (system : System κ) : List (Task κ) :=
  system.pool.elim [] ThreadPool.running ++ system.loop.dispatched?.toList

def waiting (system : System κ) : List (Task κ) :=
  system.pool.elim [] ThreadPool.tasks ++ system.loop.unqueued?.toList

def flight (system : System κ) : Flight κ where
  registry := system.registry
  running := system.running
  waiting := system.waiting
  received := system.received
  invocations := system.invocations

variable {environment : Environment} {system after : System κ}

theorem Control.idle_flight (control : Control environment system)
    (absent : system.loop = .absent) :
    system.running = [] ∧ system.waiting = [] := by
  simp [running, waiting, control.absent_pool absent, absent,
    LoopPhase.dispatched?, LoopPhase.unqueued?]

/-! The running task of one thread among the others. -/

theorem setDispatched_unqueued? (task : Task κ) (phase : LoopPhase κ) :
    (phase.setDispatched task).unqueued? = phase.unqueued? := by
  cases phase <;> rfl

theorem setTask_waiting (task : Task κ) (thread : Thread) :
    (system.setTask task thread).waiting = system.waiting := by
  cases thread with
  | controller => rfl
  | runLoop => simp [waiting, setTask, setDispatched_unqueued?]
  | poolWorker index =>
      cases pool : system.pool <;>
        simp [waiting, setTask, pool, ThreadPool.setWorker]

theorem Control.pooled_dispatched? (control : Control environment system)
    {pool : ThreadPool (Task κ)} (found : system.pool = some pool) :
    system.loop.dispatched? = none := by
  have fits := control.fits
  cases loop : system.loop with
  | dispatching index revents task =>
      rw [loop] at fits
      obtain ⟨chosen, isOpen⟩ := fits
      rw [chosen, OpenPool, found] at isOpen
      contradiction
  | _ => rfl

theorem Control.pooled_overtaking (control : Control environment system)
    {pool : ThreadPool (Task κ)} (found : system.pool = some pool) :
    environment.overtaking = 1 := by
  have fits := control.fits
  cases executor : environment.config.callbackExecutor with
  | ThreadPool => simp [Environment.overtaking, executor]
  | Inline =>
      exfalso
      rw [executor, found] at fits
      cases loop : system.loop <;> rw [loop] at fits <;>
        simp [LoopPhase.PoolFits, OpenPool] at fits

theorem Control.running_perm (control : Control environment system)
    {thread : Thread} {task : Task κ}
    (found : system.task? thread = some task) :
    ∃ others : List (Task κ), others.length ≤ environment.overtaking ∧
      system.running.Perm (task :: others) ∧
      (∀ task', (system.setTask task' thread).running.Perm (task' :: others)) ∧
      ∀ after, system.clearTask thread = some after →
        after.running.Perm others := by
  cases thread with
  | controller => contradiction
  | runLoop =>
      obtain ⟨index, revents, loop⟩ := task?_runLoop found
      have unpooled : system.pool = none := by
        cases pool : system.pool with
        | none => rfl
        | some pool => simpa [loop, LoopPhase.dispatched?] using
            control.pooled_dispatched? pool
      refine ⟨[], Nat.zero_le _, ?_, ?_, ?_⟩
      · simp [running, unpooled, loop, LoopPhase.dispatched?]
      · intro task'
        simp [running, System.setTask, unpooled, loop, LoopPhase.setDispatched,
          LoopPhase.dispatched?]
      · intro after cleared
        simp only [System.clearTask, loop, Option.some.injEq] at cleared
        simp [← cleared, running, unpooled, LoopPhase.dispatched?]
  | poolWorker index =>
      obtain ⟨pool, poolEq, workerEq⟩ := task?_poolWorker found
      have idle := control.pooled_dispatched? poolEq
      obtain ⟨others, few, before, exchanged⟩ :=
        ThreadPool.running_perm workerEq
      refine ⟨others, ?_, ?_, ?_, ?_⟩
      · rw [control.workers pool poolEq] at few
        rw [control.pooled_overtaking poolEq]
        omega
      · simpa [running, poolEq, idle, PoolWorker.task?] using before
      · intro task'
        simpa [running, System.setTask, poolEq, idle, PoolWorker.task?] using
          exchanged (.executing task')
      · intro after cleared
        simp only [System.clearTask, poolEq, Option.bind_eq_bind,
          Option.bind_some, Option.bind_eq_some_iff,
          Option.some.injEq] at cleared
        obtain ⟨next, finished, rfl⟩ := cleared
        obtain ⟨_, _, rfl⟩ := ThreadPool.finish_cases finished
        simpa [running, idle, PoolWorker.task?] using exchanged .acquiring

/-! What each kind of step does to the flight. -/

/-- The step is one of the flight. -/
def Flies (environment : Environment) (before after : System κ) : Prop :=
  Flight.Step environment.parsers environment.overtaking before.flight
    after.flight

theorem setTask_flight (task : Task κ) (thread : Thread) :
    (system.setTask task thread).flight =
      { system.flight with running := (system.setTask task thread).running
        } := by
  simp [flight, setTask_waiting]

theorem Control.setTask_flies (control : Control environment system)
    {thread : Thread} {task task' : Task κ}
    (found : system.task? thread = some task) (frame : task'.frame = task.frame)
    (message : task'.message = task.message)
    (owed : task'.owed system.registry = task.owed system.registry) :
    Flies environment system (system.setTask task' thread) := by
  obtain ⟨others, _, before, exchanged, _⟩ := control.running_perm found
  rw [Flies, setTask_flight]
  exact .advance before (exchanged task') frame message owed

theorem Control.setCall_flies (control : Control environment system)
    (call : Option CallPhase) (thread : Thread) :
    Flies environment system (system.setCall call thread) := by
  cases thread with
  | controller => exact .stay rfl
  | runLoop | poolWorker =>
      rw [setCall_eq _ _ _ (by simp)]
      split
      · rename_i found
        exact control.setTask_flies found rfl rfl rfl
      · exact .stay rfl

theorem Flies.withLoop {middle : System κ}
    (flies : Flies environment system middle) (loop : LoopPhase κ)
    (dispatched : loop.dispatched? = middle.loop.dispatched?)
    (unqueued : loop.unqueued? = middle.loop.unqueued?) :
    Flies environment system { middle with loop } := by
  have same : ({ middle with loop } : System κ).flight = middle.flight := by
    simp [flight, running, waiting, dispatched, unqueued]
  rwa [Flies, same]

theorem Flies.refl (system : System κ) : Flies environment system system :=
  .stay rfl

theorem isFinished_tasks {phase : LoopPhase κ}
    (finished : phase.isFinished = true) :
    phase.dispatched? = none ∧ phase.unqueued? = none := by
  cases phase <;> simp_all [LoopPhase.isFinished, LoopPhase.dispatched?,
    LoopPhase.unqueued?]

theorem Control.settleCall_flies (control : Control environment system)
    {thread : Thread} {event : CallEvent} {phase : CallPhase}
    {outcome : CallOutcome}
    (advanced : phase.advance (thread = .runLoop) system.loop.isFinished
      system.lifecycle event = some outcome) :
    Flies environment system
      (system.settleCall environment thread outcome) := by
  cases outcome with
  | continues lifecycle phase' =>
      exact control.setCall_flies (some phase') thread
  | returns | throws => exact control.setCall_flies none thread
  | assigned => exact control.setCall_flies none thread
  | spawned =>
      have flies := control.setCall_flies (some .startConstructed) thread
      have free := (CallPhase.advances advanced).spawned.2
      have absent :
          (system.setCall (some .startConstructed) thread).loop = .absent :=
        (control.setCall _ thread).thread.mp (by simpa using free)
      exact flies.withLoop (.connecting environment.config.subscribe)
        (by rw [absent]; rfl) (by rw [absent]; rfl)
  | joined =>
      have flies := control.setCall_flies none thread
      obtain ⟨_, _, _, finished⟩ := (CallPhase.advances advanced).joined
      obtain ⟨dispatched, unqueued⟩ :
          (system.setCall none thread).loop.dispatched? = none ∧
            (system.setCall none thread).loop.unqueued? = none :=
        isFinished_tasks (by simpa using finished)
      exact flies.withLoop .absent (by rw [dispatched]; rfl)
        (by rw [unqueued]; rfl)
  | terminates => exact .stay rfl

theorem Flies.of_perm (registry : after.registry = system.registry)
    (running : after.running.Perm system.running)
    (waiting : after.waiting = system.waiting)
    (received : after.received = system.received)
    (invocations : after.invocations = system.invocations) :
    Flies environment system after := by
  simp only [Flies, flight, registry, waiting, received, invocations]
  exact .quiet running

theorem Control.joined_pool (control : Control environment system)
    {pool : ThreadPool (Task κ)} (found : system.pool = some pool) {index : Nat}
    (loop : system.loop = .joiningPool index)
    (past : pool.workers[index]? = none) :
    pool.running = [] ∧ pool.tasks = [] := by
  have fits := control.fits
  rw [loop, found] at fits
  obtain ⟨_, _, ⟨⟩, _, gone⟩ := fits
  have enough : pool.workers.length ≤ index := List.getElem?_eq_none_iff.mp past
  have all : ∀ worker ∈ pool.workers, worker = .exited := by
    intro worker member
    obtain ⟨other, inBounds, rfl⟩ := List.getElem_of_mem member
    have exited := gone other (Nat.lt_of_lt_of_le inBounds enough)
    rw [List.getElem?_eq_getElem inBounds] at exited
    exact Option.some.inj exited
  constructor
  · rw [ThreadPool.running, List.filterMap_eq_nil_iff]
    intro worker member
    rw [all worker member]
    rfl
  · have two := control.workers pool found
    obtain ⟨worker, member⟩ := List.exists_mem_of_length_pos
        (two ▸ Nat.zero_lt_two)
    exact (control.drained pool found (all worker member ▸ member)).2

theorem LoopMoves.tasks {loop : LoopPhase κ} (moves : system.LoopMoves loop) :
    loop.dispatched? = system.loop.dispatched? ∧
      loop.unqueued? = system.loop.unqueued? := by
  cases moves <;> simp [*, LoopPhase.dispatched?, LoopPhase.unqueued?]

theorem Flies.idleWorker {pool next : ThreadPool (Task κ)} {index : Nat}
    {worker worker' : PoolWorker (Task κ)} (found : system.pool = some pool)
    (workerEq : pool.workers[index]? = some worker) (idle : worker.task? = none)
    (idle' : worker'.task? = none)
    (workers : next.workers = (pool.setWorker index worker').workers)
    (tasks : next.tasks = pool.tasks) :
    Flies environment system { system with pool := some next } := by
  have same : next.running.Perm pool.running := by
    rw [ThreadPool.running, workers]
    exact ThreadPool.running_setWorker_idle workerEq idle idle'
  refine .of_perm rfl ?_ ?_ rfl rfl
  · simpa only [running, found, Option.elim_some] using same.append_right _
  · simp [waiting, found, tasks]

theorem Flies.receive {index : Nat} {revents : List Bool}
    (loop : system.loop = .scanning index revents)
    (type : EnumValue PubSubMessage) (bytes : Wire.Bytes) :
    Flies environment system
      (system.receive environment index revents type bytes) := by
  have before :
      system.flight = ⟨system.registry, system.pool.elim [] ThreadPool.running,
        system.pool.elim [] ThreadPool.tasks, system.received,
        system.invocations⟩ := by
    simp [flight, running, waiting, loop, LoopPhase.dispatched?,
      LoopPhase.unqueued?]
  cases decoded : decodeFrame environment.parsers type bytes with
  | none =>
      have same : (system.receive environment index revents type bytes).flight =
          { system.flight with
            received :=
              system.received ++ [⟨type, bytes, system.registry⟩] } := by
        rw [before]
        simp [flight, System.receive, decoded, running, waiting,
          LoopPhase.dispatched?, LoopPhase.unqueued?]
      rw [Flies, same]
      exact .discard decoded
  | some message =>
      cases poolEq : system.pool with
      | none =>
          have same :
              (system.receive environment index revents type bytes).flight =
              ⟨system.registry, [{ frame := system.received.length, message }],
                [], system.received ++ [⟨type, bytes, system.registry⟩],
                system.invocations⟩ := by
            simp [flight, System.receive, decoded, running, waiting, poolEq,
              LoopPhase.dispatched?, LoopPhase.unqueued?]
          rw [Flies, same, before, poolEq]
          exact .dispatch decoded
      | some pool =>
          have same :
              (system.receive environment index revents type bytes).flight =
              ⟨system.registry, pool.running,
                pool.tasks ++ [{ frame := system.received.length, message }],
                system.received ++ [⟨type, bytes, system.registry⟩],
                system.invocations⟩ := by
            simp [flight, System.receive, decoded, running, waiting, poolEq,
              LoopPhase.dispatched?, LoopPhase.unqueued?]
          rw [Flies, same, before, poolEq]
          exact .queue decoded

theorem Control.loopStep_flies (control : Control environment system)
    (step : LoopStep environment system after) :
    Flies environment system after := by
  cases step with
  | moves moves =>
      exact (Flies.refl system).withLoop _ moves.tasks.1 moves.tasks.2
  | @connects message rest socket loop opened =>
      exact (Flies.refl system).withLoop (.connecting rest) (by rw [loop]; rfl)
        (by rw [loop]; rfl)
  | createsPool loop executor =>
      have unpooled : system.pool = none := by
        have fits := control.fits
        rwa [loop] at fits
      refine .of_perm rfl ?_ ?_ rfl rfl
      · simp [running, unpooled, loop, LoopPhase.dispatched?,
          ThreadPool.create_running]
      · simp [waiting, unpooled, loop, LoopPhase.unqueued?, ThreadPool.create]
  | createsNoPool loop executor =>
      have unpooled : system.pool = none := by
        have fits := control.fits
        rwa [loop] at fits
      refine .of_perm rfl ?_ ?_ rfl rfl
      · simp [running, unpooled, loop, LoopPhase.dispatched?]
      · simp [waiting, unpooled, loop, LoopPhase.unqueued?]
  | receives loop flagged source => exact .receive loop _ _
  | @enqueues index revents task loop =>
      have fits := control.fits
      rw [loop] at fits
      obtain ⟨chosen, isOpen⟩ := fits
      rw [chosen] at isOpen
      obtain ⟨pool, poolEq, _⟩ := isOpen
      refine .of_perm rfl ?_ ?_ rfl rfl
      · simp [running, poolEq, loop, LoopPhase.dispatched?, ThreadPool.enqueue,
          ThreadPool.running]
      · simp [waiting, poolEq, loop, LoopPhase.unqueued?, ThreadPool.enqueue]
  | @notifies index revents target pool next loop poolEq notified =>
      have flies :
          Flies environment system { system with pool := some next } := by
        obtain ⟨pending, _, ⟨index, _, workerEq, rfl⟩ | ⟨_, rfl⟩⟩ :=
          ThreadPool.notifyOne_cases notified
        · exact .idleWorker poolEq workerEq rfl rfl rfl rfl
        · refine .of_perm rfl ?_ ?_ rfl rfl
          · simp [running, poolEq, ThreadPool.running]
          · simp [waiting, poolEq]
      exact flies.withLoop _ (by rw [loop]; rfl) (by rw [loop]; rfl)
  | @stopsPool pool loop poolEq =>
      refine .of_perm rfl ?_ ?_ rfl rfl
      · simp [running, poolEq, loop, LoopPhase.dispatched?,
          ThreadPool.requestStop, ThreadPool.running]
      · simp [waiting, poolEq, loop, LoopPhase.unqueued?,
          ThreadPool.requestStop]
  | @notifiesAll pool next loop poolEq notified =>
      obtain ⟨tasksEq, runningEq, _⟩ := ThreadPool.notifyAll_tasks notified
      refine .of_perm rfl ?_ ?_ rfl rfl
      · simp [running, poolEq, loop, LoopPhase.dispatched?, runningEq]
      · simp [waiting, poolEq, loop, LoopPhase.unqueued?, tasksEq]
  | @destroysPool index pool loop poolEq past =>
      obtain ⟨idle, empty⟩ := control.joined_pool poolEq loop past
      refine .of_perm rfl ?_ ?_ rfl rfl
      · simp [running, poolEq, loop, LoopPhase.dispatched?, idle]
      · simp [waiting, poolEq, loop, LoopPhase.unqueued?, empty]
  | throws => exact .refl system

theorem Flies.workerStep {index : Nat} (step : WorkerStep system index after) :
    Flies environment system after := by
  cases step with
  | @takes pool task rest poolEq workerEq queued =>
      obtain ⟨others, _, before, exchanged⟩ := ThreadPool.running_perm workerEq
      have taken : (pool.setWorker index (.executing task)).running.Perm
          (task :: pool.running) :=
        (exchanged (.executing task)).trans (before.symm.cons task)
      simp only [Flies, flight, running, waiting, poolEq,
        Option.elim_some, queued, List.cons_append]
      exact .dequeue (taken.append_right _)
  | moves poolEq workerEq _ idle idle' _ =>
      exact .idleWorker poolEq workerEq idle idle' rfl rfl

theorem recordInvocation_flight (task : Task κ) (callback : Callback κ) :
    (system.recordInvocation task callback).flight =
      { system.flight with
        invocations :=
          system.invocations ++ [(task.frame, ⟨callback, task.message⟩)] } :=
  rfl

theorem owed_withPhase {task : Task κ} {registry : Registry κ}
    {todo : List (Callback κ)} (same : task.remaining registry = todo) :
    ({ task with phase := .looping todo } : Task κ).owed registry =
      task.owed registry := by
  rw [Task.owed, Task.owed, same]
  rfl

theorem clearTask_fields {thread : Thread}
    (cleared : system.clearTask thread = some after) :
    after.registry = system.registry ∧ after.waiting = system.waiting ∧
      after.received = system.received ∧
        after.invocations = system.invocations := by
  obtain ⟨_, _, _, _, loop, rfl⟩ | ⟨_, _, _, _, poolEq, _, rfl⟩ :=
    clearTask_cases cleared
  · simp [waiting, loop, LoopPhase.unqueued?]
  · simp [waiting, poolEq, ThreadPool.setWorker]

theorem Control.invoke_flies (control : Control environment system)
    {thread : Thread} {task : Task κ} {callback : Callback κ}
    {todo : List (Callback κ)} (found : system.task? thread = some task)
    (looping : task.phase = .looping (callback :: todo)) :
    Flies environment system
      ((system.setTask { task with phase := .inCallback todo }
        thread).recordInvocation task callback) := by
  obtain ⟨others, few, before, exchanged, _⟩ := control.running_perm found
  rw [Flies, recordInvocation_flight, setTask_flight, setTask_invocations]
  exact .deliver before looping (exchanged _) few

theorem Control.dispatchStep_flies (control : Control environment system)
    {thread : Thread} (step : DispatchStep system thread after) :
    Flies environment system after := by
  cases step with
  | snapshot found phase =>
      exact control.setTask_flies found rfl rfl
        (owed_withPhase (by simp [Task.remaining, phase]))
  | returns found phase =>
      exact control.setTask_flies found rfl rfl
        (owed_withPhase (by simp [Task.remaining, phase, DispatchPhase.todo]))
  | invoke found looping | invokeEmpty found looping =>
      exact control.invoke_flies found looping
  | throws => exact .refl system
  | finish found done cleared =>
      obtain ⟨others, _, before, _, remaining⟩ := control.running_perm found
      obtain ⟨registry, waiting, received, invocations⟩ :=
        clearTask_fields cleared
      have settled := before.trans ((remaining after cleared).symm.cons _)
      simp only [Flies, flight, registry, waiting, received, invocations]
      exact .settle settled done

theorem registry_grows (registration : Registration κ) (registry : Registry κ) :
    registry.Grows (registration.apply registry) := by
  intro type
  rw [Registration.callbacks_apply]
  exact List.prefix_append _ _

/-- Whatever does not register a callback is a step of the flight. -/
theorem Control.flies_or_registers (control : Control environment system)
    {label : Label κ} (step : Step environment system label after) :
    Flies environment system after ∨ ∃ registration : Registration κ,
      label = .on registration ∧
        after =
          { system with registry := registration.apply system.registry } := by
  cases step with
  | call user => exact .inl (control.setCall_flies _ _)
  | callStep found advanced => exact .inl (control.settleCall_flies advanced)
  | @on registration => exact .inr ⟨registration, rfl, rfl⟩
  | loop step => exact .inl (control.loopStep_flies step)
  | worker step => exact .inl (.workerStep step)
  | dispatch step => exact .inl (control.dispatchStep_flies step)

/-- Callbacks are registered only while no worker thread exists. -/
def RegistersWhileIdle (system : System κ) : Label κ → Prop
  | .on _ => system.loop = .absent
  | _ => True

theorem Control.step_flies (control : Control environment system)
    {label : Label κ} (permitted : RegistersWhileIdle system label)
    (step : Step environment system label after) :
    Flies environment system after := by
  rcases control.flies_or_registers step with flies | ⟨registration, rfl, rfl⟩
  · exact flies
  · obtain ⟨noneRunning, noneWaiting⟩ := control.idle_flight permitted
    have before : system.flight =
        ⟨system.registry, [], [], system.received, system.invocations⟩ := by
      simp [flight, noneRunning, noneWaiting]
    rw [Flies, before]
    simp only [flight, running, waiting] at noneRunning noneWaiting ⊢
    rw [noneRunning, noneWaiting]
    exact .register (registry_grows registration _)

/-! Runs of the system as runs of the ledger. -/

def ledger (environment : Environment) (system : System κ) :
    Ledger (Invocation κ) :=
  system.flight.ledger environment.parsers

theorem ordered_initial : ({} : System κ).flight.Ordered :=
  ⟨.nil, by
    simp [flight, running, waiting, LoopPhase.dispatched?, LoopPhase.unqueued?],
      by simp [flight, running, waiting, LoopPhase.dispatched?,
        LoopPhase.unqueued?]⟩

section Runs

variable {allowed : System κ → Label κ → Prop}
  (idle : ∀ system label, allowed system label →
    RegistersWhileIdle system label)
    (reach : Reach (System.next environment) allowed {} system)

include idle reach

theorem ordered_of_reach : system.flight.Ordered := by
  refine @Reach.invariant_of _ _ _ _ _ _ (Control environment)
    (·.flight.Ordered)
    ordered_initial control_of_reach ?_ reach
  intro before after label control ordered permitted taken
  exact (control.step_flies (idle _ _ permitted) (next_step taken)).ordered
    ordered

theorem ledger_of_reach :
    Relation.ReflTransGen (Ledger.Step environment.overtaking) Ledger.empty
      (system.ledger environment) := by
  have known : ∀ {reached : System κ},
      Reach (System.next environment) allowed {} reached →
      Control environment reached ∧ reached.flight.Ordered :=
    fun reached => ⟨control_of_reach reached, ordered_of_reach idle reached⟩
  change Relation.ReflTransGen _ (ledger environment {})
    (ledger environment system)
  refine reach.simulates known ?_
  intro before after label ⟨control, ordered⟩ permitted taken
  exact .single
    ((control.step_flies (idle _ _ permitted) (next_step taken)).ledger ordered)

end Runs

end System

end Farsounder.Subscriber
