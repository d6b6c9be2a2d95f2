import Farsounder.Subscriber.Calls

namespace Farsounder.Subscriber

open Farsounder.Data

/-! What the threads of a Subscriber have still to do, counted in steps.  Each
step of `run_loop`, of a worker or of a dispatch lowers it, but for a wake-up
and for the poll that begins the next pass. -/

variable {κ : Type}

/-- No message is passed to more callbacks than this. -/
def Registry.size (registry : Registry κ) : Nat :=
  registry.hydrophoneCallbacks.length + registry.targetCallbacks.length +
    registry.processorSettingsCallbacks.length +
    registry.vesselInfoCallbacks.length

theorem Registry.length_callbacks_le (registry : Registry κ)
    (type : Config.PubSubMessage) :
    (registry.callbacks type).length ≤ registry.size := by
  cases type <;> simp only [callbacks, size] <;> omega

def DispatchPhase.work (callbacks : Nat) : DispatchPhase κ → Nat
  | snapshotting => 2 * callbacks + 2
  | looping todo => 2 * todo.length + 1
  | inCallback todo => 2 * todo.length + 2

/-- A worker goes on to the next task when it has finished one. -/
def PoolWorker.work (callbacks : Nat) : PoolWorker (Task κ) → Nat
  | acquiring => 1
  | waiting => 0
  | executing task => task.phase.work callbacks + 1
  | exited => 0

/-- The most that a frame received from one of the sockets gives rise to. -/
def perSocket (callbacks : Nat) : Nat :=
  2 * callbacks + 8

/-- What `run_loop` has still to do before it returns, given that it is told
to. -/
def LoopPhase.work (callbacks workers sockets : Nat) : LoopPhase κ → Nat
  | absent | finished => 0
  | joiningPool index => workers - index + 1
  | notifyingAll => 2 * workers + 2
  | stoppingPool => 2 * workers + 3
  | testing => 2 * workers + 4
  | scanning index revents =>
      (revents.length - index) * perSocket callbacks + 2 * workers + 5
  | dispatching index revents task =>
      (revents.length - (index + 1)) * perSocket callbacks + 2 * workers + 5 +
        task.phase.work callbacks
  | notifying index revents =>
      (revents.length - (index + 1)) * perSocket callbacks + 2 * workers + 7
  | enqueuing index revents task =>
      (revents.length - (index + 1)) * perSocket callbacks + 2 * workers + 9 +
        task.phase.work callbacks
  | polling => sockets * perSocket callbacks + 2 * workers + 6
  | creatingPool => 12
  | connecting rest => rest.length + 13

/-- What is left of a `stop` that has made `running` false. -/
def CallPhase.work : CallPhase → Nat
  | stopStored => 2
  | stopJoining => 1
  | startEntered | startChecked | startStored | startConstructed | stopEntered
  | stopChecked => 0

namespace ThreadPool

def taskWork (callbacks : Nat) (tasks : List (Task κ)) : Nat :=
  (tasks.map fun task => task.phase.work callbacks + 1).sum

def workerWork (callbacks : Nat) (workers : List (PoolWorker (Task κ))) : Nat :=
  (workers.map (·.work callbacks)).sum

def work (callbacks : Nat) (pool : ThreadPool (Task κ)) : Nat :=
  taskWork callbacks pool.tasks + workerWork callbacks pool.workers

variable {pool after : ThreadPool (Task κ)} {index : Nat} (callbacks : Nat)

theorem workerWork_set {workers : List (PoolWorker (Task κ))}
    {worker : PoolWorker (Task κ)} (found : workers[index]? = some worker)
    (worker' : PoolWorker (Task κ)) :
    workerWork callbacks (workers.set index worker') + worker.work callbacks =
      workerWork callbacks workers + worker'.work callbacks := by
  induction workers generalizing index with
  | nil => contradiction
  | cons first rest induction =>
      cases index with
      | zero =>
          obtain rfl := Option.some.inj found
          simp only [workerWork, List.set_cons_zero, List.map_cons,
            List.sum_cons]
          omega
      | succ index =>
          have exchanged := induction found
          simp only [workerWork, List.set_cons_succ, List.map_cons,
            List.sum_cons]
            at exchanged ⊢
          omega

theorem work_setWorker {worker : PoolWorker (Task κ)}
    (found : pool.workers[index]? = some worker)
    (worker' : PoolWorker (Task κ)) :
    (pool.setWorker index worker').work callbacks + worker.work callbacks =
      pool.work callbacks + worker'.work callbacks := by
  have exchanged := workerWork_set callbacks found worker'
  simp only [work, setWorker]
  omega

theorem work_enqueue (pool : ThreadPool (Task κ)) (callbacks : Nat)
    (task : Task κ) :
    (pool.enqueue task).work callbacks =
      pool.work callbacks + task.phase.work callbacks + 1 := by
  simp only [work, taskWork, enqueue, List.map_append, List.sum_append,
    List.map_cons, List.map_nil, List.sum_cons, List.sum_nil]
  omega

theorem workerWork_woken (workers : List (PoolWorker (Task κ))) :
    workerWork callbacks (workers.map PoolWorker.woken) ≤
      workerWork callbacks workers + workers.length := by
  induction workers with
  | nil => exact Nat.le_refl _
  | cons first rest induction =>
      have one : first.woken.work callbacks ≤ first.work callbacks + 1 := by
        cases first <;> simp [PoolWorker.woken, PoolWorker.work]
      simp only [workerWork, List.map_cons, List.sum_cons, List.length_cons]
        at induction ⊢
      omega

theorem work_notifyAll (notified : pool.notifyAll = some after) :
    after.work callbacks ≤ pool.work callbacks + pool.workers.length := by
  obtain rfl := notifyAll_cases notified
  have woken := workerWork_woken callbacks pool.workers
  simp only [work]
  omega

theorem work_notifyOne {target : Option Nat}
    (notified : pool.notifyOne target = some after) :
    after.work callbacks ≤ pool.work callbacks + 1 := by
  obtain ⟨_, _, ⟨index, _, found, rfl⟩ | ⟨_, rfl⟩⟩ := notifyOne_cases notified
  · have exchanged := workerWork_set callbacks found .acquiring
    simp only [work, setWorker, PoolWorker.work] at exchanged ⊢
    omega
  · exact Nat.le_succ _

theorem work_acquire (taken : pool.acquire index = some after) :
    after.work callbacks < pool.work callbacks := by
  obtain ⟨found, ⟨_, _, rfl⟩ | ⟨task, rest, queued, rfl⟩ | ⟨_, _, rfl⟩⟩ :=
    acquire_cases taken
  · have exchanged := work_setWorker callbacks found .exited
    simp only [PoolWorker.work] at exchanged
    omega
  · have exchanged := workerWork_set callbacks found (.executing task)
    simp only [work, setWorker, queued, taskWork, List.map_cons, List.sum_cons,
      PoolWorker.work] at exchanged ⊢
    omega
  · have exchanged := work_setWorker callbacks found .waiting
    simp only [PoolWorker.work] at exchanged
    omega

end ThreadPool

namespace System

def remaining (system : System κ) : Nat :=
  system.loop.work system.registry.size (system.pool.elim 0 (·.workers.length))
      system.sockets.length +
    system.pool.elim 0 (·.work system.registry.size)

variable {environment : Environment} {system after : System κ}

theorem remaining_setTask {thread : Thread} {old : Task κ}
    (found : system.task? thread = some old) (task : Task κ) :
    (system.setTask task thread).remaining +
      old.phase.work system.registry.size =
      system.remaining + task.phase.work system.registry.size := by
  cases thread with
  | controller => contradiction
  | runLoop =>
      obtain ⟨index, revents, loop⟩ := task?_runLoop found
      simp only [remaining, setTask, loop, LoopPhase.setDispatched,
        LoopPhase.work]
      omega
  | poolWorker index =>
      obtain ⟨pool, poolEq, workerEq⟩ := task?_poolWorker found
      have exchanged := ThreadPool.work_setWorker system.registry.size workerEq
          (.executing task)
      simp only [remaining, setTask, poolEq, Option.map_some, Option.elim_some,
        ThreadPool.setWorker, List.length_set, PoolWorker.work] at exchanged ⊢
      omega

theorem perSocket_next {index length : Nat} (inside : index < length)
    (callbacks : Nat) :
    (length - index) * perSocket callbacks =
      (length - (index + 1)) * perSocket callbacks + perSocket callbacks := by
  obtain ⟨later, rfl⟩ : ∃ later, length = index + 1 + later :=
    ⟨length - (index + 1), by omega⟩
  rw [show index + 1 + later - index = later + 1 by omega,
    show index + 1 + later - (index + 1) = later by omega, Nat.succ_mul]

theorem getElem?_inside {α : Type} {list : List α} {index : Nat} {element : α}
    (found : list[index]? = some element) : index < list.length :=
  (List.getElem?_eq_some_iff.mp found).1

theorem remaining_receive {index : Nat} {revents : List Bool} {flag : Bool}
    (loop : system.loop = .scanning index revents)
    (flagged : revents[index]? = some flag)
    (type : EnumValue Config.PubSubMessage) (bytes : Wire.Bytes) :
    (system.receive environment index revents type bytes).remaining <
      system.remaining := by
  have next := perSocket_next (getElem?_inside flagged) system.registry.size
  have positive :
      perSocket system.registry.size = 2 * system.registry.size + 8 := rfl
  unfold remaining receive
  simp only [loop]
  cases decodeFrame environment.parsers type bytes with
  | none =>
      simp only [LoopPhase.work]
      omega
  | some message =>
      cases system.pool.isSome with
      | true =>
          simp only [LoopPhase.work, DispatchPhase.work, if_true]
          omega
      | false =>
          simp only [LoopPhase.work, DispatchPhase.work,
            Bool.false_eq_true, if_false]
          omega

theorem LoopMoves.remaining {loop : LoopPhase κ} (moves : system.LoopMoves loop)
    (stopped : system.loop = .testing → system.lifecycle.running = false) :
    System.remaining { system with loop } < system.remaining := by
  unfold System.remaining
  cases moves with
  | connected loop =>
      simp only [loop, LoopPhase.work, List.length_nil]
      omega
  | enter loop running =>
      rw [stopped loop] at running
      contradiction
  | leave loop | scanned loop =>
      simp only [loop, LoopPhase.work]
      omega
  | polled loop length =>
      simp only [loop, LoopPhase.work, length, Nat.sub_zero]
      omega
  | skip loop flagged =>
      have next := perSocket_next (getElem?_inside flagged) system.registry.size
      have positive :
          perSocket system.registry.size = 2 * system.registry.size + 8 := rfl
      simp only [loop, LoopPhase.work]
      omega
  | noPool loop unpooled =>
      simp only [loop, unpooled, LoopPhase.work, Option.elim_none]
      omega
  | joinedWorker loop poolEq exited =>
      have inside := getElem?_inside exited
      simp only [loop, poolEq, LoopPhase.work, Option.elim_some]
      omega

theorem LoopStep.remaining (step : LoopStep environment system after)
    (stopped : system.loop = .testing → system.lifecycle.running = false)
    (alive : after.terminated = none) : after.remaining < system.remaining := by
  cases step with
  | moves moves => exact moves.remaining stopped
  | connects loop opened =>
      simp only [System.remaining, loop, LoopPhase.work, List.length_cons]
      omega
  | createsPool loop =>
      simp [System.remaining, loop, LoopPhase.work, ThreadPool.create,
        ThreadPool.work, ThreadPool.taskWork, ThreadPool.workerWork,
        PoolWorker.work]
      omega
  | createsNoPool loop =>
      simp only [System.remaining, loop, LoopPhase.work, Option.elim_none]
      omega
  | receives loop flagged => exact remaining_receive loop flagged _ _
  | @enqueues index revents task loop =>
      cases poolEq : system.pool with
      | none =>
          simp only [System.remaining, loop, poolEq, LoopPhase.work,
            Option.map_none, Option.elim_none]
          omega
      | some pool =>
          have queued := pool.work_enqueue system.registry.size task
          have workers : (pool.enqueue task).workers = pool.workers := rfl
          simp only [System.remaining, loop, poolEq, LoopPhase.work,
            Option.map_some, Option.elim_some, workers]
          omega
  | notifies loop poolEq notified =>
      have woken := ThreadPool.work_notifyOne system.registry.size notified
      have length := (ThreadPool.evolves_notifyOne notified).length
      simp only [System.remaining, loop, poolEq, LoopPhase.work,
        Option.elim_some, length]
      omega
  | stopsPool loop poolEq =>
      simp only [System.remaining, loop, poolEq, LoopPhase.work,
        Option.elim_some, ThreadPool.requestStop, ThreadPool.work]
      omega
  | notifiesAll loop poolEq notified =>
      have woken := ThreadPool.work_notifyAll system.registry.size notified
      have length := (ThreadPool.evolves_notifyAll notified).length
      simp only [System.remaining, loop, poolEq, LoopPhase.work,
        Option.elim_some, length]
      omega
  | destroysPool loop poolEq past =>
      simp only [System.remaining, loop, poolEq, LoopPhase.work,
        Option.elim_some, Option.elim_none]
      omega
  | throws => contradiction

theorem remaining_acquire {index : Nat}
    (taken : system.workerNext index .acquire = some after) :
    after.remaining < system.remaining := by
  simp only [workerNext, Option.bind_eq_bind, Option.bind_eq_some_iff,
    Option.some.injEq] at taken
  obtain ⟨pool, poolEq, next, acquired, rfl⟩ := taken
  have lowered := ThreadPool.work_acquire system.registry.size acquired
  have length : next.workers.length = pool.workers.length := by
    obtain ⟨_, ⟨_, _, rfl⟩ | ⟨_, _, _, rfl⟩ | ⟨_, _, rfl⟩⟩ :=
      ThreadPool.acquire_cases acquired <;>
      exact List.length_set
  simp only [remaining, poolEq, Option.elim_some, length]
  omega

theorem DispatchStep.remaining {thread : Thread}
    (step : DispatchStep system thread after)
    (alive : after.terminated = none) : after.remaining < system.remaining := by
  cases step with
  | @snapshot task found phase =>
      have bounded := system.registry.length_callbacks_le task.message.type
      have exchanged := remaining_setTask found
        { task with
          phase := .looping (system.registry.callbacks task.message.type) }
      simp only [phase, DispatchPhase.work] at exchanged
      omega
  | @invoke task callback todo found phase =>
      have exchanged := remaining_setTask found
          { task with phase := .inCallback todo }
      simp only [phase, DispatchPhase.work, List.length_cons] at exchanged
      change (system.setTask _ thread).remaining < _
      omega
  | @returns task todo found phase =>
      have exchanged := remaining_setTask found
          { task with phase := .looping todo }
      simp only [phase, DispatchPhase.work] at exchanged
      omega
  | invokeEmpty | throws => contradiction
  | finish found phase cleared =>
      obtain ⟨index, revents, task, rfl, loop, rfl⟩ |
        ⟨index, pool, task, rfl, poolEq, workerEq, rfl⟩ :=
        clearTask_cases cleared
      · obtain rfl : task = _ := by
          simpa [task?, loop, LoopPhase.dispatched?] using found
        simp only [System.remaining, loop, LoopPhase.work, phase,
          DispatchPhase.work, List.length_nil]
        omega
      · obtain rfl : task = _ := by
          simpa [task?, poolEq, ThreadPool.task?, workerEq, PoolWorker.task?]
            using found
        have exchanged :=
          ThreadPool.work_setWorker system.registry.size workerEq .acquiring
        simp only [System.remaining, poolEq, Option.elim_some,
          ThreadPool.setWorker, List.length_set, PoolWorker.work, phase,
          DispatchPhase.work, List.length_nil]
          at exchanged ⊢
        omega

end System

end Farsounder.Subscriber
