import Mathlib.Data.List.Basic

namespace Farsounder.Subscriber

/-! `ThreadPool`.  Every critical section of `mutex_` is one step; a wait
releases the mutex and blocks in the step that found the predicate false. -/

inductive PoolWorker (τ : Type) where
  /-- On its way to lock the mutex and evaluate the predicate. -/
  | acquiring
  /-- Blocked in `cv_.wait`. -/
  | waiting
  | executing (task : τ)
  | exited
  deriving DecidableEq, Repr

def PoolWorker.task? {τ : Type} : PoolWorker τ → Option τ
  | executing task => some task
  | _ => none

def PoolWorker.isWaiting {τ : Type} : PoolWorker τ → Bool
  | waiting => true
  | _ => false

def PoolWorker.woken {τ : Type} : PoolWorker τ → PoolWorker τ
  | waiting => acquiring
  | worker => worker

structure ThreadPool (τ : Type) where
  tasks : List τ := []
  stop : Bool := false
  workers : List (PoolWorker τ)
  /-- Calls of `notify_one` still to be made by an `enqueue`. -/
  notifyOnePending : Nat := 0
  /-- The destructor has still to call `notify_all`. -/
  notifyAllPending : Bool := false
  deriving DecidableEq, Repr

namespace ThreadPool

variable {τ : Type}

def create (threads : Nat) : ThreadPool τ where
  workers := List.replicate (if threads = 0 then 1 else threads) .acquiring

def task? (pool : ThreadPool τ) (index : Nat) : Option τ :=
  pool.workers[index]?.bind PoolWorker.task?

def setWorker (pool : ThreadPool τ) (index : Nat) (worker : PoolWorker τ) :
    ThreadPool τ :=
  { pool with workers := pool.workers.set index worker }

/-- The critical section of `enqueue`. -/
def enqueue (pool : ThreadPool τ) (task : τ) : ThreadPool τ :=
  { pool with
    tasks := pool.tasks ++ [task]
    notifyOnePending := pool.notifyOnePending + 1 }

/-- `notify_one` wakes some blocked worker, or nobody if none is blocked. -/
def notifyOne (pool : ThreadPool τ) (target : Option Nat) :
    Option (ThreadPool τ) :=
  match pool.notifyOnePending, target with
  | 0, _ => none
  | pending + 1, some index =>
      match pool.workers[index]? with
      | some .waiting =>
          some { pool.setWorker index .acquiring with notifyOnePending :=
            pending }
      | _ => none
  | pending + 1, none =>
      if pool.workers.any PoolWorker.isWaiting then none
      else some { pool with notifyOnePending := pending }

/-- The critical section of the destructor. -/
def requestStop (pool : ThreadPool τ) : ThreadPool τ :=
  { pool with stop := true, notifyAllPending := true }

def notifyAll (pool : ThreadPool τ) : Option (ThreadPool τ) :=
  if pool.notifyAllPending then
    some { pool with
      workers := pool.workers.map PoolWorker.woken
      notifyAllPending := false }
  else none

/-- A spurious wake-up. -/
def wake (pool : ThreadPool τ) (index : Nat) : Option (ThreadPool τ) :=
  match pool.workers[index]? with
  | some .waiting => some (pool.setWorker index .acquiring)
  | _ => none

/-- The critical section of `worker_loop`: wait, leave, or take the front
task. -/
def acquire (pool : ThreadPool τ) (index : Nat) : Option (ThreadPool τ) :=
  match pool.workers[index]? with
  | some .acquiring =>
      if pool.stop || !pool.tasks.isEmpty then
        match pool.tasks with
        | [] => some (pool.setWorker index .exited)
        | task :: rest =>
            some { pool.setWorker index (.executing task) with tasks := rest }
      else some (pool.setWorker index .waiting)
  | _ => none

/-- `task()` returned. -/
def finish (pool : ThreadPool τ) (index : Nat) : Option (ThreadPool τ) :=
  match pool.workers[index]? with
  | some (.executing _) => some (pool.setWorker index .acquiring)
  | _ => none

/-! What each operation can do. -/

theorem acquire_cases {pool after : ThreadPool τ} {index : Nat}
    (taken : pool.acquire index = some after) :
    pool.workers[index]? = some .acquiring ∧
      ((pool.stop = true ∧ pool.tasks = [] ∧
          after = pool.setWorker index .exited) ∨
        (∃ task rest, pool.tasks = task :: rest ∧
          after = { pool.setWorker index (.executing task) with tasks := rest
            }) ∨
        (pool.stop = false ∧ pool.tasks = [] ∧
          after = pool.setWorker index .waiting)) := by
  unfold acquire at taken
  split at taken
  · rename_i found
    refine ⟨found, ?_⟩
    cases queued : pool.tasks with
    | nil =>
        cases stopped : pool.stop with
        | false => simp_all
        | true => simp_all
    | cons task rest =>
        simp only [queued, List.isEmpty_cons, Bool.not_false,
          Bool.or_true, if_true, Option.some.injEq] at taken
        exact .inr (.inl ⟨task, rest, rfl, taken.symm⟩)
  · contradiction

theorem finish_cases {pool after : ThreadPool τ} {index : Nat}
    (finished : pool.finish index = some after) :
    ∃ task, pool.workers[index]? = some (.executing task) ∧
      after = pool.setWorker index .acquiring := by
  unfold finish at finished
  split at finished
  · rename_i task found
    exact ⟨task, found, (Option.some.inj finished).symm⟩
  · contradiction

theorem wake_cases {pool after : ThreadPool τ} {index : Nat}
    (woken : pool.wake index = some after) :
    pool.workers[index]? = some .waiting ∧
      after = pool.setWorker index .acquiring := by
  unfold wake at woken
  split at woken
  · rename_i found
    exact ⟨found, (Option.some.inj woken).symm⟩
  · contradiction

theorem notifyOne_cases {pool after : ThreadPool τ} {target : Option Nat}
    (notified : pool.notifyOne target = some after) :
    ∃ pending, pool.notifyOnePending = pending + 1 ∧
      ((∃ index, target = some index ∧ pool.workers[index]? = some .waiting ∧
          after = { pool.setWorker index .acquiring with
            notifyOnePending := pending }) ∨
        (pool.workers.any PoolWorker.isWaiting = false ∧
          after = { pool with notifyOnePending := pending })) := by
  unfold notifyOne at notified
  split at notified
  · contradiction
  · rename_i pending index pendingEq
    split at notified
    · rename_i found
      exact ⟨pending, pendingEq, .inl
        ⟨index, rfl, found, (Option.some.inj notified).symm⟩⟩
    · contradiction
  · rename_i pending pendingEq
    split at notified
    · contradiction
    · rename_i none
      exact ⟨pending, pendingEq, .inr
        ⟨by simpa using none, (Option.some.inj notified).symm⟩⟩

theorem notifyAll_cases {pool after : ThreadPool τ}
    (notified : pool.notifyAll = some after) :
    after = { pool with
      workers := pool.workers.map PoolWorker.woken
      notifyAllPending := false } := by
  unfold notifyAll at notified
  split at notified
  · exact (Option.some.inj notified).symm
  · contradiction

/-! The tasks that the workers are running. -/

theorem task?_eq_some {pool : ThreadPool τ} {index : Nat} {task : τ} :
    pool.task? index = some task ↔
    pool.workers[index]? = some (.executing task) := by
  rw [task?, Option.bind_eq_some_iff]
  constructor
  · rintro ⟨worker, found, running⟩
    cases worker with
    | executing held =>
        obtain rfl : held = task := Option.some.inj running
        exact found
    | acquiring | waiting | exited => contradiction
  · intro found
    exact ⟨_, found, rfl⟩

theorem task?_setWorker {pool : ThreadPool τ} {index : Nat}
    {worker : PoolWorker τ} (found : pool.workers[index]? = some worker)
    (worker' : PoolWorker τ) (other : Nat) :
    (pool.setWorker index worker').task? other =
      if index = other then worker'.task? else pool.task? other := by
  have inBounds := (List.getElem?_eq_some_iff.mp found).1
  by_cases same : index = other
  · subst same
    simp [task?, setWorker, inBounds]
  · simp [task?, setWorker, same]

def running (pool : ThreadPool τ) : List τ :=
  pool.workers.filterMap PoolWorker.task?

theorem create_running (threads : Nat) :
    (create threads : ThreadPool τ).running = [] := by
  simp [create, running, PoolWorker.task?]

theorem task?_of_running_nil {pool : ThreadPool τ} (idle : pool.running = [])
    (index : Nat) : pool.task? index = none := by
  cases running : pool.task? index with
  | none => rfl
  | some task =>
      have member := List.mem_of_getElem? (task?_eq_some.mp running)
      have := List.filterMap_eq_nil_iff.mp idle _ member
      contradiction

theorem task?_setWorker_idle {pool : ThreadPool τ} {index : Nat}
    {worker worker' : PoolWorker τ} (found : pool.workers[index]? = some worker)
    (idle : worker.task? = none) (idle' : worker'.task? = none) (other : Nat) :
    (pool.setWorker index worker').task? other = pool.task? other := by
  rw [task?_setWorker found]
  split
  · rename_i same
    rw [idle', ← same, task?, found, Option.bind_some, idle]
  · rfl

theorem running_perm {pool : ThreadPool τ} {index : Nat} {worker : PoolWorker τ}
    (found : pool.workers[index]? = some worker) :
    ∃ others : List τ, others.length + 1 ≤ pool.workers.length ∧
      pool.running.Perm (worker.task?.toList ++ others) ∧
      ∀ worker' : PoolWorker τ, (pool.setWorker index worker').running.Perm
        (worker'.task?.toList ++ others) := by
  obtain ⟨inBounds, rfl⟩ := List.getElem?_eq_some_iff.mp found
  let remaining := pool.workers.take index ++ pool.workers.drop (index + 1)
  have exchanged : ∀ worker' : PoolWorker τ,
      (pool.setWorker index worker').running.Perm
        (worker'.task?.toList ++ remaining.filterMap PoolWorker.task?) := by
    intro worker'
    have split : (pool.setWorker index worker').workers =
        pool.workers.take index ++
        worker' :: pool.workers.drop (index + 1) := by
      simp [setWorker, List.set_eq_take_append_cons_drop, inBounds]
    rw [running, split]
    cases task : worker'.task? <;> simp [remaining, task]
  refine ⟨remaining.filterMap PoolWorker.task?, ?_, ?_, exchanged⟩
  · have fewer : remaining.length + 1 = pool.workers.length := by
      simp only [remaining, List.length_append, List.length_take,
        List.length_drop]
      omega
    have filtered := List.length_filterMap_le PoolWorker.task? remaining
    omega
  · have same : pool.setWorker index pool.workers[index] = pool := by
      simp [setWorker]
    simpa only [same] using exchanged pool.workers[index]

theorem running_setWorker_idle {pool : ThreadPool τ} {index : Nat}
    {worker worker' : PoolWorker τ} (found : pool.workers[index]? = some worker)
    (idle : worker.task? = none) (idle' : worker'.task? = none) :
    (pool.setWorker index worker').running.Perm pool.running := by
  obtain ⟨others, _, before, exchanged⟩ := running_perm found
  have after := exchanged worker'
  rw [idle'] at after
  rw [idle] at before
  exact after.trans before.symm

theorem notifyAll_tasks {pool after : ThreadPool τ}
    (notified : pool.notifyAll = some after) :
    after.tasks = pool.tasks ∧ after.running = pool.running ∧
      ∀ index, after.task? index = pool.task? index := by
  have woken : ∀ worker : PoolWorker τ, worker.woken.task? = worker.task? := by
    intro worker
    cases worker <;> rfl
  obtain rfl := notifyAll_cases notified
  refine ⟨rfl, ?_, ?_⟩
  · rw [running, List.filterMap_map]
    exact List.filterMap_congr fun worker _ => woken worker
  · intro index
    cases found : pool.workers[index]? <;> simp [task?, found, woken]

/-! What no step of a worker or of a notification undoes. -/

/-- Only an empty pool that is being destroyed has lost a worker. -/
def Drained (pool : ThreadPool τ) : Prop :=
  .exited ∈ pool.workers → pool.stop = true ∧ pool.tasks = []

/-- The workers that have left stay away, and nobody else joins or stops. -/
structure Evolves (before after : ThreadPool τ) : Prop where
  stop : after.stop = before.stop
  length : after.workers.length = before.workers.length
  exited : ∀ index : Nat, before.workers[index]? = some PoolWorker.exited →
    after.workers[index]? = some PoolWorker.exited
  drained : before.Drained → after.Drained

section Evolves

variable {pool after : ThreadPool τ} {index : Nat} {worker : PoolWorker τ}

theorem Evolves.withTasks {before after after' : ThreadPool τ}
    (evolves : Evolves before after) (workers : after'.workers = after.workers)
    (stop : after'.stop = after.stop)
    (tasks : after.tasks = [] → after'.tasks = []) : Evolves before after' where
  stop := stop.trans evolves.stop
  length := workers ▸ evolves.length
  exited := workers ▸ evolves.exited
  drained drained member := by
    have ⟨stopped, empty⟩ := evolves.drained drained (workers ▸ member)
    exact ⟨stop.trans stopped, tasks empty⟩

theorem evolves_setWorker (found : pool.workers[index]? = some worker)
    (live : worker ≠ .exited) {worker' : PoolWorker τ}
    (allowed : worker' = .exited → pool.stop = true ∧ pool.tasks = []) :
    Evolves pool (pool.setWorker index worker') where
  stop := rfl
  length := List.length_set
  exited other exited := by
    have distinct : index ≠ other := by
      rintro rfl
      exact live (Option.some.inj (found.symm.trans exited))
    simpa [setWorker, distinct] using exited
  drained drained member := by
    rcases List.mem_or_eq_of_mem_set member with old | equal
    · exact drained old
    · exact allowed equal.symm

theorem evolves_notifyOne {target : Option Nat}
    (notified : pool.notifyOne target = some after) : Evolves pool after := by
  obtain ⟨pending, _, ⟨index, _, found, rfl⟩ | ⟨_, rfl⟩⟩ :=
    notifyOne_cases notified
  · have evolves : Evolves pool (pool.setWorker index .acquiring) :=
      evolves_setWorker found (by simp) (by simp)
    exact evolves.withTasks rfl rfl id
  · exact ⟨rfl, rfl, fun _ => id, id⟩

theorem evolves_notifyAll (notified : pool.notifyAll = some after) :
    Evolves pool after := by
  obtain rfl := notifyAll_cases notified
  refine ⟨rfl, List.length_map _, ?_, ?_⟩
  · intro index exited
    simp [exited, PoolWorker.woken]
  · intro drained member
    obtain ⟨worker, old, woken⟩ := List.mem_map.mp member
    cases worker with
    | exited => exact drained old
    | acquiring | waiting | executing => simp [PoolWorker.woken] at woken

end Evolves

end ThreadPool

end Farsounder.Subscriber
