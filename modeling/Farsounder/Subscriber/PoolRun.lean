import Farsounder.Data.Service
import Farsounder.Data.Transition
import Farsounder.Subscriber.ThreadPool

namespace Farsounder.Subscriber

open Farsounder.Data

/-! A `ThreadPool` among the threads that use it: those that call `enqueue`,
the one that destroys it, and its workers. -/

/-- A pool and what has happened to its tasks, which are numbered in the order
in which `enqueue` pushed them. -/
structure PoolRun (τ : Type) where
  pool : ThreadPool (Nat × τ)
  service : Service τ := {}
  deriving DecidableEq, Repr

/-- A critical section, a notification, a spurious wake-up, or the return of a
task. -/
inductive PoolLabel (τ : Type) where
  | enqueue (task : τ)
  | notifyOne (target : Option Nat)
  | requestStop
  | notifyAll
  | acquire (index : Nat)
  | wake (index : Nat)
  | finish (index : Nat)
  deriving DecidableEq, Repr

namespace PoolRun

variable {τ : Type}

def create (threads : Nat) : PoolRun τ where
  pool := .create threads

def next : StepFn (PoolRun τ) (PoolLabel τ) :=
  fun run label =>
    match label with
    | .enqueue task =>
        some {
          pool := run.pool.enqueue (run.service.accepted.length, task)
          service := run.service.accept task }
    | .notifyOne target =>
        (run.pool.notifyOne target).map ({ run with pool := · })
    | .requestStop =>
        -- A pool is destroyed once.
        if run.pool.stop then none
        else some { run with pool := run.pool.requestStop }
    | .notifyAll => run.pool.notifyAll.map ({ run with pool := · })
    | .acquire index => do
        let pool ← run.pool.acquire index
        let service := (pool.task? index).elim run.service run.service.start
        some { pool, service }
    | .wake index => (run.pool.wake index).map ({ run with pool := · })
    | .finish index => do
        let job ← run.pool.task? index
        let pool ← run.pool.finish index
        some { pool, service := run.service.complete job }

/-- Tasks are enqueued only before the destruction of the pool begins. -/
def EnqueuesBeforeStop (run : PoolRun τ) : PoolLabel τ → Prop
  | .enqueue _ => run.pool.stop = false
  | _ => True

instance (run : PoolRun τ) (label : PoolLabel τ) :
    Decidable (run.EnqueuesBeforeStop label) :=
  match label with
  | .enqueue _ => inferInstanceAs (Decidable (run.pool.stop = false))
  | .notifyOne _ | .requestStop | .notifyAll | .acquire _ | .wake _
  | .finish _ =>
      .isTrue trivial

/-! What a step can do. -/

inductive Step (run : PoolRun τ) : PoolLabel τ → PoolRun τ → Prop
  | enqueues (task : τ) :
      Step run (.enqueue task) {
        pool := run.pool.enqueue (run.service.accepted.length, task)
        service := run.service.accept task }
  | notifiesOne {target pool}
      (notified : run.pool.notifyOne target = some pool) :
      Step run (.notifyOne target) { run with pool }
  | stops (live : run.pool.stop = false) :
      Step run .requestStop { run with pool := run.pool.requestStop }
  | notifiesAll {pool} (notified : run.pool.notifyAll = some pool) :
      Step run .notifyAll { run with pool }
  | takes {index job rest} (found : run.pool.workers[index]? = some .acquiring)
      (queued : run.pool.tasks = job :: rest) :
      Step run (.acquire index) {
        pool := { run.pool.setWorker index (.executing job) with tasks := rest }
        service := run.service.start job }
  | waits {index} (found : run.pool.workers[index]? = some .acquiring)
      (live : run.pool.stop = false) (empty : run.pool.tasks = []) :
      Step run (.acquire index)
        { run with pool := run.pool.setWorker index .waiting }
  | exits {index} (found : run.pool.workers[index]? = some .acquiring)
      (stopped : run.pool.stop = true) (empty : run.pool.tasks = []) :
      Step run (.acquire index)
        { run with pool := run.pool.setWorker index .exited }
  | wakes {index} (found : run.pool.workers[index]? = some .waiting) :
      Step run (.wake index)
        { run with pool := run.pool.setWorker index .acquiring }
  | finishes {index job}
      (found : run.pool.workers[index]? = some (.executing job)) :
      Step run (.finish index) {
        pool := run.pool.setWorker index .acquiring
        service := run.service.complete job }

theorem next_step {run after : PoolRun τ} {label : PoolLabel τ}
    (taken : next run label = some after) : Step run label after := by
  cases label with
  | enqueue task => exact Option.some.inj taken ▸ .enqueues task
  | notifyOne target =>
      obtain ⟨pool, notified, rfl⟩ := Option.map_eq_some_iff.mp taken
      exact .notifiesOne notified
  | requestStop =>
      simp only [next] at taken
      split at taken
      · contradiction
      · rename_i live
        exact Option.some.inj taken ▸ .stops (by simpa using live)
  | notifyAll =>
      obtain ⟨pool, notified, rfl⟩ := Option.map_eq_some_iff.mp taken
      exact .notifiesAll notified
  | acquire index =>
      simp only [next, Option.bind_eq_bind, Option.bind_eq_some_iff,
        Option.some.injEq] at taken
      obtain ⟨pool, acquired, rfl⟩ := taken
      obtain ⟨found, ⟨stopped, empty, rfl⟩ | ⟨job, rest, queued, rfl⟩ |
        ⟨live, empty, rfl⟩⟩ := ThreadPool.acquire_cases acquired
      · rw [ThreadPool.task?_setWorker found, if_pos rfl]
        exact .exits found stopped empty
      · rw [show ({ run.pool.setWorker index (.executing job) with
            tasks := rest } : ThreadPool (Nat × τ)).task? index = some job from
          (ThreadPool.task?_setWorker found _ _).trans (if_pos rfl)]
        exact .takes found queued
      · rw [ThreadPool.task?_setWorker found, if_pos rfl]
        exact .waits found live empty
  | wake index =>
      obtain ⟨pool, woken, rfl⟩ := Option.map_eq_some_iff.mp taken
      obtain ⟨found, rfl⟩ := ThreadPool.wake_cases woken
      exact .wakes found
  | finish index =>
      simp only [next, Option.bind_eq_bind, Option.bind_eq_some_iff,
        Option.some.injEq] at taken
      obtain ⟨job, running, pool, finished, rfl⟩ := taken
      obtain ⟨held, found, rfl⟩ := ThreadPool.finish_cases finished
      obtain rfl : job = held := by
        rw [ThreadPool.task?_eq_some.mpr found] at running
        exact (Option.some.inj running).symm
      exact .finishes found

/-! The pool serves its tasks first come, first served. -/

structure Serves (servers : Nat) (run : PoolRun τ) : Prop where
  queued : run.service.accepted = run.service.started ++ run.pool.tasks
  running : run.service.started.Perm (run.service.completed ++ run.pool.running)
  workers : run.pool.workers.length = servers
  steps : Relation.ReflTransGen (Service.Step servers) {} run.service

variable {servers : Nat} {run after : PoolRun τ} {label : PoolLabel τ}

theorem Serves.sound (serves : Serves servers run) :
    Service.Sound servers run.service :=
  Service.sound_of_steps serves.steps

theorem Serves.moved (serves : Serves servers run) {pool : ThreadPool (Nat × τ)}
    (tasks : pool.tasks = run.pool.tasks)
    (running : pool.running.Perm run.pool.running)
    (workers : pool.workers.length = run.pool.workers.length) :
    Serves servers { run with pool } where
  queued := tasks ▸ serves.queued
  running := serves.running.trans (running.symm.append_left _)
  workers := workers.trans serves.workers
  steps := serves.steps

theorem Serves.idleWorker (serves : Serves servers run) {index : Nat}
    {worker worker' : PoolWorker (Nat × τ)}
    (found : run.pool.workers[index]? = some worker)
    (idle : worker.task? = none) (idle' : worker'.task? = none) :
    Serves servers { run with pool := run.pool.setWorker index worker' } :=
  serves.moved rfl (ThreadPool.running_setWorker_idle found idle idle')
    List.length_set

/-- The tasks that the workers run are not completed yet. -/
theorem Serves.unfinished (serves : Serves servers run) {job : Nat × τ}
    (running : job ∈ run.pool.running) :
    job ∈ run.service.started ∧ job ∉ run.service.completed := by
  have distinct := serves.running.nodup_iff.mp
    (serves.sound.accepted_nodup.sublist serves.sound.inOrder.sublist)
  refine ⟨serves.running.mem_iff.mpr (List.mem_append_right _ running), ?_⟩
  intro completed
  exact List.nodup_append.mp distinct |>.2.2 job completed job running rfl

theorem Step.serves (step : Step run label after)
    (serves : Serves servers run) :
    Serves servers after := by
  cases step with
  | enqueues task =>
      refine ⟨?_, serves.running, serves.workers,
        serves.steps.tail (.accept task)⟩
      simp [Service.accept, ThreadPool.enqueue, serves.queued]
  | notifiesOne notified =>
      obtain ⟨pending, _, ⟨index, _, found, rfl⟩ | ⟨_, rfl⟩⟩ :=
        ThreadPool.notifyOne_cases notified
      · have idle := ThreadPool.running_setWorker_idle found rfl
          (rfl : (PoolWorker.acquiring : PoolWorker (Nat × τ)).task? = none)
        exact serves.moved rfl idle List.length_set
      · exact serves.moved rfl (.refl _) rfl
  | stops live => exact serves.moved rfl (.refl _) rfl
  | notifiesAll notified =>
      obtain ⟨tasks, running, _⟩ := ThreadPool.notifyAll_tasks notified
      exact serves.moved tasks (running ▸ .refl _)
        (ThreadPool.evolves_notifyAll notified).length
  | @takes index job rest found queued =>
      obtain ⟨others, few, before, exchanged⟩ := ThreadPool.running_perm found
      have accepted :
          run.service.accepted = run.service.started ++ [job] ++ rest := by
        rw [serves.queued, queued, List.append_assoc, List.singleton_append]
      have count := serves.running.length_eq
      rw [List.length_append, before.length_eq] at count
      refine ⟨accepted, ?_, List.length_set.trans serves.workers,
        serves.steps.tail ?_⟩
      · have served : (run.service.started ++ [job]).Perm
            (run.service.completed ++ (job :: run.pool.running)) := by
          refine (serves.running.append_right [job]).trans ?_
          rw [List.append_assoc]
          exact (List.perm_append_singleton job _).append_left _
        have runs := (before.cons job).trans (exchanged (.executing job)).symm
        exact served.trans (runs.append_left _)
      · refine .start ⟨rest, accepted.symm⟩ ?_
        rw [← serves.workers]
        simp only [PoolWorker.task?, Option.toList_none, List.nil_append]
          at count
        omega
  | waits found live empty => exact serves.idleWorker found rfl rfl
  | exits found stopped empty => exact serves.idleWorker found rfl rfl
  | wakes found => exact serves.idleWorker found rfl rfl
  | @finishes index job found =>
      obtain ⟨others, _, before, exchanged⟩ := ThreadPool.running_perm found
      have running : job ∈ run.pool.running :=
        before.mem_iff.mpr (List.mem_append_left _ List.mem_cons_self)
      obtain ⟨begun, unfinished⟩ := serves.unfinished running
      refine ⟨serves.queued, ?_, List.length_set.trans serves.workers,
        serves.steps.tail (.complete begun unfinished)⟩
      have rest := (exchanged .acquiring).symm
      simp only [PoolWorker.task?, Option.toList_none, List.nil_append] at rest
      refine serves.running.trans ((before.append_left _).trans ?_)
      simp only [PoolWorker.task?, Option.toList_some, Service.complete,
        List.append_assoc]
      exact (rest.append_left _).append_left _

theorem serves_create (threads : Nat) :
    Serves (if threads = 0 then 1 else threads) (create threads : PoolRun τ)
      where
  queued := rfl
  running := by simp [create, ThreadPool.create_running]
  workers := List.length_replicate
  steps := .refl

theorem serves_of_reach {threads : Nat}
    {allowed : PoolRun τ → PoolLabel τ → Prop}
    (reach : Reach next allowed (create threads) run) :
    Serves (if threads = 0 then 1 else threads) run :=
  reach.invariant (serves_create threads) fun serves _ taken =>
    (next_step taken).serves serves

end PoolRun

end Farsounder.Subscriber
