import Farsounder.Subscriber.PoolRun

namespace Farsounder.Subscriber

open Farsounder.Data

/-! Wake-ups of the pool's workers. -/

/-- The worker will evaluate the predicate without being notified. -/
def PoolWorker.isAcquiring {τ : Type} : PoolWorker τ → Bool
  | acquiring => true
  | _ => false

namespace ThreadPool

variable {τ : Type} {pool after : ThreadPool τ} {index : Nat}
  {worker worker' : PoolWorker τ}

def ready (pool : ThreadPool τ) : Nat :=
  pool.workers.countP PoolWorker.isAcquiring

theorem ready_setWorker (found : pool.workers[index]? = some worker)
    (worker' : PoolWorker τ) :
    (pool.setWorker index worker').ready + worker.isAcquiring.toNat =
      pool.ready + worker'.isAcquiring.toNat := by
  obtain ⟨inBounds, rfl⟩ := List.getElem?_eq_some_iff.mp found
  have counted := List.boole_getElem_le_countP
      (p := PoolWorker.isAcquiring) inBounds
  rw [ready, setWorker, List.countP_set inBounds]
  cases before : pool.workers[index].isAcquiring <;>
    cases after : worker'.isAcquiring <;>
    simp only [before, if_true, Bool.false_eq_true, if_false, Bool.toNat_true,
      Bool.toNat_false, ready] at counted ⊢ <;>
    omega

theorem waiting_of_setWorker (awake : worker' ≠ .waiting)
    (member : .waiting ∈ (pool.setWorker index worker').workers) :
    .waiting ∈ pool.workers := by
  rcases List.mem_or_eq_of_mem_set member with old | equal
  · exact old
  · exact absurd equal.symm awake

structure Notified (pool : ThreadPool τ) : Prop where
  /-- A worker stays blocked only while each queued task has a notification or
  another worker on its way. -/
  queued : .waiting ∈ pool.workers →
    pool.tasks.length ≤ pool.notifyOnePending + pool.ready
  stopped : pool.stop = true → pool.notifyAllPending = false →
    .waiting ∉ pool.workers

theorem notified_create (threads : Nat) :
    (create threads : ThreadPool τ).Notified where
  queued _ := Nat.zero_le _
  stopped stopped := absurd stopped (by simp [create])

theorem Notified.enqueue (notified : pool.Notified) (task : τ) :
    (pool.enqueue task).Notified where
  queued waiting := by
    have queued := notified.queued waiting
    simp only [ThreadPool.enqueue, ready, List.length_append,
      List.length_singleton] at queued ⊢
    omega
  stopped := notified.stopped

theorem Notified.requestStop (notified : pool.Notified) :
    pool.requestStop.Notified where
  queued := notified.queued
  stopped _ issued := absurd issued (by simp [ThreadPool.requestStop])

/-- A worker that leaves a state or blocks in none takes with it at most the
task it was ready for. -/
theorem Notified.awake (notified : pool.Notified)
    (found : pool.workers[index]? = some worker) (awake : worker' ≠ .waiting)
    (workers : after.workers = (pool.setWorker index worker').workers)
    (stop : after.stop = pool.stop)
    (issued : after.notifyAllPending = pool.notifyAllPending)
    (enough : after.tasks.length + pool.notifyOnePending +
      worker.isAcquiring.toNat ≤
      pool.tasks.length + after.notifyOnePending + worker'.isAcquiring.toNat) :
    after.Notified where
  queued waiting := by
    have queued := notified.queued
        (waiting_of_setWorker awake (workers ▸ waiting))
    have counted := ready_setWorker found worker'
    rw [ready, ← workers, ← ready] at counted
    omega
  stopped stopped settled waiting :=
    notified.stopped (stop ▸ stopped) (issued ▸ settled)
      (waiting_of_setWorker awake (workers ▸ waiting))

theorem Notified.notifyOne (notified : pool.Notified) {target : Option Nat}
    (taken : pool.notifyOne target = some after) : after.Notified := by
  obtain ⟨pending, pendingEq, ⟨index, _, found, rfl⟩ | ⟨noneWaiting, rfl⟩⟩ :=
    notifyOne_cases taken
  · have awake : (PoolWorker.acquiring : PoolWorker τ) ≠ .waiting := by simp
    refine notified.awake found awake rfl rfl rfl ?_
    simp only [setWorker, pendingEq, PoolWorker.isAcquiring, Bool.toNat_true,
      Bool.toNat_false]
    omega
  · have absent : .waiting ∉ pool.workers := fun member =>
      List.any_eq_false.mp noneWaiting _ member rfl
    exact ⟨fun waiting => absurd waiting absent, fun _ _ => absent⟩

theorem Notified.notifyAll (taken : pool.notifyAll = some after) :
    after.Notified := by
  have absent : .waiting ∉ after.workers := by
    obtain rfl := notifyAll_cases taken
    intro member
    obtain ⟨worker, _, woken⟩ := List.mem_map.mp member
    cases worker <;> simp [PoolWorker.woken] at woken
  exact ⟨fun waiting => absurd waiting absent, fun _ _ => absent⟩

end ThreadPool

namespace PoolRun

variable {τ : Type} {run after : PoolRun τ} {label : PoolLabel τ}

theorem Step.notified (step : Step run label after)
    (notified : run.pool.Notified) :
    after.pool.Notified := by
  cases step with
  | enqueues task => exact notified.enqueue _
  | notifiesOne taken => exact notified.notifyOne taken
  | stops live => exact notified.requestStop
  | notifiesAll taken => exact .notifyAll taken
  | takes found queued =>
      refine notified.awake found (by simp) rfl rfl rfl ?_
      simp only [ThreadPool.setWorker, queued, PoolWorker.isAcquiring,
        List.length_cons, Bool.toNat_true, Bool.toNat_false]
      omega
  | waits found live empty =>
      refine ⟨fun _ => ?_, fun stopped => ?_⟩
      · simp [ThreadPool.setWorker, empty]
      · simp [ThreadPool.setWorker, live] at stopped
  | exits found stopped empty =>
      refine ⟨fun _ => ?_, fun _ settled waiting => ?_⟩
      · simp [ThreadPool.setWorker, empty]
      · exact notified.stopped stopped settled
          (ThreadPool.waiting_of_setWorker (by simp) waiting)
  | wakes found =>
      refine notified.awake found (by simp) rfl rfl rfl ?_
      exact Nat.add_le_add_left (Nat.zero_le _) _
  | finishes found =>
      refine notified.awake found (by simp) rfl rfl rfl ?_
      exact Nat.add_le_add_left (Nat.zero_le _) _

theorem notified_of_reach {threads : Nat}
    {allowed : PoolRun τ → PoolLabel τ → Prop}
    (reach : Reach next allowed (create threads) run) : run.pool.Notified := by
  induction reach with
  | refl => exact ThreadPool.notified_create threads
  | step _ _ taken induction => exact (next_step taken).notified induction

/-! Workers leave an empty pool that is being destroyed, and no other. -/

theorem Step.exited (step : Step run label after) {index : Nat}
    (present : run.pool.workers[index]? ≠ some .exited)
    (gone : after.pool.workers[index]? = some .exited) :
    run.pool.stop = true ∧ run.pool.tasks = [] := by
  have replaced : ∀ {other : Nat} {worker : PoolWorker (Nat × τ)},
      (run.pool.setWorker other worker).workers[index]? = some .exited →
      worker = .exited := by
    intro other worker exited
    rw [ThreadPool.setWorker, List.getElem?_set] at exited
    split at exited
    · split at exited
      · exact Option.some.inj exited
      · contradiction
    · exact absurd exited present
  cases step with
  | enqueues | stops => exact absurd gone present
  | notifiesOne notified =>
      obtain ⟨pending, _, ⟨other, _, found, rfl⟩ | ⟨_, rfl⟩⟩ :=
        ThreadPool.notifyOne_cases notified
      · exact absurd (replaced gone) (by simp)
      · exact absurd gone present
  | notifiesAll notified =>
      obtain rfl := ThreadPool.notifyAll_cases notified
      rw [List.getElem?_map] at gone
      obtain ⟨worker, found, woken⟩ := Option.map_eq_some_iff.mp gone
      cases worker with
      | exited => exact absurd found present
      | acquiring | waiting | executing => simp [PoolWorker.woken] at woken
  | takes | waits | wakes | finishes => exact absurd (replaced gone) (by simp)
  | exits found stopped empty => exact ⟨stopped, empty⟩

theorem Step.drained (step : Step run label after)
    (permitted : run.EnqueuesBeforeStop label) (drained : run.pool.Drained) :
    after.pool.Drained := by
  cases step with
  | enqueues task =>
      intro member
      have stopped := (drained member).1
      rw [show run.pool.stop = false from permitted] at stopped
      contradiction
  | notifiesOne notified =>
      exact (ThreadPool.evolves_notifyOne notified).drained drained
  | stops live => exact fun member => ⟨rfl, (drained member).2⟩
  | notifiesAll notified =>
      exact (ThreadPool.evolves_notifyAll notified).drained drained
  | takes found queued =>
      intro member
      rcases List.mem_or_eq_of_mem_set member with old | equal
      · rw [(drained old).2] at queued
        contradiction
      · contradiction
  | waits found | wakes found | finishes found =>
      exact (ThreadPool.evolves_setWorker found (by simp) (by simp)).drained
        drained
  | exits found stopped empty =>
      exact (ThreadPool.evolves_setWorker found (by simp)
        fun _ => ⟨stopped, empty⟩).drained drained

theorem drained_of_reach {threads : Nat}
    (reach : Reach next EnqueuesBeforeStop (create threads) run) :
    run.pool.Drained := by
  induction reach with
  | refl =>
      exact fun member => absurd (List.eq_of_mem_replicate member) (by simp)
  | step _ permitted taken induction =>
      exact (next_step taken).drained permitted induction

theorem Serves.workers_nonempty {threads : Nat}
    (serves : Serves (if threads = 0 then 1 else threads) run) :
    ∃ worker, worker ∈ run.pool.workers := by
  apply List.exists_mem_of_length_pos
  rw [serves.workers]
  split <;> omega

/-- Once every worker has left, each task has been run once. -/
theorem Serves.all_exited {servers : Nat} (serves : Serves servers run)
    (drained : run.pool.Drained)
    (populated : ∃ worker, worker ∈ run.pool.workers)
    (gone : ∀ worker ∈ run.pool.workers, worker = .exited) :
    run.service.started = run.service.accepted ∧
      run.service.completed.Perm run.service.accepted := by
  obtain ⟨worker, member⟩ := populated
  have empty := (drained (gone worker member ▸ member)).2
  have idle : run.pool.running = [] := by
    rw [ThreadPool.running, List.filterMap_eq_nil_iff]
    intro worker member
    rw [gone worker member]
    rfl
  have started : run.service.accepted = run.service.started := by
    rw [serves.queued, empty, List.append_nil]
  have completed := serves.running
  rw [idle, List.append_nil] at completed
  exact ⟨started.symm, started ▸ completed.symm⟩

/-- A notification is never lost: while none is outstanding and all remaining
workers are blocked, nothing is queued, and nobody remains once the pool is
being destroyed.  A worker leaves only an empty pool that is being destroyed,
and when all have left, the tasks run are the tasks enqueued, each once. -/
theorem never_loses_wakeup {threads : Nat}
    (reach : Reach next EnqueuesBeforeStop (create threads) run) :
    (run.pool.notifyOnePending = 0 → run.pool.notifyAllPending = false →
      (∀ worker ∈ run.pool.workers,
        worker = PoolWorker.exited ∨ worker = PoolWorker.waiting) →
      run.pool.tasks = [] ∧ (run.pool.stop = true →
        ∀ worker ∈ run.pool.workers, worker = PoolWorker.exited)) ∧
    (∀ label (after : PoolRun τ) (index : Nat), next run label = some after →
      run.pool.workers[index]? ≠ some PoolWorker.exited →
      after.pool.workers[index]? = some PoolWorker.exited →
      run.pool.stop = true ∧ run.pool.tasks = []) ∧
    ((∀ worker ∈ run.pool.workers, worker = PoolWorker.exited) →
      run.service.started = run.service.accepted ∧
      run.service.completed.Perm run.service.accepted ∧
      run.service.accepted.map Prod.fst =
        List.range run.service.accepted.length) := by
  have serves := serves_of_reach reach
  have notified := notified_of_reach reach
  have drained := drained_of_reach reach
  refine ⟨fun noOne noAll asleep => ⟨?_, ?_⟩, ?_, ?_⟩
  · by_cases waiting : .waiting ∈ run.pool.workers
    · have unready : run.pool.ready = 0 := by
        rw [ThreadPool.ready, List.countP_eq_zero]
        intro worker member
        rcases asleep worker member with rfl | rfl
          <;> simp [PoolWorker.isAcquiring]
      have queued := notified.queued waiting
      rw [noOne, unready] at queued
      exact List.length_eq_zero_iff.mp (Nat.le_zero.mp queued)
    · obtain ⟨worker, member⟩ := serves.workers_nonempty
      rcases asleep worker member with rfl | rfl
      · exact (drained member).2
      · exact absurd member waiting
  · intro stopped worker member
    rcases asleep worker member with exited | rfl
    · exact exited
    · exact absurd member (notified.stopped stopped noAll)
  · exact fun label after index taken present gone =>
      (next_step taken).exited present gone
  · intro gone
    obtain ⟨started, completed⟩ :=
      serves.all_exited drained serves.workers_nonempty gone
    exact ⟨started, completed, serves.sound.numbered⟩

/-- A worker is notified of a task, runs it, and is told to leave. -/
def singleTaskRun : List (PoolLabel String) :=
  [.acquire 0, .enqueue "dispatch", .notifyOne (some 0), .acquire 0, .finish 0,
    .requestStop, .notifyAll, .acquire 0]

theorem never_loses_wakeup_singleTaskRun : ∃ run : PoolRun String,
    run.pool.workers = [.exited] ∧ run.service.started = [(0, "dispatch")] ∧
      run.service.completed.Perm [(0, "dispatch")] := by
  have executed : (runChecked next
      (fun run label => decide (run.EnqueuesBeforeStop label)) (create 0)
      singleTaskRun).map (fun run => (run.pool.workers, run.service.accepted)) =
      some ([.exited], [(0, "dispatch")]) := by
    decide +kernel
  obtain ⟨run, reach, facts⟩ := reach_of_observed executed
  obtain ⟨workers, accepted⟩ := by simpa only [Prod.mk.injEq] using facts
  obtain ⟨_, _, ran⟩ := never_loses_wakeup reach
  obtain ⟨started, completed, _⟩ := ran (by simp [workers])
  exact ⟨run, workers, started.trans accepted, accepted ▸ completed⟩

end PoolRun

end Farsounder.Subscriber
