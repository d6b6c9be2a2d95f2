import Farsounder.Subscriber.PoolMutex
import Farsounder.Subscriber.Readiness

namespace Farsounder.Subscriber

open Farsounder.Data

/-! While nobody holds `mutex_`, a pool is one whose critical sections are
single steps. -/

variable {τ : Type}

def WorkerCode.settled : WorkerCode τ → PoolWorker τ
  | waiting => .waiting
  | executing task => .executing task
  | exited => .exited
  | locking | readingStop | readingTasks | blocking | testingStop
  | testingTasks | leaving
  | moving | popping _ | unlocking _ => .acquiring

namespace PoolThread

def worker? : PoolThread τ → Option (PoolWorker τ)
  | worker code => some code.settled
  | enqueuer _ | destroyer _ => none

def isNotifyingOne : PoolThread τ → Bool
  | enqueuer .notifying => true
  | _ => false

def isNotifyingAll : PoolThread τ → Bool
  | destroyer .notifying => true
  | _ => false

/-- The destructor has set `stop_`. -/
def hasStopped : PoolThread τ → Bool
  | destroyer .locking | destroyer .storing => false
  | destroyer _ => true
  | worker _ | enqueuer _ => false

def isEnqueuing : PoolThread τ → Bool
  | enqueuer .returned => false
  | enqueuer _ => true
  | worker _ | destroyer _ => false

end PoolThread

def poolOf (data : PoolData τ) (threads : List (PoolThread τ)) :
    ThreadPool τ where
  tasks := data.tasks
  stop := data.stop
  workers := threads.filterMap PoolThread.worker?
  notifyOnePending := threads.countP PoolThread.isNotifyingOne
  notifyAllPending := threads.any PoolThread.isNotifyingAll

/-- The pool is destroyed once, and not while a member function is called. -/
structure Lifetime (data : PoolData τ) (threads : List (PoolThread τ)) :
    Prop where
  once : threads.countP PoolThread.isDestroyer ≤ 1
  stopped : data.stop = threads.any PoolThread.hasStopped
  apart : threads.any PoolThread.isDestroyer = true →
    threads.any PoolThread.isEnqueuing = false

variable {data data' : PoolData τ} {threads threads' : List (PoolThread τ)}
  {index : Nat}

/-! What becomes of the pool when one thread goes on. -/

theorem poolOf_worker {code : WorkerCode τ}
    (found : threads[index]? = some (.worker code)) :
    ∃ position, (poolOf data threads).workers[position]? = some code.settled ∧
      ∀ (data' : PoolData τ) (code' : WorkerCode τ),
        poolOf data' (threads.set index (.worker code')) =
          { (poolOf data threads).setWorker position code'.settled with
            tasks := data'.tasks, stop := data'.stop } := by
  have shows : (PoolThread.worker code).worker? = some code.settled := rfl
  obtain ⟨position, member, replaced⟩ := exists_filterMap_set found shows
  refine ⟨position, member, fun data' code' => ?_⟩
  have workers := replaced
      (show (PoolThread.worker code').worker? = some code'.settled from rfl)
  have alls :
      (threads.set index (.worker code')).any PoolThread.isNotifyingAll =
      threads.any PoolThread.isNotifyingAll := any_set found rfl
  have ones :
      (threads.set index (.worker code')).countP PoolThread.isNotifyingOne =
      threads.countP PoolThread.isNotifyingOne := countP_same found rfl
  simp only [poolOf, ThreadPool.setWorker, workers, alls, ones]

theorem poolOf_enqueuer {code : EnqueueCode τ}
    (found : threads[index]? = some (.enqueuer code)) (data data' : PoolData τ)
    (code' : EnqueueCode τ) :
    poolOf data' (threads.set index (.enqueuer code')) =
      { poolOf data threads with
        tasks := data'.tasks, stop := data'.stop
        notifyOnePending :=
          (threads.set index (.enqueuer code')).countP
            PoolThread.isNotifyingOne } := by
  have workers :
      (threads.set index (.enqueuer code')).filterMap PoolThread.worker? =
      threads.filterMap PoolThread.worker? := filterMap_set found rfl
  have alls :
      (threads.set index (.enqueuer code')).any PoolThread.isNotifyingAll =
      threads.any PoolThread.isNotifyingAll := any_set found rfl
  simp only [poolOf, workers, alls]

theorem poolOf_destroyer {code : DestroyCode}
    (found : threads[index]? = some (.destroyer code)) (data data' : PoolData τ)
    (code' : DestroyCode) :
    poolOf data' (threads.set index (.destroyer code')) =
      { poolOf data threads with
        tasks := data'.tasks, stop := data'.stop
        notifyAllPending :=
          (threads.set index (.destroyer code')).any
            PoolThread.isNotifyingAll } := by
  have workers :
      (threads.set index (.destroyer code')).filterMap PoolThread.worker? =
      threads.filterMap PoolThread.worker? := filterMap_set found rfl
  have ones :
      (threads.set index (.destroyer code')).countP PoolThread.isNotifyingOne =
      threads.countP PoolThread.isNotifyingOne := countP_same found rfl
  simp only [poolOf, workers, ones]

/-! A run of pools, with the tasks numbered. -/

/-- A run of the pool whose critical sections are single steps has led to this
one. -/
def Runs (servers : Nat) (pool : ThreadPool τ) : Prop :=
  ∃ run, Reach PoolRun.next PoolRun.EnqueuesBeforeStop (.create servers) run ∧
    run.pool.map Prod.snd = pool

theorem Runs.follow {servers : Nat} {pool after : ThreadPool τ}
    (runs : Runs servers pool) (label : PoolLabel τ)
    (followed : pool.follow label = some after) : Runs servers after := by
  obtain ⟨run, reach, rfl⟩ := runs
  rw [ThreadPool.map_follow] at followed
  obtain ⟨next, moved, rfl⟩ := Option.map_eq_some_iff.mp followed
  obtain ⟨permitted, service, taken, _⟩ := PoolRun.next_of_follow moved
  exact ⟨⟨next, service⟩, reach.step permitted taken, rfl⟩

theorem Runs.enqueue {servers : Nat} {pool : ThreadPool τ}
    (runs : Runs servers pool) (live : pool.stop = false) (task : τ) :
    Runs servers (pool.enqueue task) := by
  obtain ⟨run, reach, rfl⟩ := runs
  have permitted : run.EnqueuesBeforeStop (.enqueue task) := live
  refine ⟨_, reach.step permitted rfl, ?_⟩
  exact ThreadPool.map_enqueue _ _ _

/-! A critical section. -/

theorem Runs.worker {servers : Nat} (runs : Runs servers (poolOf data threads))
    {code : WorkerCode τ} (found : threads[index]? = some (.worker .locking))
    {after : PoolThread τ}
    (worked : PoolSection data (.worker .locking) data' (.worker code))
    (left : (PoolThread.worker code).unlock = some after) :
    Runs servers (poolOf data' (threads.set index after)) := by
  obtain ⟨position, member, moved⟩ := poolOf_worker found
  apply runs.follow (.acquire position)
  have acquiring : (poolOf data threads).workers[position]? = some .acquiring :=
    member
  have stop : (poolOf data threads).stop = data.stop := rfl
  have tasks : (poolOf data threads).tasks = data.tasks := rfl
  cases worked with
  | blocking live empty =>
      obtain rfl := Option.some.inj left
      simp [ThreadPool.follow, ThreadPool.acquire, acquiring, stop,
        tasks, moved, WorkerCode.settled, live, empty, ThreadPool.setWorker]
  | leaving stopped empty =>
      obtain rfl := Option.some.inj left
      simp [ThreadPool.follow, ThreadPool.acquire, acquiring, stop,
        tasks, moved, WorkerCode.settled, stopped, empty, ThreadPool.setWorker]
  | unlocking queued =>
      obtain rfl := Option.some.inj left
      simp [ThreadPool.follow, ThreadPool.acquire, acquiring, stop,
        tasks, moved, WorkerCode.settled, queued, ThreadPool.setWorker]
  | readingStop | readingTasks | testingStop | testingTasks | moving
  | popping => contradiction

/-! The lifetime of the pool. -/

theorem PoolThread.isDestroyer_of_hasStopped {thread : PoolThread τ}
    (stopped : thread.hasStopped = true) : thread.isDestroyer = true := by
  cases thread with
  | destroyer => rfl
  | worker | enqueuer => contradiction

theorem PoolThread.isDestroyer_of_isNotifyingAll {thread : PoolThread τ}
    (notifying : thread.isNotifyingAll = true) : thread.isDestroyer = true := by
  cases thread with
  | destroyer => rfl
  | worker | enqueuer => contradiction

theorem any_of_none {check : PoolThread τ → Bool}
    (stronger : ∀ {thread}, check thread = true → thread.isDestroyer = true)
    (none : threads.any PoolThread.isDestroyer = false) :
    threads.any check = false := by
  rw [List.any_eq_false] at none ⊢
  exact fun thread member checked => none thread member (stronger checked)

/-- While `enqueue` is called, nobody has stopped the pool. -/
theorem Lifetime.enqueuing (lifetime : Lifetime data threads)
    {thread : PoolThread τ} (found : threads[index]? = some thread)
    (enqueues : thread.isEnqueuing = true) :
    data.stop = false := by
  rw [lifetime.stopped]
  apply any_of_none PoolThread.isDestroyer_of_hasStopped
  by_contra destroyed
  have apart := lifetime.apart (by simpa using destroyed)
  simp [any_of_found found enqueues] at apart

/-- Other threads do not destroy the pool. -/
theorem Lifetime.destroyer (lifetime : Lifetime data threads)
    {code : DestroyCode} (found : threads[index]? = some (.destroyer code)) :
    ∃ earlier later,
      threads = earlier ++ .destroyer code :: later ∧
      (∀ other, threads.set index other = earlier ++ other :: later) ∧
      earlier.any PoolThread.isDestroyer = false ∧
        later.any PoolThread.isDestroyer = false := by
  obtain ⟨earlier, later, split, replaced⟩ := exists_split found
  have once := lifetime.once
  rw [split, List.countP_append, List.countP_cons_of_pos rfl] at once
  refine ⟨earlier, later, split, replaced, ?_, ?_⟩
  · rw [List.any_eq_false]
    exact List.countP_eq_zero.mp (by omega)
  · rw [List.any_eq_false]
    exact List.countP_eq_zero.mp (by omega)

theorem Lifetime.set (lifetime : Lifetime data threads)
    {thread thread' : PoolThread τ} (found : threads[index]? = some thread)
    (stop : data'.stop = data.stop)
    (destroying : thread'.isDestroyer = thread.isDestroyer)
    (stopped : thread'.hasStopped = thread.hasStopped)
    (enqueuing : thread'.isEnqueuing = true → thread.isEnqueuing = true) :
    Lifetime data' (threads.set index thread') where
  once := (countP_same found destroying).trans_le lifetime.once
  stopped := by rw [stop, any_set found stopped, lifetime.stopped]
  apart destroyed := by
    rw [any_set found destroying] at destroyed
    exact any_set_le found enqueuing (lifetime.apart destroyed)

theorem Lifetime.stores (lifetime : Lifetime data threads)
    (found : threads[index]? = some (.destroyer .locking)) :
    data.stop = false ∧
      Lifetime { data with stop := true }
        (threads.set index (.destroyer .notifying)) := by
  obtain ⟨earlier, later, rfl, replaced, before, after⟩ :=
    lifetime.destroyer found
  have live := lifetime.stopped
  simp only [List.any_append, List.any_cons,
    any_of_none PoolThread.isDestroyer_of_hasStopped before,
    any_of_none PoolThread.isDestroyer_of_hasStopped after] at live
  have destroying :
      (PoolThread.destroyer .notifying : PoolThread τ).isDestroyer =
      (PoolThread.destroyer .locking : PoolThread τ).isDestroyer := rfl
  refine ⟨live, (countP_same found destroying).trans_le lifetime.once, ?_,
    fun _ => ?_⟩
  · rw [replaced]
    simp [PoolThread.hasStopped]
  · refine any_set_le found ?_ (lifetime.apart (any_of_found found rfl))
    exact id

theorem Lifetime.critical (lifetime : Lifetime data threads)
    {start thread after : PoolThread τ} (found : threads[index]? = some start)
    (worked : PoolSection data start data' thread)
    (left : thread.unlock = some after) :
    Lifetime data' (threads.set index after) := by
  cases worked with
  | blocking | leaving | unlocking =>
      obtain rfl := Option.some.inj left
      exact lifetime.set found rfl rfl rfl id
  | emplaced =>
      obtain rfl := Option.some.inj left
      exact lifetime.set found rfl rfl rfl fun _ => rfl
  | stored =>
      obtain rfl := Option.some.inj left
      exact (lifetime.stores found).2
  | readingStop | readingTasks | testingStop | testingTasks | moving | popping
  | emplacing
  | storing => contradiction

theorem Runs.critical {servers : Nat}
    (runs : Runs servers (poolOf data threads))
    (lifetime : Lifetime data threads) {start thread after : PoolThread τ}
    (found : threads[index]? = some start)
    (worked : PoolSection data start data' thread)
    (left : thread.unlock = some after) :
    Runs servers (poolOf data' (threads.set index after)) := by
  cases start with
  | worker code =>
      cases thread with
      | worker code' =>
          obtain rfl : code = .locking := by cases worked <;> rfl
          exact runs.worker found worked left
      | enqueuer | destroyer => cases worked
  | enqueuer code =>
      cases worked with
      | emplacing => contradiction
      | @emplaced task =>
          obtain rfl := Option.some.inj left
          have queued := runs.enqueue (lifetime.enqueuing found rfl) task
          have more : (threads.set index (.enqueuer .notifying)).countP
              PoolThread.isNotifyingOne =
                threads.countP PoolThread.isNotifyingOne + 1 :=
            countP_more found rfl rfl
          rw [poolOf_enqueuer found data, more]
          exact queued
  | destroyer code =>
      cases worked with
      | storing => contradiction
      | stored =>
          obtain rfl := Option.some.inj left
          have inBounds := (List.getElem?_eq_some_iff.mp found).1
          have notifying : (threads.set index (.destroyer .notifying)).any
              PoolThread.isNotifyingAll = true :=
            any_of_found (List.getElem?_set_self inBounds) rfl
          rw [poolOf_destroyer found data, notifying]
          have live : (poolOf data threads).stop = false :=
            (lifetime.stores found).1
          apply runs.follow .requestStop
          rw [ThreadPool.follow, live]
          rfl

/-! A step without the mutex. -/

theorem PoolThread.isCalling_eq (thread : PoolThread τ) :
    thread.isCalling = (thread.isDestroyer || thread.isEnqueuing) := by
  rcases thread with code | code | code <;> cases code <;> rfl

theorem any_waiting
    (workers : (poolOf data threads).workers.any PoolWorker.isWaiting = true) :
    threads.any PoolThread.isWaiting = true := by
  obtain ⟨worker, member, waits⟩ := List.any_eq_true.mp workers
  obtain ⟨thread, listed, shows⟩ := List.mem_filterMap.mp member
  refine List.any_eq_true.mpr ⟨thread, listed, ?_⟩
  cases thread with
  | worker code =>
      obtain rfl := Option.some.inj shows
      cases code <;> first | rfl | contradiction
  | enqueuer | destroyer => contradiction

theorem map_woken_workers :
    (threads.map PoolThread.woken).filterMap PoolThread.worker? =
    (threads.filterMap PoolThread.worker?).map PoolWorker.woken := by
  rw [List.filterMap_map, List.map_filterMap]
  apply List.filterMap_congr
  intro thread _
  rcases thread with code | code | code <;> cases code <;> rfl

theorem woken_same {α : Type} {shown : PoolThread τ → α}
    (same : ∀ code, shown (.worker code) = shown (.worker .locking)) :
    shown ∘ PoolThread.woken = shown := by
  funext thread
  rcases thread with code | code | code
  · cases code <;> first | rfl | exact same _ |>.symm
  · rfl
  · rfl

theorem none_calling (idle : threads.any PoolThread.isCalling = false) :
    threads.any PoolThread.isDestroyer = false ∧
      threads.any PoolThread.isEnqueuing = false := by
  simp only [List.any_eq_false, PoolThread.isCalling_eq, Bool.or_eq_true,
    not_or] at idle ⊢
  exact ⟨fun thread member => (idle thread member).1, fun thread member =>
    (idle thread member).2⟩

theorem Lifetime.woken (lifetime : Lifetime data threads) :
    Lifetime data (threads.map PoolThread.woken) := by
  refine ⟨?_, ?_, ?_⟩
  · rw [List.countP_map, woken_same fun _ => rfl]
    exact lifetime.once
  · rw [List.any_map, woken_same fun _ => rfl]
    exact lifetime.stopped
  · rw [List.any_map, List.any_map, woken_same fun _ => rfl,
      woken_same fun _ => rfl]
    exact lifetime.apart

theorem notifying_woken
    (found : threads[index]? = some (.destroyer .notifying)) :
    (threads.map PoolThread.woken)[index]? = some (.destroyer .notifying) := by
  rw [List.getElem?_map, found]
  rfl

theorem Lifetime.outside (lifetime : Lifetime data threads)
    {event : PoolEvent τ} (step : PoolOutside threads event threads') :
    Lifetime data threads' := by
  cases step with
  | enqueues alive =>
      refine ⟨?_, ?_, fun destroyed => ?_⟩
      · simpa [PoolThread.isDestroyer] using lifetime.once
      · simpa [PoolThread.hasStopped] using lifetime.stopped
      · simp [PoolThread.isDestroyer, alive] at destroyed
  | destroys idle =>
      obtain ⟨undestroyed, unqueuing⟩ := none_calling idle
      refine ⟨?_, ?_, fun _ => ?_⟩
      · have none : threads.countP PoolThread.isDestroyer = 0 :=
          List.countP_eq_zero.mpr (List.any_eq_false.mp undestroyed)
        rw [List.countP_append, none]
        exact Nat.le_refl 1
      · simpa [PoolThread.hasStopped] using lifetime.stopped
      · simpa [PoolThread.isEnqueuing] using unqueuing
  | @notifiesOne index other found target =>
      have woken : Lifetime data (threads.set other (.worker .locking)) :=
        lifetime.set target rfl rfl rfl id
      have apart : other ≠ index := found_elsewhere target found (by simp)
      exact woken.set ((List.getElem?_set_ne apart).trans found) rfl
        rfl rfl nofun
  | notifiesNobody found => exact lifetime.set found rfl rfl rfl nofun
  | notifiesAll found =>
      exact lifetime.woken.set (notifying_woken found) rfl rfl rfl id
  | wakes found | finishes found => exact lifetime.set found rfl rfl rfl id

theorem poolOf_append {thread : PoolThread τ} (worker : thread.worker? = none)
    (one : thread.isNotifyingOne = false)
    (all : thread.isNotifyingAll = false) :
    poolOf data (threads ++ [thread]) = poolOf data threads := by
  simp [poolOf, worker, one, all]

theorem Runs.outside {servers : Nat} (runs : Runs servers (poolOf data threads))
    (lifetime : Lifetime data threads) {event : PoolEvent τ}
    (step : PoolOutside threads event threads') :
    Runs servers (poolOf data threads') := by
  cases step with
  | enqueues | destroys =>
      rw [poolOf_append rfl rfl rfl]
      exact runs
  | @notifiesOne index other found target =>
      obtain ⟨position, member, moved⟩ := poolOf_worker target
      have apart : other ≠ index := found_elsewhere target found (by simp)
      have found' : (threads.set other (.worker .locking))[index]? =
          some (.enqueuer .notifying) :=
          (List.getElem?_set_ne apart).trans found
      have waiting : (poolOf data threads).workers[position]? = some .waiting :=
        member
      have woken := moved data .locking
      have pending : (poolOf data threads).notifyOnePending =
          ((threads.set other (.worker .locking)).set index
            (.enqueuer .returned)).countP
            PoolThread.isNotifyingOne + 1 := by
        have kept :
            (threads.set other (.worker .locking)).countP
            PoolThread.isNotifyingOne =
            threads.countP PoolThread.isNotifyingOne := countP_same target rfl
        rw [← countP_less found' rfl rfl, kept]
        rfl
      apply runs.follow (.notifyOne (some position))
      rw [poolOf_enqueuer found' data, woken]
      simp only [ThreadPool.follow, ThreadPool.notifyOne, pending, waiting]
      rfl
  | @notifiesNobody index found nobody =>
      have pending : (poolOf data threads).notifyOnePending =
          (threads.set index (.enqueuer .returned)).countP
          PoolThread.isNotifyingOne + 1 :=
        countP_less found rfl rfl
      have asleep :
          (poolOf data threads).workers.any PoolWorker.isWaiting = false := by
        by_contra waits
        have waiting := any_waiting (by simpa using waits)
        simp [nobody] at waiting
      apply runs.follow (.notifyOne none)
      rw [poolOf_enqueuer found data]
      simp only [ThreadPool.follow, ThreadPool.notifyOne, pending, asleep]
      rfl
  | @notifiesAll index found =>
      obtain ⟨earlier, later, split, replaced, before, after⟩ :=
        lifetime.woken.destroyer (notifying_woken found)
      have pending : (poolOf data threads).notifyAllPending = true :=
        any_of_found found rfl
      have ones :
          (threads.map PoolThread.woken).countP PoolThread.isNotifyingOne =
          threads.countP PoolThread.isNotifyingOne := by
        rw [List.countP_map, woken_same fun _ => rfl]
      have notified :
          ((threads.map PoolThread.woken).set index (.destroyer .joining)).any
          PoolThread.isNotifyingAll = false := by
        rw [replaced, List.any_append, List.any_cons,
          any_of_none PoolThread.isDestroyer_of_isNotifyingAll before,
          any_of_none PoolThread.isDestroyer_of_isNotifyingAll after]
        rfl
      apply runs.follow .notifyAll
      rw [poolOf_destroyer (notifying_woken found) data, notified,
        ThreadPool.follow, ThreadPool.notifyAll, if_pos pending]
      simp only [poolOf, map_woken_workers, ones]
  | wakes found =>
      obtain ⟨position, member, moved⟩ := poolOf_worker found
      have waiting : (poolOf data threads).workers[position]? = some .waiting :=
        member
      apply runs.follow (.wake position)
      rw [moved, ThreadPool.follow, ThreadPool.wake, waiting]
      rfl
  | @finishes index task found =>
      obtain ⟨position, member, moved⟩ := poolOf_worker found
      have executing : (poolOf data threads).workers[position]? =
          some (.executing task) := member
      apply runs.follow (.finish position)
      rw [moved, ThreadPool.follow, ThreadPool.finish, executing]
      rfl

/-! A pool from its creation on. -/

def startedWorkers (servers : Nat) : List (PoolThread τ) :=
  List.replicate (if servers = 0 then 1 else servers) (.worker .locking)

theorem startedWorkers_quiet {servers : Nat} {thread : PoolThread τ}
    (member : thread ∈ startedWorkers servers) : thread = .worker .locking :=
  List.eq_of_mem_replicate member

theorem startedWorkers_unheld (servers : Nat) (index : Nat) :
    ¬ (poolMonitor τ).Held (startedWorkers servers) index := by
  rintro ⟨thread, found, holds⟩
  obtain rfl := startedWorkers_quiet (List.mem_of_getElem? found)
  contradiction

theorem runs_startedWorkers (servers : Nat) :
    Runs servers (poolOf ({} : PoolData τ) (startedWorkers servers)) := by
  refine ⟨_, .refl, ?_⟩
  have shows : (PoolThread.worker .locking : PoolThread τ).worker? =
      some .acquiring := rfl
  rw [PoolRun.create, ThreadPool.map_create, poolOf, startedWorkers,
    List.filterMap_replicate_of_some shows, List.countP_replicate,
    List.any_replicate]
  simp [ThreadPool.create, PoolThread.isNotifyingOne, PoolThread.isNotifyingAll]

theorem lifetime_startedWorkers (servers : Nat) :
    Lifetime ({} : PoolData τ) (startedWorkers servers) := by
  refine ⟨?_, ?_, fun destroyed => ?_⟩
  · simp [startedWorkers, List.countP_replicate, PoolThread.isDestroyer]
  · simp [startedWorkers, List.any_replicate, PoolThread.hasStopped]
  · simp [startedWorkers, List.any_replicate, PoolThread.isDestroyer]
      at destroyed

/-- As far as nobody holds the mutex, the pool runs as one with single steps. -/
theorem runs_of_atomic {servers : Nat}
    {settled : PoolData τ × List (PoolThread τ)}
    (reached : Relation.ReflTransGen (poolMonitor τ).Atomic ({},
      startedWorkers servers) settled) :
    Runs servers (poolOf settled.1 settled.2) ∧
      Lifetime settled.1 settled.2 := by
  induction reached with
  | refl => exact ⟨runs_startedWorkers servers, lifetime_startedWorkers servers⟩
  | tail _ step induction =>
      obtain ⟨runs, lifetime⟩ := induction
      cases step with
      | critical found worked left =>
          have worked := PoolSection.of_section worked
          exact ⟨runs.critical lifetime found worked left,
            lifetime.critical found worked left⟩
      | outside taken =>
          have step := PoolOutside.of_next taken
          exact ⟨runs.outside lifetime step, lifetime.outside step⟩

theorem Runs.notified {servers : Nat} {pool : ThreadPool τ}
    (runs : Runs servers pool) :
    pool.Notified ∧ pool.Drained ∧ pool.workers ≠ [] := by
  obtain ⟨run, reach, rfl⟩ := runs
  refine ⟨(ThreadPool.notified_map _).mpr (PoolRun.notified_of_reach reach), ?_,
    ?_⟩
  · intro member
    have drained := PoolRun.drained_of_reach reach
    obtain ⟨worker, listed, mapped⟩ := List.mem_map.mp member
    obtain rfl : worker = .exited := by cases worker <;> first | rfl |
        contradiction
    obtain ⟨stopped, empty⟩ := drained listed
    exact ⟨stopped, by rw [ThreadPool.map, empty, List.map_nil]⟩
  · have serves := PoolRun.serves_of_reach reach
    obtain ⟨worker, member⟩ := serves.workers_nonempty
    exact List.ne_nil_of_mem (List.mem_map_of_mem member)

/-! Somebody can go on while there is something to do. -/

/-- The steps of threads that are there, unless they wake up for no reason. -/
def GoesOn : GuardedLabel (Option τ) (PoolEvent τ) → Prop
  | .lock _ | .inside _ _ | .unlock _ | .outside (.notifyOne _ _)
  | .outside (.notifyAll _)
  | .outside (.finish _) => True
  | .outside (.enqueue _) | .outside .destroy | .outside (.wake _) => False

abbrev PoolState (τ : Type) := Guarded (PoolData τ) (PoolThread τ)

def Proceeds (state : PoolState τ) : Prop :=
  ∃ label after, GoesOn label ∧ (poolMonitor τ).next state label = some after

theorem proceeds_of_isSome {state : PoolState τ}
    (label : GuardedLabel (Option τ) (PoolEvent τ)) (ordinary : GoesOn label)
    (taken : ((poolMonitor τ).next state label).isSome) :
    Proceeds state := by
  obtain ⟨after, taken⟩ := Option.isSome_iff_exists.mp taken
  exact ⟨label, after, ordinary, taken⟩

theorem goesOn_of_atMutex {label : GuardedLabel (Option τ) (PoolEvent τ)}
    (atMutex : label.AtMutex) : GoesOn label := by
  cases label with
  | lock | inside | unlock => trivial
  | outside => contradiction

/-- Whoever holds the mutex can go on; the queue is not empty when its front is
taken. -/
theorem PoolSection.live {start thread : PoolThread τ}
    (worked : PoolSection data start data' thread) :
    (∃ after, thread.unlock = some after) ∨
      ∃ event after, thread.inside event data' = some after := by
  cases worked with
  | moving queued =>
      obtain ⟨task, rest, front⟩ := List.exists_cons_of_ne_nil queued
      refine .inr ⟨none, ?_⟩
      simp [PoolThread.inside, WorkerCode.inside, front]
  | blocking | leaving | unlocking | emplaced | stored => exact .inl ⟨_, rfl⟩
  | readingStop | readingTasks | testingStop | testingTasks | popping
  | emplacing | storing =>
      exact .inr ⟨none, _, rfl⟩

theorem worker_proceeds {code : WorkerCode τ}
    (found : threads[index]? = some (.worker code))
    (unheld : (PoolThread.worker code).holds = false) (awake : code ≠ .waiting)
    (live : code ≠ .exited) : Proceeds ⟨data, threads, false⟩ := by
  cases code with
  | locking =>
      apply proceeds_of_isSome (.lock index) trivial
      simp [Steps.next, found, poolMonitor, poolSteps, PoolThread.lock]
  | executing task =>
      apply proceeds_of_isSome (.outside (.finish index)) trivial
      simp [Steps.next, found, poolMonitor, poolSteps, PoolEvent.next]
  | waiting | exited => contradiction
  | readingStop | readingTasks | blocking | testingStop | testingTasks
  | leaving | moving
  | popping | unlocking => contradiction

theorem notifier_proceeds {thread : PoolThread τ} (member : thread ∈ threads)
    (notifies : thread.isNotifyingOne = true ∨ thread.isNotifyingAll = true) :
    Proceeds ⟨data, threads, false⟩ := by
  obtain ⟨index, found⟩ := List.mem_iff_getElem?.mp member
  rcases notifies with one | all
  · obtain rfl : thread = .enqueuer .notifying := by
      unfold PoolThread.isNotifyingOne at one
      split at one
      · rfl
      · contradiction
    by_cases waits : threads.any PoolThread.isWaiting = true
    · obtain ⟨other, listed, waiting⟩ := List.any_eq_true.mp waits
      obtain rfl : other = .worker .waiting := by
        unfold PoolThread.isWaiting at waiting
        split at waiting
        · rfl
        · contradiction
      obtain ⟨target, found'⟩ := List.mem_iff_getElem?.mp listed
      apply proceeds_of_isSome (.outside (.notifyOne index (some target)))
        trivial
      simp [Steps.next, poolMonitor, poolSteps, PoolEvent.next, found, found']
    · apply proceeds_of_isSome (.outside (.notifyOne index none)) trivial
      simp [Steps.next, poolMonitor, poolSteps, PoolEvent.next, found, waits]
  · obtain rfl : thread = .destroyer .notifying := by
      unfold PoolThread.isNotifyingAll at all
      split at all
      · rfl
      · contradiction
    apply proceeds_of_isSome (.outside (.notifyAll index)) trivial
    simp [Steps.next, poolMonitor, poolSteps, PoolEvent.next, found]

/-- A task is queued, or the pool is being destroyed and a worker has not left
yet. -/
def HasWork (state : PoolState τ) : Prop :=
  state.data.tasks ≠ [] ∨
    (state.data.stop = true ∧ ∃ code, .worker code ∈ state.threads ∧
      code ≠ .exited)

theorem Runs.proceeds {servers : Nat}
    (runs : Runs servers (poolOf data threads))
    (unheld : ∀ index, ¬ (poolMonitor τ).Held threads index)
    (work : HasWork ⟨data, threads, false⟩) :
    Proceeds ⟨data, threads, false⟩ := by
  have idle {index : Nat} {thread : PoolThread τ}
      (found : threads[index]? = some thread) :
      thread.holds = false :=
        Monitor.idle_of_none unheld (List.mem_of_getElem? found)
  obtain ⟨notified, drained, populated⟩ := runs.notified
  by_cases notifying : ∃ thread ∈ threads,
      thread.isNotifyingOne = true ∨ thread.isNotifyingAll = true
  · obtain ⟨thread, member, notifies⟩ := notifying
    exact notifier_proceeds member notifies
  · have noOne : (poolOf data threads).notifyOnePending = 0 :=
      List.countP_eq_zero.mpr fun thread member one =>
        notifying ⟨thread, member, .inl one⟩
    have noAll : (poolOf data threads).notifyAllPending = false :=
      List.any_eq_false.mpr fun thread member all =>
        notifying ⟨thread, member, .inr all⟩
    rcases work with queued | ⟨stopped, code, member, live⟩
    · obtain ⟨position, worker, worked, awake, live⟩ :=
        ThreadPool.exists_awake notified drained populated noOne queued
      obtain ⟨thread, listed, shows⟩ := List.mem_filterMap.mp
          (List.mem_of_getElem? worked)
      obtain ⟨index, found⟩ := List.mem_iff_getElem?.mp listed
      cases thread with
      | worker code =>
          obtain rfl := Option.some.inj shows
          refine worker_proceeds found (idle found) ?_ ?_
          · rintro rfl
            exact awake rfl
          · rintro rfl
            exact live rfl
      | enqueuer | destroyer => contradiction
    · obtain ⟨index, found⟩ := List.mem_iff_getElem?.mp member
      refine worker_proceeds found (idle found) ?_ live
      rintro rfl
      exact notified.stopped stopped noAll
        (List.mem_filterMap.mpr ⟨_, member, rfl⟩)

/-- It is about to call `front` or `pop`. -/
def PoolThread.takesFront : PoolThread τ → Bool
  | worker .moving | worker (.popping _) => true
  | _ => false

theorem PoolThread.holds_of_takesFront {thread : PoolThread τ}
    (takes : thread.takesFront = true) : thread.holds = true := by
  unfold PoolThread.takesFront at takes
  split at takes
  · rfl
  · rfl
  · contradiction

theorem PoolSection.queued {start thread : PoolThread τ}
    (worked : PoolSection data start data' thread)
    (takes : thread.takesFront = true) :
    data'.tasks ≠ [] := by
  cases worked with
  | moving queued => exact queued
  | popping => exact List.cons_ne_nil _ _
  | readingStop | readingTasks | blocking | testingStop | testingTasks | leaving
  | unlocking
  | emplacing | emplaced | storing | stored => contradiction

/-- The mutex does its work, down to the single accesses: no two threads are
inside at once, and what becomes of the queue and the workers is what becomes of
them if every critical section is a single step, so that all that holds of the
pool in that case holds of it.  The workers take the front only of a queue that
has one, and as long as a task is queued, or the destructor waits for a worker,
some thread can go on, without any spurious wake-up. -/
theorem pool_sections_are_atomic {servers : Nat}
    {allowed : PoolState τ → GuardedLabel (Option τ) (PoolEvent τ) → Prop}
    {state : PoolState τ}
    (reach : Reach (poolMonitor τ).next allowed ⟨{}, startedWorkers servers,
      false⟩ state) :
    (∀ first second, (poolMonitor τ).Held state.threads first →
      (poolMonitor τ).Held state.threads second → first = second) ∧
    (∃ settled, (poolMonitor τ).Behind state settled ∧
      Runs servers (poolOf settled.1 settled.2)) ∧
    (∀ thread ∈ state.threads, thread.takesFront = true →
      state.data.tasks ≠ []) ∧
    (HasWork state → Proceeds state) := by
  obtain ⟨settled, reached, behind⟩ :=
    Monitor.behind_of_reach (startedWorkers_unheld servers) reach
  obtain ⟨runs, _⟩ := runs_of_atomic reached
  refine ⟨fun _ _ => behind.exclusive, ⟨settled, behind, runs⟩, ?_,
    fun work => ?_⟩
  · intro thread member takes
    obtain ⟨index, found⟩ := List.mem_iff_getElem?.mp member
    obtain ⟨data, start, worked⟩ := behind.worked found
        (PoolThread.holds_of_takesFront takes)
    exact (PoolSection.of_section worked).queued takes
  cases behind with
  | free unheld => exact runs.proceeds unheld work
  | held unheld found worked =>
      have inBounds := (List.getElem?_eq_some_iff.mp found).1
      obtain ⟨label, after, atMutex, taken⟩ :=
        (Monitor.Behind.held unheld found worked).advances
          (fun worked => (PoolSection.of_section worked).live)
          ⟨_, List.mem_set inBounds _, .inr (Monitor.Section.holds worked).2⟩
      exact ⟨label, after, goesOn_of_atMutex atMutex, taken⟩

/-- A worker has moved the only task out of the queue, but not popped it yet. -/
def movedRun : List (GuardedLabel (Option String) (PoolEvent String)) :=
  [.outside (.enqueue "dispatch"), .lock 2, .inside 2 none, .unlock 2, .lock 1,
    .inside 1 none, .inside 1 none, .inside 1 none, .inside 1 (some "")]

theorem pool_sections_are_atomic_movedRun : ∃ state : PoolState String,
    state.data.tasks = [""] ∧
      state.threads = [.worker .locking, .worker (.popping "dispatch"),
        .enqueuer .notifying] ∧
      (∃ settled, (poolMonitor String).Behind state settled ∧
        Runs 2 (poolOf settled.1 settled.2)) ∧ Proceeds state := by
  have executed :
      (runLabels (poolMonitor String).next ⟨{}, startedWorkers 2, false⟩
      movedRun).map (fun state => (state.data.tasks, state.threads)) =
      some ([""], [.worker .locking, .worker (.popping "dispatch"),
        .enqueuer .notifying]) := by
    decide +kernel
  obtain ⟨state, run, facts⟩ := Option.map_eq_some_iff.mp executed
  obtain ⟨tasks, threads⟩ := Prod.mk.inj facts
  obtain ⟨_, refines, _, proceeds⟩ := pool_sections_are_atomic
      (reach_of_runLabels run)
  exact ⟨state, tasks, threads, refines, proceeds (.inl (by simp [tasks]))⟩

end Farsounder.Subscriber
