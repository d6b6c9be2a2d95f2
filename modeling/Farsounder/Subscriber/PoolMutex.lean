import Farsounder.Data.Monitor
import Farsounder.Subscriber.PoolHistory

namespace Farsounder.Subscriber

open Farsounder.Data

/-! `ThreadPool` down to the single accesses of `tasks_` and `stop_`, with
`mutex_` as it is locked and unlocked. -/

variable {τ : Type}

/-- Where a worker is in `worker_loop`. -/
inductive WorkerCode (τ : Type) where
  /-- It is about to lock the mutex, at first or at the end of a wait. -/
  | locking
  /-- The predicate of the wait. -/
  | readingStop | readingTasks
  | blocking | waiting
  /-- The test after the wait. -/
  | testingStop | testingTasks
  | leaving | exited
  | moving
  | popping (task : τ)
  | unlocking (task : τ)
  | executing (task : τ)
  deriving DecidableEq, Repr

/-- Where a thread is in `enqueue`. -/
inductive EnqueueCode (τ : Type) where
  | locking (task : τ)
  | emplacing (task : τ)
  | unlocking | notifying | returned
  deriving DecidableEq, Repr

/-- Where a thread is in the destructor, up to its joins. -/
inductive DestroyCode where
  | locking | storing | unlocking | notifying | joining
  deriving DecidableEq, Repr

inductive PoolThread (τ : Type) where
  | worker (code : WorkerCode τ)
  | enqueuer (code : EnqueueCode τ)
  | destroyer (code : DestroyCode)
  deriving DecidableEq, Repr

/-- What the mutex guards. -/
structure PoolData (τ : Type) where
  tasks : List τ := []
  stop : Bool := false
  deriving DecidableEq, Repr

/-- One access in `worker_loop`.  A task that has been moved from is left in an
unspecified state. -/
def WorkerCode.inside (left : Option τ) (data : PoolData τ) :
    WorkerCode τ → Option (PoolData τ × WorkerCode τ)
  | readingStop => some (data, if data.stop then testingStop else readingTasks)
  | readingTasks =>
      some (data, if data.tasks.isEmpty then blocking else testingStop)
  | testingStop => some (data, if data.stop then testingTasks else moving)
  | testingTasks => some (data, if data.tasks.isEmpty then leaving else moving)
  | moving =>
      match data.tasks with
      | task :: rest =>
          some ({ data with tasks := left.getD task :: rest }, popping task)
      | [] => none
  | popping task =>
      match data.tasks with
      | _ :: rest => some ({ data with tasks := rest }, unlocking task)
      | [] => none
  | locking | blocking | waiting | leaving | exited | unlocking _
  | executing _ => none

namespace PoolThread

def holds : PoolThread τ → Bool
  | worker .readingStop | worker .readingTasks | worker .blocking
  | worker .testingStop
  | worker .testingTasks | worker .leaving | worker .moving
  | worker (.popping _)
  | worker (.unlocking _) | enqueuer (.emplacing _) | enqueuer .unlocking
  | destroyer .storing | destroyer .unlocking => true
  | worker .locking | worker .waiting | worker .exited | worker (.executing _)
  | enqueuer (.locking _) | enqueuer .notifying | enqueuer .returned
  | destroyer .locking | destroyer .notifying | destroyer .joining => false

def lock : PoolThread τ → Option (PoolThread τ)
  | worker .locking => some (worker .readingStop)
  | enqueuer (.locking task) => some (enqueuer (.emplacing task))
  | destroyer .locking => some (destroyer .storing)
  | _ => none

def inside (left : Option τ) (data : PoolData τ) :
    PoolThread τ → Option (PoolData τ × PoolThread τ)
  | worker code =>
  (code.inside left data).map fun (data, code) => (data, worker code)
  | enqueuer (.emplacing task) =>
      some ({ data with tasks := data.tasks ++ [task] }, enqueuer .unlocking)
  | destroyer .storing =>
      some ({ data with stop := true }, destroyer .unlocking)
  | enqueuer _ | destroyer _ => none

/-- `wait` unlocks the mutex and blocks at once. -/
def unlock : PoolThread τ → Option (PoolThread τ)
  | worker .blocking => some (worker .waiting)
  | worker .leaving => some (worker .exited)
  | worker (.unlocking task) => some (worker (.executing task))
  | enqueuer .unlocking => some (enqueuer .notifying)
  | destroyer .unlocking => some (destroyer .notifying)
  | _ => none

def isWaiting : PoolThread τ → Bool
  | worker .waiting => true
  | _ => false

def woken : PoolThread τ → PoolThread τ
  | worker .waiting => worker .locking
  | thread => thread

def isDestroyer : PoolThread τ → Bool
  | destroyer _ => true
  | worker _ | enqueuer _ => false

/-- A call of a member function that has not returned. -/
def isCalling : PoolThread τ → Bool
  | destroyer _ => true
  | enqueuer .returned => false
  | enqueuer _ => true
  | worker _ => false

end PoolThread

/-- What the threads do without the mutex. -/
inductive PoolEvent (τ : Type) where
  /-- `enqueue` is called, the destructor is. -/
  | enqueue (task : τ)
  | destroy
  | notifyOne (index : Nat) (target : Option Nat)
  | notifyAll (index : Nat)
  | wake (index : Nat)
  | finish (index : Nat)
  deriving DecidableEq, Repr

def PoolEvent.next : PoolEvent τ → List (PoolThread τ) →
      Option (List (PoolThread τ))
  | enqueue task, threads =>
      -- Nobody calls a member function of an object that is being destroyed.
      if threads.any PoolThread.isDestroyer then none
      else some (threads ++ [.enqueuer (.locking task)])
  | destroy, threads =>
      if threads.any PoolThread.isCalling then none
      else some (threads ++ [.destroyer .locking])
  | notifyOne index target, threads =>
      match threads[index]?, target with
      | some (.enqueuer .notifying), some other =>
          match threads[other]? with
          | some (.worker .waiting) =>
              some ((threads.set other (.worker .locking)).set index
                (.enqueuer .returned))
          | _ => none
      | some (.enqueuer .notifying), none =>
          if threads.any PoolThread.isWaiting then none
          else some (threads.set index (.enqueuer .returned))
      | _, _ => none
  | notifyAll index, threads =>
      match threads[index]? with
      | some (.destroyer .notifying) =>
          some ((threads.map PoolThread.woken).set index (.destroyer .joining))
      | _ => none
  | wake index, threads =>
      match threads[index]? with
      | some (.worker .waiting) => some (threads.set index (.worker .locking))
      | _ => none
  | finish index, threads =>
      match threads[index]? with
      | some (.worker (.executing _)) =>
          some (threads.set index (.worker .locking))
      | _ => none

def poolSteps (τ : Type) :
    Steps (PoolData τ) (PoolThread τ) (Option τ) (PoolEvent τ) where
  holds := PoolThread.holds
  lock := PoolThread.lock
  inside := PoolThread.inside
  unlock := PoolThread.unlock
  outside := PoolEvent.next

/-! What a thread has done since it locked the mutex. -/

inductive PoolSection (data : PoolData τ) : PoolThread τ → PoolData τ →
      PoolThread τ → Prop
  | readingStop :
  PoolSection data (.worker .locking) data (.worker .readingStop)
  | readingTasks (live : data.stop = false) :
      PoolSection data (.worker .locking) data (.worker .readingTasks)
  | blocking (live : data.stop = false) (empty : data.tasks = []) :
      PoolSection data (.worker .locking) data (.worker .blocking)
  | testingStop (awaited : data.stop = true ∨ data.tasks ≠ []) :
      PoolSection data (.worker .locking) data (.worker .testingStop)
  | testingTasks (stopped : data.stop = true) :
      PoolSection data (.worker .locking) data (.worker .testingTasks)
  | leaving (stopped : data.stop = true) (empty : data.tasks = []) :
      PoolSection data (.worker .locking) data (.worker .leaving)
  | moving (queued : data.tasks ≠ []) :
      PoolSection data (.worker .locking) data (.worker .moving)
  | popping {task rest left} (queued : data.tasks = task :: rest) :
      PoolSection data (.worker .locking) { data with tasks := left :: rest }
        (.worker (.popping task))
  | unlocking {task rest} (queued : data.tasks = task :: rest) :
      PoolSection data (.worker .locking) { data with tasks := rest }
        (.worker (.unlocking task))
  | emplacing {task} :
      PoolSection data (.enqueuer (.locking task)) data
        (.enqueuer (.emplacing task))
  | emplaced {task} :
      PoolSection data (.enqueuer (.locking task))
        { data with tasks := data.tasks ++ [task] }
        (.enqueuer .unlocking)
  | storing : PoolSection data (.destroyer .locking) data (.destroyer .storing)
  | stored : PoolSection data (.destroyer .locking) { data with stop := true }
      (.destroyer .unlocking)

theorem PoolSection.inside {data current data' : PoolData τ}
    {start thread thread' : PoolThread τ} {left : Option τ}
    (worked : PoolSection data start current thread)
    (moved : thread.inside left current = some (data', thread')) :
    PoolSection data start data' thread' := by
  cases worked with
  | readingStop =>
      obtain ⟨rfl, rfl⟩ := Prod.mk.inj (Option.some.inj moved)
      cases stop : data.stop with
      | true => exact .testingStop (.inl stop)
      | false => exact .readingTasks stop
  | readingTasks live =>
      obtain ⟨rfl, rfl⟩ := Prod.mk.inj (Option.some.inj moved)
      cases queued : data.tasks with
      | nil => exact .blocking live queued
      | cons task rest => exact .testingStop (.inr (by simp [queued]))
  | testingStop awaited =>
      obtain ⟨rfl, rfl⟩ := Prod.mk.inj (Option.some.inj moved)
      cases stop : data.stop with
      | true => exact .testingTasks stop
      | false => exact .moving (awaited.resolve_left (by simp [stop]))
  | testingTasks stopped =>
      obtain ⟨rfl, rfl⟩ := Prod.mk.inj (Option.some.inj moved)
      cases queued : data.tasks with
      | nil => exact .leaving stopped queued
      | cons task rest => exact .moving (by simp [queued])
  | moving queued =>
      cases front : data.tasks with
      | nil => exact absurd front queued
      | cons task rest =>
          simp only [PoolThread.inside, WorkerCode.inside, front,
            Option.map_some] at moved
          obtain ⟨rfl, rfl⟩ := Prod.mk.inj (Option.some.inj moved)
          exact .popping front
  | popping queued =>
      obtain ⟨rfl, rfl⟩ := Prod.mk.inj (Option.some.inj moved)
      exact .unlocking queued
  | emplacing =>
      obtain ⟨rfl, rfl⟩ := Prod.mk.inj (Option.some.inj moved)
      exact .emplaced
  | storing =>
      obtain ⟨rfl, rfl⟩ := Prod.mk.inj (Option.some.inj moved)
      exact .stored
  | blocking | leaving | unlocking | emplaced | stored => contradiction

theorem PoolSection.of_section {data data' : PoolData τ}
    {start thread : PoolThread τ}
    (worked : (poolSteps τ).Section data start data' thread) :
    PoolSection data start data' thread := by
  induction worked with
  | @locked thread locked =>
      cases start with
      | worker code =>
          cases code with
          | locking =>
              obtain rfl := Option.some.inj locked
              exact .readingStop
          | _ => contradiction
      | enqueuer code =>
          cases code with
          | locking task =>
              obtain rfl := Option.some.inj locked
              exact .emplacing
          | _ => contradiction
      | destroyer code =>
          cases code with
          | locking =>
              obtain rfl := Option.some.inj locked
              exact .storing
          | _ => contradiction
  | inside _ moved induction => exact induction.inside moved

/-- Nothing but its place in the code tells a thread that is about to lock the
mutex from one that holds it. -/
theorem PoolSection.same {data data' : PoolData τ} {start thread : PoolThread τ}
    (worked : PoolSection data start data' thread) :
    start.isWaiting = thread.isWaiting ∧
      start.isDestroyer = thread.isDestroyer ∧
      start.isCalling = thread.isCalling ∧ start.woken = start ∧
        thread.holds = true := by
  cases worked <;> exact ⟨rfl, rfl, rfl, rfl, rfl⟩

theorem PoolThread.inside_holds {left : Option τ} {data data' : PoolData τ}
    {before after : PoolThread τ}
    (moved : before.inside left data = some (data', after)) :
    before.holds = true ∧ after.holds = true := by
  cases before with
  | worker code =>
      obtain ⟨⟨_, next⟩, stepped, same⟩ := Option.map_eq_some_iff.mp moved
      obtain ⟨rfl, rfl⟩ := Prod.mk.inj same
      cases code <;> simp only [WorkerCode.inside] at stepped <;>
        grind [PoolThread.holds]
  | enqueuer code =>
      cases code with
      | emplacing task =>
          obtain ⟨_, rfl⟩ := Prod.mk.inj (Option.some.inj moved)
          exact ⟨rfl, rfl⟩
      | _ => contradiction
  | destroyer code =>
      cases code with
      | storing =>
          obtain ⟨_, rfl⟩ := Prod.mk.inj (Option.some.inj moved)
          exact ⟨rfl, rfl⟩
      | _ => contradiction

/-! What the threads do without the mutex. -/

inductive PoolOutside (threads : List (PoolThread τ)) :
    PoolEvent τ → List (PoolThread τ) → Prop
  | enqueues {task} (alive : threads.any PoolThread.isDestroyer = false) :
      PoolOutside threads (.enqueue task) (threads ++
        [.enqueuer (.locking task)])
  | destroys (idle : threads.any PoolThread.isCalling = false) :
      PoolOutside threads .destroy (threads ++ [.destroyer .locking])
  | notifiesOne {index other} (found : threads[index]? =
    some (.enqueuer .notifying)) (target : threads[other]? =
      some (.worker .waiting)) :
      PoolOutside threads (.notifyOne index (some other))
        ((threads.set other (.worker .locking)).set index (.enqueuer .returned))
  | notifiesNobody {index} (found : threads[index]? =
    some (.enqueuer .notifying)) (nobody : threads.any PoolThread.isWaiting =
      false) :
      PoolOutside threads (.notifyOne index none)
        (threads.set index (.enqueuer .returned))
  | notifiesAll {index} (found : threads[index]? =
    some (.destroyer .notifying)) :
      PoolOutside threads (.notifyAll index)
        ((threads.map PoolThread.woken).set index (.destroyer .joining))
  | wakes {index} (found : threads[index]? = some (.worker .waiting)) :
      PoolOutside threads (.wake index) (threads.set index (.worker .locking))
  | finishes {index task} (found : threads[index]? =
    some (.worker (.executing task))) :
      PoolOutside threads (.finish index) (threads.set index (.worker .locking))

variable {threads threads' : List (PoolThread τ)} {event : PoolEvent τ}

theorem PoolOutside.of_next (taken : event.next threads = some threads') :
    PoolOutside threads event threads' := by
  cases event with
  | enqueue task =>
      simp only [PoolEvent.next] at taken
      split at taken
      · contradiction
      · rename_i alive
        obtain rfl := Option.some.inj taken
        exact .enqueues (by simpa using alive)
  | destroy =>
      simp only [PoolEvent.next] at taken
      split at taken
      · contradiction
      · rename_i idle
        obtain rfl := Option.some.inj taken
        exact .destroys (by simpa using idle)
  | notifyOne index target =>
      simp only [PoolEvent.next] at taken
      split at taken
      · rename_i other found
        split at taken
        · rename_i waits
          obtain rfl := Option.some.inj taken
          exact .notifiesOne found waits
        · contradiction
      · rename_i found
        split at taken
        · contradiction
        · rename_i nobody
          obtain rfl := Option.some.inj taken
          exact .notifiesNobody found (by simpa using nobody)
      · contradiction
  | notifyAll index =>
      simp only [PoolEvent.next] at taken
      split at taken
      · rename_i found
        obtain rfl := Option.some.inj taken
        exact .notifiesAll found
      · contradiction
  | wake index =>
      simp only [PoolEvent.next] at taken
      split at taken
      · rename_i found
        obtain rfl := Option.some.inj taken
        exact .wakes found
      · contradiction
  | finish index =>
      simp only [PoolEvent.next] at taken
      split at taken
      · rename_i task found
        obtain rfl := Option.some.inj taken
        exact .finishes found
      · contradiction

theorem PoolOutside.next_eq (step : PoolOutside threads event threads') :
    event.next threads = some threads' := by
  cases step with
  | enqueues alive => simp [PoolEvent.next, alive]
  | destroys idle => simp [PoolEvent.next, idle]
  | notifiesOne found target => simp [PoolEvent.next, found, target]
  | notifiesNobody found nobody => simp [PoolEvent.next, found, nobody]
  | notifiesAll found | wakes found | finishes found =>
      simp [PoolEvent.next, found]

theorem PoolThread.woken_of_holds {thread : PoolThread τ}
    (held : thread.holds = true) :
    thread.woken = thread := by
  rcases thread with code | code | code <;> cases code <;> first | rfl |
    contradiction

theorem PoolThread.woken_holds (thread : PoolThread τ) :
    thread.woken.holds = thread.holds := by
  rcases thread with code | code | code <;> cases code <;> rfl

theorem PoolOutside.holds (step : PoolOutside threads event threads')
    {index : Nat} {thread : PoolThread τ} (held : thread.holds = true) :
    threads[index]? = some thread ↔ threads'[index]? = some thread := by
  cases step with
  | enqueues | destroys => exact holder_append rfl held
  | @notifiesOne caller other found target =>
      have apart : other ≠ caller := found_elsewhere target found (by simp)
      have found' : (threads.set other (.worker .locking))[caller]? =
          some (.enqueuer .notifying) :=
          (List.getElem?_set_ne apart).trans found
      exact (holder_set target rfl rfl held).trans
        (holder_set found' rfl rfl held)
  | notifiesNobody found | wakes found | finishes found =>
      exact holder_set found rfl rfl held
  | @notifiesAll caller found =>
      have found' : (threads.map PoolThread.woken)[caller]? =
          some (.destroyer .notifying) := by
        rw [List.getElem?_map, found]
        rfl
      exact (holder_map (fun _ =>
        PoolThread.woken_of_holds) PoolThread.woken_holds held).trans
        (holder_set found' rfl rfl held)

/-- The threads outside take no notice of who holds the mutex. -/
theorem PoolOutside.undone (step : PoolOutside threads event threads')
    {index : Nat} {start thread : PoolThread τ} {data data' : PoolData τ}
    (found : threads[index]? = some thread)
    (worked : PoolSection data start data' thread) :
    PoolOutside (threads.set index start) event (threads'.set index start) := by
  obtain ⟨waiting, destroying, calling, woken, held⟩ := worked.same
  have inBounds := (List.getElem?_eq_some_iff.mp found).1
  have apart {other : Nat} {current : PoolThread τ}
      (found' : threads[other]? = some current)
      (idle : current.holds = false) : index ≠ other := by
    apply found_elsewhere found found'
    rintro rfl
    simp [idle] at held
  have kept {other : Nat} {current : PoolThread τ}
      (found' : threads[other]? = some current)
      (idle : current.holds = false) :
      (threads.set index start)[other]? = some current :=
    (List.getElem?_set_ne (apart found' idle)).trans found'
  cases step with
  | enqueues alive =>
      rw [List.set_append_left _ _ inBounds]
      exact .enqueues (by rwa [any_set found destroying])
  | destroys idle =>
      rw [List.set_append_left _ _ inBounds]
      exact .destroys (by rwa [any_set found calling])
  | @notifiesOne caller other found' target =>
      rw [List.set_comm _ _ (apart found' rfl).symm,
        List.set_comm _ _ (apart target rfl).symm]
      exact .notifiesOne (kept found' rfl) (kept target rfl)
  | notifiesNobody found' nobody =>
      rw [List.set_comm _ _ (apart found' rfl).symm]
      exact .notifiesNobody (kept found' rfl) (by rwa [any_set found waiting])
  | notifiesAll found' =>
      rw [List.set_comm _ _ (apart found' rfl).symm]
      have mapped : (threads.map PoolThread.woken).set index start =
          (threads.set index start).map PoolThread.woken := by
        rw [List.map_set, woken]
      rw [mapped]
      exact .notifiesAll (kept found' rfl)
  | wakes found' =>
      rw [List.set_comm _ _ (apart found' rfl).symm]
      exact .wakes (kept found' rfl)
  | finishes found' =>
      rw [List.set_comm _ _ (apart found' rfl).symm]
      exact .finishes (kept found' rfl)

def poolMonitor (τ : Type) :
    Monitor (PoolData τ) (PoolThread τ) (Option τ) (PoolEvent τ) where
  toSteps := poolSteps τ
  lock_holds {before after} locked := by
    rcases before with code | code | code <;> cases code <;>
      first | contradiction | (obtain rfl := Option.some.inj locked; exact ⟨rfl,
        rfl⟩)
  inside_holds := PoolThread.inside_holds
  unlock_holds {before after} unlocked := by
    rcases before with code | code | code <;> cases code <;>
      first
        | contradiction
        | (obtain rfl := Option.some.inj unlocked; exact ⟨rfl, rfl⟩)
  outside_holds taken := (PoolOutside.of_next taken).holds
  outside_undone taken := fun found worked =>
    ((PoolOutside.of_next taken).undone found (.of_section worked)).next_eq

end Farsounder.Subscriber
