import Farsounder.Subscriber.PoolHistory

namespace Farsounder.Subscriber

open Farsounder.Data

/-! How far the tasks of a pool can overtake each other. -/

namespace PoolRun

variable {τ : Type} {servers : Nat} {run : PoolRun τ}

theorem Serves.accepted_perm (serves : Serves servers run) :
    run.service.accepted.Perm
      (run.service.completed ++ (run.pool.running ++ run.pool.tasks)) := by
  rw [serves.queued, ← List.append_assoc]
  exact serves.running.append_right _

/-- While a worker runs a job, fewer than `servers` of the jobs queued before it
have not been completed. -/
theorem Serves.overtaken_lt (serves : Serves servers run) {job : Nat × τ}
    (running : job ∈ run.pool.running) :
    (run.service.unfinishedBefore job.1).length < servers := by
  obtain ⟨begun, unfinished⟩ := serves.unfinished running
  exact serves.sound.overtaken_lt begun unfinished

/-- In a list of jobs with ascending values, those with smaller values have
smaller numbers. -/
theorem Serves.number_lt {run : PoolRun Nat} (serves : Serves servers run)
    (ascending : (run.service.accepted.map Prod.snd).Pairwise (· < ·))
    {job other : Nat × Nat} (queued : job ∈ run.service.accepted)
    (queued' : other ∈ run.service.accepted) (smaller : other.2 < job.2) :
    other.1 < job.1 := by
  obtain ⟨index, inBounds, rfl⟩ := List.getElem_of_mem queued
  obtain ⟨index', inBounds', rfl⟩ := List.getElem_of_mem queued'
  rw [serves.sound.number (List.getElem?_eq_getElem inBounds),
    serves.sound.number (List.getElem?_eq_getElem inBounds')]
  by_contra late
  rcases Nat.eq_or_lt_of_le (Nat.le_of_not_lt late) with rfl | after
  · exact Nat.lt_irrefl _ smaller
  · have larger := List.pairwise_iff_getElem.mp (List.pairwise_map.mp ascending)
      index index' inBounds inBounds' after
    exact Nat.lt_asymm smaller larger

/-- The jobs in flight with smaller values than a running one are among those
queued before it. -/
theorem Serves.inFlight_overtaken {run : PoolRun Nat}
    (serves : Serves servers run)
    (ascending : (run.service.accepted.map Prod.snd).Pairwise (· < ·))
    {job : Nat × Nat} (running : job ∈ run.pool.running) :
    ((run.pool.running ++ run.pool.tasks).filter (·.2 < job.2)).length <
      servers := by
  have perm := serves.accepted_perm
  have distinct := List.nodup_append.mp
    (perm.nodup_iff.mp serves.sound.accepted_nodup)
  have queued : ∀ other ∈ run.pool.running ++ run.pool.tasks,
      other ∈ run.service.accepted := fun other member =>
    perm.mem_iff.mpr (List.mem_append_right _ member)
  have included : (run.pool.running ++ run.pool.tasks).filter (·.2 < job.2) ⊆
      run.service.unfinishedBefore job.1 := by
    intro other member
    obtain ⟨inFlight, smaller⟩ := List.mem_filter.mp member
    have earlier := serves.number_lt ascending
      (queued job (List.mem_append_left _ running)) (queued other inFlight)
      (of_decide_eq_true smaller)
    simp only [Service.unfinishedBefore, List.mem_filter, decide_eq_true_eq]
    refine ⟨queued other inFlight, earlier, fun completed => ?_⟩
    obtain ⟨same, completedMember, equal⟩ := List.mem_map.mp completed
    have identical := serves.sound.job_ext
      (perm.mem_iff.mpr (List.mem_append_left _ completedMember))
        (queued other inFlight)
      equal
    exact distinct.2.2 same completedMember other inFlight identical
  exact Nat.lt_of_le_of_lt ((distinct.2.1.filter _).subperm included).length_le
    (serves.overtaken_lt running)

end PoolRun

namespace System

variable {κ : Type} {environment : Environment} {system : System κ}

/-- The dispatches in flight, as frames. -/
theorem PoolHistory.inFlight (control : Control environment system)
    {pool : ThreadPool (Task κ)} (poolEq : system.pool = some pool)
    {run : PoolRun Nat} (history : PoolHistory system pool run) :
    (system.running ++ system.waiting).map Task.frame =
      (run.pool.running ++ run.pool.tasks).map Prod.snd ++
        system.loop.unqueued?.toList.map Task.frame := by
  have running :
      run.pool.running.map Prod.snd = pool.running.map Task.frame := by
    rw [← ThreadPool.map_running, history.tasks, ThreadPool.map_running]
  have tasks : run.pool.tasks.map Prod.snd = pool.tasks.map Task.frame :=
    congrArg ThreadPool.tasks history.tasks
  simp [System.running, waiting, poolEq, control.pooled_dispatched? poolEq,
    running, tasks]

/-- While a worker of the pool dispatches a message, at most one message of an
older frame is not dispatched. -/
theorem older_in_flight_le_one {allowed : System κ → Label κ → Prop}
    (reach : Reach (System.next environment) allowed {} system)
    {pool : ThreadPool (Task κ)} (poolEq : system.pool = some pool)
    {task : Task κ} (running : task ∈ pool.running) :
    ((system.running ++ system.waiting).filter (·.frame < task.frame)).length ≤
      1 := by
  obtain ⟨run, history⟩ := poolRuns_of_reach reach pool poolEq
  have serves := PoolRun.serves_of_reach history.reach
  obtain ⟨ascending, _, unqueuedLater⟩ :=
    List.pairwise_append.mp history.ascending
  obtain ⟨job, jobRunning, same⟩ :
      ∃ job ∈ run.pool.running, job.2 = task.frame := by
    have member : task.frame ∈ (pool.map Task.frame).running := by
      rw [ThreadPool.map_running]
      exact List.mem_map_of_mem running
    rw [← history.tasks, ThreadPool.map_running] at member
    exact List.mem_map.mp member
  have unqueued : (system.loop.unqueued?.toList.map Task.frame).filter
      (· < task.frame) = [] := by
    rw [List.filter_eq_nil_iff]
    intro frame member smaller
    have queued : job.2 ∈ run.service.accepted.map Prod.snd :=
      List.mem_map_of_mem (serves.accepted_perm.mem_iff.mpr
        (List.mem_append_right _ (List.mem_append_left _ jobRunning)))
    have later := unqueuedLater job.2 queued frame member
    rw [same] at later
    exact Nat.lt_asymm later (of_decide_eq_true smaller)
  have frames := history.inFlight (control_of_reach reach) poolEq
  calc ((system.running ++ system.waiting).filter (·.frame < task.frame)).length
      = (((system.running ++ system.waiting).map Task.frame).filter
          (· < task.frame)).length := by
        rw [List.filter_map, List.length_map]
        rfl
    _ = ((run.pool.running ++ run.pool.tasks).filter (·.2 < job.2)).length := by
        rw [frames, List.filter_append, unqueued, List.append_nil,
          List.filter_map, List.length_map, same]
        rfl
    _ ≤ 1 := Nat.le_of_lt_succ (serves.inFlight_overtaken ascending jobRunning)

end System

/-- With `n` workers tasks are taken in the order in which they were enqueued,
and while a task runs at most `n - 1` of those enqueued before it have not been
completed; one worker completes each task before it takes the next.  Of the
messages that a Subscriber has queued before one that its pool dispatches, at
most one is not dispatched. -/
theorem overtaking_bounded {τ κ : Type} {n : Nat} (populated : 1 ≤ n)
    {run : PoolRun τ}
    (reach : Reach PoolRun.next (Unrestricted _ _) (PoolRun.create n) run) :
    run.service.started <+: run.service.accepted ∧
    run.service.accepted.map Prod.fst = List.range run.service.accepted.length ∧
    (∀ job ∈ run.pool.running,
      (run.service.accepted.filter fun other => other.1 < job.1 ∧
        other.1 ∉ run.service.completed.map Prod.fst).length ≤ n - 1) ∧
    (n = 1 → ∃ current : List (Nat × τ), current.length ≤ 1 ∧
      run.service.started = run.service.completed ++ current) ∧
    ∀ (environment : Environment) (system : System κ),
      Reach (System.next environment) (Unrestricted _ _) {} system →
      ∀ pool, system.pool = some pool → ∀ task ∈ pool.running,
        ((system.running ++ system.waiting).filter
          (·.frame < task.frame)).length ≤ 1 := by
  have serves := PoolRun.serves_of_reach reach
  rw [if_neg (Nat.ne_of_gt populated)] at serves
  refine ⟨serves.sound.inOrder, serves.sound.numbered, ?_, ?_, ?_⟩
  · exact fun job running => Nat.le_sub_one_of_lt (serves.overtaken_lt running)
  · rintro rfl
    obtain ⟨current, split, short⟩ := Service.sequential_of_steps serves.steps
    exact ⟨current, short, split⟩
  · exact fun environment system reach pool poolEq task running =>
      System.older_in_flight_le_one reach poolEq running

/-- The second worker completes two tasks while the first runs the oldest. -/
def busyRun : List (PoolLabel String) :=
  [.enqueue "first", .acquire 0, .enqueue "second", .acquire 1, .finish 1,
    .enqueue "third", .acquire 1]

theorem overtaking_bounded_busyRun : ∃ run : PoolRun String,
    run.pool.running = [(0, "first"), (2, "third")] ∧
      (run.service.accepted.filter fun other => other.1 < 2 ∧
        other.1 ∉ run.service.completed.map Prod.fst).length ≤ 1 := by
  have executed : (runLabels PoolRun.next (.create 2) busyRun).map
      (fun run => run.pool.running) = some [(0, "first"), (2, "third")] := by
    decide +kernel
  obtain ⟨run, taken, running⟩ := Option.map_eq_some_iff.mp executed
  obtain ⟨_, _, bounded, _⟩ :=
    @overtaking_bounded String Nat 2 (by decide) run (reach_of_runLabels taken)
  exact ⟨run, running, bounded (2, "third") (by simp [running])⟩

end Farsounder.Subscriber
