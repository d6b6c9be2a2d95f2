import Farsounder.Subscriber.Delivery

namespace Farsounder.Subscriber

open Config
open Farsounder.Data

variable {κ : Type}

namespace System

variable {environment : Environment} {system after : System κ}

/-! Which `start` or `stop` each thread is in. -/

theorem task?_setTask {thread : Thread} {old : Task κ}
    (found : system.task? thread = some old) (task : Task κ) (other : Thread) :
    (system.setTask task thread).task? other =
      if other = thread then some task else system.task? other := by
  cases thread with
  | controller => contradiction
  | runLoop =>
      obtain ⟨index, revents, loop⟩ := task?_runLoop found
      cases other with
      | controller | poolWorker => simp [task?, setTask]
      | runLoop => simp [task?, setTask, loop, LoopPhase.setDispatched,
          LoopPhase.dispatched?]
  | poolWorker index =>
      obtain ⟨pool, poolEq, workerEq⟩ := task?_poolWorker found
      cases other with
      | controller | runLoop => simp [task?, setTask]
      | poolWorker otherIndex =>
          simp only [task?, setTask, poolEq, Option.map_some, Option.bind_some,
            ThreadPool.task?_setWorker workerEq, PoolWorker.task?,
            Thread.poolWorker.injEq, eq_comm]

theorem task?_clearTask {thread : Thread}
    (cleared : system.clearTask thread = some after) (other : Thread) :
    after.task? other = if other = thread then none
      else system.task? other := by
  obtain ⟨_, _, _, rfl, _, rfl⟩ | ⟨_, _, _, rfl, poolEq, workerEq, rfl⟩ :=
    clearTask_cases cleared
  · cases other <;> simp [task?, LoopPhase.dispatched?]
  · cases other with
    | controller | runLoop => simp [task?]
    | poolWorker otherIndex =>
        simp only [task?, poolEq, Option.bind_some,
          ThreadPool.task?_setWorker workerEq, PoolWorker.task?,
          Thread.poolWorker.injEq, eq_comm]

theorem call?_eq {thread : Thread} (callback : thread ≠ .controller) :
    system.call? thread = (system.task? thread).bind Task.call := by
  cases thread with
  | controller => exact absurd rfl callback
  | runLoop | poolWorker => rfl

theorem call?_setCall {thread : Thread}
    (present : thread ≠ .controller → system.task? thread ≠ none)
    (call : Option CallPhase) (other : Thread) :
    (system.setCall call thread).call? other =
      if other = thread then call else system.call? other := by
  by_cases owner : thread = .controller
  · subst owner
    cases other <;> rfl
  · obtain ⟨task, found⟩ := Option.ne_none_iff_exists'.mp (present owner)
    rw [setCall_eq _ _ _ owner, found]
    by_cases controller : other = .controller
    · subst controller
      rw [if_neg (Ne.symm owner)]
      exact setTask_controller system _ thread
    · rw [call?_eq controller, call?_eq controller, task?_setTask found]
      split <;> simp

/-- A call is made by a callback, so by a task that is in one. -/
structure CallsFit (system : System κ) : Prop where
  waiting : ∀ task ∈ system.waiting, task.call = none
  running : ∀ thread task, system.task? thread = some task → task.call ≠ none →
    ∃ todo, task.phase = .inCallback todo

theorem flight_waiting {parsers : Parsers} {bound : Nat}
    {before after : Flight κ} (step : Flight.Step parsers bound before after)
    (task : Task κ) (member : task ∈ after.waiting) :
    task ∈ before.waiting ∨ task.call = none := by
  cases step with
  | queue decoded =>
      rcases List.mem_append.mp member with old | fresh
      · exact .inl old
      · exact .inr (by rw [List.mem_singleton.mp fresh])
  | dequeue same => exact .inl (List.mem_cons_of_mem _ member)
  | quiet | register | discard | dispatch | advance | deliver | settle =>
      exact .inl member

/-- No task changes hands in a step of `run_loop`, and one that begins there has
called nothing. -/
structure LoopTasks (system after : System κ) : Prop where
  workers :
    ∀ index, after.task? (.poolWorker index) = system.task? (.poolWorker index)
  before : system.loop.dispatched? = none
  after : ∀ task, after.loop.dispatched? = some task → task.call = none

theorem receive_tasks {index : Nat} {revents : List Bool}
    (loop : system.loop = .scanning index revents)
    (type : EnumValue PubSubMessage) (bytes : Wire.Bytes) :
    LoopTasks system (system.receive environment index revents type bytes) := by
  refine ⟨fun _ => rfl, by simp [loop, LoopPhase.dispatched?], ?_⟩
  intro task found
  simp only [receive] at found
  split at found
  · contradiction
  · split at found
    · contradiction
    · rw [← Option.some.inj found]

theorem LoopTasks.of_loop (workers : ∀ index : Nat,
      after.pool.bind (·.task? index) = system.pool.bind (·.task? index))
    (before : system.loop.dispatched? = none)
    (after' : after.loop.dispatched? = none) : LoopTasks system after :=
  ⟨workers, before, by simp [after']⟩

theorem Control.loopTasks (control : Control environment system)
    (step : LoopStep environment system after) : LoopTasks system after := by
  cases step with
  | moves moves =>
      refine .of_loop (fun _ => rfl) ?_ ?_ <;>
        cases moves <;> simp [*, LoopPhase.dispatched?]
  | connects loop opened =>
      exact .of_loop (fun _ => rfl) (by rw [loop]; rfl) rfl
  | createsPool loop executor | createsNoPool loop executor =>
      have unpooled : system.pool = none := by
        have fits := control.fits
        rwa [loop] at fits
      refine .of_loop (fun index => ?_) (by rw [loop]; rfl) rfl
      simp [unpooled,
        ThreadPool.task?_of_running_nil (ThreadPool.create_running 2)]
  | receives loop flagged source => exact receive_tasks loop _ _
  | enqueues loop =>
      refine .of_loop (fun index => ?_) (by rw [loop]; rfl) rfl
      cases pool : system.pool <;> simp [ThreadPool.enqueue, ThreadPool.task?]
  | @notifies index revents target pool next loop poolEq notified =>
      refine .of_loop (fun other => ?_) (by rw [loop]; rfl) rfl
      simp only [poolEq, Option.bind_some]
      obtain ⟨pending, _, ⟨index, _, workerEq, rfl⟩ | ⟨_, rfl⟩⟩ :=
        ThreadPool.notifyOne_cases notified
      · exact ThreadPool.task?_setWorker_idle workerEq rfl rfl other
      · rfl
  | stopsPool loop poolEq =>
      refine .of_loop (fun index => ?_) (by rw [loop]; rfl) rfl
      simp [poolEq, ThreadPool.requestStop, ThreadPool.task?]
  | @notifiesAll pool next loop poolEq notified =>
      refine .of_loop (fun index => ?_) (by rw [loop]; rfl) rfl
      simpa [poolEq] using (ThreadPool.notifyAll_tasks notified).2.2 index
  | @destroysPool index pool loop poolEq past =>
      refine .of_loop (fun other => ?_) (by rw [loop]; rfl) rfl
      have idle := (control.joined_pool poolEq loop past).1
      simp only [poolEq, Option.bind_none, Option.bind_some]
      exact (ThreadPool.task?_of_running_nil idle other).symm
  | throws _ idle => exact .of_loop (fun _ => rfl) idle idle

/-- What a step does to the lifecycle and to the calls of the threads. -/
inductive CallsChange (system after : System κ) : Label κ → Prop
  | keeps {label} (lifecycle : after.lifecycle = system.lifecycle)
      (calls : ∀ thread, after.call? thread = system.call? thread) :
      CallsChange system after label
  | enters {thread operation} (idle : system.call? thread = none)
      (lifecycle : after.lifecycle = system.lifecycle)
      (calls : ∀ other, after.call? other =
        if other = thread then some operation.entry else system.call? other) :
      CallsChange system after (.call thread operation)
  | advances {thread event phase outcome} (found : system.call? thread =
    some phase)
      (advanced : phase.advance (thread = .runLoop) system.loop.isFinished
        system.lifecycle event = some outcome)
      (lifecycle : after.lifecycle = outcome.lifecycle system.lifecycle)
      (calls : ∀ other, after.call? other =
        if other = thread then outcome.phase? else system.call? other) :
      CallsChange system after (.callStep thread event)
  | terminates {thread event phase} (found : system.call? thread = some phase)
      (advanced : phase.advance (thread = .runLoop) system.loop.isFinished
        system.lifecycle event = some .terminates)
      (ends : after = system.terminate .joinableAssigned) :
      CallsChange system after (.callStep thread event)

theorem CallsFit.setTask (fit : CallsFit system) {thread : Thread}
    {old : Task κ} (found : system.task? thread = some old) (task : Task κ)
    (calling : task.call ≠ none → ∃ todo, task.phase = .inCallback todo) :
    CallsFit (system.setTask task thread) where
  waiting := by
    rw [setTask_waiting]
    exact fit.waiting
  running other current running := by
    rw [task?_setTask found] at running
    split at running
    · obtain rfl := Option.some.inj running
      exact calling
    · exact fit.running other current running

theorem CallsFit.setCall (fit : CallsFit system) {thread : Thread}
    (inCallback : ∀ task, system.task? thread = some task →
      ∃ todo, task.phase = .inCallback todo) (call : Option CallPhase) :
    CallsFit (system.setCall call thread) := by
  by_cases owner : thread = .controller
  · subst owner
    refine ⟨fit.waiting, ?_⟩
    intro other task found
    cases other with
    | controller => contradiction
    | runLoop => exact fit.running .runLoop task found
    | poolWorker index => exact fit.running (.poolWorker index) task found
  · rw [setCall_eq _ _ _ owner]
    split
    · rename_i task found
      exact fit.setTask found _ fun _ => inCallback task found
    · exact fit

theorem CallsFit.calling (fit : CallsFit system) {thread : Thread}
    {phase : CallPhase} (found : system.call? thread = some phase) :
    (thread ≠ .controller → system.task? thread ≠ none) ∧
      ∀ task, system.task? thread = some task → ∃ todo,
        task.phase = .inCallback todo := by
  by_cases owner : thread = .controller
  · subst owner
    exact ⟨absurd rfl, by simp [task?]⟩
  · rw [call?_eq owner, Option.bind_eq_some_iff] at found
    obtain ⟨task, taskEq, calling⟩ := found
    refine ⟨fun _ => by simp [taskEq], ?_⟩
    intro other otherEq
    obtain rfl := Option.some.inj (taskEq.symm.trans otherEq)
    exact fit.running thread task taskEq (by simp [calling])

theorem inUserCode_task {thread : Thread} (callback : thread ≠ .controller)
    (user : system.inUserCode thread = true) :
    ∃ task todo, system.task? thread = some task ∧
      task.phase = .inCallback todo ∧
      task.call = none := by
  cases thread with
  | controller => exact absurd rfl callback
  | runLoop | poolWorker =>
      simp only [inUserCode] at user
      split at user
      case h_1 found => exact ⟨_, _, found, rfl, rfl⟩
      case h_2 => contradiction

theorem inUserCode_calls {thread : Thread}
    (user : system.inUserCode thread = true) :
    system.call? thread = none ∧
      (thread ≠ .controller → system.task? thread ≠ none) ∧
      ∀ task, system.task? thread = some task → ∃ todo,
        task.phase = .inCallback todo := by
  by_cases owner : thread = .controller
  · subst owner
    exact ⟨Option.isNone_iff_eq_none.mp user, absurd rfl, by simp [task?]⟩
  · obtain ⟨task, todo, found, phase, idle⟩ := inUserCode_task owner user
    refine ⟨?_, by simp [found], ?_⟩
    · rw [call?_eq owner, found]
      exact idle
    · intro other taskEq
      obtain rfl := Option.some.inj (found.symm.trans taskEq)
      exact ⟨todo, phase⟩

theorem call?_of_task? {other : Thread}
    (controller : after.controller = system.controller)
    (tasks : ∀ thread, thread ≠ .controller →
      (after.task? thread).bind Task.call =
      (system.task? thread).bind Task.call) :
    after.call? other = system.call? other := by
  by_cases owner : other = .controller
  · subst owner
    exact controller
  · rw [call?_eq owner, call?_eq owner, tasks other owner]

theorem Control.loopStep_calls (control : Control environment system)
    (fit : CallsFit system) (step : LoopStep environment system after)
    {event : LoopEvent} :
    CallsFit after ∧ CallsChange system after (.loop event) := by
  have tasks := control.loopTasks step
  have unchanged : after.lifecycle = system.lifecycle ∧
      after.controller = system.controller := by
    cases step <;> exact ⟨rfl, rfl⟩
  refine ⟨⟨?_, ?_⟩, .keeps unchanged.1 fun thread =>
    call?_of_task? unchanged.2 ?_⟩
  · intro task member
    rcases flight_waiting (control.loopStep_flies step) task member with old |
      fresh
    · exact fit.waiting task old
    · exact fresh
  · intro thread task found calling
    cases thread with
    | controller => contradiction
    | runLoop => exact absurd (tasks.after task found) calling
    | poolWorker index =>
        exact fit.running _ task (tasks.workers index ▸ found) calling
  · intro thread _
    cases thread with
    | controller => rfl
    | poolWorker index => rw [tasks.workers index]
    | runLoop =>
        have before : system.task? .runLoop = none := tasks.before
        rw [before]
        cases found : after.task? .runLoop with
        | none => rfl
        | some task => exact tasks.after task found

theorem CallsFit.workerStep (fit : CallsFit system) {index : Nat}
    (step : WorkerStep system index after) {event : WorkerEvent} :
    CallsFit after ∧ CallsChange system after (.worker index event) := by
  cases step with
  | @takes pool task rest poolEq workerEq queued =>
      have tasks : ∀ thread, ({ system with pool := some { pool.setWorker index
            (.executing task) with tasks := rest } } : System κ).task? thread =
          if thread = .poolWorker index then some task
            else system.task? thread := by
        intro thread
        cases thread with
        | controller | runLoop => simp [task?]
        | poolWorker other =>
            have exchanged := ThreadPool.task?_setWorker workerEq
                (.executing task) other
            simpa [task?, poolEq, ThreadPool.task?, PoolWorker.task?, eq_comm]
              using exchanged
      have queuedTask : task ∈ system.waiting := by
        simp [System.waiting, poolEq, queued]
      have idle : system.task? (.poolWorker index) = none := by
        simp [task?, poolEq, ThreadPool.task?, workerEq, PoolWorker.task?]
      refine ⟨⟨?_, ?_⟩, .keeps rfl fun thread => call?_of_task? rfl ?_⟩
      · intro other member
        apply fit.waiting other
        simp only [System.waiting, poolEq, Option.elim_some, queued] at member ⊢
        exact List.mem_cons_of_mem _ member
      · intro thread other found calling
        rw [tasks] at found
        split at found
        · obtain rfl := Option.some.inj found
          exact absurd (fit.waiting task queuedTask) calling
        · exact fit.running thread other found calling
      · intro thread _
        rw [tasks]
        split
        · rename_i same
          rw [same, idle]
          exact fit.waiting task queuedTask
        · rfl
  | @moves pool worker worker' poolEq workerEq live idle idle' leaves =>
      have tasks : ∀ thread,
          ({ system with pool := some (pool.setWorker index worker') } :
          System κ).task? thread = system.task? thread := by
        intro thread
        cases thread with
        | controller | runLoop => rfl
        | poolWorker other =>
            simpa [task?, poolEq] using
              ThreadPool.task?_setWorker_idle workerEq idle idle' other
      refine ⟨⟨?_, ?_⟩, .keeps rfl fun thread => call?_of_task? rfl ?_⟩
      · intro task member
        apply fit.waiting task
        simpa [System.waiting, poolEq, ThreadPool.setWorker] using member
      · intro thread task found
        exact fit.running thread task (tasks thread ▸ found)
      · intro thread _
        rw [tasks]

theorem clearTask_owner {thread : Thread}
    (cleared : system.clearTask thread = some after) :
    after.lifecycle = system.lifecycle ∧
      after.controller = system.controller := by
  obtain ⟨_, _, _, _, _, rfl⟩ | ⟨_, _, _, _, _, _, rfl⟩ :=
    clearTask_cases cleared <;>
    exact ⟨rfl, rfl⟩

/-- A change of the running task that leaves its call alone. -/
theorem call?_setTask {thread : Thread} {old : Task κ}
    (found : system.task? thread = some old) (task : Task κ)
    (same : task.call = old.call) (other : Thread) :
    (system.setTask task thread).call? other = system.call? other := by
  apply call?_of_task? (setTask_controller _ _ _)
  intro current _
  rw [task?_setTask found]
  split
  · rename_i equal
    simp [equal, found, same]
  · rfl

theorem CallsFit.idle (fit : CallsFit system) {thread : Thread} {task : Task κ}
    (found : system.task? thread = some task)
    (phase : ∀ todo, task.phase ≠ .inCallback todo) : task.call = none := by
  by_contra calling
  obtain ⟨todo, current⟩ := fit.running thread task found calling
  exact phase todo current

theorem CallsFit.dispatchStep (fit : CallsFit system) {thread : Thread}
    (step : DispatchStep system thread after) {event : DispatchEvent} :
    CallsFit after ∧ CallsChange system after (.dispatch thread event) := by
  cases step with
  | @snapshot task found phase =>
      have idle := fit.idle found (by simp [phase])
      exact ⟨fit.setTask found _ (absurd idle),
        .keeps (by simp) (call?_setTask found _ rfl)⟩
  | @returns task todo found phase idle =>
      exact ⟨fit.setTask found _ (absurd idle),
        .keeps (by simp) (call?_setTask found _ rfl)⟩
  | @invoke task callback todo found phase
  | @invokeEmpty task todo found phase =>
      have fit' := fit.setTask found { task with phase := .inCallback todo }
        fun _ => ⟨todo, rfl⟩
      have kept := call?_setTask found
          { task with phase := .inCallback todo } rfl
      exact ⟨⟨fit'.waiting, fit'.running⟩,
        .keeps (by simp [recordInvocation, terminate]) kept⟩
  | throws => exact ⟨⟨fit.waiting, fit.running⟩, .keeps rfl fun _ => rfl⟩
  | @finish task after found phase cleared =>
      have idle := fit.idle found (by simp [phase])
      obtain ⟨_, waiting, _, _⟩ := clearTask_fields cleared
      obtain ⟨lifecycle, controller⟩ := clearTask_owner cleared
      refine ⟨⟨by rw [waiting]; exact fit.waiting, ?_⟩,
        .keeps lifecycle fun other => call?_of_task? controller ?_⟩
      · intro other current running
        rw [task?_clearTask cleared] at running
        split at running
        · contradiction
        · exact fit.running other current running
      · intro other _
        rw [task?_clearTask cleared]
        split
        · rename_i same
          simp [same, found, idle]
        · rfl

theorem task?_of_idleLoop (pool : after.pool = system.pool)
    (idle : system.loop.dispatched? = none)
    (idle' : after.loop.dispatched? = none) (thread : Thread) :
    after.task? thread = system.task? thread := by
  cases thread with
  | controller => rfl
  | runLoop => exact idle'.trans idle.symm
  | poolWorker index => simp [task?, pool]

theorem call?_of_idleLoop (controller : after.controller = system.controller)
    (pool : after.pool = system.pool) (idle : system.loop.dispatched? = none)
    (idle' : after.loop.dispatched? = none) (thread : Thread) :
    after.call? thread = system.call? thread :=
  call?_of_task? controller fun current _ => by
    rw [task?_of_idleLoop pool idle idle' current]

theorem CallsFit.of_idleLoop (fit : CallsFit system)
    (pool : after.pool = system.pool) (idle : system.loop.dispatched? = none)
    (idle' : after.loop.dispatched? = none)
    (unqueued : after.loop.unqueued? = none) : CallsFit after where
  waiting task member := by
    apply fit.waiting task
    simp only [System.waiting, pool, unqueued, Option.toList_none,
      List.append_nil]
      at member
    exact List.mem_append_left _ member
  running thread task found :=
    fit.running thread task (task?_of_idleLoop pool idle idle' thread ▸ found)

/-- What is left to do after an outcome that creates or joins the worker. -/
theorem Control.settleCall_calls (control : Control environment system)
    (fit : CallsFit system) {thread : Thread} {event : CallEvent}
    {phase : CallPhase} {outcome : CallOutcome}
    (found : system.call? thread = some phase)
    (advanced : phase.advance (thread = .runLoop) system.loop.isFinished
      system.lifecycle event = some outcome) :
    CallsFit (system.settleCall environment thread outcome) ∧
      CallsChange system (system.settleCall environment thread outcome)
        (.callStep thread event) := by
  obtain ⟨present, inCallback⟩ := fit.calling found
  have fits := fun call => fit.setCall inCallback call
  have calls := fun call => call?_setCall present call
  cases outcome with
  | continues lifecycle phase' =>
      exact ⟨⟨(fits _).waiting, (fits _).running⟩,
        .advances found advanced rfl (calls (some phase'))⟩
  | returns | throws =>
      exact ⟨fits none,
        .advances found advanced (setCall_lifecycle system none thread)
        (calls none)⟩
  | terminates =>
      exact ⟨⟨fit.waiting, fit.running⟩, .terminates found advanced rfl⟩
  | assigned =>
      exact ⟨⟨(fits none).waiting, (fits none).running⟩,
        .advances found advanced rfl (calls none)⟩
  | spawned =>
      let entered := system.setCall (some .startConstructed) thread
      have free := (CallPhase.advances advanced).spawned.2
      have absent : entered.loop = .absent :=
        (control.setCall _ thread).thread.mp (by simpa using free)
      have idle : entered.loop.dispatched? = none := by
        rw [absent]
        rfl
      have kept :
          ∀ other, (system.settleCall environment thread .spawned).call? other =
          entered.call? other :=
        call?_of_idleLoop rfl rfl idle rfl
      exact ⟨(fits _).of_idleLoop rfl idle rfl rfl,
        .advances found advanced rfl fun other =>
        (kept other).trans (calls _ other)⟩
  | joined =>
      obtain ⟨_, _, _, finished⟩ := (CallPhase.advances advanced).joined
      have idle : (system.setCall none thread).loop.dispatched? = none :=
        (isFinished_tasks (by simpa using finished)).1
      have kept :
          ∀ other, (system.settleCall environment thread .joined).call? other =
          (system.setCall none thread).call? other :=
        call?_of_idleLoop rfl rfl idle rfl
      exact ⟨(fits none).of_idleLoop rfl idle rfl rfl,
        .advances found advanced rfl fun other =>
        (kept other).trans (calls none other)⟩

theorem Control.step_calls (control : Control environment system)
    (fit : CallsFit system) {label : Label κ}
    (step : Step environment system label after) :
    CallsFit after ∧ CallsChange system after label := by
  cases step with
  | @call thread operation user =>
      obtain ⟨idle, present, inCallback⟩ := inUserCode_calls user
      exact ⟨fit.setCall inCallback _,
        .enters idle (by simp) (call?_setCall present _)⟩
  | callStep found advanced => exact control.settleCall_calls fit found advanced
  | on => exact ⟨⟨fit.waiting, fit.running⟩, .keeps rfl fun thread => by
      cases thread <;> rfl⟩
  | loop step => exact control.loopStep_calls fit step
  | worker step => exact fit.workerStep step
  | dispatch step => exact fit.dispatchStep step

theorem callsFit_initial : CallsFit ({} : System κ) := by
  refine ⟨by simp [waiting, LoopPhase.unqueued?], ?_⟩
  intro thread task found
  cases thread <;> contradiction

theorem callsFit_of_reach {allowed : System κ → Label κ → Prop}
    (reach : Reach (System.next environment) allowed {} system) :
    CallsFit system := by
  induction reach with
  | refl => exact callsFit_initial
  | step earlier _ taken induction =>
      exact ((control_of_reach earlier).step_calls
        induction (next_step taken)).1

/-- What the last step of a run did to the calls. -/
theorem callsChange_of_reach {allowed : System κ → Label κ → Prop}
    (reach : Reach (System.next environment) allowed {} system)
    {label : Label κ}
    (taken : System.next environment system label = some after) :
    CallsChange system after label :=
  ((control_of_reach reach).step_calls (callsFit_of_reach reach)
    (next_step taken)).2

end System

end Farsounder.Subscriber
