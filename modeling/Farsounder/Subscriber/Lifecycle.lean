namespace Farsounder.Subscriber

/-! `Subscriber::start` and `Subscriber::stop`, one shared access at a time.
`impl_` is set: the Subscriber has not been moved from. -/

/-- The `std::thread` that stands for the thread of `run_loop`: none, the
temporary of a `start` that has constructed it, or `Impl::worker`. -/
inductive LoopThread where
  | none
  | temporary
  | worker
  deriving DecidableEq, Repr

structure Lifecycle where
  running : Bool := false
  thread : LoopThread := .none
  deriving DecidableEq, Repr

/-- `worker.joinable()` -/
def Lifecycle.joinable (lifecycle : Lifecycle) : Bool :=
  lifecycle.thread = .worker

theorem Lifecycle.thread_eq_none {lifecycle : Lifecycle}
    (free : lifecycle.joinable = false)
    (settled : lifecycle.thread ≠ .temporary) :
    lifecycle.thread = .none := by
  cases thread : lifecycle.thread with
  | none => rfl
  | temporary => exact absurd thread settled
  | worker => simp [Lifecycle.joinable, thread] at free

/-- Where a thread is inside a call: the next statement it executes. -/
inductive CallPhase where
  /-- `if (impl_->running) throw` -/
  | startEntered
  /-- `impl_->running = true` -/
  | startChecked
  /-- `std::thread([this]() { impl_->run_loop(); })` -/
  | startStored
  /-- `impl_->worker = ` that thread -/
  | startConstructed
  /-- `if (!impl_->running) return` -/
  | stopEntered
  /-- `impl_->running = false` -/
  | stopChecked
  /-- `if (impl_->worker.joinable())` -/
  | stopStored
  /-- `impl_->worker.join()` -/
  | stopJoining
  deriving DecidableEq, Repr

inductive CallOutcome where
  | continues (lifecycle : Lifecycle) (phase : CallPhase)
  | returns
  /-- `start` constructed the thread, which runs from now on. -/
  | spawned
  /-- `start` assigned the thread to `worker` and returned. -/
  | assigned
  /-- `stop` joined the worker and returned. -/
  | joined
  | throws
  /-- The assignment to a joinable `std::thread` calls `std::terminate`. -/
  | terminates
  deriving DecidableEq, Repr

def CallPhase.ofStop : CallPhase → Bool
  | stopEntered | stopChecked | stopStored | stopJoining => true
  | startEntered | startChecked | startStored | startConstructed => false

namespace CallOutcome

def lifecycle (before : Lifecycle) : CallOutcome → Lifecycle
  | continues lifecycle _ => lifecycle
  | spawned => { before with thread := .temporary }
  | assigned => { before with thread := .worker }
  | joined => { before with thread := .none }
  | returns | throws | terminates => before

def phase? : CallOutcome → Option CallPhase
  | continues _ phase => some phase
  | spawned => some .startConstructed
  | returns | assigned | joined | throws | terminates => none

end CallOutcome

/-- What the environment decides about a statement that can throw. -/
inductive CallEvent where
  | completes
  | throws
  deriving DecidableEq, Repr

/-- One statement of a call.  `onWorker` says that the calling thread is the
worker itself, `workerFinished` that the worker has left `run_loop`.  `join`
throws on the calling thread itself and on a thread that is not joinable.

A second thread, constructed while there is one already, would run `run_loop`
beside the first.  Such a `run_loop` is left out: if `worker` is joinable, up to
the assignment, which ends the process; if not, the run is not continued. -/
def CallPhase.advance (onWorker workerFinished : Bool) (lifecycle : Lifecycle) :
    CallPhase → CallEvent → Option CallOutcome
  | startEntered, .completes =>
      if lifecycle.running then none
        else some (.continues lifecycle startChecked)
  | startEntered, .throws => if lifecycle.running then some .throws else none
  | startChecked, .completes =>
      some (.continues { lifecycle with running := true } startStored)
  | startStored, .completes =>
      match lifecycle.thread with
      | .none => some .spawned
      | .temporary => none
      | .worker => some .terminates
  | startStored, .throws => some .throws
  | startConstructed, .completes =>
      match lifecycle.thread with
      | .none => none
      | .temporary => some .assigned
      | .worker => some .terminates
  | stopEntered, .completes =>
      some (if lifecycle.running then .continues lifecycle stopChecked
        else .returns)
  | stopChecked, .completes =>
      some (.continues { lifecycle with running := false } stopStored)
  | stopStored, .completes =>
      some (if lifecycle.joinable then .continues lifecycle stopJoining
        else .returns)
  | stopJoining, .completes =>
      if lifecycle.joinable && !onWorker && workerFinished then some .joined
      else none
  | stopJoining, .throws =>
      if lifecycle.joinable && !onWorker then none else some .throws
  | _, .throws => none

/-- The ways in which a call can advance. -/
inductive Advances (onWorker workerFinished : Bool) (lifecycle : Lifecycle) :
    CallPhase → CallEvent → CallOutcome → Prop
  | startPasses (stopped : lifecycle.running = false) :
      Advances onWorker workerFinished lifecycle .startEntered .completes
        (.continues lifecycle .startChecked)
  | startRefused (running : lifecycle.running = true) :
      Advances onWorker workerFinished lifecycle .startEntered .throws .throws
  | startStores :
      Advances onWorker workerFinished lifecycle .startChecked .completes
        (.continues { lifecycle with running := true } .startStored)
  | constructs (free : lifecycle.thread = .none) :
      Advances onWorker workerFinished lifecycle .startStored
        .completes .spawned
  | constructsBeside (worker : lifecycle.thread = .worker) :
      Advances onWorker workerFinished lifecycle .startStored .completes
        .terminates
  | constructionFails :
      Advances onWorker workerFinished lifecycle .startStored .throws .throws
  | assigns (constructed : lifecycle.thread = .temporary) :
      Advances onWorker workerFinished lifecycle .startConstructed
        .completes .assigned
  | assignsOver (worker : lifecycle.thread = .worker) :
      Advances onWorker workerFinished lifecycle .startConstructed .completes
        .terminates
  | stopPasses (running : lifecycle.running = true) :
      Advances onWorker workerFinished lifecycle .stopEntered .completes
        (.continues lifecycle .stopChecked)
  | stopSkips (stopped : lifecycle.running = false) :
      Advances onWorker workerFinished lifecycle .stopEntered
        .completes .returns
  | stopStores :
      Advances onWorker workerFinished lifecycle .stopChecked .completes
        (.continues { lifecycle with running := false } .stopStored)
  | findsJoinable (joinable : lifecycle.joinable = true) :
      Advances onWorker workerFinished lifecycle .stopStored .completes
        (.continues lifecycle .stopJoining)
  | findsNone (free : lifecycle.joinable = false) :
      Advances onWorker workerFinished lifecycle .stopStored .completes .returns
  | joins (joinable : lifecycle.joinable = true) (other : onWorker = false)
      (finished : workerFinished = true) :
      Advances onWorker workerFinished lifecycle .stopJoining .completes .joined
  | joinFails (cannot : lifecycle.joinable = true → onWorker = true) :
      Advances onWorker workerFinished lifecycle .stopJoining .throws .throws

namespace CallPhase

variable {onWorker onOther workerFinished : Bool}
  {lifecycle lifecycle' : Lifecycle} {phase phase' other : CallPhase}
  {event : CallEvent} {outcome : CallOutcome}

theorem advances
    (taken : phase.advance onWorker workerFinished lifecycle event =
      some outcome) :
    Advances onWorker workerFinished lifecycle phase event outcome := by
  cases phase with
  | startEntered =>
      cases event with
      | completes =>
          obtain ⟨stopped, same⟩ := Option.ite_none_left_eq_some.mp taken
          obtain rfl := Option.some.inj same
          exact .startPasses (Bool.eq_false_iff.mpr stopped)
      | throws =>
          obtain ⟨running, same⟩ := Option.ite_none_right_eq_some.mp taken
          obtain rfl := Option.some.inj same
          exact .startRefused running
  | startChecked =>
      cases event with
      | completes => exact Option.some.inj taken ▸ .startStores
      | throws => contradiction
  | startStored =>
      cases event with
      | completes =>
          cases thread : lifecycle.thread with
          | none =>
              rw [advance, thread] at taken
              exact Option.some.inj taken ▸ .constructs thread
          | temporary =>
              rw [advance, thread] at taken
              contradiction
          | worker =>
              rw [advance, thread] at taken
              exact Option.some.inj taken ▸ .constructsBeside thread
      | throws => exact Option.some.inj taken ▸ .constructionFails
  | startConstructed =>
      cases event with
      | completes =>
          cases thread : lifecycle.thread with
          | none =>
              rw [advance, thread] at taken
              contradiction
          | temporary =>
              rw [advance, thread] at taken
              exact Option.some.inj taken ▸ .assigns thread
          | worker =>
              rw [advance, thread] at taken
              exact Option.some.inj taken ▸ .assignsOver thread
      | throws => contradiction
  | stopEntered =>
      cases event with
      | completes =>
          cases running : lifecycle.running with
          | true =>
              rw [advance, if_pos running] at taken
              exact Option.some.inj taken ▸ .stopPasses running
          | false =>
              rw [advance, if_neg (by simp [running])] at taken
              exact Option.some.inj taken ▸ .stopSkips running
      | throws => contradiction
  | stopChecked =>
      cases event with
      | completes => exact Option.some.inj taken ▸ .stopStores
      | throws => contradiction
  | stopStored =>
      cases event with
      | completes =>
          cases joinable : lifecycle.joinable with
          | true =>
              rw [advance, if_pos joinable] at taken
              exact Option.some.inj taken ▸ .findsJoinable joinable
          | false =>
              rw [advance, if_neg (by simp [joinable])] at taken
              exact Option.some.inj taken ▸ .findsNone joinable
      | throws => contradiction
  | stopJoining =>
      cases event with
      | completes =>
          obtain ⟨able, same⟩ := Option.ite_none_right_eq_some.mp taken
          obtain rfl := Option.some.inj same
          simp only [Bool.and_eq_true, Bool.not_eq_true'] at able
          exact .joins able.1.1 able.1.2 able.2
      | throws =>
          obtain ⟨unable, same⟩ := Option.ite_none_left_eq_some.mp taken
          obtain rfl := Option.some.inj same
          exact .joinFails (by simpa using unable)

end CallPhase

namespace Advances

variable {onWorker workerFinished : Bool} {lifecycle lifecycle' : Lifecycle}
  {phase phase' : CallPhase} {event : CallEvent} {outcome : CallOutcome}

theorem continues
    (advances : Advances onWorker workerFinished lifecycle phase event
      (.continues lifecycle' phase')) :
    lifecycle'.thread = lifecycle.thread := by
  cases advances with
  | startPasses | startStores | stopPasses | stopStores | findsJoinable => rfl

theorem ofStop {next : CallPhase}
    (advances : Advances onWorker workerFinished lifecycle phase event outcome)
    (continues : outcome.phase? = some next) : next.ofStop = phase.ofStop := by
  cases advances with
  | startPasses | startStores | constructs | stopPasses | stopStores
  | findsJoinable =>
      obtain rfl := Option.some.inj continues
      rfl
  | _ => contradiction

theorem spawned
    (advances : Advances onWorker workerFinished lifecycle phase event
      .spawned) :
    phase = .startStored ∧ lifecycle.thread = .none := by
  cases advances with
  | constructs free => exact ⟨rfl, free⟩

theorem assigned
    (advances : Advances onWorker workerFinished lifecycle phase event
      .assigned) :
    phase = .startConstructed ∧ lifecycle.thread = .temporary := by
  cases advances with
  | assigns constructed => exact ⟨rfl, constructed⟩

theorem joined
    (advances : Advances onWorker workerFinished lifecycle phase event
      .joined) :
    phase = .stopJoining ∧ lifecycle.joinable = true ∧ onWorker = false ∧
      workerFinished = true := by
  cases advances with
  | joins joinable other finished => exact ⟨rfl, joinable, other, finished⟩

theorem terminates
    (advances : Advances onWorker workerFinished lifecycle phase event
      .terminates) :
    (phase = .startStored ∨ phase = .startConstructed) ∧
      lifecycle.thread = .worker := by
  cases advances with
  | constructsBeside worker => exact ⟨.inl rfl, worker⟩
  | assignsOver worker => exact ⟨.inr rfl, worker⟩

theorem throws
    (advances : Advances onWorker workerFinished lifecycle phase event
      .throws) :
    event = .throws := by
  cases advances with
  | startRefused | constructionFails | joinFails => rfl

/-- A `stop` that returns has seen `running` false, or made it so. -/
theorem running_of_stop
    (advances : Advances onWorker workerFinished lifecycle phase event outcome)
    (ofStop : phase.ofStop = true)
    (stored : phase = .stopStored ∨ phase = .stopJoining →
      lifecycle.running = false) (returned : outcome.phase? = none) :
    (outcome.lifecycle lifecycle).running = false := by
  cases advances with
  | stopSkips stopped => exact stopped
  | findsNone => exact stored (.inl rfl)
  | joins | joinFails => exact stored (.inr rfl)
  | _ => contradiction

end Advances

/-! What is true of the flag and the thread during a call. -/

namespace CallPhase

/-- The call has passed its test of `running`. -/
def acts : CallPhase → Bool
  | startEntered | stopEntered => false
  | startChecked | startStored | startConstructed | stopChecked | stopStored
  | stopJoining => true

/-- The call is a `start` that has passed it. -/
def starts (phase : CallPhase) : Bool :=
  phase.acts && !phase.ofStop

theorem starts_iff {phase : CallPhase} :
    phase.starts = true ↔ phase.acts = true ∧ phase.ofStop = false := by
  simp [starts]

/-- What holds while some thread is in a phase of a call. -/
def Fits (lifecycle : Lifecycle) (onWorker : Bool) : CallPhase → Prop
  | startEntered | stopEntered => True
  | startChecked => lifecycle.running = false ∧ lifecycle.thread = .none
  | startStored => lifecycle.running = true ∧ lifecycle.thread = .none
  | startConstructed => lifecycle.running = true ∧ lifecycle.thread = .temporary
  | stopChecked => onWorker = false
  | stopStored | stopJoining => onWorker = false ∧ lifecycle.running = false

end CallPhase

theorem CallPhase.Fits.entered {lifecycle : Lifecycle} {onWorker : Bool}
    {phase : CallPhase} (entered : phase.acts = false) :
    phase.Fits lifecycle onWorker := by
  cases phase with
  | startEntered | stopEntered => trivial
  | _ => contradiction

namespace Advances

variable {onWorker onOther workerFinished : Bool} {lifecycle : Lifecycle}
  {phase other next : CallPhase} {event : CallEvent} {outcome : CallOutcome}
  (advances : Advances onWorker workerFinished lifecycle phase event outcome)

include advances

theorem fits (fits : phase.Fits lifecycle onWorker)
    (begins : phase = .startEntered → lifecycle.running = false →
      lifecycle.thread = .none)
    (notWorker : phase = .stopEntered → lifecycle.running = true →
      onWorker = false) (continues : outcome.phase? = some next) :
    next.Fits (outcome.lifecycle lifecycle) onWorker := by
  cases advances with
  | startPasses stopped =>
      obtain rfl := Option.some.inj continues
      exact ⟨stopped, begins rfl stopped⟩
  | startStores =>
      obtain rfl := Option.some.inj continues
      exact ⟨rfl, fits.2⟩
  | constructs =>
      obtain rfl := Option.some.inj continues
      exact ⟨fits.1, rfl⟩
  | stopPasses running =>
      obtain rfl := Option.some.inj continues
      exact notWorker rfl running
  | stopStores =>
      obtain rfl := Option.some.inj continues
      exact ⟨fits, rfl⟩
  | findsJoinable =>
      obtain rfl := Option.some.inj continues
      exact fits
  | _ => contradiction

/-- A call that returns after acting leaves the flag and `worker` in
agreement. -/
theorem agrees (fits : phase.Fits lifecycle onWorker)
    (acted : phase.acts = true)
    (constructed : phase = .startStored → event = .completes)
    (returned : outcome.phase? = none) :
    (outcome.lifecycle lifecycle).running =
      (outcome.lifecycle lifecycle).joinable := by
  cases advances with
  | constructsBeside worker =>
      exact absurd (fits.2.symm.trans worker) (by simp)
  | constructionFails => exact absurd (constructed rfl) (by simp)
  | assigns => exact fits.1
  | assignsOver worker => exact absurd (fits.2.symm.trans worker) (by simp)
  | findsNone free => exact fits.2.trans free.symm
  | joins => exact fits.2
  | joinFails cannot =>
      cases joinable : lifecycle.joinable with
      | true => exact absurd (fits.1.symm.trans (cannot joinable)) (by simp)
      | false => exact fits.2.trans joinable.symm
  | _ => contradiction

/-- Two calls of `stop` do not disturb each other. -/
theorem undisturbed (stops : phase.ofStop = true)
    (fits : other.Fits lifecycle onOther)
    (otherStops : other.acts = true → other.ofStop = true) :
    other.Fits (outcome.lifecycle lifecycle) onOther := by
  cases other with
  | startEntered | stopEntered => trivial
  | startChecked | startStored | startConstructed =>
      exact absurd (otherStops rfl) (by decide)
  | stopChecked => exact fits
  | stopStored | stopJoining =>
      refine ⟨fits.1, ?_⟩
      cases advances with
      | stopStores => rfl
      | stopPasses | stopSkips | findsJoinable | findsNone | joins
      | joinFails =>
          exact fits.2
      | _ => contradiction

theorem entered (entered : phase.acts = false) :
    outcome.lifecycle lifecycle = lifecycle := by
  cases advances with
  | startPasses | startRefused | stopPasses | stopSkips => rfl
  | _ => contradiction

theorem begins (continues : outcome.phase? = some next)
    (entered : phase.acts = false) :
    phase = .startEntered ∧ event = .completes ∧ lifecycle.running = false ∨
      phase = .stopEntered ∧ event = .completes ∧ lifecycle.running = true := by
  cases advances with
  | startPasses stopped => exact .inl ⟨rfl, rfl, stopped⟩
  | stopPasses running => exact .inr ⟨rfl, rfl, running⟩
  | _ => contradiction

/-- A thread that is still to be assigned is so by its own `start`. -/
theorem temporary
    (constructed : (outcome.lifecycle lifecycle).thread = .temporary) :
    outcome.phase? = some .startConstructed ∨
      lifecycle.thread = .temporary ∧ phase ≠ .startConstructed := by
  cases advances with
  | constructs => exact .inl rfl
  | assigns | joins => simp [CallOutcome.lifecycle] at constructed
  | assignsOver worker => exact absurd (worker.symm.trans constructed) (by simp)
  | startPasses | startRefused | startStores | constructsBeside
  | constructionFails
  | stopPasses | stopSkips | stopStores | findsJoinable | findsNone
  | joinFails =>
      exact .inr ⟨constructed, by simp⟩

theorem acts (continues : outcome.phase? = some next) : next.acts = true := by
  cases advances with
  | startPasses | startStores | constructs | stopPasses | stopStores
  | findsJoinable =>
      obtain rfl := Option.some.inj continues
      rfl
  | _ => contradiction

end Advances

end Farsounder.Subscriber
