import Farsounder.Data.Transition
import Farsounder.Subscriber.Dispatch
import Farsounder.Subscriber.Lifecycle
import Farsounder.Subscriber.Sockets
import Farsounder.Subscriber.ThreadPool

namespace Farsounder.Subscriber

open Config
open Farsounder.Data
open Farsounder.Data.Wire (Bytes)

/-! One Subscriber, its `run_loop` thread, its pool and the thread that owns
it.  Each label is one access to what the threads share, together with the
local code up to the next one. -/

inductive Thread where
  | controller
  | runLoop
  | poolWorker (index : Nat)
  deriving DecidableEq, Repr

/-- `dispatch_message` on the message of one frame.  Frames are numbered in
the order in which `recv` returned them. -/
structure Task (κ : Type) where
  frame : Nat
  message : Message
  phase : DispatchPhase κ := .snapshotting
  /-- The `start` or `stop` that the running callback is in. -/
  call : Option CallPhase := none
  deriving DecidableEq, Repr

/-- Where the `run_loop` thread is: the next statement it executes. -/
inductive LoopPhase (κ : Type) where
  | absent
  | connecting (rest : List (EnumValue PubSubMessage))
  | creatingPool
  /-- `while (running)` -/
  | testing
  | polling
  /-- The `for` loop over the poll results. -/
  | scanning (index : Nat) (revents : List Bool)
  | enqueuing (index : Nat) (revents : List Bool) (task : Task κ)
  | notifying (index : Nat) (revents : List Bool)
  /-- The direct call of `dispatch_message`. -/
  | dispatching (index : Nat) (revents : List Bool) (task : Task κ)
  /-- The critical section of `~ThreadPool`. -/
  | stoppingPool
  | notifyingAll
  | joiningPool (index : Nat)
  | finished
  deriving DecidableEq, Repr

structure ReceivedFrame (κ : Type) where
  type : EnumValue PubSubMessage
  bytes : Bytes
  /-- The callbacks that were registered when it arrived. -/
  registry : Registry κ
  deriving DecidableEq, Repr

structure Invocation (κ : Type) where
  callback : Callback κ
  message : Message
  deriving DecidableEq, Repr

/-- What ends the process.  A thread out of which an exception escapes does
nothing more itself while `std::terminate` runs, so the exception is taken to
escape when the process has ended; up to then the other threads go on. -/
inductive Termination where
  | uncaughtException (thread : Thread)
  /-- `std::thread::operator=` on a joinable thread. -/
  | joinableAssigned
  deriving DecidableEq, Repr

structure System (κ : Type) where
  registry : Registry κ := {}
  lifecycle : Lifecycle := {}
  /-- The `start` or `stop` that the owning thread is in. -/
  controller : Option CallPhase := none
  loop : LoopPhase κ := .absent
  sockets : List SocketEntry := []
  pool : Option (ThreadPool (Task κ)) := none
  received : List (ReceivedFrame κ) := []
  invocations : List (Nat × Invocation κ) := []
  terminated : Option Termination := none
  deriving DecidableEq

structure Environment where
  config : ClientConfig
  parsers : Parsers

inductive Operation where
  | start
  | stop
  deriving DecidableEq, Repr

def Operation.entry : Operation → CallPhase
  | start => .startEntered
  | stop => .stopEntered

inductive LoopEvent where
  | proceed
  /-- ZeroMQ or the creation of the pool throws. -/
  | throws
  | poll (revents : List Bool)
  /-- What `recv` returns; `none` is `EAGAIN`. -/
  | recv (bytes : Option Bytes)
  | notify (target : Option Nat)
  deriving DecidableEq, Repr

inductive WorkerEvent where
  | acquire
  | wake
  deriving DecidableEq, Repr

inductive DispatchEvent where
  | snapshot
  | invoke
  | returns
  | throws
  | finish
  deriving DecidableEq, Repr

inductive Label (κ : Type) where
  | call (thread : Thread) (operation : Operation)
  | callStep (thread : Thread) (event : CallEvent)
  | on (registration : Registration κ)
  | loop (event : LoopEvent)
  | worker (index : Nat) (event : WorkerEvent)
  | dispatch (thread : Thread) (event : DispatchEvent)
  deriving DecidableEq, Repr

variable {κ : Type}

namespace LoopPhase

/-- The dispatch that the thread itself is running. -/
def dispatched? : LoopPhase κ → Option (Task κ)
  | dispatching _ _ task => some task
  | _ => none

/-- The task that the thread is about to queue. -/
def unqueued? : LoopPhase κ → Option (Task κ)
  | enqueuing _ _ task => some task
  | _ => none

def isFinished : LoopPhase κ → Bool
  | finished => true
  | _ => false

def setDispatched (task : Task κ) : LoopPhase κ → LoopPhase κ
  | dispatching index revents _ => dispatching index revents task
  | phase => phase

end LoopPhase

namespace System

def terminate (system : System κ) (termination : Termination) : System κ :=
  { system with terminated := some termination }

/-! The dispatch that a thread is running. -/

def task? (system : System κ) : Thread → Option (Task κ)
  | .controller => none
  | .runLoop => system.loop.dispatched?
  | .poolWorker index => system.pool.bind (·.task? index)

def setTask (system : System κ) (task : Task κ) : Thread → System κ
  | .controller => system
  | .runLoop => { system with loop := system.loop.setDispatched task }
  | .poolWorker index =>
      { system with
        pool := system.pool.map (·.setWorker index (.executing task)) }

/-- `dispatch_message` returned. -/
def clearTask (system : System κ) : Thread → Option (System κ)
  | .controller => none
  | .runLoop =>
      match system.loop with
      | .dispatching index revents _ =>
          some { system with loop := .scanning (index + 1) revents }
      | _ => none
  | .poolWorker index => do
      let pool ← system.pool
      let pool ← pool.finish index
      some { system with pool := some pool }

/-! `start` and `stop`. -/

def call? (system : System κ) : Thread → Option CallPhase
  | .controller => system.controller
  | thread => (system.task? thread).bind Task.call

def setCall (system : System κ) (call : Option CallPhase) : Thread → System κ
  | .controller => { system with controller := call }
  | thread =>
      match system.task? thread with
      | some task => system.setTask { task with call } thread
      | none => system

/-- The thread runs code of the Subscriber's user: the owner's, or that of a
callback. -/
def inUserCode (system : System κ) : Thread → Bool
  | .controller => system.controller.isNone
  | thread =>
      match system.task? thread with
      | some { phase := .inCallback _, call := none, .. } => true
      | _ => false

def settleCall (environment : Environment) (system : System κ)
    (thread : Thread) :
    CallOutcome → System κ
  | .continues lifecycle phase =>
      { system.setCall (some phase) thread with lifecycle }
  | .returns | .throws => system.setCall none thread
  | .spawned =>
      { system.setCall (some .startConstructed) thread with
        lifecycle := { system.lifecycle with thread := .temporary }
        loop := .connecting environment.config.subscribe
        sockets := [] }
  | .assigned =>
      { system.setCall none thread with
        lifecycle := { system.lifecycle with thread := .worker } }
  | .joined =>
      { system.setCall none thread with
        lifecycle := { system.lifecycle with thread := .none }
        loop := .absent }
  | .terminates => system.terminate .joinableAssigned

def callNext (environment : Environment) (system : System κ) (thread : Thread)
    (event : CallEvent) : Option (System κ) := do
  let phase ← system.call? thread
  let outcome ← phase.advance (thread = .runLoop) system.loop.isFinished
    system.lifecycle event
  some (system.settleCall environment thread outcome)

/-! `run_loop`. -/

/-- What follows a `recv` that returned a message. -/
def receive (environment : Environment) (system : System κ) (index : Nat)
    (revents : List Bool) (type : EnumValue PubSubMessage) (bytes : Bytes) :
    System κ :=
  let received :=
    system.received ++ [{ type, bytes, registry := system.registry }]
  let loop :=
    match decodeFrame environment.parsers type bytes with
    | none => .scanning (index + 1) revents
    | some message =>
        let task := { frame := system.received.length, message }
        if system.pool.isSome then .enqueuing index revents task
        else .dispatching index revents task
  { system with received, loop }

def loopNext (environment : Environment) (system : System κ) :
    LoopEvent → Option (System κ)
  | .proceed =>
      match system.loop with
      | .connecting (message :: rest) =>
          match openSocket environment.config message with
          | .ok socket =>
              some { system with
                sockets := system.sockets ++ [socket]
                loop := .connecting rest }
          | .error _ => some (system.terminate (.uncaughtException .runLoop))
      | .connecting [] => some { system with loop := .creatingPool }
      | .creatingPool =>
          match environment.config.callbackExecutor with
          | .ThreadPool =>
              some { system with pool := some (.create 2), loop := .testing }
          | .Inline => some { system with pool := none, loop := .testing }
      | .testing =>
          if system.lifecycle.running then some { system with loop := .polling }
          else some { system with loop := .stoppingPool }
      | .scanning index revents =>
          match revents[index]? with
          | none => some { system with loop := .testing }
          | some false =>
              some { system with loop := .scanning (index + 1) revents }
          | some true => none
      | .enqueuing index revents task =>
          some { system with
            pool := system.pool.map (·.enqueue task)
            loop := .notifying index revents }
      | .stoppingPool =>
          match system.pool with
          | none => some { system with loop := .finished }
          | some pool =>
              some { system with
                pool := some pool.requestStop, loop := .notifyingAll }
      | .notifyingAll => do
          let pool ← system.pool
          let pool ← pool.notifyAll
          some { system with pool := some pool, loop := .joiningPool 0 }
      | .joiningPool index => do
          let pool ← system.pool
          match pool.workers[index]? with
          | some .exited =>
              some { system with loop := .joiningPool (index + 1) }
          | some _ => none
          | none => some { system with pool := none, loop := .finished }
      | _ => none
  | .throws =>
      match system.loop with
      | .connecting (_ :: _) | .creatingPool | .polling =>
          some (system.terminate (.uncaughtException .runLoop))
      | .scanning index revents =>
          if revents[index]? = some true then
            some (system.terminate (.uncaughtException .runLoop))
          else none
      | _ => none
  | .poll revents =>
      match system.loop with
      | .polling =>
          if revents.length = system.sockets.length then
            some { system with loop := .scanning 0 revents }
          else none
      | _ => none
  | .recv bytes =>
      match system.loop with
      | .scanning index revents =>
          match revents[index]?, system.sockets[index]?, bytes with
          | some true, some _, none =>
              some { system with loop := .scanning (index + 1) revents }
          | some true, some socket, some bytes =>
              some (system.receive environment index revents socket.type bytes)
          | _, _, _ => none
      | _ => none
  | .notify target =>
      match system.loop with
      | .notifying index revents => do
          let pool ← system.pool
          let pool ← pool.notifyOne target
          some { system with
            pool := some pool, loop := .scanning (index + 1) revents }
      | _ => none

/-! The pool's workers, and `dispatch_message` on whatever thread runs it. -/

def workerNext (system : System κ) (index : Nat) :
    WorkerEvent → Option (System κ)
  | .acquire => do
      let pool ← system.pool
      let pool ← pool.acquire index
      some { system with pool := some pool }
  | .wake => do
      let pool ← system.pool
      let pool ← pool.wake index
      some { system with pool := some pool }

def recordInvocation (system : System κ) (task : Task κ)
    (callback : Callback κ) :
    System κ :=
  { system with
    invocations :=
      system.invocations ++ [(task.frame, ⟨callback, task.message⟩)] }

/-- An empty `std::function` throws when it is invoked, and so may a callback;
nothing on the way out of the thread catches it. -/
def dispatchNext (system : System κ) (thread : Thread) :
    DispatchEvent → Option (System κ)
  | .snapshot => do
      let task ← system.task? thread
      let phase ← task.phase.snapshot system.registry task.message.type
      some (system.setTask { task with phase } thread)
  | .invoke => do
      let task ← system.task? thread
      let (callback, phase) ← task.phase.invoke
      let invoked :=
        (system.setTask { task with phase } thread).recordInvocation
          task callback
      match callback with
      | some _ => some invoked
      | none => some (invoked.terminate (.uncaughtException thread))
  | .returns => do
      let task ← system.task? thread
      let phase ← task.phase.callbackReturns
      if task.call.isSome then none
      else some (system.setTask { task with phase } thread)
  | .throws => do
      let task ← system.task? thread
      let _ ← task.phase.callbackReturns
      if task.call.isSome then none
      else some (system.terminate (.uncaughtException thread))
  | .finish => do
      let task ← system.task? thread
      match task.phase with
      | .looping [] => system.clearTask thread
      | _ => none

def next (environment : Environment) : StepFn (System κ) (Label κ) :=
  fun system label =>
    if system.terminated.isSome then none
    else
      match label with
      | .call thread operation =>
          if system.inUserCode thread then
            some (system.setCall (some operation.entry) thread)
          else none
      | .callStep thread event => system.callNext environment thread event
      | .on registration =>
          some { system with registry := registration.apply system.registry }
      | .loop event => system.loopNext environment event
      | .worker index event => system.workerNext index event
      | .dispatch thread event => system.dispatchNext thread event

end System

/-! Runs of a Subscriber to vessel info, whose frames are on the wire format. -/

def vesselEnvironment (callbackExecutor : CallbackExecutor) : Environment where
  config := {
    host := "127.0.0.1"
    subscribe := [.of .VesselInfo]
    pubsubPorts := defaultPubsubPorts
    reqrepPorts := defaultReqrepPorts
    restPorts := defaultRestPorts
    callbackExecutor
    timeoutSeconds := .finite 5 }
  parsers := wireParsers

/-- A `start`, or a `stop` up to its join. -/
def callRun (thread : Thread) (operation : Operation) : List (Label κ) :=
  .call thread operation ::
    List.replicate (if operation = .start then 4 else 3)
    (.callStep thread .completes)

/-- A `start`, and the set-up of `run_loop`. -/
def startRun : List (Label κ) :=
  callRun .controller .start ++ [.loop .proceed, .loop .proceed, .loop .proceed]

def receiveRun (bytes : Bytes) : List (Label κ) :=
  [.loop .proceed, .loop (.poll [true]), .loop (.recv (some bytes))]

/-- The bytes of a message whose draft is 1. -/
def draftFrame : Bytes := [0x0d, 0, 0, 0x80, 0x3f]

end Farsounder.Subscriber
