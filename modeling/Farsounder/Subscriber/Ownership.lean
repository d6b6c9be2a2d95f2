import Farsounder.Data.Transition
import Farsounder.Subscriber.Lifecycle

namespace Farsounder.Subscriber.Ownership

open Farsounder.Data

/-! Several Subscribers under one controlling thread.  `unique_ptr` moves the
`Impl`s between them, while each worker keeps the address of the Subscriber that
started it.  Addresses are indices, and none is used again. -/

structure Impl where
  running : Bool := false
  /-- The thread that the `std::thread` stands for while it is joinable. -/
  worker : Option Nat := none
  destroyed : Bool := false
  deriving DecidableEq, Repr

def Impl.lifecycle (impl : Impl) : Lifecycle :=
  { running := impl.running, thread := if impl.worker.isSome then .worker
    else .none }

def Impl.destroy (impl : Impl) : Impl :=
  { impl with destroyed := true }

/-- A Subscriber; `impl` is its `impl_`. -/
structure Object where
  impl : Option Nat
  destroyed : Bool := false
  deriving DecidableEq, Repr

/-- What the `impl_` that a worker's lambda reads turns out to be. -/
inductive FirstRead where
  | destroyedSubscriber
  | null
  | impl (address : Nat)
  deriving DecidableEq, Repr

/-- A thread that runs `[this]() { impl_->run_loop(); }`. -/
structure Worker where
  captured : Nat
  startedFor : Nat
  /-- Set by its first step, with which it enters `run_loop`. -/
  read : Option FirstRead := none
  finished : Bool := false
  deriving DecidableEq, Repr

/-- The `start` or `stop` that the controlling thread is in. -/
structure OwnerCall where
  object : Nat
  phase : CallPhase
  /-- The `stop` is that of `~Subscriber`. -/
  destructs : Bool := false
  deriving DecidableEq, Repr

structure State where
  objects : List Object := []
  impls : List Impl := []
  workers : List Worker := []
  call : Option OwnerCall := none
  terminated : Bool := false
  deriving DecidableEq

inductive Operation where
  | construct
  | moveConstruct (source : Nat)
  | moveAssign (target source : Nat)
  | start (object : Nat)
  | stop (object : Nat)
  | destroy (object : Nat)
  deriving DecidableEq, Repr

inductive Label where
  | operation (operation : Operation)
  /-- The next statement of the controlling thread's call. -/
  | proceed
  /-- The first step of a worker. -/
  | enter (worker : Nat)
  /-- A worker has read `running` as false and returns from `run_loop`. -/
  | finish (worker : Nat)
  deriving DecidableEq, Repr

namespace State

def impl? (state : State) (address : Nat) : Option Impl :=
  state.impls[address]?

def worker? (state : State) (index : Nat) : Option Worker :=
  state.workers[index]?

def live? (state : State) (object : Nat) : Option Object :=
  (state.objects[object]?).filter (!·.destroyed)

def implOf (state : State) (object : Nat) : Option Nat :=
  (state.live? object).bind (·.impl)

def setImpl (state : State) (object : Nat) (impl : Option Nat) : State :=
  { state with objects := state.objects.set object { impl } }

/-- `delete` of what a `unique_ptr` held: the destructor of a joinable
`std::thread` calls `std::terminate`. -/
def deleteImpl (state : State) : Option Nat → State
  | none => state
  | some address =>
      match state.impl? address with
      | none => state
      | some impl =>
          { state with
            impls := state.impls.set address impl.destroy
            terminated := state.terminated || impl.worker.isSome }

/-! The special members. -/

def construct (state : State) : State :=
  { state with
    impls := state.impls ++ [{}]
    objects := state.objects ++ [{ impl := some state.impls.length }] }

/-- `Subscriber(Subscriber&&) = default` -/
def moveConstruct (state : State) (source : Nat) : Option State := do
  let moved ← state.live? source
  let released := state.setImpl source none
  some { released with objects := released.objects ++ [{ impl := moved.impl }] }

/-- `operator=(Subscriber&&) = default`: `reset` with what `release` returns. -/
def moveAssign (state : State) (target source : Nat) : Option State := do
  let moved ← state.live? source
  let released := state.setImpl source none
  let assigned ← released.live? target
  some ((released.setImpl target moved.impl).deleteImpl assigned.impl)

/-- What `~Subscriber` does after its `stop`. -/
def destroyObject (state : State) (object : Nat) : State :=
  deleteImpl
    { state with
      objects := state.objects.set object { impl := none, destroyed := true } }
    (state.implOf object)

/-! `start`, `stop` and `~Subscriber`. -/

def leave (state : State) (call : OwnerCall) : State :=
  let left := { state with call := none }
  if call.destructs then left.destroyObject call.object else left

/-- A `start` without an `Impl` dereferences a null pointer. -/
def callStart (state : State) (object : Nat) : Option State := do
  let subscriber ← state.live? object
  let _ ← subscriber.impl
  some { state with call := some { object, phase := .startEntered } }

/-- `stop` returns at once without an `Impl`. -/
def callStop (state : State) (object : Nat) (destructs : Bool) :
    Option State := do
  let subscriber ← state.live? object
  let call := { object, phase := .stopEntered, destructs }
  match subscriber.impl with
  | none => some (state.leave call)
  | some _ => some { state with call := some call }

def operate (state : State) : Operation → Option State
  | .construct => some state.construct
  | .moveConstruct source => state.moveConstruct source
  | .moveAssign target source => state.moveAssign target source
  | .start object => state.callStart object
  | .stop object => state.callStop object false
  | .destroy object => state.callStop object true

def workerFinished (state : State) (impl : Impl) : Bool :=
  (impl.worker.bind state.worker?).any (·.finished)

/-- The controlling thread alone reads `worker`, so that `start` constructs the
thread and assigns it in one step. -/
def settle (state : State) (call : OwnerCall) (address : Nat) (impl : Impl) :
    CallOutcome → State
  | .continues lifecycle phase =>
      { state with
        impls :=
          state.impls.set address { impl with running := lifecycle.running }
        call := some { call with phase } }
  | .spawned =>
      { state with
        impls :=
          state.impls.set address
            { impl with worker := some state.workers.length }
        workers :=
          state.workers ++ [{ captured := call.object, startedFor := address }]
        call := none }
  | .joined =>
      { state with impls := state.impls.set address { impl with worker := none }
        }.leave call
  | .returns | .assigned | .throws => state.leave call
  | .terminates => { state with terminated := true }

/-- The calls complete normally. -/
def proceed (state : State) : Option State := do
  let call ← state.call
  let address ← state.implOf call.object
  let impl ← state.impl? address
  let outcome ← call.phase.advance false
      (state.workerFinished impl) impl.lifecycle .completes
  some (state.settle call address impl outcome)

/-! The workers. -/

def firstRead (state : State) (captured : Nat) : FirstRead :=
  match state.live? captured with
  | none => .destroyedSubscriber
  | some subscriber => subscriber.impl.elim .null .impl

def enter (state : State) (index : Nat) : Option State := do
  let worker ← state.worker? index
  if worker.read.isSome then none
  else
    let read := state.firstRead worker.captured
    some { state with
      workers := state.workers.set index { worker with read := some read } }

/-- Only a worker that has found an `Impl` gets as far as testing its
`running`. -/
def finish (state : State) (index : Nat) : Option State := do
  let worker ← state.worker? index
  match worker.read with
  | some (.impl address) =>
      let impl ← state.impl? address
      if worker.finished || impl.running then none
      else some { state with
        workers := state.workers.set index { worker with finished := true } }
  | _ => none

end State

def next : StepFn State Label := fun state label =>
  if state.terminated then none
  else
    match label with
    | .operation operation =>
        if state.call.isSome then none else state.operate operation
    | .proceed => state.proceed
    | .enter worker => state.enter worker
    | .finish worker => state.finish worker

end Farsounder.Subscriber.Ownership
