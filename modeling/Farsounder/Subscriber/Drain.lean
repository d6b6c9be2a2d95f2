import Farsounder.Subscriber.Calls

namespace Farsounder.Subscriber

open Config
open Farsounder.Data

variable {κ : Type}

namespace System

variable {environment : Environment} {system after : System κ}

/-! The owning thread is the only one to call `start` and `stop`, and it
registers callbacks only while no worker exists. -/

def OwnerCalls (system : System κ) : Label κ → Prop
  | .call thread _ => thread = .controller
  | .callStep thread _ => thread = .controller
  | .on _ => system.loop = .absent
  | _ => True

/-- The owner also leaves the Subscriber stopped. -/
def OwnerRests (system : System κ) (label : Label κ) : Prop :=
  system.OwnerCalls label ∧ label ≠ .call .controller .start

instance [DecidableEq κ] (system : System κ) (label : Label κ) :
    Decidable (system.OwnerCalls label) :=
  match label with
  | .call thread _ => inferInstanceAs (Decidable (thread = .controller))
  | .callStep thread _ => inferInstanceAs (Decidable (thread = .controller))
  | .on _ => inferInstanceAs (Decidable (system.loop = .absent))
  | .loop _ | .worker _ _ | .dispatch _ _ => .isTrue trivial

theorem OwnerCalls.registersWhileIdle {label : Label κ}
    (permitted : system.OwnerCalls label) :
    RegistersWhileIdle system label := by
  cases label <;> first | exact permitted | trivial

/-- What the flag and the thread are at each point of the owner's calls. -/
def OwnerFits (lifecycle : Lifecycle) : Option CallPhase → Prop
  | none | some .startEntered | some .stopEntered =>
      (lifecycle.running = false → lifecycle.thread = .none) ∧
        lifecycle.thread ≠ .temporary
  | some .startChecked => lifecycle.thread = .none
  | some .startStored => lifecycle.running = true ∧ lifecycle.thread = .none
  | some .startConstructed =>
      lifecycle.running = true ∧ lifecycle.thread = .temporary
  | some .stopChecked => lifecycle.thread ≠ .temporary
  | some .stopStored | some .stopJoining =>
      lifecycle.running = false ∧ lifecycle.thread ≠ .temporary

theorem ownerFits_advance {lifecycle : Lifecycle} {phase : CallPhase}
    {event : CallEvent} {outcome : CallOutcome} {finished : Bool}
    (fits : OwnerFits lifecycle (some phase))
    (advances : Advances false finished lifecycle phase event outcome) :
    OwnerFits (outcome.lifecycle lifecycle) outcome.phase? := by
  cases advances with
  | startPasses stopped => exact fits.1 stopped
  | startRefused => exact fits
  | startStores => exact ⟨rfl, fits⟩
  | constructs => exact ⟨fits.1, rfl⟩
  | constructsBeside worker => exact absurd (fits.2.symm.trans worker) (by simp)
  | constructionFails =>
      exact ⟨fun _ => fits.2, by simp [CallOutcome.lifecycle, fits.2]⟩
  | assigns =>
      exact ⟨fun stopped => absurd (fits.1.symm.trans stopped) (by simp),
        by simp [CallOutcome.lifecycle]⟩
  | assignsOver worker => exact absurd (fits.2.symm.trans worker) (by simp)
  | stopPasses => exact fits.2
  | stopSkips => exact fits
  | stopStores => exact ⟨rfl, fits⟩
  | findsJoinable => exact fits
  | findsNone free =>
      exact ⟨fun _ => Lifecycle.thread_eq_none free fits.2, fits.2⟩
  | joins => exact ⟨fun _ => rfl, by simp [CallOutcome.lifecycle]⟩
  | joinFails cannot =>
      have free : lifecycle.joinable = false := by
        cases joinable : lifecycle.joinable with
        | true => exact absurd (cannot joinable) (by simp)
        | false => rfl
      exact ⟨fun _ => Lifecycle.thread_eq_none free fits.2, fits.2⟩

theorem ownerFits_step {label : Label κ}
    (change : CallsChange system after label)
    (permitted : system.OwnerCalls label)
    (fits : OwnerFits system.lifecycle system.controller) :
    OwnerFits after.lifecycle after.controller := by
  cases change with
  | keeps lifecycle calls =>
      rw [lifecycle,
        show after.controller = system.controller from calls .controller]
      exact fits
  | @enters thread operation idle lifecycle calls =>
      obtain rfl : thread = .controller := permitted
      rw [show system.controller = none from idle] at fits
      have entered : after.controller = some operation.entry :=
        (calls .controller).trans (if_pos rfl)
      rw [lifecycle, entered]
      cases operation <;> exact fits
  | @advances thread event phase outcome found advanced lifecycle calls =>
      obtain rfl : thread = .controller := permitted
      rw [show system.controller = some phase from found] at fits
      have left : after.controller = outcome.phase? :=
        (calls .controller).trans (if_pos rfl)
      rw [lifecycle, left]
      exact ownerFits_advance fits (CallPhase.advances advanced)
  | terminates _ _ ends => rw [ends]; exact fits

theorem ownerFits_of_reach
    (reach : Reach (System.next environment) OwnerCalls {} system) :
    OwnerFits system.lifecycle system.controller := by
  induction reach with
  | refl => exact ⟨fun _ => rfl, by simp⟩
  | step earlier permitted taken induction =>
      exact ownerFits_step (callsChange_of_reach earlier taken)
        permitted induction

/-! After `stop` has returned. -/

/-- No worker exists, and the owner is at most about to find that out. -/
structure Resting (system : System κ) : Prop where
  loop : system.loop = .absent
  lifecycle : system.lifecycle = { running := false, thread := .none }
  controller : system.controller = none ∨ system.controller = some .stopEntered

theorem resting_of_stop
    (reach : Reach (System.next environment) OwnerCalls {} system)
    {phase : CallPhase} {event : CallEvent}
    (inStop : system.controller = some phase) (ofStop : phase.ofStop = true)
    (taken : System.next environment system (.callStep .controller event) =
      some after) (returned : after.controller = none) : Resting after := by
  have permitted : system.OwnerCalls (.callStep .controller event) := rfl
  have reached := reach.step permitted taken
  have fits := ownerFits_of_reach reach
  have fits' := ownerFits_of_reach reached
  have control := control_of_reach reached
  rw [inStop] at fits
  rw [returned] at fits'
  have stopped : after.lifecycle.running = false := by
    cases callsChange_of_reach reach taken with
    | keeps lifecycle calls =>
        have same : after.controller = system.controller := calls .controller
        simp [returned, inStop] at same
    | @advances _ _ current outcome found advanced lifecycle calls =>
        obtain rfl : phase = current :=
          Option.some.inj (inStop.symm.trans found)
        have left : after.controller = outcome.phase? :=
          (calls .controller).trans (if_pos rfl)
        rw [lifecycle]
        refine (CallPhase.advances advanced).running_of_stop ofStop ?_
          (left.symm.trans returned)
        rintro (rfl | rfl) <;> exact fits.1
    | terminates found advanced ends =>
        rw [ends] at returned
        simp [System.terminate, inStop] at returned
  have free := fits'.1 stopped
  refine ⟨control.thread.mp free, ?_, .inl returned⟩
  cases lifecycle : after.lifecycle with
  | mk running thread =>
      rw [lifecycle] at stopped free
      rw [show running = false from stopped, show thread = .none from free]

theorem Resting.step (resting : Resting system)
    (control : Control environment system) {label : Label κ}
    (permitted : system.OwnerRests label)
    (step : Step environment system label after) :
    Resting after ∧ after.invocations = system.invocations ∧
      after.received = system.received := by
  have unpooled := control.absent_pool resting.loop
  have idle : ∀ thread, system.task? thread = none := by
    intro thread
    cases thread <;> simp [task?, resting.loop, LoopPhase.dispatched?, unpooled]
  obtain ⟨ownerCalls, notStart⟩ := permitted
  cases step with
  | @call thread operation user =>
      obtain rfl : thread = .controller := ownerCalls
      cases operation with
      | start => exact absurd rfl notStart
      | stop => exact ⟨⟨resting.loop, resting.lifecycle, .inr rfl⟩, rfl, rfl⟩
  | @callStep thread event phase outcome found advanced =>
      obtain rfl : thread = .controller := ownerCalls
      obtain rfl : phase = .stopEntered := by
        rcases resting.controller with none | entered
        · exact absurd (found.symm.trans none) (by simp)
        · exact Option.some.inj (found.symm.trans entered)
      cases event with
      | throws => contradiction
      | completes =>
          simp only [CallPhase.advance, resting.lifecycle,
            Bool.false_eq_true, if_false, Option.some.injEq] at advanced
          subst advanced
          exact ⟨⟨resting.loop, resting.lifecycle, .inl rfl⟩, rfl, rfl⟩
  | on => exact ⟨⟨resting.loop, resting.lifecycle, resting.controller⟩, rfl,
      rfl⟩
  | loop step =>
      have absent := resting.loop
      cases step with
      | moves moves => exact absurd absent moves.present.1
      | throws present => exact absurd absent present
      | _ => simp_all
  | worker step => cases step <;> simp_all
  | dispatch step => cases step <;> simp_all

theorem Resting.run {stopped later : System κ}
    (reach : Reach (System.next environment) OwnerCalls {} stopped)
    (resting : Resting stopped)
    (rest : Reach (System.next environment) OwnerRests stopped later) :
    Reach (System.next environment) OwnerCalls {} later ∧ Resting later ∧
      later.invocations = stopped.invocations ∧
      later.received = stopped.received := by
  induction rest with
  | refl => exact ⟨reach, resting, rfl, rfl⟩
  | step _ permitted taken induction =>
      obtain ⟨reached, resting, invocations, received⟩ := induction
      obtain ⟨resting', invocations', received'⟩ :=
        resting.step (control_of_reach reached) permitted (next_step taken)
      exact ⟨reached.step permitted.1 taken, resting',
        invocations'.trans invocations, received'.trans received⟩

/-! What the balance of the ledger says about the invocations. -/

section Balance

variable {allowed : System κ → Label κ → Prop}
  (idle : ∀ system label, allowed system label →
    RegistersWhileIdle system label)
    (reach : Reach (System.next environment) allowed {} system)

include idle reach

theorem balanced_of_reach : (system.ledger environment).Balanced :=
  Ledger.reach_balanced (ledger_of_reach idle reach)

/-- Once nothing is in flight, each frame has caused exactly what it had to. -/
theorem deliveries_of_idle (noneRunning : system.running = [])
    (noneWaiting : system.waiting = []) {index : Nat} {frame : ReceivedFrame κ}
    (received : system.received[index]? = some frame) :
    Ledger.deliveriesOf system.invocations index =
      frame.plan environment.parsers := by
  have balanced := balanced_of_reach idle reach
  refine balanced.settled index _ ?_ ?_
  · simp [ledger, Flight.ledger, flight, received]
  · simp [ledger, Flight.ledger, Flight.pending, Ledger.pendingItems, flight,
      noneRunning, noneWaiting]

/-- Only what a received frame plans is ever invoked for it. -/
theorem planned_of_invoked {index : Nat} {invocation : Invocation κ}
    (invoked : (index, invocation) ∈ system.invocations) :
    ∃ frame, system.received[index]? = some frame ∧
      invocation ∈ frame.plan environment.parsers := by
  obtain ⟨plan, planned, member⟩ :=
    (balanced_of_reach idle reach).planned invoked
  obtain ⟨frame, received, rfl⟩ :
      ∃ frame, system.received[index]? = some frame ∧
      frame.plan environment.parsers = plan := by
    simpa [ledger, Flight.ledger, flight] using planned
  exact ⟨frame, received, member⟩

end Balance

theorem mem_plan {parsers : Parsers} {frame : ReceivedFrame κ}
    {invocation : Invocation κ} : invocation ∈ frame.plan parsers ↔
      decodeFrame parsers frame.type frame.bytes = some invocation.message ∧
      invocation.callback ∈
        frame.registry.callbacks invocation.message.type := by
  unfold ReceivedFrame.plan
  cases decoded : decodeFrame parsers frame.type frame.bytes with
  | none => simp
  | some message =>
      obtain ⟨callback, invoked⟩ := invocation
      simp only [List.mem_map, Invocation.mk.injEq, Option.some.injEq]
      constructor
      · rintro ⟨_, member, rfl, rfl⟩
        exact ⟨rfl, member⟩
      · rintro ⟨rfl, member⟩
        exact ⟨callback, member, rfl, rfl⟩

/-- Whatever the owner did before, a `stop` of its that has returned leaves each
received frame dispatched exactly once, and nothing happens until it calls
`start` again. -/
theorem stop_drains_exactly_once {before stopped later : System κ}
    {phase : CallPhase} {event : CallEvent}
    (reach : Reach (System.next environment) OwnerCalls {} before)
    (inStop : before.controller = some phase) (ofStop : phase.ofStop = true)
    (taken : System.next environment before (.callStep .controller event) =
      some stopped) (returned : stopped.controller = none)
    (rest : Reach (System.next environment) OwnerRests stopped later) :
    (∀ index frame, later.received[index]? = some frame →
      Ledger.deliveriesOf later.invocations index =
        match decodeFrame environment.parsers frame.type frame.bytes with
        | some message =>
            (frame.registry.callbacks message.type).map (⟨·, message⟩)
        | none => []) ∧
    (∀ index invocation, (index, invocation) ∈ later.invocations →
      ∃ frame, later.received[index]? = some frame ∧
        decodeFrame environment.parsers frame.type frame.bytes =
          some invocation.message ∧
        frame.type = .of invocation.message.type ∧
        invocation.callback ∈
        frame.registry.callbacks invocation.message.type) ∧
    later.running = [] ∧ later.waiting = [] ∧ later.pool = none ∧
    later.invocations = stopped.invocations := by
  have permitted : before.OwnerCalls (.callStep .controller event) := rfl
  have resting := resting_of_stop reach inStop ofStop taken returned
  obtain ⟨reached, resting, invocations, _⟩ :=
    resting.run (reach.step permitted taken) rest
  have idle : ∀ (system : System κ) label, system.OwnerCalls label →
      RegistersWhileIdle system label :=
      fun _ _ => OwnerCalls.registersWhileIdle
  have control := control_of_reach reached
  obtain ⟨noneRunning, noneWaiting⟩ := control.idle_flight resting.loop
  refine ⟨?_, ?_, noneRunning, noneWaiting, control.absent_pool resting.loop,
    invocations⟩
  · intro index frame received
    rw [deliveries_of_idle idle reached noneRunning noneWaiting received,
      ReceivedFrame.plan]
    cases decodeFrame environment.parsers frame.type frame.bytes <;> rfl
  · intro index invocation invoked
    obtain ⟨frame, received, planned⟩ := planned_of_invoked idle reached invoked
    obtain ⟨decoded, registered⟩ := mem_plan.mp planned
    exact ⟨frame, received, decoded, decodeFrame_type decoded, registered⟩

/-- A malformed frame, then one that is still queued when `stop` is called. -/
def drainRun : List (Label Nat) :=
  .on ⟨.VesselInfo, .name "VesselInfo", some 7⟩ :: startRun ++
    receiveRun [0xff] ++ .loop .proceed :: receiveRun draftFrame ++
    [.loop .proceed, .loop (.notify none), .loop .proceed] ++
    callRun .controller .stop ++
    [.loop .proceed, .loop .proceed, .worker 1 .acquire, .loop .proceed,
      .worker 0 .acquire, .dispatch (.poolWorker 1) .snapshot,
      .dispatch (.poolWorker 1) .invoke, .dispatch (.poolWorker 1) .returns,
      .dispatch (.poolWorker 1) .finish, .worker 1 .acquire, .loop .proceed,
      .loop .proceed, .loop .proceed]

set_option maxRecDepth 4000 in
theorem stop_drains_exactly_once_drainRun : ∃ stopped : System Nat,
    stopped.received.map (·.bytes) = [[0xff], draftFrame] ∧
      Ledger.deliveriesOf stopped.invocations 0 = [] ∧
      Ledger.deliveriesOf stopped.invocations 1 =
        [⟨some 7, .vesselInfo { draft := 0x3f800000 }⟩] ∧
      stopped.running = [] ∧ stopped.waiting = [] := by
  have executed : ((runChecked (System.next (vesselEnvironment .ThreadPool))
      (fun system label => decide (system.OwnerCalls label)) {} drainRun).bind
        fun before =>
        (System.next (vesselEnvironment .ThreadPool) before
          (.callStep .controller .completes)).map fun stopped =>
            (before.controller, stopped.controller, stopped.received)) =
      some (some .stopJoining, none,
        [⟨.of .VesselInfo, [0xff], { vesselInfoCallbacks := [some 7] }⟩,
          ⟨.of .VesselInfo, draftFrame,
            { vesselInfoCallbacks := [some 7] }⟩]) := by
    decide +kernel
  obtain ⟨before, run, last⟩ := Option.bind_eq_some_iff.mp executed
  obtain ⟨stopped, taken, facts⟩ := Option.map_eq_some_iff.mp last
  obtain ⟨inStop, returned, received⟩ := by
    simpa only [Prod.mk.injEq] using facts
  obtain ⟨exactly, _, noneRunning, noneWaiting, _⟩ := stop_drains_exactly_once
    (reach_of_runChecked (fun _ _ => of_decide_eq_true) run) inStop rfl taken
      returned .refl
  refine ⟨stopped, by simp [received], ?_, ?_, noneRunning, noneWaiting⟩
  · rw [exactly 0 _ (by rw [received]; rfl)]
    decide +kernel
  · rw [exactly 1 _ (by rw [received]; rfl)]
    decide +kernel

end System

end Farsounder.Subscriber
