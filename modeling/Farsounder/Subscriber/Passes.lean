import Farsounder.Subscriber.Shutdown

namespace Farsounder.Subscriber

open Config
open Farsounder.Data

/-! The passes of `run_loop` over its sockets. -/

variable {κ : Type}

/-- What the poll of the pass returned, and how many sockets the pass is done
with. -/
def LoopPhase.pass? : LoopPhase κ → Option (List Bool × Nat)
  | scanning index revents => some (revents, index)
  | enqueuing index revents _ | notifying index revents
  | dispatching index revents _ =>
      some (revents, index + 1)
  | absent | connecting _ | creatingPool | testing | polling | stoppingPool
  | notifyingAll
  | joiningPool _ | finished => none

inductive PassEvent where
  | polled (revents : List Bool)
  /-- `recv` is called on the socket. -/
  | tried (index : Nat)
  deriving DecidableEq, Repr

/-- The readable sockets among the first ones. -/
def readable (revents : List Bool) (count : Nat) : List Nat :=
  (List.range count).filter fun index => revents[index]? = some true

/-- What is seen of a pass that is done with so many sockets. -/
def passTrace (revents : List Bool) (count : Nat) : List PassEvent :=
  .polled revents :: (readable revents count).map .tried

/-- What is seen of the pass that is going on. -/
def partialTrace : Option (List Bool × Nat) → List PassEvent
  | some (revents, count) => passTrace revents count
  | none => []

/-- What a step does to the pass, and what is seen of it. -/
inductive PassStep : Option PassEvent → Option (List Bool × Nat) →
    Option (List Bool × Nat) → Prop
  | rests {pass} : PassStep none pass pass
  | begins {revents} :
  PassStep (some (.polled revents)) none (some (revents, 0))
  | skips {revents index} (quiet : revents[index]? = some false) :
      PassStep none (some (revents, index)) (some (revents, index + 1))
  | tries {revents index} (flagged : revents[index]? = some true) :
      PassStep (some (.tried index)) (some (revents, index))
        (some (revents, index + 1))
  | ends {revents index} (past : revents[index]? = none) :
      PassStep none (some (revents, index)) none

theorem readable_succ (revents : List Bool) (count : Nat) :
    readable revents (count + 1) =
      readable revents count ++ if revents[count]? = some true then [count]
        else [] := by
  rw [readable, List.range_succ, List.filter_append, readable]
  by_cases flagged : revents[count]? = some true <;> simp [flagged]

theorem readable_past {revents : List Bool} {count : Nat}
    (past : revents[count]? = none) :
    readable revents count = readable revents revents.length := by
  have bounded := List.getElem?_eq_none_iff.mp past
  induction bounded with
  | refl => rfl
  | @step later bounded induction =>
      have beyond : revents[later]? = none :=
        List.getElem?_eq_none_iff.mpr bounded
      rw [readable_succ, beyond, induction beyond]
      exact List.append_nil _

theorem PassStep.trace {event : Option PassEvent}
    {before after : Option (List Bool × Nat)}
    (step : PassStep event before after) : ∃ passes : List (List Bool),
      partialTrace before ++ event.toList =
        passes.flatMap (fun revents => passTrace revents revents.length) ++
          partialTrace after := by
  cases step with
  | rests => exact ⟨[], List.append_nil _⟩
  | begins => exact ⟨[], rfl⟩
  | @skips revents index quiet =>
      refine ⟨[], ?_⟩
      simp [partialTrace, passTrace, readable_succ, quiet]
  | @tries revents index flagged =>
      refine ⟨[], ?_⟩
      simp [partialTrace, passTrace, readable_succ, flagged]
  | @ends revents index past =>
      refine ⟨[revents], ?_⟩
      simp [partialTrace, passTrace, readable_past past]

namespace System

/-- What is seen of a step of `run_loop`. -/
def passEvent? (system : System κ) : Label κ → Option PassEvent
  | .loop (.poll revents) => some (.polled revents)
  | .loop (.recv _) =>
      match system.loop with
      | .scanning index _ => some (.tried index)
      | _ => none
  | _ => none

variable {environment : Environment} {system after : System κ}

theorem setDispatched_pass? (task : Task κ) (phase : LoopPhase κ) :
    (phase.setDispatched task).pass? = phase.pass? := by
  cases phase <;> rfl

theorem setTask_pass? (task : Task κ) (thread : Thread) :
    (system.setTask task thread).loop.pass? = system.loop.pass? := by
  cases thread with
  | controller | poolWorker => rfl
  | runLoop => exact setDispatched_pass? task system.loop

theorem setCall_pass? (call : Option CallPhase) (thread : Thread) :
    (system.setCall call thread).loop.pass? = system.loop.pass? :=
  setCall_field system call thread (·.loop.pass?) (fun _ =>
    setTask_pass? _ _) rfl

theorem proceed_passStep
    (taken : system.loopNext environment .proceed = some after) :
    PassStep none system.loop.pass? after.loop.pass? := by
  have moved := proceed_step taken
  cases loop : system.loop with
  | scanning index revents =>
      simp only [loopNext, loop] at taken
      split at taken
      · rename_i past
        rw [← Option.some.inj taken]
        exact .ends past
      · rename_i quiet
        rw [← Option.some.inj taken]
        exact .skips quiet
      · contradiction
  | enqueuing index revents task =>
      simp only [loopNext, loop, Option.some.injEq] at taken
      rw [← taken]
      exact .rests
  | absent | polling | notifying | dispatching | finished =>
      simp [loopNext, loop] at taken
  | connecting | creatingPool | testing | stoppingPool | notifyingAll
  | joiningPool =>
      have none : after.loop.pass? = none := by
        cases moved with
        | moves moves => cases moves <;> simp_all [LoopPhase.pass?]
        | throws => simp [terminate, loop, LoopPhase.pass?]
        | connects | createsPool | createsNoPool | stopsPool | notifiesAll
        | destroysPool => rfl
        | receives found | enqueues found | notifies found =>
            simp [loop] at found
      rw [none]
      exact .rests

theorem loop_passStep {event : LoopEvent}
    (taken : system.loopNext environment event = some after) :
    PassStep (system.passEvent? (.loop event)) system.loop.pass?
      after.loop.pass? := by
  cases event with
  | proceed => exact proceed_passStep taken
  | throws =>
      have same : after.loop = system.loop := by
        simp only [loopNext] at taken
        split at taken
        all_goals first
          | contradiction
          | (rw [← Option.some.inj taken]; rfl)
          | (split at taken
             · rw [← Option.some.inj taken]
               rfl
             · contradiction)
      rw [same]
      exact .rests
  | poll revents =>
      simp only [loopNext] at taken
      split at taken
      · rename_i loop
        split at taken
        · rw [← Option.some.inj taken, loop]
          exact .begins
        · contradiction
      · contradiction
  | recv bytes =>
      simp only [loopNext] at taken
      split at taken
      · rename_i index revents loop
        have tried :
            system.passEvent? (.loop (.recv bytes)) = some (.tried index) := by
          simp [passEvent?, loop]
        rw [tried, loop]
        split at taken
        · rename_i flagged _
          rw [← Option.some.inj taken]
          exact .tries flagged
        · rename_i flagged _
          rw [← Option.some.inj taken]
          have received (type : EnumValue PubSubMessage) (bytes : Wire.Bytes) :
              (system.receive environment index revents type bytes).loop.pass? =
                some (revents, index + 1) := by
            simp only [receive]
            split
            · rfl
            · split <;> rfl
          rw [received]
          exact .tries flagged
        · contradiction
      · contradiction
  | notify target =>
      simp only [loopNext] at taken
      split at taken
      · rename_i index revents loop
        simp only [Option.bind_eq_bind, Option.bind_eq_some_iff,
          Option.some.injEq] at taken
        obtain ⟨pool, _, next, _, rfl⟩ := taken
        rw [loop]
        exact .rests
      · contradiction

theorem settleCall_pass? (control : Control environment system)
    {thread : Thread} {event : CallEvent} {phase : CallPhase}
    {outcome : CallOutcome}
    (advanced : phase.advance (thread = .runLoop) system.loop.isFinished
      system.lifecycle event =
      some outcome) :
    (system.settleCall environment thread outcome).loop.pass? =
      system.loop.pass? := by
  cases outcome with
  | continues | returns | assigned | throws => exact setCall_pass? _ _
  | spawned =>
      have free := (CallPhase.advances advanced).spawned.2
      rw [control.thread.mp free]
      rfl
  | joined =>
      obtain ⟨_, _, _, finished⟩ := (CallPhase.advances advanced).joined
      cases loop : system.loop with
      | finished => rfl
      | _ => simp [loop, LoopPhase.isFinished] at finished
  | terminates => rfl

theorem passStep (control : Control environment system) {label : Label κ}
    (taken : System.next environment system label = some after) :
    PassStep (system.passEvent? label) system.loop.pass? after.loop.pass? := by
  have same (unchanged : after.loop.pass? = system.loop.pass?)
      (unseen : system.passEvent? label = none) :
      PassStep (system.passEvent? label) system.loop.pass?
        after.loop.pass? := by
    rw [unchanged, unseen]
    exact .rests
  cases next_step taken with
  | call => exact same (setCall_pass? _ _) rfl
  | callStep found advanced =>
      exact same (settleCall_pass? control advanced) rfl
  | on => exact same rfl rfl
  | @loop event _ step =>
      have moved : system.loopNext environment event = some after := by
        simpa [System.next, next_alive taken] using taken
      exact loop_passStep moved
  | worker step => cases step <;> exact same rfl rfl
  | dispatch step =>
      cases step with
      | snapshot | returns | invoke | invokeEmpty =>
          exact same (setTask_pass? _ _) rfl
      | throws => exact same rfl rfl
      | finish found done cleared =>
          obtain ⟨_, _, _, _, loop, rfl⟩ | ⟨_, _, _, _, _, _, rfl⟩ :=
            clearTask_cases cleared
          · exact same (by rw [loop]; rfl) rfl
          · exact same rfl rfl

/-- However the threads take turns, whatever the frames are and wherever their
dispatch runs, a pass of `run_loop` calls `recv` once on each socket that its
poll found readable and on no other one, in the order of the subscriptions, and
the next poll comes only after the last of them. -/
theorem passes_read_readable_sockets {allowed : System κ → Label κ → Prop}
    {trace : List PassEvent}
    (observed : Observed (System.next environment) allowed passEvent? {}
      trace system) :
    ∃ passes : List (List Bool), trace =
      passes.flatMap (fun revents => passTrace revents revents.length) ++
        partialTrace system.loop.pass? := by
  induction observed with
  | refl => exact ⟨[], rfl⟩
  | @step trace before after label earlier _ taken induction =>
      obtain ⟨passes, traced⟩ := induction
      have step := passStep (control_of_reach earlier.reach) taken
      obtain ⟨ended, split⟩ := step.trace
      refine ⟨passes ++ ended, ?_⟩
      rw [traced, List.append_assoc, split, List.flatMap_append,
        List.append_assoc]

/-- Nothing has arrived at the first poll, and a frame at the second. -/
def secondPass : List (Label Nat) :=
  startRun ++ [.loop .proceed, .loop (.poll [false]), .loop .proceed,
    .loop .proceed] ++
    receiveRun draftFrame

theorem passes_read_readable_sockets_secondPass : ∃ system : System Nat,
    Observed (System.next (vesselEnvironment .Inline)) (Unrestricted _ _)
      passEvent? {} [.polled [false], .polled [true], .tried 0] system ∧
    ∃ passes : List (List Bool), [.polled [false], .polled [true], .tried 0] =
      passes.flatMap (fun revents => passTrace revents revents.length) ++
        partialTrace system.loop.pass? := by
  have executed :
      (Observed.run (System.next (vesselEnvironment .Inline)) passEvent? {}
      secondPass).map Prod.fst = some [.polled [false], .polled [true],
        .tried 0] := by
    decide +kernel
  obtain ⟨⟨trace, system⟩, run, rfl⟩ := Option.map_eq_some_iff.mp executed
  exact ⟨system, .of_run run, passes_read_readable_sockets (.of_run run)⟩

end System

/-! What is still received once the worker has been told to stop. -/

/-- The sockets that the pass has still to read, or that the next one has at
most. -/
def LoopPhase.unread (sockets : Nat) : LoopPhase κ → Nat
  | polling => sockets
  | scanning index revents => (revents.drop index).count true
  | enqueuing index revents _ | notifying index revents
  | dispatching index revents _ =>
      (revents.drop (index + 1)).count true
  | absent | connecting _ | creatingPool | testing | stoppingPool | notifyingAll
  | joiningPool _ | finished => 0

theorem count_drop {revents : List Bool} {index : Nat} {flag : Bool}
    (flagged : revents[index]? = some flag) :
    (revents.drop index).count true = (revents.drop (index + 1)).count true +
      flag.toNat := by
  obtain ⟨inside, rfl⟩ := List.getElem?_eq_some_iff.mp flagged
  rw [List.drop_eq_getElem_cons inside, List.count_cons]
  cases revents[index] <;> rfl

namespace System

variable {environment : Environment} {system after : System κ}

/-- What has been received, and what will be unless the worker polls again. -/
def receivable (system : System κ) : Nat :=
  system.received.length + system.loop.unread system.sockets.length

theorem receivable_setTask (task : Task κ) (thread : Thread) :
    (system.setTask task thread).receivable = system.receivable := by
  cases thread with
  | controller | poolWorker => rfl
  | runLoop =>
      simp only [receivable, setTask]
      cases system.loop <;> rfl

theorem receivable_setCall (call : Option CallPhase) (thread : Thread) :
    (system.setCall call thread).receivable = system.receivable :=
  setCall_field system call thread receivable (fun _ =>
    receivable_setTask _ _) rfl

theorem LoopMoves.receivable {loop : LoopPhase κ}
    (moves : system.LoopMoves loop)
    (stopped : system.lifecycle.running = false) :
    System.receivable { system with loop } ≤ system.receivable := by
  apply Nat.add_le_add_left
  cases moves with
  | enter _ running =>
      rw [stopped] at running
      contradiction
  | connected | leave | scanned | noPool | joinedWorker => exact Nat.zero_le _
  | polled loop length =>
      rw [loop]
      exact length ▸ List.count_le_length
  | skip loop flagged =>
      rw [loop]
      simp only [LoopPhase.unread, count_drop flagged]
      exact Nat.le_add_right _ _

theorem LoopStep.receivable (step : LoopStep environment system after)
    (stopped : system.lifecycle.running = false) :
    after.receivable ≤ system.receivable := by
  cases step with
  | moves moves => exact moves.receivable stopped
  | connects | createsPool | createsNoPool | stopsPool | notifiesAll
  | destroysPool =>
      exact Nat.add_le_add_left (Nat.zero_le _) _
  | @receives index revents socket bytes loop flagged =>
      have unread :
          (system.receive environment index revents socket.type
            bytes).loop.unread
          system.sockets.length = (revents.drop (index + 1)).count true := by
        simp only [receive]
        split
        · rfl
        · split <;> rfl
      have next := count_drop flagged
      have length :
          (system.receive environment index revents socket.type
            bytes).received.length =
          system.received.length + 1 := by
        simp [receive]
      change _ +
        (system.receive environment index revents socket.type bytes).loop.unread
        system.sockets.length ≤ _
      rw [unread, length, System.receivable, loop, LoopPhase.unread, next,
        Bool.toNat_true]
      omega
  | enqueues loop | notifies loop =>
      rw [System.receivable, System.receivable, loop]
      exact Nat.le_refl _
  | throws => exact Nat.le_refl _

/-- The worker has been told to stop, and nobody is about to start another
one. -/
structure Halted (system : System κ) : Prop where
  running : system.lifecycle.running = false
  quiet : ∀ thread, thread ≠ .controller → system.call? thread = none
  stopping : ∀ phase, system.controller = some phase → phase.ofStop = true

/-- Callbacks make no calls, and the owner none of `start`. -/
def OwnerHalts (system : System κ) (label : Label κ) : Prop :=
  system.CallsFromOwner label ∧ label ≠ .call .controller .start

instance [DecidableEq κ] (system : System κ) (label : Label κ) :
    Decidable (system.OwnerHalts label) :=
  inferInstanceAs (Decidable (_ ∧ _))

theorem advance_halted {finished : Bool} {lifecycle : Lifecycle}
    {phase : CallPhase} {event : CallEvent} {outcome : CallOutcome}
    (stopping : phase.ofStop = true) (stopped : lifecycle.running = false)
    (advances : Advances false finished lifecycle phase event outcome) :
    (outcome.lifecycle lifecycle).running = false := by
  cases advances with
  | stopPasses | stopSkips | findsJoinable | findsNone | joins | joinFails =>
      exact stopped
  | stopStores => rfl
  | _ => contradiction

theorem Halted.step (halted : Halted system) {label : Label κ}
    (change : CallsChange system after label)
    (permitted : system.OwnerHalts label) :
    Halted after := by
  obtain ⟨fromOwner, noStart⟩ := permitted
  cases change with
  | keeps lifecycle calls =>
      have same : after.controller = system.controller := calls .controller
      refine ⟨lifecycle ▸ halted.running, fun thread callback => ?_,
        same ▸ halted.stopping⟩
      rw [calls]
      exact halted.quiet thread callback
  | @enters thread operation idle lifecycle calls =>
      obtain rfl : thread = .controller := fromOwner
      have entered : after.controller = some operation.entry :=
        (calls .controller).trans (if_pos rfl)
      refine ⟨lifecycle ▸ halted.running, fun other callback => ?_,
        fun phase inCall => ?_⟩
      · rw [calls, if_neg callback]
        exact halted.quiet other callback
      · obtain rfl := Option.some.inj (entered.symm.trans inCall)
        cases operation with
        | start => contradiction
        | stop => rfl
  | @advances thread event phase outcome found advanced lifecycle calls =>
      obtain rfl : thread = .controller := fromOwner
      have left : after.controller = outcome.phase? :=
        (calls .controller).trans (if_pos rfl)
      have stops := halted.stopping phase found
      refine ⟨?_, fun other callback => ?_, fun next inCall => ?_⟩
      · rw [lifecycle]
        exact advance_halted stops halted.running (CallPhase.advances advanced)
      · rw [calls, if_neg callback]
        exact halted.quiet other callback
      · exact ((CallPhase.advances advanced).ofStop
          (left.symm.trans inCall)).trans stops
  | terminates _ _ ends =>
      rw [ends]
      refine ⟨halted.running, fun thread callback => ?_, halted.stopping⟩
      have quiet := halted.quiet thread callback
      cases thread <;> exact quiet

theorem receivable_step (halted : Halted system)
    {label : Label κ} (permitted : system.OwnerHalts label)
    (step : Step environment system label after) :
    after.receivable ≤ system.receivable := by
  cases step with
  | call => exact (receivable_setCall _ _).le
  | @callStep thread event phase outcome found advanced =>
      cases outcome with
      | continues | returns | assigned | throws =>
          exact (receivable_setCall _ _).le
      | joined =>
          change (system.setCall none thread).received.length ≤ _
          rw [setCall_received]
          exact Nat.le_add_right _ _
      | spawned =>
          obtain rfl : thread = .controller := permitted.1
          obtain ⟨rfl, _⟩ := (CallPhase.advances advanced).spawned
          have stops := halted.stopping _ found
          contradiction
      | terminates => exact Nat.le_refl _
  | on => exact Nat.le_refl _
  | loop step => exact step.receivable halted.running
  | worker step => cases step <;> exact Nat.le_refl _
  | dispatch step =>
      cases step with
      | snapshot | returns | invoke | invokeEmpty =>
          exact (receivable_setTask _ _).le
      | throws => exact Nat.le_refl _
      | finish found done cleared =>
          obtain ⟨_, _, _, _, loop, rfl⟩ | ⟨_, _, _, _, _, _, rfl⟩ :=
            clearTask_cases cleared
          · rw [receivable, receivable, loop]
            exact Nat.le_refl _
          · exact Nat.le_refl _

theorem halted_of_reach
    (reach : Reach (System.next environment) CallsFromOwner {} system)
    (stopping : system.Stopping) : Halted system := by
  have owner := ownerStops_of_reach reach
  refine ⟨owner.stored stopping, owner.quiet, fun phase inCall => ?_⟩
  rcases stopping with stored | joining
  · obtain rfl := Option.some.inj (stored.symm.trans inCall)
    rfl
  · obtain rfl := Option.some.inj (joining.symm.trans inCall)
    rfl

theorem receivable_of_reach {later : System κ}
    (reach : Reach (System.next environment) CallsFromOwner {} system)
    (halted : Halted system)
    (rest : Reach (System.next environment) OwnerHalts system later) :
    Reach (System.next environment) CallsFromOwner {} later ∧ Halted later ∧
      later.receivable ≤ system.receivable := by
  induction rest with
  | refl => exact ⟨reach, halted, Nat.le_refl _⟩
  | step _ permitted taken induction =>
      obtain ⟨reached, halted, bounded⟩ := induction
      refine ⟨reached.step permitted.1 taken, ?_, ?_⟩
      · exact halted.step (callsChange_of_reach reached taken) permitted
      · exact (receivable_step halted permitted (next_step taken)).trans bounded

theorem Ready.unread_le (ready : system.Ready) :
    system.loop.unread system.sockets.length ≤ system.sockets.length := by
  have revents := ready.revents
  cases loop : system.loop with
  | polling => exact Nat.le_refl _
  | scanning | enqueuing | notifying | dispatching =>
      rw [← revents _ (by rw [loop]; rfl)]
      exact List.count_le_length.trans (List.drop_sublist _ _).length_le
  | absent | connecting | creatingPool | testing | stoppingPool | notifyingAll
  | joiningPool
  | finished => exact Nat.zero_le _

/-- Once a `stop` has made `running` false, at most the pass that is going on is
finished: until the owner starts again, no more messages are received than this
pass has readable sockets ahead of it, and none at all unless it is under way or
about to poll. -/
theorem stop_receives_one_pass {later : System κ}
    (reach : Reach (System.next environment) CallsFromOwner {} system)
    (stopping : system.Stopping)
    (rest : Reach (System.next environment) OwnerHalts system later) :
    later.received.length ≤
        system.received.length + system.loop.unread system.sockets.length ∧
      system.loop.unread system.sockets.length ≤ system.sockets.length := by
  constructor
  · have bounded :=
      (receivable_of_reach reach (halted_of_reach reach stopping) rest).2.2
    exact (Nat.le_add_right _ _).trans bounded
  · exact (ready_of_reach reach).unread_le

/-- The owner stops the subscriber as it is about to poll. -/
def stopBeforePoll : List (Label Nat) :=
  startRun ++ [.loop .proceed] ++ callRun .controller .stop

theorem stop_receives_one_pass_stopBeforePoll : ∃ system later : System Nat,
    system.loop = .polling ∧ system.received = [] ∧ later.received.length = 1 ∧
      later.received.length ≤
        system.received.length + system.loop.unread system.sockets.length := by
  have executed : ((runChecked (System.next (vesselEnvironment .Inline))
      (fun system label => decide (system.CallsFromOwner label)) {}
        stopBeforePoll).bind
        fun system => (runChecked (System.next (vesselEnvironment .Inline))
          (fun system label => decide (system.OwnerHalts label)) system
          [.loop (.poll [true]), .loop (.recv (some draftFrame))]).map
            fun later => (system.controller, system.loop, system.received,
              later.received.length)) =
      some (some .stopJoining, .polling, [], 1) := by
    decide +kernel
  obtain ⟨system, run, executed⟩ := Option.bind_eq_some_iff.mp executed
  obtain ⟨later, rest, facts⟩ := reach_of_observed executed
  obtain ⟨joining, loop, received, one⟩ := by
    simpa only [Prod.mk.injEq] using facts
  have reach := reach_of_runChecked (fun _ _ => of_decide_eq_true) run
  exact ⟨system, later, loop, received, one,
    (stop_receives_one_pass reach (.inr joining) rest).1⟩

end System

end Farsounder.Subscriber
