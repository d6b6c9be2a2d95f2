import Farsounder.Subscriber.Isolation
import Farsounder.Subscriber.Network

namespace Farsounder.Subscriber

open Config
open Farsounder.Data
open Farsounder.Data.Wire (Bytes)

variable {κ : Type}

/-! What the callbacks of one type see without a pool. -/

namespace System

variable {environment : Environment} {system after : System κ}
  {type : PubSubMessage}

def invocationsOf (system : System κ) (type : PubSubMessage) :
    List (Invocation κ) :=
  (system.invocations.map Prod.snd).filter (·.message.type = type)

/-- The values that a callback has been invoked with. -/
def valuesSeen [DecidableEq κ] (system : System κ) (callback : Callback κ)
    (type : PubSubMessage) : List Message :=
  ((system.invocationsOf type).filter (·.callback = callback)).map
    Invocation.message

/-- `run_loop` is not in the middle of dispatching a message of the type. -/
def Settled (system : System κ) (type : PubSubMessage) : Prop :=
  ∀ task, system.loop.dispatched? = some task → task.message.type ≠ type

theorem Control.inline_tasks (control : Control environment system)
    (inline : environment.config.callbackExecutor = .Inline) :
    system.running = system.loop.dispatched?.toList ∧ system.waiting = [] := by
  have fits := control.fits
  rw [inline] at fits
  have unpooled : system.pool = none := by
    cases loop : system.loop <;> rw [loop] at fits <;>
      simp_all [LoopPhase.PoolFits, OpenPool]
  have direct : system.loop.unqueued? = none := by
    cases loop : system.loop <;> rw [loop] at fits <;>
      simp_all [LoopPhase.PoolFits, LoopPhase.unqueued?]
  simp [running, waiting, unpooled, direct]

/-- What the frames have to cause for a type, the frames of that type have
to. -/
theorem flatMap_plan_filter (parsers : Parsers)
    (frames : List (ReceivedFrame κ)) :
    (frames.flatMap (·.plan parsers)).filter (·.message.type = type) =
      (frames.filter (·.type = .of type)).flatMap (·.plan parsers) := by
  induction frames with
  | nil => rfl
  | cons frame rest induction =>
      have typed : ∀ invocation ∈ frame.plan parsers,
          frame.type = .of invocation.message.type := fun invocation member =>
        decodeFrame_type (mem_plan.mp member).1
      rw [List.flatMap_cons, List.filter_append, induction]
      by_cases same : frame.type = .of type
      · have all : (frame.plan parsers).filter (·.message.type = type) =
            frame.plan parsers := by
          rw [List.filter_eq_self]
          intro invocation member
          exact decide_eq_true
            (EnumValue.of_injective ((typed invocation member).symm.trans same))
        simp [all, same]
      · have none :
            (frame.plan parsers).filter (·.message.type = type) = [] := by
          rw [List.filter_eq_nil_iff]
          intro invocation member ofType
          apply same
          rw [typed invocation member, of_decide_eq_true ofType]
        simp [none, same]

/-- Without a pool, the invocations made for a type are at every moment the
first of those that its frames have to cause, in the order of the frames. -/
theorem invocationsOf_prefix
    (inline : environment.config.callbackExecutor = .Inline)
    (reach : Reach (System.next environment) RegistersWhileIdle {} system) :
    system.invocationsOf type <+:
      (system.received.filter (·.type = .of type)).flatMap
      (·.plan environment.parsers) := by
  have ledgers := ledger_of_reach (fun _ _ => id) reach
  have bounded := Ledger.reach_boundedOvertaking ledgers
  rw [Environment.overtaking, inline] at bounded
  have whole := (Ledger.reach_balanced ledgers).log_beginning bounded
  rw [← flatMap_plan_filter, List.flatMap_def]
  exact whole.filter _

/-- With the callbacks registered while no worker runs, the invocations made for
a frame and those that its dispatch still owes are its plan. -/
theorem plan_of_reach
    (reach : Reach (System.next environment) RegistersWhileIdle {} system)
    {index : Nat} {frame : ReceivedFrame κ}
    (received : system.received[index]? = some frame) :
    ∃ owed, frame.plan environment.parsers =
        Ledger.deliveriesOf system.invocations index ++ owed ∧
      (owed ≠ [] → ∃ task ∈ system.running ++ system.waiting,
        task.frame = index ∧ task.owed system.registry = owed) := by
  have balanced := balanced_of_reach (fun _ _ => id) reach
  have planned : (system.ledger environment).plans[index]? =
      some (frame.plan environment.parsers) := by
    simp [ledger, Flight.ledger, flight, received]
  by_cases pending : index ∈ (system.ledger environment).pendingItems
  · obtain ⟨entry, member, rfl⟩ := List.mem_map.mp pending
    obtain ⟨task, inFlight, rfl⟩ := List.mem_map.mp member
    refine ⟨task.owed system.registry, ?_, fun _ => ⟨task, inFlight, rfl, rfl⟩⟩
    exact Option.some.inj (planned.symm.trans (balanced.owed _ _ member))
  · refine ⟨[], ?_, absurd rfl⟩
    rw [List.append_nil]
    exact (balanced.settled index _ planned pending).symm

theorem deliveries_of_settled
    (inline : environment.config.callbackExecutor = .Inline)
    (reach : Reach (System.next environment) RegistersWhileIdle {} system)
    (settled : system.Settled type) {index : Nat} {frame : ReceivedFrame κ}
    (received : system.received[index]? = some frame) :
    (Ledger.deliveriesOf system.invocations index).filter
      (·.message.type = type) =
      (frame.plan environment.parsers).filter (·.message.type = type) := by
  obtain ⟨owed, plan, inFlight⟩ := plan_of_reach reach received
  have elsewhere : owed.filter (·.message.type = type) = [] := by
    rw [List.filter_eq_nil_iff]
    intro invocation member ofType
    obtain ⟨task, running, _, rfl⟩ := inFlight (List.ne_nil_of_mem member)
    obtain ⟨running', waiting⟩ := (control_of_reach reach).inline_tasks inline
    rw [running', waiting, List.append_nil, Option.mem_toList] at running
    obtain ⟨_, _, rfl⟩ := List.mem_map.mp member
    exact settled task running (of_decide_eq_true ofType)
  rw [plan, List.filter_append, elsewhere, List.append_nil]

theorem invocationsOf_eq
    (inline : environment.config.callbackExecutor = .Inline)
    (reach : Reach (System.next environment) RegistersWhileIdle {} system)
    (settled : system.Settled type) :
    system.invocationsOf type =
      (system.received.filter (·.type = .of type)).flatMap
      (·.plan environment.parsers) := by
  have balanced := balanced_of_reach (fun _ _ => id) reach
  have known : ∀ entry ∈ system.invocations,
      entry.1 < system.received.length := by
    intro entry member
    simpa [ledger, Flight.ledger, flight]
      using balanced.logged entry.1 entry.2 member
  have ordered := inline_ascending inline reach
  have dispatched : (List.range system.received.length).map (fun index =>
        (Ledger.deliveriesOf system.invocations index).filter
          (·.message.type = type)) =
      system.received.map fun frame =>
        (frame.plan environment.parsers).filter (·.message.type = type) := by
    apply List.ext_getElem (by simp)
    intro index _ inBounds
    rw [List.length_map] at inBounds
    rw [List.getElem_map, List.getElem_map, List.getElem_range]
    exact deliveries_of_settled inline reach settled
      (List.getElem?_eq_getElem inBounds)
  rw [invocationsOf, Ledger.log_eq_flatMap ordered known, List.filter_flatMap,
    List.flatMap_def, dispatched, ← flatMap_plan_filter, List.filter_flatMap,
    List.flatMap_def]

theorem flatMap_plan {parsers : Parsers} {registry : Registry κ}
    {frames : List (ReceivedFrame κ)}
    (typed : ∀ frame ∈ frames, frame.type = .of type)
    (registered : ∀ frame ∈ frames, frame.registry = registry) :
    frames.flatMap (·.plan parsers) =
      ((frames.map (·.bytes)).filterMap
        (decodeFrame parsers (.of type))).flatMap
        fun message => (registry.callbacks type).map (⟨·, message⟩) := by
  induction frames with
  | nil => rfl
  | cons frame rest induction =>
      obtain ⟨ofType, typed⟩ := List.forall_mem_cons.mp typed
      obtain ⟨same, registered⟩ := List.forall_mem_cons.mp registered
      have plan :
          frame.plan parsers =
          ((decodeFrame parsers (.of type) frame.bytes).elim []
          fun message => (registry.callbacks type).map (⟨·, message⟩)) := by
        rw [ReceivedFrame.plan, ofType, same]
        cases decoded : decodeFrame parsers (.of type) frame.bytes with
        | none => rfl
        | some message =>
            rw [EnumValue.of_injective (decodeFrame_type decoded)]
            rfl
      rw [List.flatMap_cons, induction typed registered, plan, List.map_cons,
        List.filterMap_cons]
      cases decodeFrame parsers (.of type) frame.bytes <;> rfl

/-- A callback that is registered once sees each message once. -/
theorem valuesSeen_of_invocationsOf [DecidableEq κ] {callback : Callback κ}
    {callbacks : List (Callback κ)} {messages : List Message}
    (invoked : system.invocationsOf type =
      messages.flatMap fun message => callbacks.map (⟨·, message⟩))
    (once : callbacks.count callback = 1) :
    system.valuesSeen callback type = messages := by
  have single : ∀ message : Message, (((callbacks.map
      (Invocation.mk · message)).filter (·.callback = callback)).map
        Invocation.message) = [message] := by
    intro message
    rw [List.filter_map, List.map_map]
    have chosen : callbacks.filter ((fun invocation : Invocation κ =>
        decide (invocation.callback = callback)) ∘ (Invocation.mk · message)) =
        [callback] := by
      have same : callbacks.filter (· == callback) = [callback] := by
        rw [List.filter_beq, once]
        rfl
      rw [← same]
      exact List.filter_congr fun other _ => (beq_eq_decide other callback).symm
    rw [chosen]
    rfl
  rw [valuesSeen, invoked, List.filter_flatMap, List.map_flatMap]
  simp only [single, List.flatMap_singleton']

theorem setCall_registry (call : Option CallPhase) (thread : Thread) :
    (system.setCall call thread).registry = system.registry :=
  setCall_field system call thread (·.registry) (fun _ => by simp) rfl

theorem next_registry {label : Label κ}
    (taken : System.next environment system label = some after)
    (silent : ∀ registration, label ≠ .on registration) :
    after.registry = system.registry := by
  cases next_step taken with
  | call user => exact setCall_registry _ _
  | @callStep thread event phase outcome found advanced =>
      cases outcome <;> first | exact setCall_registry _ _ | rfl
  | on => exact absurd rfl (silent _)
  | loop step => cases step <;> rfl
  | worker step => cases step <;> rfl
  | dispatch step =>
      cases step with
      | snapshot | returns | invoke | invokeEmpty =>
          exact setTask_registry _ _ _
      | throws => rfl
      | finish found done cleared => exact (clearTask_fields cleared).1

end System

/-! The frames that arrive. -/

/-- A Subscriber, and how many frames `recv` has returned on each socket. -/
structure Fed (κ : Type) where
  system : System κ := {}
  consumed : Nat → Nat := fun _ => 0

namespace Fed

/-- The frames of `inbox socket` arrive at a socket, one after the other. -/
def next (environment : Environment) (inbox : Nat → Nat → Bytes) :
    StepFn (Fed κ) (Label κ) :=
  fun fed label =>
    match label, fed.system.loop with
    | .loop (.recv (some bytes)), .scanning socket _ =>
        if bytes = inbox socket (fed.consumed socket) then
          (System.next environment fed.system label).map fun system =>
            { system
              consumed :=
                Function.update fed.consumed socket (fed.consumed socket + 1) }
        else none
    | _, _ =>
        (System.next environment fed.system label).map
          ({ fed with system := · })

/-- The callbacks are registered before the first frame arrives. -/
def RegistersFirst (fed : Fed κ) : Label κ → Prop
  | .on _ => fed.system.loop = .absent ∧ fed.system.received = []
  | _ => True

instance [DecidableEq κ] (fed : Fed κ) (label : Label κ) :
    Decidable (fed.RegistersFirst label) :=
  match label with
  | .on _ =>
      inferInstanceAs (Decidable (fed.system.loop = .absent ∧
        fed.system.received = []))
  | .call _ _ | .callStep _ _ | .loop _ | .worker _ _ | .dispatch _ _ =>
      .isTrue trivial

theorem RegistersFirst.whileIdle {fed : Fed κ} {label : Label κ}
    (permitted : fed.RegistersFirst label) :
    System.RegistersWhileIdle fed.system label := by
  cases label <;> first | exact permitted.1 | trivial

variable {environment : Environment} {inbox : Nat → Nat → Bytes}
  {fed after : Fed κ} {label : Label κ}

theorem next_cases (taken : next environment inbox fed label = some after) :
    System.next environment fed.system label = some after.system ∧
      ((∃ socket revents, fed.system.loop = .scanning socket revents ∧
          label = .loop (.recv (some (inbox socket (fed.consumed socket)))) ∧
          after.consumed =
            Function.update fed.consumed socket (fed.consumed socket + 1)) ∨
        ((∀ bytes, label ≠ .loop (.recv (some bytes))) ∧
          after.consumed = fed.consumed)) := by
  unfold next at taken
  split at taken
  · rename_i bytes socket revents loop
    split at taken
    · rename_i arrived
      obtain ⟨system, stepped, rfl⟩ := Option.map_eq_some_iff.mp taken
      exact ⟨stepped, .inl ⟨socket, revents, loop, by rw [arrived], rfl⟩⟩
    · contradiction
  · rename_i other
    obtain ⟨system, stepped, rfl⟩ := Option.map_eq_some_iff.mp taken
    refine ⟨stepped, .inr ⟨?_, rfl⟩⟩
    rintro bytes rfl
    cases loop : fed.system.loop with
    | scanning socket revents => exact other bytes socket revents rfl loop
    | _ => simp [System.next, System.loopNext, loop] at stepped

/-- With one socket for each type, the frames received of a type are the first
ones that arrived at its socket. -/
structure Fits (environment : Environment) (inbox : Nat → Nat → Bytes)
    (fed : Fed κ) : Prop where
  system :
    Reach (System.next environment) System.RegistersWhileIdle {} fed.system
  frames : ∀ (socket : Nat) type, environment.config.subscribe[socket]? =
    some type →
    (fed.system.received.filter (·.type = type)).map (·.bytes) =
      (List.range (fed.consumed socket)).map (inbox socket)
  registry : ∀ frame ∈ fed.system.received, frame.registry = fed.system.registry

theorem Fits.recv (fits : Fits environment inbox fed)
    (distinct : environment.config.subscribe.Nodup) {socket : Nat}
    {revents : List Bool} (loop : fed.system.loop = .scanning socket revents)
    (stepped : System.next environment fed.system
      (.loop (.recv (some (inbox socket (fed.consumed socket))))) =
      some after.system) (consumed : after.consumed =
      Function.update fed.consumed socket (fed.consumed socket + 1)) :
    Fits environment inbox after := by
  obtain ⟨entry, found, received, _, registry⟩ := System.next_recv loop stepped
  have source := System.socket_type_of_reach fits.system found
  have permitted : System.RegistersWhileIdle fed.system
      (.loop (.recv (some (inbox socket (fed.consumed socket))))) := trivial
  refine ⟨fits.system.step permitted stepped, ?_, ?_⟩
  · intro other type subscribed
    rw [received, consumed, List.filter_append, List.map_append,
      fits.frames other type subscribed]
    by_cases same : other = socket
    · subst same
      obtain rfl := Option.some.inj (source.symm.trans subscribed)
      simp [List.range_succ]
    · have different : entry.type ≠ type := by
        intro equal
        obtain ⟨inBounds, _⟩ := List.getElem?_eq_some_iff.mp subscribed
        exact same ((List.getElem?_inj inBounds distinct).mp
          (subscribed.trans (equal ▸ source.symm)))
      simp [Function.update_of_ne same, different]
  · intro frame member
    rw [received] at member
    rw [registry]
    rcases List.mem_append.mp member with old | new
    · exact fits.registry frame old
    · rw [List.mem_singleton.mp new]

theorem Fits.step (fits : Fits environment inbox fed)
    (distinct : environment.config.subscribe.Nodup)
    (permitted : fed.RegistersFirst label)
    (taken : next environment inbox fed label = some after) :
    Fits environment inbox after := by
  obtain ⟨stepped,
      ⟨socket, revents, loop, rfl, consumed⟩ | ⟨silent, consumed⟩⟩ :=
    next_cases taken
  · exact fits.recv distinct loop stepped consumed
  · have received := System.next_received stepped silent
    refine ⟨fits.system.step permitted.whileIdle stepped, ?_, ?_⟩
    · rw [received, consumed]
      exact fits.frames
    · rw [received]
      cases label with
      | on registration =>
          intro frame member
          rw [permitted.2] at member
          contradiction
      | call | callStep | loop | worker | dispatch =>
          rw [System.next_registry stepped (by simp)]
          exact fits.registry

theorem fits_of_reach (distinct : environment.config.subscribe.Nodup)
    (reach : Reach (next environment inbox) RegistersFirst {} fed) :
    Fits environment inbox fed := by
  induction reach with
  | refl => exact ⟨.refl, by simp, by simp⟩
  | step _ permitted taken induction =>
      exact induction.step distinct permitted taken

end Fed

/-- A run of a Subscriber without a pool: the sockets have different types, and
the callbacks do not change once frames arrive. -/
structure InlineRun (κ : Type) where
  environment : Environment
  inbox : Nat → Nat → Bytes
  fed : Fed κ
  inline : environment.config.callbackExecutor = .Inline
  distinct : environment.config.subscribe.Nodup
  reach : Reach (Fed.next environment inbox) Fed.RegistersFirst {} fed

namespace InlineRun

/-- The frames that `run_loop` has consumed from a socket. -/
def frames (run : InlineRun κ) (socket : Nat) : List Bytes :=
  (List.range (run.fed.consumed socket)).map (run.inbox socket)

def callbacks (run : InlineRun κ) (type : PubSubMessage) : List (Callback κ) :=
  run.fed.system.registry.callbacks type

/-- Each frame that parses is converted. -/
def conversions (run : InlineRun κ) (type : PubSubMessage)
    (frames : List Bytes) :
    List Message :=
  frames.filterMap (decodeFrame run.environment.parsers (.of type))

theorem planned_eq (run : InlineRun κ) {type : PubSubMessage} {socket : Nat}
    (subscribed : run.environment.config.subscribe[socket]? = some (.of type)) :
    (run.fed.system.received.filter (·.type = .of type)).flatMap
        (·.plan run.environment.parsers) =
      (run.conversions type (run.frames socket)).flatMap fun message =>
        (run.callbacks type).map (⟨·, message⟩) := by
  have fits := Fed.fits_of_reach run.distinct run.reach
  rw [System.flatMap_plan, fits.frames socket _ subscribed]
  · rfl
  · exact fun frame member => of_decide_eq_true (List.mem_filter.mp member).2
  · exact fun frame member => fits.registry frame (List.mem_filter.mp member).1

theorem invocationsOf_prefix (run : InlineRun κ) {type : PubSubMessage}
    {socket : Nat}
    (subscribed : run.environment.config.subscribe[socket]? = some (.of type)) :
    run.fed.system.invocationsOf type <+:
      (run.conversions type (run.frames socket)).flatMap fun message =>
        (run.callbacks type).map (⟨·, message⟩) :=
  run.planned_eq subscribed ▸ System.invocationsOf_prefix run.inline
    (Fed.fits_of_reach run.distinct run.reach).system

theorem invocationsOf_eq (run : InlineRun κ) {type : PubSubMessage}
    {socket : Nat}
    (subscribed : run.environment.config.subscribe[socket]? = some (.of type))
    (settled : run.fed.system.Settled type) :
    run.fed.system.invocationsOf type =
      (run.conversions type (run.frames socket)).flatMap fun message =>
        (run.callbacks type).map (⟨·, message⟩) :=
  run.planned_eq subscribed ▸ System.invocationsOf_eq run.inline
    (Fed.fits_of_reach run.distinct run.reach).system settled

end InlineRun

/-- Without a pool, what the callbacks of a type see is a function of the frames
consumed from its own socket: the conversions of those that parse, in order,
each passed to every callback, and all of them once no dispatch for the type is
in progress.  What arrives at the other sockets, and when the sockets are
polled, makes no difference. -/
theorem inline_dispatch_independent [DecidableEq κ] (type : PubSubMessage) :
    (∀ (run : InlineRun κ) (socket : Nat),
      run.environment.config.subscribe[socket]? = some (.of type) →
      (run.fed.system.invocationsOf type <+:
        (run.conversions type (run.frames socket)).flatMap fun message =>
          (run.callbacks type).map (⟨·, message⟩)) ∧
      (run.fed.system.Settled type →
        run.fed.system.invocationsOf type =
          ((run.conversions type (run.frames socket)).flatMap fun message =>
            (run.callbacks type).map (⟨·, message⟩)) ∧
        ∀ callback, (run.callbacks type).count callback = 1 →
          run.fed.system.valuesSeen callback type =
            run.conversions type (run.frames socket))) ∧
    (∀ (first second : InlineRun κ) (socket socket' : Nat),
      first.environment.config.subscribe[socket]? = some (.of type) →
      second.environment.config.subscribe[socket']? = some (.of type) →
      first.fed.system.Settled type → second.fed.system.Settled type →
      first.environment.parsers = second.environment.parsers →
      first.callbacks type = second.callbacks type →
      first.frames socket = second.frames socket' →
      first.fed.system.invocationsOf type =
      second.fed.system.invocationsOf type ∧
      ∀ callback, first.fed.system.valuesSeen callback type =
        second.fed.system.valuesSeen callback type) := by
  constructor
  · intro run socket subscribed
    refine ⟨run.invocationsOf_prefix subscribed, fun settled => ?_⟩
    have invoked := run.invocationsOf_eq subscribed settled
    exact ⟨invoked, fun callback => System.valuesSeen_of_invocationsOf invoked⟩
  · intro first second socket socket' subscribed subscribed' settled
      settled' parsers
      callbacks frames
    have same : first.fed.system.invocationsOf type =
        second.fed.system.invocationsOf type := by
      rw [first.invocationsOf_eq subscribed settled,
        second.invocationsOf_eq subscribed' settled', callbacks, frames]
      simp only [InlineRun.conversions, parsers]
    refine ⟨same, fun callback => ?_⟩
    rw [System.valuesSeen, System.valuesSeen, same]

/-! Two Subscribers to vessel info, one of which is also sent a malformed
`TargetData`. -/

def targetEnvironment : Environment :=
  { vesselEnvironment .Inline with
    config := { (vesselEnvironment .Inline).config with
      subscribe := [.of .TargetData, .of .VesselInfo] } }

def registerRun : List (Label Nat) :=
  .on ⟨.VesselInfo, .name "VesselInfo", some 7⟩ :: startRun

def inlineDispatchRun : List (Label Nat) :=
  [.dispatch .runLoop .snapshot, .dispatch .runLoop .invoke,
    .dispatch .runLoop .returns, .dispatch .runLoop .finish]

/-- A pass whose second `recv` returns nothing, a pass without frames, and one
with the frame. -/
def threePasses : List LoopEvent :=
  [.proceed, .proceed, .poll [true, true], .recv (some [0xff]),
    .recv none, .proceed, .proceed, .poll [false, false], .proceed, .proceed,
    .proceed, .proceed, .poll [false, true], .proceed, .recv (some draftFrame)]

def interleavedRun : List (Label Nat) :=
  registerRun ++ threePasses.map .loop ++ inlineDispatchRun

theorem inline_dispatch_independent_interleaved :
    ∃ first second : InlineRun Nat,
    first.fed.system.received.map (·.bytes) = [[0xff], draftFrame] ∧
      second.fed.system.received.map (·.bytes) = [draftFrame] ∧
      first.fed.system.valuesSeen (some 7) .VesselInfo =
        [.vesselInfo { draft := 0x3f800000 }] ∧
      first.fed.system.valuesSeen (some 7) .VesselInfo =
        second.fed.system.valuesSeen (some 7) .VesselInfo := by
  have interleaved : (runChecked
      (Fed.next targetEnvironment fun socket _ =>
        if socket = 0 then [0xff] else draftFrame)
      (fun fed label => decide (fed.RegistersFirst label)) {}
        interleavedRun).map
        (fun fed =>
          (fed.system.received.map (·.bytes), fed.system.loop.dispatched?,
            fed.consumed 1, fed.system.registry)) =
      some ([[0xff], draftFrame], none, 1,
        { vesselInfoCallbacks := [some 7] }) := by
    decide +kernel
  have alone : (runChecked
      (Fed.next (vesselEnvironment .Inline) fun _ _ => draftFrame)
      (fun fed label => decide (fed.RegistersFirst label)) {}
      (registerRun ++ receiveRun draftFrame ++ inlineDispatchRun)).map
        (fun fed =>
          (fed.system.received.map (·.bytes), fed.system.loop.dispatched?,
            fed.consumed 0, fed.system.registry)) =
      some ([draftFrame], none, 1, { vesselInfoCallbacks := [some 7] }) := by
    decide +kernel
  obtain ⟨fed, reach, facts⟩ := reach_of_observed interleaved
  obtain ⟨fed', reach', facts'⟩ := reach_of_observed alone
  obtain ⟨received, settled, consumed, registry⟩ := by
    simpa only [Prod.mk.injEq] using facts
  obtain ⟨received', settled', consumed', registry'⟩ :=
    by simpa only [Prod.mk.injEq] using facts'
  let first : InlineRun Nat := ⟨_, _, fed, rfl, by decide, reach⟩
  let second : InlineRun Nat := ⟨_, _, fed', rfl, by decide, reach'⟩
  have quiet : first.fed.system.Settled .VesselInfo := fun task dispatching =>
    absurd (settled.symm.trans dispatching) (by simp)
  have quiet' : second.fed.system.Settled .VesselInfo := fun task dispatching =>
    absurd (settled'.symm.trans dispatching) (by simp)
  obtain ⟨characterised, agree⟩ :=
    @inline_dispatch_independent Nat _ .VesselInfo
  refine ⟨first, second, received, received', ?_, ?_⟩
  · have seen := ((characterised first 1 rfl).2 quiet).2 (some 7)
      (by rw [InlineRun.callbacks,
        show first.fed.system.registry = _ from registry]; decide)
    rw [seen, InlineRun.frames, show first.fed.consumed 1 = 1 from consumed]
    change [draftFrame].filterMap
      (decodeFrame targetEnvironment.parsers (.of .VesselInfo)) = _
    decide +kernel
  · refine (agree first second 1 0 rfl rfl quiet quiet' rfl ?_ ?_).2 (some 7)
    · rw [InlineRun.callbacks, InlineRun.callbacks,
        show first.fed.system.registry = _ from registry,
        show second.fed.system.registry = _ from registry']
    · rw [InlineRun.frames, InlineRun.frames,
        show first.fed.consumed 1 = 1 from consumed,
          show second.fed.consumed 0 = 1 from consumed']
      rfl

end Farsounder.Subscriber
