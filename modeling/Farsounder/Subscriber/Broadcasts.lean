import Farsounder.Broadcast
import Farsounder.Subscriber.Inline

namespace Farsounder.Subscriber

open Config
open Farsounder.Data
open Farsounder.Data.Wire (Bytes)

variable {κ : Type}

/-! From the values that are broadcast to those that the callbacks see. -/

section Seen

variable [DecidableEq κ]

theorem seen_replicate (callback : Callback κ) (callbacks : List (Callback κ))
    (message : Message) :
    ((callbacks.map (Invocation.mk · message)).filter (·.callback =
      callback)).map
        Invocation.message =
      List.replicate (callbacks.count callback) message := by
  induction callbacks with
  | nil => rfl
  | cons first rest induction =>
      by_cases same : first = callback
      · simp [same, induction, List.replicate_succ]
      · simp [same, induction]

/-- A callback that is registered several times sees each message that often. -/
theorem seen_flatMap (callback : Callback κ) (callbacks : List (Callback κ))
    (messages : List Message) :
    ((messages.flatMap fun message =>
      callbacks.map (Invocation.mk · message)).filter
        (·.callback = callback)).map Invocation.message =
      messages.flatMap (List.replicate (callbacks.count callback)) := by
  rw [List.filter_flatMap, List.map_flatMap]
  simp only [seen_replicate]

end Seen

variable {serializers : Serializers}

/-- The frames that arrive at a socket are broadcasts of the type it is for. -/
structure Broadcasts (environment : Environment) (inbox : Nat → Nat → Bytes)
    (type : PubSubMessage) (socket : Nat) (sent : Nat → Broadcast serializers) :
    Prop where
  subscribed : environment.config.subscribe[socket]? = some (.of type)
  typed : ∀ index, (sent index).message.type = type
  frames : ∀ index, inbox socket index = (sent index).frame

/-- The values of the broadcasts that have been received. -/
def valuesOf (sent : Nat → Broadcast serializers) (count : Nat) :
    List Message :=
  (List.range count).map fun index => (sent index).value

namespace Broadcasts

variable {environment : Environment} {inbox : Nat → Nat → Bytes}
  {type : PubSubMessage} {socket : Nat} {sent : Nat → Broadcast serializers}

theorem conversions_eq (roundTrips : RoundTrips serializers environment.parsers)
    (broadcasts : Broadcasts environment inbox type socket sent)
    (count : Nat) :
    ((List.range count).map (inbox socket)).filterMap
        (decodeFrame environment.parsers (.of type)) = valuesOf sent count := by
  have decoded (index : Nat) :
      decodeFrame environment.parsers (.of type) (inbox socket index) =
        some (sent index).value := by
    rw [broadcasts.frames, ← broadcasts.typed index]
    exact (sent index).decodeFrame_frame roundTrips
  rw [List.filterMap_map, valuesOf]
  refine (List.filterMap_congr fun index _ => decoded index).trans ?_
  exact congrFun List.filterMap_eq_map' _

end Broadcasts

/-- Without a pool the callbacks of a type see the values that were broadcast,
in the order in which they were sent, each as often as the callback is
registered: at every moment the first of them, and all of them once no dispatch
for the type is in progress. -/
theorem inline_callbacks_see_broadcasts [DecidableEq κ] (run : InlineRun κ)
    (roundTrips : RoundTrips serializers run.environment.parsers)
    (type : PubSubMessage) (socket : Nat) (sent : Nat → Broadcast serializers)
    (broadcasts : Broadcasts run.environment run.inbox type socket sent) :
    let values := valuesOf sent (run.fed.consumed socket)
    (run.fed.system.invocationsOf type <+:
      values.flatMap fun value => (run.callbacks type).map (⟨·, value⟩)) ∧
    (run.fed.system.Settled type → ∀ callback,
      run.fed.system.valuesSeen callback type =
        values.flatMap
        (List.replicate ((run.callbacks type).count callback))) := by
  have conversions : run.conversions type (run.frames socket) =
      valuesOf sent (run.fed.consumed socket) :=
      broadcasts.conversions_eq roundTrips _
  constructor
  · have beginning := run.invocationsOf_prefix broadcasts.subscribed
    rwa [conversions] at beginning
  · intro settled callback
    rw [System.valuesSeen, run.invocationsOf_eq broadcasts.subscribed settled,
      conversions, seen_flatMap]

/-! A Subscriber to vessel info that is sent the same draft again and again. -/

def draftBroadcast : Broadcast wireSerializers where
  message := .vesselInfo { draft := 0x3f800000 }
  time := ⟨2024, 2, 29, 12, 0, 0, 0⟩
  wellFormed := trivial
  valid := by decide
  bounded := by decide
  short := by decide

theorem draftBroadcasts (callbackExecutor : CallbackExecutor) :
    Broadcasts (vesselEnvironment callbackExecutor) (fun _ _ =>
      draftBroadcast.frame) .VesselInfo 0
      fun _ => draftBroadcast :=
  ⟨rfl, fun _ => rfl, fun _ => rfl⟩

theorem inline_callbacks_see_broadcasts_draft : ∃ run : InlineRun Nat,
    run.fed.system.valuesSeen (some 7) .VesselInfo =
      [.vesselInfo { draft := 0x3f800000 }] := by
  have executed : (runChecked
      (Fed.next (vesselEnvironment .Inline) fun _ _ => draftBroadcast.frame)
      (fun fed label => decide (fed.RegistersFirst label)) {}
      (registerRun ++ receiveRun draftBroadcast.frame ++ inlineDispatchRun)).map
        (fun fed =>
          (fed.system.loop.dispatched?, fed.consumed 0, fed.system.registry)) =
      some (none, 1, { vesselInfoCallbacks := [some 7] }) := by
    decide +kernel
  obtain ⟨fed, reach, facts⟩ := reach_of_observed executed
  obtain ⟨settled, consumed, registry⟩ := by
    simpa only [Prod.mk.injEq] using facts
  let run : InlineRun Nat := ⟨_, _, fed, rfl, by decide, reach⟩
  have quiet : run.fed.system.Settled .VesselInfo := fun task dispatching =>
    absurd (settled.symm.trans dispatching) (by simp)
  refine ⟨run, ?_⟩
  rw [(inline_callbacks_see_broadcasts run wire_roundTrips .VesselInfo 0 _
      (draftBroadcasts .Inline)).2 quiet,
    InlineRun.callbacks, show run.fed.consumed 0 = 1 from consumed,
    show run.fed.system.registry = _ from registry]
  decide +kernel

/-! With a pool. -/

namespace System

variable {environment : Environment} {system : System κ} {type : PubSubMessage}

/-- Once no task is queued or being run, the callbacks of a type have been
invoked on all that its frames had to cause. -/
theorem invocationsOf_perm
    (reach : Reach (System.next environment) RegistersWhileIdle {} system)
    (noneRunning : system.running = []) (noneWaiting : system.waiting = []) :
    (system.invocationsOf type).Perm
      ((system.received.filter (·.type = .of type)).flatMap
      (·.plan environment.parsers)) := by
  have balanced := balanced_of_reach (fun _ _ => id) reach
  have idle : (system.ledger environment).pending = [] := by
    simp [ledger, Flight.ledger, Flight.pending, flight, noneRunning,
      noneWaiting]
  have whole := (balanced.log_perm idle).filter (·.message.type = type)
  rw [← flatMap_plan_filter, List.flatMap_def]
  exact whole

end System

/-- With either executor, once no message is queued or being dispatched, each
callback of a type has seen every value that was broadcast as often as it is
registered, none of them altered, lost or seen more often. -/
theorem idle_callbacks_saw_broadcasts [DecidableEq κ]
    {environment : Environment} {inbox : Nat → Nat → Bytes} {fed : Fed κ}
    {type : PubSubMessage} {socket : Nat} {sent : Nat → Broadcast serializers}
    (roundTrips : RoundTrips serializers environment.parsers)
    (distinct : environment.config.subscribe.Nodup)
    (reach : Reach (Fed.next environment inbox) Fed.RegistersFirst {} fed)
    (broadcasts : Broadcasts environment inbox type socket sent)
    (noneRunning : fed.system.running = [])
    (noneWaiting : fed.system.waiting = []) (callback : Callback κ) :
    (fed.system.valuesSeen callback type).Perm
      ((valuesOf sent (fed.consumed socket)).flatMap
        (List.replicate
          ((fed.system.registry.callbacks type).count callback))) := by
  have fits := Fed.fits_of_reach distinct reach
  have invoked : (fed.system.invocationsOf type).Perm _ :=
    System.invocationsOf_perm fits.system noneRunning noneWaiting
  have planned : (fed.system.received.filter (·.type = .of type)).flatMap
      (·.plan environment.parsers) =
        (valuesOf sent (fed.consumed socket)).flatMap fun value =>
          (fed.system.registry.callbacks type).map (⟨·, value⟩) := by
    rw [System.flatMap_plan, fits.frames socket _ broadcasts.subscribed,
      broadcasts.conversions_eq roundTrips]
    · exact fun frame member => of_decide_eq_true (List.mem_filter.mp member).2
    · exact fun frame member =>
        fits.registry frame (List.mem_filter.mp member).1
  rw [planned] at invoked
  rw [← seen_flatMap]
  exact (invoked.filter _).map _

def pooledRun : List (Label Nat) :=
  registerRun ++ receiveRun draftBroadcast.frame ++
    [.loop .proceed, .loop (.notify none)] ++
    [.worker 1 .acquire, .dispatch (.poolWorker 1) .snapshot,
      .dispatch (.poolWorker 1) .invoke, .dispatch (.poolWorker 1) .returns,
      .dispatch (.poolWorker 1) .finish]

theorem idle_callbacks_saw_broadcasts_draft : ∃ fed : Fed Nat,
    (fed.system.valuesSeen (some 7) .VesselInfo).Perm
      [.vesselInfo { draft := 0x3f800000 }] := by
  have executed : (runChecked
      (Fed.next (vesselEnvironment .ThreadPool) fun _ _ => draftBroadcast.frame)
      (fun fed label => decide (fed.RegistersFirst label)) {} pooledRun).map
        (fun fed => (fed.system.running, fed.system.waiting, fed.consumed 0,
          fed.system.registry)) =
      some ([], [], 1, { vesselInfoCallbacks := [some 7] }) := by
    decide +kernel
  obtain ⟨fed, reach, facts⟩ := reach_of_observed executed
  obtain ⟨noneRunning, noneWaiting, consumed, registry⟩ :=
    by simpa only [Prod.mk.injEq] using facts
  have saw := idle_callbacks_saw_broadcasts wire_roundTrips (by decide) reach
      (draftBroadcasts .ThreadPool)
    noneRunning noneWaiting (some 7)
  rw [consumed, registry] at saw
  refine ⟨fed, saw.trans (List.Perm.of_eq ?_)⟩
  decide +kernel

end Farsounder.Subscriber
