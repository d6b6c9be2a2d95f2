import Mathlib.Data.List.Nodup
import Farsounder.Data.Decimal
import Farsounder.Overlay
import Farsounder.Subscriber.Steps

namespace Farsounder.Subscriber

open Config
open Farsounder.Data

/-! The addresses of the sockets that `run_loop` opens. -/

def addressAt (host : String) (port : Int32) : String :=
  "tcp://" ++ host ++ ":" ++ toString port.toInt

theorem addressAt_injective (host : String) :
    Function.Injective (addressAt host) := by
  intro first second same
  have printed := (String.append_right_inj _).mp same
  exact Int32.toInt_inj.mp (Decimal.toString_injective printed)

/-- The socket for a message whose port is known. -/
def socketAt (cfg : ClientConfig) (message : EnumValue PubSubMessage) :
    SocketEntry where
  type := message
  address := addressAt cfg.host ((cfg.pubsubPorts message).getD 0)

variable {cfg : ClientConfig}

theorem openSocket_eq {message : EnumValue PubSubMessage}
    (known : (cfg.pubsubPorts message).isSome) :
    openSocket cfg message = .ok (socketAt cfg message) := by
  obtain ⟨port, found⟩ := Option.isSome_iff_exists.mp known
  simp only [openSocket, pubsubAddress, resolvePubsubPort, resolvePort,
    socketAt, addressAt, found]
  rfl

theorem openSocket_type {message : EnumValue PubSubMessage}
    {socket : SocketEntry} (opened : openSocket cfg message = .ok socket) :
    socket.type = message := by
  cases address : pubsubAddress cfg message with
  | error failure => simp [openSocket, address, bind, Except.bind] at opened
  | ok address =>
      simp only [openSocket, address, bind, Except.bind, pure, Except.pure,
        Except.ok.injEq] at opened
      rw [← opened]

theorem openSockets_eq {messages : List (EnumValue PubSubMessage)}
    (known : ∀ message ∈ messages, (cfg.pubsubPorts message).isSome) :
    messages.mapM (openSocket cfg) = .ok (messages.map (socketAt cfg)) := by
  induction messages with
  | nil => rfl
  | cons message rest induction =>
      obtain ⟨first, later⟩ := List.forall_mem_cons.mp known
      rw [List.mapM_cons, openSocket_eq first, induction later]
      rfl

/-- The messages subscribed to are listed once each, and have different
ports. -/
structure DistinctPorts (subscribe : List (EnumValue PubSubMessage))
    (portOverrides : PortOverrides) : Prop where
  once : (effectiveSubscribe subscribe).Nodup
  ports : ∀ first second, .of first ∈ effectiveSubscribe subscribe →
    .of second ∈ effectiveSubscribe subscribe →
    portOverrides.pubsubPort first = portOverrides.pubsubPort second →
    first = second

section Built

variable {host : String} {subscribe : List (EnumValue PubSubMessage)}
  {portOverrides : PortOverrides} {callbackExecutor : CallbackExecutor}
  {timeoutSeconds : Double}

theorem distinctPorts_iff
    (built : Built host subscribe portOverrides callbackExecutor
      timeoutSeconds cfg) :
    ((cfg.subscribe.map (socketAt cfg)).map SocketEntry.address).Nodup ↔
      DistinctPorts subscribe portOverrides := by
  have addresses : (cfg.subscribe.map (socketAt cfg)).map SocketEntry.address =
      (cfg.subscribe.map fun message => (cfg.pubsubPorts message).getD 0).map
        (addressAt cfg.host) := by
    simp [socketAt]
  have port : ∀ message : PubSubMessage,
      (cfg.pubsubPorts (.of message)).getD 0 =
      portOverrides.pubsubPort message := by
    intro message
    rw [built.pubsubPorts_of]
    rfl
  rw [addresses, List.nodup_map_iff (addressAt_injective cfg.host),
    built.subscribe]
  constructor
  · intro distinct
    refine ⟨distinct.of_map, ?_⟩
    intro first second firstMember secondMember same
    have injective := (List.nodup_map_iff_inj_on distinct.of_map).mp distinct
    refine EnumValue.of_injective (injective _ firstMember _ secondMember ?_)
    rw [port, port, same]
  · rintro ⟨once, ports⟩
    refine (List.nodup_map_iff_inj_on once).mpr ?_
    intro first firstMember second secondMember same
    obtain ⟨firstMessage, rfl⟩ := built.declared firstMember
    obtain ⟨secondMessage, rfl⟩ := built.declared secondMember
    rw [port, port] at same
    rw [ports _ _ firstMember secondMember same]

end Built

/-! The sockets that are open while the worker runs. -/

variable {κ : Type}

def LoopPhase.connecting? :
    LoopPhase κ → Option (List (EnumValue PubSubMessage))
  | connecting rest => some rest
  | _ => none

theorem LoopPhase.setDispatched_connecting? (task : Task κ)
    (phase : LoopPhase κ) :
    (phase.setDispatched task).connecting? = phase.connecting? := by
  cases phase <;> rfl

namespace System

variable {environment : Environment} {system after : System κ}

/-- What a step does to the sockets and to the frames that were received. -/
inductive SocketsChange (environment : Environment)
    (system after : System κ) : Prop
  | keeps (sockets : after.sockets = system.sockets)
      (loop : after.loop.connecting? = none ∨
        after.loop.connecting? = system.loop.connecting?)
  | starts (sockets : after.sockets = [])
      (loop : after.loop.connecting? = some environment.config.subscribe)
  | opens {message rest socket}
      (before : system.loop.connecting? = some (message :: rest))
      (opened : openSocket environment.config message = .ok socket)
      (sockets : after.sockets = system.sockets ++ [socket])
      (loop : after.loop.connecting? = some rest)

theorem setTask_connecting? (task : Task κ) (thread : Thread) :
    (system.setTask task thread).loop.connecting? =
      system.loop.connecting? := by
  cases thread with
  | controller | poolWorker => rfl
  | runLoop => exact LoopPhase.setDispatched_connecting? task system.loop

theorem setCall_connecting? (call : Option CallPhase) (thread : Thread) :
    (system.setCall call thread).loop.connecting? = system.loop.connecting? :=
  setCall_field system call thread (·.loop.connecting?) (fun _ =>
    setTask_connecting? _ _) rfl

theorem setCall_sockets (call : Option CallPhase) (thread : Thread) :
    (system.setCall call thread).sockets = system.sockets :=
  setCall_field system call thread (·.sockets) (fun _ =>
    setTask_sockets _ _ _) rfl

theorem Step.sockets {label : Label κ}
    (step : Step environment system label after) :
    SocketsChange environment system after := by
  cases step with
  | call user =>
      exact .keeps (setCall_sockets _ _) (.inr (setCall_connecting? _ _))
  | @callStep thread event phase outcome found advanced =>
      cases outcome with
      | continues lifecycle phase =>
          exact .keeps (setCall_sockets _ _) (.inr (setCall_connecting? _ _))
      | returns | assigned | throws =>
          exact .keeps (setCall_sockets _ _) (.inr (setCall_connecting? _ _))
      | spawned => exact .starts rfl rfl
      | joined => exact .keeps (setCall_sockets _ _) (.inl rfl)
      | terminates => exact .keeps rfl (.inr rfl)
  | on => exact .keeps rfl (.inr rfl)
  | loop step =>
      cases step with
      | moves moves => exact .keeps rfl (.inl (by cases moves <;> rfl))
      | connects loop opened => exact .opens (by rw [loop]; rfl) opened rfl rfl
      | receives loop flagged source =>
          refine .keeps rfl (.inl ?_)
          simp only [receive]
          split
          · rfl
          · split <;> rfl
      | throws => exact .keeps rfl (.inr rfl)
      | createsPool | createsNoPool | enqueues | notifies | stopsPool
      | notifiesAll
      | destroysPool => exact .keeps rfl (.inl rfl)
  | worker step => cases step <;> exact .keeps rfl (.inr rfl)
  | dispatch step =>
      cases step with
      | snapshot | returns =>
          exact .keeps (setTask_sockets _ _ _) (.inr (setTask_connecting? _ _))
      | invoke | invokeEmpty =>
          exact .keeps (setTask_sockets _ _ _) (.inr (setTask_connecting? _ _))
      | throws => exact .keeps rfl (.inr rfl)
      | finish found done cleared =>
          obtain ⟨_, _, _, _, _, rfl⟩ | ⟨_, _, _, _, _, _, rfl⟩ :=
            clearTask_cases cleared
          · exact .keeps rfl (.inl rfl)
          · exact .keeps rfl (.inr rfl)

/-- The sockets are those of the first messages of `config.subscribe`, and while
`run_loop` sets them up the others are still to be opened. -/
def SocketsOpened (environment : Environment) (system : System κ) : Prop :=
  ∃ opened rest, opened ++ rest = environment.config.subscribe ∧
    List.Forall₂ (fun message socket =>
      openSocket environment.config message =
        .ok socket) opened system.sockets ∧
    ∀ remaining, system.loop.connecting? = some remaining → remaining = rest

theorem socketsOpened_of_reach {allowed : System κ → Label κ → Prop}
    (reach : Reach (System.next environment) allowed {} system) :
    SocketsOpened environment system := by
  induction reach with
  | refl =>
      exact ⟨[], environment.config.subscribe, rfl, .nil, by
        simp [LoopPhase.connecting?]⟩
  | step earlier permitted taken induction =>
      obtain ⟨opened, rest, split, sockets, remains⟩ := induction
      cases (next_step taken).sockets with
      | keeps same loop =>
          refine ⟨opened, rest, split, same ▸ sockets, ?_⟩
          intro remaining connecting
          rcases loop with none | kept
          · simp [none] at connecting
          · exact remains remaining (kept ▸ connecting)
      | starts empty loop =>
          refine ⟨[], environment.config.subscribe, rfl, empty ▸ .nil, ?_⟩
          intro remaining connecting
          exact Option.some.inj (connecting.symm.trans loop)
      | @opens message later socket before socketEq appended loop =>
          obtain rfl := remains _ before
          refine ⟨opened ++ [message], later, by simp [← split], ?_, ?_⟩
          · rw [appended]
            exact List.rel_append sockets (.cons socketEq .nil)
          · intro remaining connecting
            exact Option.some.inj (connecting.symm.trans loop)

theorem socket_type_of_reach {allowed : System κ → Label κ → Prop}
    (reach : Reach (System.next environment) allowed {} system) {index : Nat}
    {socket : SocketEntry} (found : system.sockets[index]? = some socket) :
    environment.config.subscribe[index]? = some socket.type := by
  obtain ⟨opened, rest, split, sockets, _⟩ := socketsOpened_of_reach reach
  obtain ⟨inBounds, rfl⟩ := List.getElem?_eq_some_iff.mp found
  have inside : index < opened.length := sockets.length_eq ▸ inBounds
  rw [← split, List.getElem?_append_left inside,
    List.getElem?_eq_getElem inside]
  exact congrArg some (openSocket_type (sockets.get inside inBounds)).symm

/-- Where every port is known, each socket is connected to its own. -/
def SocketsFit (environment : Environment) (system : System κ) : Prop :=
  ∃ opened rest, opened ++ rest = environment.config.subscribe ∧
    system.sockets = opened.map (socketAt environment.config) ∧
    ∀ remaining, system.loop.connecting? = some remaining → remaining = rest

theorem socketsFit_of_reach {allowed : System κ → Label κ → Prop}
    (known : ∀ message ∈ environment.config.subscribe,
      (environment.config.pubsubPorts message).isSome)
    (reach : Reach (System.next environment) allowed {} system) :
    SocketsFit environment system := by
  obtain ⟨opened, rest, split, sockets, remains⟩ := socketsOpened_of_reach reach
  refine ⟨opened, rest, split, ?_, remains⟩
  have ports :
      ∀ message ∈ opened, (environment.config.pubsubPorts message).isSome :=
    fun message member => known message (split ▸ List.mem_append_left _ member)
  clear split remains
  generalize system.sockets = current at sockets ⊢
  induction sockets with
  | nil => rfl
  | cons socketEq _ induction =>
      obtain ⟨first, later⟩ := List.forall_mem_cons.mp ports
      rw [openSocket_eq first] at socketEq
      rw [List.map_cons, ← Except.ok.inj socketEq, ← induction later]

end System

end Farsounder.Subscriber
