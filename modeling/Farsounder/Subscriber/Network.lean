import Mathlib.Data.List.Flatten
import Farsounder.Subscriber.Addresses
import Farsounder.Subscriber.Plans

namespace Farsounder.Subscriber

open Config
open Farsounder.Data
open Farsounder.Data.Wire (Bytes)

variable {κ : Type}

namespace System

variable {environment : Environment} {system after : System κ}

/-! The frames that a step adds to those received. -/

theorem loopNext_received {event : LoopEvent}
    (taken : system.loopNext environment event = some after)
    (silent : ∀ bytes, event ≠ .recv (some bytes)) :
    after.received = system.received := by
  have step := loopNext_step taken
  cases step with
  | @receives index revents socket bytes loop flagged source =>
      cases event with
      | proceed | poll | notify => simp [loopNext, loop, flagged] at taken
      | throws =>
          simp only [loopNext, loop, flagged, if_true, Option.some.injEq]
            at taken
          rw [← taken]
          rfl
      | recv returned =>
          cases returned with
          | none =>
              simp only [loopNext, loop, flagged, source, Option.some.injEq]
                at taken
              rw [← taken]
          | some bytes => exact absurd rfl (silent bytes)
  | moves | connects | createsPool | createsNoPool | enqueues | notifies
  | stopsPool
  | notifiesAll | destroysPool | throws => rfl

theorem next_received {label : Label κ}
    (taken : System.next environment system label = some after)
    (silent : ∀ bytes, label ≠ .loop (.recv (some bytes))) :
    after.received = system.received := by
  have alive := next_alive taken
  cases next_step taken with
  | call user => exact setCall_received _ _ _
  | @callStep thread event phase outcome found advanced =>
      cases outcome <;> first | exact setCall_received _ _ _ | rfl
  | on => rfl
  | @loop event after step =>
      refine @loopNext_received _ environment _ _ event ?_ ?_
      · simpa [System.next, alive] using taken
      · intro bytes same
        exact silent bytes (by rw [same])
  | worker step => cases step <;> rfl
  | dispatch step =>
      cases step with
      | snapshot | returns | invoke | invokeEmpty =>
          exact setTask_received _ _ _
      | throws => rfl
      | finish found done cleared =>
          obtain ⟨_, _, _, _, _, rfl⟩ | ⟨_, _, _, _, _, _, rfl⟩ :=
            clearTask_cases cleared <;> rfl

theorem next_recv {index : Nat} {revents : List Bool} {bytes : Bytes}
    (loop : system.loop = .scanning index revents)
    (taken : System.next environment system (.loop (.recv (some bytes))) =
      some after) :
    ∃ socket, system.sockets[index]? = some socket ∧
      after.received = system.received ++
        [⟨socket.type, bytes, system.registry⟩] ∧
      after.sockets = system.sockets ∧ after.registry = system.registry := by
  have alive := next_alive taken
  simp only [System.next, alive, Option.isSome_none, Bool.false_eq_true,
    if_false, loopNext, loop] at taken
  split at taken
  · contradiction
  · rename_i socket bytes' _ found same
    obtain rfl := Option.some.inj same
    obtain rfl := Option.some.inj taken
    exact ⟨socket, found, rfl, rfl, rfl⟩
  · contradiction

end System

/-! A Subscriber and what is published to it.  ZeroMQ hands one copy of a frame
to every socket that is connected to the address it is published at, and each
socket returns its copies in order. -/

structure Publication where
  address : String
  bytes : Bytes
  deriving DecidableEq, Repr

structure Network (κ : Type) where
  system : System κ := {}
  published : List Publication := []
  /-- For each socket, the publications that it has yet to return, by number. -/
  queues : List (List Nat) := []
  /-- For each frame received, the publication that it is a copy of. -/
  sources : List Nat := []

inductive NetworkLabel (κ : Type) where
  | publish (publication : Publication)
  | recv
  /-- A step of the Subscriber other than a `recv` that returns a frame. -/
  | step (label : Label κ)

namespace Network

def handOut (address : String) (source : Nat) (socket : SocketEntry)
    (queue : List Nat) :
    List Nat :=
  if socket.address = address then queue ++ [source] else queue

def publish (network : Network κ) (publication : Publication) : Network κ :=
  { network with
    published := network.published ++ [publication]
    queues :=
      List.zipWith (handOut publication.address network.published.length)
      network.system.sockets network.queues }

/-- `recv` on the socket that the loop over the poll results has come to. -/
def recv (environment : Environment) (network : Network κ) :
    Option (Network κ) :=
  match network.system.loop with
  | .scanning index _ => do
      match network.queues[index]? with
      | some (source :: rest) =>
          let publication ← network.published[source]?
          let system ← network.system.next environment
              (.loop (.recv (some publication.bytes)))
          some { network with
            system
            queues := network.queues.set index rest
            sources := network.sources ++ [source] }
      | _ => none
  | _ => none

/-- A socket begins without copies. -/
def step (environment : Environment) (network : Network κ) (label : Label κ) :
    Option (Network κ) :=
  match label with
  | .loop (.recv (some _)) => none
  | label => do
      let system ← network.system.next environment label
      let missing := system.sockets.length - network.queues.length
      some { network with
        system
        queues :=
          (network.queues ++ List.replicate missing []).take
            system.sockets.length }

def next (environment : Environment) : StepFn (Network κ) (NetworkLabel κ) :=
  fun network label =>
    match label with
    | .publish publication => some (network.publish publication)
    | .recv => network.recv environment
    | .step label => network.step environment label

/-- The invocations that a publication has caused. -/
def caused (network : Network κ) (publication : Nat) : List (Invocation κ) :=
  (network.system.invocations.filter fun entry =>
    network.sources[entry.1]? = some publication).map Prod.snd

variable {environment : Environment} {network after : Network κ}

/-- The copies of publications, waiting at a socket or received. -/
def copies (network : Network κ) : List Nat :=
  network.queues.flatten ++ network.sources

structure Fits (environment : Environment) (network : Network κ) : Prop where
  system : Reach (System.next environment) (Unrestricted _ _) {} network.system
  queues : network.queues.length = network.system.sockets.length
  once : network.copies.Nodup
  known : ∀ source ∈ network.copies, source < network.published.length
  sources : network.sources.length = network.system.received.length
  bytes : ∀ (index source : Nat) (received : ReceivedFrame κ),
    network.sources[index]? = some source →
    network.system.received[index]? = some received →
      (network.published[source]?).map Publication.bytes = some received.bytes

section Queues

variable {sockets : List SocketEntry} {queues : List (List Nat)}
  {address : String} {source index : Nat} {rest : List Nat}

theorem handOut_unmatched (length : queues.length = sockets.length)
    (unmatched : ∀ socket ∈ sockets, socket.address ≠ address) :
    List.zipWith (handOut address source) sockets queues = queues := by
  induction sockets generalizing queues with
  | nil => simp [List.length_eq_zero_iff.mp length]
  | cons socket sockets induction =>
      cases queues with
      | nil => contradiction
      | cons queue queues =>
          obtain ⟨other, others⟩ := List.forall_mem_cons.mp unmatched
          rw [List.zipWith_cons_cons, handOut, if_neg other,
            induction (Nat.succ.inj length) others]

theorem flatten_handOut (length : queues.length = sockets.length)
    (distinct : (sockets.map SocketEntry.address).Nodup) :
    (List.zipWith (handOut address source) sockets queues).flatten.Perm
      queues.flatten ∨
      (List.zipWith (handOut address source) sockets queues).flatten.Perm
        (source :: queues.flatten) := by
  induction sockets generalizing queues with
  | nil =>
      left
      simp [List.length_eq_zero_iff.mp length]
  | cons socket sockets induction =>
      cases queues with
      | nil => contradiction
      | cons queue queues =>
          obtain ⟨fresh, distinct⟩ := List.nodup_cons.mp distinct
          rw [List.zipWith_cons_cons, List.flatten_cons, List.flatten_cons]
          by_cases matching : socket.address = address
          · have unmatched : ∀ other ∈ sockets, other.address ≠ address := by
              intro other member same
              exact fresh
                (matching.trans same.symm ▸ List.mem_map_of_mem member)
            right
            rw [handOut_unmatched (Nat.succ.inj length) unmatched, handOut,
              if_pos matching]
            simp
          · rw [handOut, if_neg matching]
            rcases induction (Nat.succ.inj length) distinct with same | added
            · exact .inl (same.append_left queue)
            · exact .inr ((added.append_left queue).trans List.perm_middle)

theorem flatten_recv (found : queues[index]? = some (source :: rest)) :
    queues.flatten.Perm (source :: (queues.set index rest).flatten) := by
  induction queues generalizing index with
  | nil => simp at found
  | cons queue queues induction =>
      cases index with
      | zero =>
          obtain rfl : queue = source :: rest := by simpa using found
          simp
      | succ index =>
          have tail := induction (by simpa using found)
          simpa using (tail.append_left queue).trans List.perm_middle

theorem flatten_resize (queues : List (List Nat)) (missing length : Nat) :
    ((queues ++ List.replicate missing []).take length).flatten.Sublist
      queues.flatten := by
  have grown :
      (queues ++ List.replicate missing []).flatten = queues.flatten := by simp
  rw [← grown]
  exact (List.take_sublist _ _).flatten

end Queues

theorem Fits.publish (fits : Fits environment network)
    (distinct : (network.system.sockets.map SocketEntry.address).Nodup)
    (publication : Publication) :
    Fits environment (network.publish publication) := by
  have length : (network.publish publication).published.length =
      network.published.length + 1 := List.length_append
  have fresh : network.published.length ∉ network.copies :=
    fun member => Nat.lt_irrefl _ (fits.known _ member)
  have copied : (network.publish publication).copies.Perm network.copies ∨
      (network.publish publication).copies.Perm (network.published.length ::
        network.copies) := by
    rcases flatten_handOut fits.queues distinct with same | added
    · exact .inl (same.append_right _)
    · exact .inr (added.append_right _)
  refine ⟨fits.system, ?_, ?_, ?_, fits.sources, ?_⟩
  · simp [Network.publish, fits.queues]
  · rcases copied with same | added
    · exact same.nodup_iff.mpr fits.once
    · exact added.nodup_iff.mpr (List.nodup_cons.mpr ⟨fresh, fits.once⟩)
  · intro source member
    rw [length]
    rcases copied with same | added
    · exact Nat.lt_succ_of_lt (fits.known source (same.mem_iff.mp member))
    · rcases List.mem_cons.mp (added.mem_iff.mp member) with rfl | old
      · exact Nat.lt_succ_self _
      · exact Nat.lt_succ_of_lt (fits.known source old)
  · intro index source received found frame
    have inside := fits.known source
        (List.mem_append_right _ (List.mem_of_getElem? found))
    rw [show (network.publish publication).published =
      network.published ++ [publication] from rfl,
      List.getElem?_append_left inside]
    exact fits.bytes index source received found frame

theorem Fits.recv (fits : Fits environment network)
    (taken : network.recv environment = some after) :
    Fits environment after := by
  simp only [Network.recv] at taken
  split at taken
  · rename_i index revents loop
    split at taken
    · rename_i source rest found
      simp only [Option.bind_eq_bind, Option.bind_eq_some_iff,
        Option.some.injEq] at taken
      obtain ⟨publication, published, system, stepped, rfl⟩ := taken
      obtain ⟨socket, _, received, sockets, _⟩ := System.next_recv loop stepped
      have moved : (network.queues.set index rest).flatten ++
          (network.sources ++ [source]) |>.Perm
          network.copies := by
        rw [← List.append_assoc]
        exact (List.perm_append_singleton _ _).trans
          ((flatten_recv found).append_right _).symm
      refine ⟨fits.system.step trivial stepped, ?_,
        moved.nodup_iff.mpr fits.once, ?_, ?_, ?_⟩
      · simp [fits.queues, sockets]
      · exact fun source member => fits.known source (moved.mem_iff.mp member)
      · simp [fits.sources, received]
      · intro other current frame returned frame'
        rw [received] at frame'
        by_cases last : other = network.sources.length
        · subst last
          obtain rfl : source = current := by simpa using returned
          rw [fits.sources, List.getElem?_concat_length] at frame'
          rw [published, ← Option.some.inj frame']
          rfl
        · have inside : other < network.sources.length := by
            have bounded := (List.getElem?_eq_some_iff.mp returned).1
            simp only [List.length_append, List.length_singleton] at bounded
            omega
          rw [List.getElem?_append_left inside] at returned
          rw [List.getElem?_append_left (fits.sources ▸ inside)] at frame'
          exact fits.bytes other current frame returned frame'
    · contradiction
  · contradiction

theorem Fits.step {label : Label κ} (fits : Fits environment network)
    (taken : network.step environment label = some after) :
    Fits environment after := by
  unfold Network.step at taken
  split at taken
  · contradiction
  · rename_i silent
    simp only [Option.bind_eq_bind, Option.bind_eq_some_iff, Option.some.injEq]
      at taken
    obtain ⟨system, stepped, rfl⟩ := taken
    have received := System.next_received stepped fun bytes same =>
        silent bytes same
    have fewer := (flatten_resize network.queues
      (system.sockets.length - network.queues.length)
        system.sockets.length).append_right
        network.sources
    refine ⟨fits.system.step trivial stepped, ?_, fits.once.sublist fewer,
      ?_, ?_, ?_⟩
    · simp only [List.length_take, List.length_append, List.length_replicate]
      omega
    · exact fun source member => fits.known source (fewer.subset member)
    · exact fits.sources.trans (congrArg List.length received.symm)
    · intro index source frame returned frame'
      exact fits.bytes index source frame returned (received ▸ frame')

variable {host : String} {subscribe : List (EnumValue PubSubMessage)}
  {portOverrides : PortOverrides} {callbackExecutor : CallbackExecutor}
  {timeoutSeconds : Double}

theorem fits_of_reach {config : ClientConfig} {parsers : Parsers}
    (built : Built host subscribe portOverrides callbackExecutor
      timeoutSeconds config) (distinct : DistinctPorts subscribe portOverrides)
    (reach : Reach (Network.next ⟨config, parsers⟩) (Unrestricted _ _)
      ({} : Network κ) network) :
    Fits ⟨config, parsers⟩ network := by
  induction reach with
  | refl => exact ⟨.refl, rfl, by simp [copies], by simp [copies], rfl, by simp⟩
  | @step before after label earlier _ taken fits =>
      cases label with
      | publish publication =>
          obtain rfl := Option.some.inj taken
          refine fits.publish ?_ publication
          obtain ⟨opened, rest, split, sockets, _⟩ :=
            System.socketsFit_of_reach built.known fits.system
          have all := (distinctPorts_iff built).mpr distinct
          rw [← split, List.map_append, List.map_append] at all
          rw [sockets]
          exact all.of_append_left
      | recv => exact fits.recv taken
      | step label => exact fits.step taken

theorem Fits.caused_eq (fits : Fits environment network) {index source : Nat}
    (returned : network.sources[index]? = some source) :
    network.caused source =
      Ledger.deliveriesOf network.system.invocations index := by
  have once : network.sources.Nodup := (List.nodup_append.mp fits.once).2.1
  have same : ∀ other, network.sources[other]? = some source ↔
      other = index := by
    intro other
    constructor
    · intro found
      have inside := (List.getElem?_eq_some_iff.mp found).1
      exact (List.getElem?_inj inside once).mp (found.trans returned.symm)
    · rintro rfl
      exact returned
  simp only [Network.caused, Ledger.deliveriesOf, same]

/-- The callbacks that are invoked for a publication are the first of those
registered for one type, each invoked once. -/
theorem Fits.caused_prefix (fits : Fits environment network) (source : Nat) :
    network.caused source = [] ∨ ∃ message : Message, network.caused source <+:
      (network.system.registry.callbacks message.type).map (⟨·, message⟩) := by
  by_cases received : source ∈ network.sources
  · obtain ⟨index, returned⟩ := List.getElem?_of_mem received
    have inside : index < network.system.received.length :=
      fits.sources ▸ (List.getElem?_eq_some_iff.mp returned).1
    have delivered := System.deliveries_of_reach fits.system
      (List.getElem?_eq_getElem inside)
    rw [← fits.caused_eq returned] at delivered
    simp only [Flight.planNow, ReceivedFrame.plan] at delivered
    split at delivered
    · exact .inl (List.prefix_nil.mp delivered)
    · rename_i message _
      exact .inr ⟨message, delivered⟩
  · left
    rw [Network.caused, List.map_eq_nil_iff, List.filter_eq_nil_iff]
    intro entry _ same
    exact received (List.mem_of_getElem? (of_decide_eq_true same))

/-- The sockets have different addresses exactly if the messages subscribed to
are listed once each and have different ports.  Then every publication is
received once at most, and so has one type, and each callback is invoked for it
once at most. -/
theorem one_socket_per_publication {config : ClientConfig}
    (returned : buildConfig host subscribe portOverrides callbackExecutor
      timeoutSeconds =
      .ok config) :
    ∃ sockets, openSockets config = .ok sockets ∧
      sockets.map (·.type) = effectiveSubscribe subscribe ∧
      ((sockets.map (·.address)).Nodup ↔
    DistinctPorts subscribe portOverrides) ∧
      (DistinctPorts subscribe portOverrides →
        ∀ (parsers : Parsers) (network : Network κ),
        Reach (Network.next ⟨config, parsers⟩) (Unrestricted _ _) {} network →
          network.sources.Nodup ∧
          network.sources.length = network.system.received.length ∧
          (∀ (index source : Nat) (received : ReceivedFrame κ),
            network.sources[index]? = some source →
            network.system.received[index]? = some received →
              (network.published[source]?).map Publication.bytes =
                some received.bytes) ∧
          ∀ source, network.caused source = [] ∨ ∃ message : Message,
            network.caused source <+:
              (network.system.registry.callbacks message.type).map
                (⟨·, message⟩)) := by
  have built := built_of_buildConfig returned
  refine ⟨_, openSockets_eq built.known, ?_, distinctPorts_iff built, ?_⟩
  · rw [← built.subscribe, List.map_map]
    exact List.map_id _
  · intro distinct parsers network reach
    have fits := fits_of_reach built distinct reach
    exact ⟨(List.nodup_append.mp fits.once).2.1, fits.sources, fits.bytes,
      fits.caused_prefix⟩

/-! Runs of a Subscriber to vessel info. -/

def vesselDraft : Publication := ⟨"tcp://127.0.0.1:61504", draftFrame⟩

def subscribeRun (sockets : Nat) : List (NetworkLabel Nat) :=
  List.map NetworkLabel.step
    (.on ⟨.VesselInfo, .name "VesselInfo", some 7⟩ ::
      callRun .controller .start ++
      List.replicate (sockets + 3) (.loop .proceed))

def dispatchRun : List (NetworkLabel Nat) :=
  [.recv, .step (.dispatch .runLoop .snapshot),
    .step (.dispatch .runLoop .invoke), .step (.dispatch .runLoop .returns),
    .step (.dispatch .runLoop .finish)]

theorem vessel_distinctPorts : DistinctPorts [.of .VesselInfo] .none := by
  refine ⟨by decide, ?_⟩
  intro first second firstMember secondMember _
  have vessel : ∀ message : PubSubMessage,
      .of message ∈ effectiveSubscribe [.of .VesselInfo] →
      message = .VesselInfo :=
    fun message member => EnumValue.of_injective (List.mem_singleton.mp member)
  rw [vessel first firstMember, vessel second secondMember]

theorem one_socket_per_publication_vesselRun : ∃ network : Network Nat,
    network.sources = [0] ∧
      network.caused 0 = [⟨some 7, .vesselInfo { draft := 0x3f800000 }⟩] ∧
      ∃ sockets, openSockets (vesselEnvironment .Inline).config = .ok sockets ∧
        (sockets.map (·.address)).Nodup ∧ network.sources.Nodup := by
  have executed : (runLabels (Network.next (vesselEnvironment .Inline)) {}
      (subscribeRun 1 ++ [.publish vesselDraft, .step (.loop (.poll [true]))] ++
        dispatchRun)).map (fun network => (network.sources, network.caused 0)) =
      some ([0], [⟨some 7, .vesselInfo { draft := 0x3f800000 }⟩]) := by
    decide +kernel
  obtain ⟨network, run, facts⟩ := Option.map_eq_some_iff.mp executed
  obtain ⟨sources, caused⟩ := Prod.mk.inj facts
  have returned :
      buildConfig "127.0.0.1" [.of .VesselInfo] .none .Inline (.finite 5) =
      .ok (vesselEnvironment .Inline).config := rfl
  obtain ⟨sockets, opened, _, distinct, once⟩ :=
    @one_socket_per_publication Nat _ _ _ _ _ _ returned
  obtain ⟨received, _⟩ := once vessel_distinctPorts _ network
      (reach_of_runLabels run)
  exact ⟨network, sources, caused, sockets, opened,
    distinct.mpr vessel_distinctPorts, received⟩

/-- A list that names vessel info twice. -/
def repeatedEnvironment : Environment :=
  { vesselEnvironment .Inline with
    config := { (vesselEnvironment .Inline).config with
      subscribe := [.of .VesselInfo, .of .VesselInfo] } }

/-- An override that gives target data the port of vessel info. -/
def collidingOverrides : PortOverrides :=
  ⟨[("TargetData", 61504)], by decide⟩

theorem repeated_subscription_delivers_twice :
    (buildConfig "127.0.0.1" [.of .VesselInfo, .of .VesselInfo] .none .Inline
      (.finite 5) =
        .ok repeatedEnvironment.config ∧
      ∃ network : Network Nat,
        Reach (Network.next repeatedEnvironment) (Unrestricted _ _) {} network ∧
        network.sources = [0, 0] ∧ (network.caused 0).map (·.callback) =
          [some 7, some 7]) ∧
    ∃ config sockets,
      buildConfig "127.0.0.1" [] collidingOverrides .Inline (.finite 5) =
        .ok config ∧
      openSockets config = .ok sockets ∧ ¬ (sockets.map (·.address)).Nodup := by
  constructor
  · have executed : (runLabels (Network.next repeatedEnvironment) {}
        (subscribeRun 2 ++ [.publish vesselDraft,
          .step (.loop (.poll [true, true]))] ++
          dispatchRun ++ dispatchRun)).map
          (fun network =>
            (network.sources, (network.caused 0).map (·.callback))) =
        some ([0, 0], [some 7, some 7]) := by
      decide +kernel
    obtain ⟨network, run, facts⟩ := Option.map_eq_some_iff.mp executed
    obtain ⟨sources, caused⟩ := Prod.mk.inj facts
    exact ⟨rfl, network, reach_of_runLabels run, sources, caused⟩
  · have collides : (buildConfig "127.0.0.1" [] collidingOverrides .Inline
        (.finite 5)).toOption.bind (fun config =>
          (openSockets config).toOption.map (·.map (·.address))) =
        some ["tcp://127.0.0.1:61501", "tcp://127.0.0.1:61504",
          "tcp://127.0.0.1:61503", "tcp://127.0.0.1:61504"] := by
      decide +kernel
    cases built :
      buildConfig "127.0.0.1" [] collidingOverrides .Inline (.finite 5) with
    | error failure => simp [built, Except.toOption] at collides
    | ok config =>
        cases opened : openSockets config with
        | error failure => simp [built, opened, Except.toOption] at collides
        | ok sockets =>
            refine ⟨config, sockets, rfl, opened, ?_⟩
            simp only [built, opened, Except.toOption, Option.bind_some,
              Option.map_some, Option.some.injEq] at collides
            rw [collides]
            decide +kernel

end Network

end Farsounder.Subscriber
