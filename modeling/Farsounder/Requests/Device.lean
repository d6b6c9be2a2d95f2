import Farsounder.Requests.Concurrent

namespace Farsounder.Requests

open Config
open Data
open Data.Wire (Bytes Codec)

/-! A device that keeps to the `.proto` files, and what its clients see of
it. -/

structure Device (σ : Type) where
  decode : (payload : Bytes) → ReqRepEndpoint → Option Proto.Request
  encode : (endpoint : ReqRepEndpoint) → ReplyTo endpoint → Bytes
  answer : σ → (request : Proto.Request) → σ × ReplyTo request.endpoint

/-- Each side parses what the other one has serialized, and no reply is as long
as `ParseFromArray` cannot be told. -/
structure Understands {σ : Type} (platform : Platform) (device : Device σ) :
    Prop where
  requests : ∀ {request payload}, platform.serialize request = some payload →
    device.decode payload request.endpoint = some request
  replies : ∀ endpoint,
    Proto.RoundTrip (device.encode endpoint) (platform.parse endpoint)
  short : ∀ state request,
    (device.encode _ (device.answer state request).2).length < 2 ^ 31

namespace Device

variable {σ : Type} (platform : Platform) (device : Device σ)

/-- What the device makes of the bytes that arrive at an endpoint. -/
def serve (state : σ) (endpoint : ReqRepEndpoint) (payload : Bytes) :
    Option (σ × Bytes) :=
  (device.decode payload endpoint).map fun request =>
    ((device.answer state request).1,
      device.encode _ (device.answer state request).2)

/-- What a call does, the device and its client being one. -/
def call (state : σ) (call : Call) : σ × Response :=
  ((device.answer state call.request).1,
    call.convert (device.answer state call.request).2)

variable {platform device}

theorem serve_request (understands : Understands platform device) (state : σ)
    {call : Call} {payload : Bytes}
    (serialized : platform.serialize call.request = some payload) :
    ∃ reply,
      device.serve state call.endpoint payload =
        some ((device.call state call).1, reply) ∧
        call.finish platform reply = .ok (device.call state call).2 := by
  have short := understands.short state call.request
  refine ⟨device.encode _ (device.answer state call.request).2, ?_, ?_⟩
  · rw [serve, Call.endpoint, understands.requests serialized]
    rfl
  · exact congrArg (Call.finish.respond _)
      ((understands.replies _).parseFromArray short)

variable (platform device)

/-- What one call after the other does; a call that throws before it sends does
nothing. -/
def perform (state : σ) : ClientConfig × Call → σ × Except Failure Response
  | (config, call) =>
      match prepare platform config call with
      | .ok _ => ((device.call state call).1, .ok (device.call state call).2)
      | .error failure => (state, .error failure)

/-- The device behind its sockets. -/
def listening (listens : String → Option ReqRepEndpoint) (state : σ)
    (address : String) (payload : Bytes) : σ × Bytes :=
  ((listens address).bind fun endpoint =>
    device.serve state endpoint payload).getD (state, [])

end Device

/-- The call addresses the socket that its request is for. -/
def Caller.Reaches (listens : String → Option ReqRepEndpoint)
    (caller : Caller) : Prop :=
  ∀ address, endpointAddress caller.config caller.call.endpoint = .ok address →
    listens address = some caller.call.endpoint

instance (listens : String → Option ReqRepEndpoint) (caller : Caller) :
    Decidable (caller.Reaches listens) :=
  match resolved : endpointAddress caller.config caller.call.endpoint with
  | .ok address =>
      decidable_of_iff (listens address = some caller.call.endpoint)
        (by simp [Caller.Reaches, resolved])
  | .error failure => .isTrue (by simp [Caller.Reaches, resolved])

theorem prepare_eq_ok {platform : Platform} {config : ClientConfig}
    {call : Call} {address : String} {payload : Bytes}
    (prepared : prepare platform config call = .ok (address, payload)) :
    endpointAddress config call.endpoint = .ok address ∧
      platform.serialize call.request = some payload := by
  unfold prepare attempt at prepared
  generalize toTimeoutMs platform.times1000 config.timeoutSeconds = converted
    at prepared
  generalize endpointAddress config call.endpoint = resolved at prepared
  cases converted with
  | error failure => contradiction
  | ok timeoutMs =>
      cases resolved with
      | error failure => contradiction
      | ok found =>
          generalize platform.serialize call.request = serialized at prepared
          cases serialized with
          | none => contradiction
          | some written =>
              obtain ⟨rfl, rfl⟩ := Prod.mk.inj (Except.ok.inj prepared)
              exact ⟨rfl, rfl⟩

/-- The caller, with what it gets of the reply. -/
def Caller.seen (platform : Platform) (caller : Caller) :
    Client (ClientConfig × Call) (Except Failure Response) where
  operation := (caller.config, caller.call)
  stage :=
    match caller.progress with
    | .starting | .waiting => .waiting
    | .answered reply => .answered (caller.call.finish platform reply)
    | .failed _ => .gaveUp
  earlier := caller.earlier

/-- What a call makes of a reply to it. -/
def ReadsReply (platform : Platform) (operation : ClientConfig × Call)
    (reply : Bytes) (outcome : Except Failure Response) : Prop :=
  ∀ sent, prepare platform operation.1 operation.2 = .ok sent →
    operation.2.finish platform reply = outcome

namespace Device

variable {σ : Type} {platform : Platform} {device : Device σ}
  {listens : String → Option ReqRepEndpoint}

theorem perform_served (understands : Understands platform device)
    {caller : Caller} (reaches : caller.Reaches listens) (state : σ) :
    let operation := (caller.config, caller.call)
    let served := Session.served platform
        (device.listening listens) state operation
    (device.perform platform state operation).1 = served.1 ∧
      ReadsReply platform operation served.2
      (device.perform platform state operation).2 := by
  cases prepared : prepare platform caller.config caller.call with
  | error failure =>
      simp only [perform, Session.served, prepared, ReadsReply]
      refine ⟨trivial, ?_⟩
      intro sent impossible
      contradiction
  | ok sent =>
      obtain ⟨address, payload⟩ := sent
      obtain ⟨resolved, serialized⟩ := prepare_eq_ok prepared
      obtain ⟨reply, served, finished⟩ :=
        serve_request understands state serialized
      simp only [perform, Session.served, prepared, ReadsReply, listening,
        reaches _ resolved, Option.bind_some, served, Option.getD_some]
      exact ⟨trivial, fun _ _ => finished⟩

theorem same_client {caller : Caller} (explained : caller.Explained platform) :
    Shared.SameClient (ReadsReply platform) caller.client
      (caller.seen platform) := by
  refine ⟨rfl, rfl, ?_⟩
  intro outcome answered
  unfold Caller.Explained at explained
  cases progress : caller.progress with
  | starting | waiting | failed failure =>
      simp [Caller.seen, progress] at answered
  | answered reply =>
      rw [progress] at explained
      obtain ⟨sent, prepared⟩ := explained
      simp only [Caller.seen, progress, Stage.answered.injEq] at answered
      refine ⟨reply, by rw [Caller.client, progress]; rfl, ?_⟩
      intro other read
      rw [← read sent prepared, ← answered]
      rfl

/-- Calls that are made at the same time behave as if the device had carried
them out one at a time: there is an order of those it has taken in which each
caller has got the response to its own call, and no response is lost to another
one, repeated, or returned out of real time. -/
theorem device_calls_linearizable {platform : Platform} {device : Device σ}
    (understands : Understands platform device)
    (listens : String → Option ReqRepEndpoint) (initial : σ)
    (session : Session σ)
    (reach : Reach (Session.next platform (device.listening listens))
      (Unrestricted _ _) { server := initial } session)
    (reaches : ∀ caller ∈ session.callers, caller.Reaches listens) :
    (∃ order, Shared.Linearizable (device.perform platform) initial
        ⟨session.server, session.callers.map (Caller.seen platform), order⟩ ∧
      order.map Prod.fst = session.log.map Prod.fst) ∧
    ∀ caller ∈ session.callers, ∀ reply, caller.progress = .answered reply →
      ∃ state, caller.outcome? platform =
      some (.ok (device.call state caller.call).2) := by
  have tracked := Session.tracked_of_reach reach
  have linearizable := Session.linearizable_of_reach reach
  have reads {id : Nat} {operation : ClientConfig × Call}
      (invoked : session.shared.operations[id]? = some operation) (state : σ) :
      (device.perform platform state operation).1 =
          (Session.served platform (device.listening listens) state
            operation).1 ∧
        ReadsReply platform operation
          (Session.served platform (device.listening listens) state operation).2
          (device.perform platform state operation).2 := by
    simp only [Shared.operations, Session.shared, List.map_map,
      List.getElem?_map, Option.map_eq_some_iff] at invoked
    obtain ⟨caller, found, rfl⟩ := invoked
    exact perform_served understands
      (reaches caller (List.mem_of_getElem? found)) state
  have same :
      List.Forall₂
      (Shared.SameClient (ReadsReply platform)) session.shared.clients
      (session.callers.map (Caller.seen platform)) := by
    rw [Session.shared, List.forall₂_map_left_iff, List.forall₂_map_right_iff]
    exact List.forall₂_same.mpr fun caller member =>
      same_client (tracked.explained caller member)
  have ordered := linearizable.read reads same
  refine ⟨ordered, ?_⟩
  intro caller member reply answered
  obtain ⟨id, found⟩ := List.mem_iff_getElem?.mp member
  have stage : caller.client.stage = .answered reply := by
    rw [Caller.client, answered]
    rfl
  have logged := linearizable.answers (Session.shared_client found) stage
  obtain ⟨state, operation, invoked, result⟩ :=
    linearizable.replayed.result logged
  have own : operation = (caller.config, caller.call) := by
    rw [Shared.operations, List.getElem?_map, Session.shared_client found]
      at invoked
    exact (Option.some.inj invoked).symm
  subst own
  have explained := tracked.explained caller member
  rw [Caller.Explained, answered] at explained
  obtain ⟨sent, prepared⟩ := explained
  have read := (reads invoked state).2 sent prepared
  rw [result] at read
  refine ⟨state, ?_⟩
  rw [Caller.outcome?, answered]
  refine congrArg some (read.trans ?_)
  rw [perform, prepared]

/-! Over the wire format. -/

def resultOf (code : Proto.ResultCode) : Proto.RequestResult where
  code := some code

/-- A device that has a field of view and nothing else. -/
def viewDevice : Device Proto.FieldOfView where
  decode := decodeRequest
  encode endpoint := (replyCodec endpoint).encode
  answer state
    | .getProcessorSettings =>
        (state,
          { result := some (resultOf .kSuccess)
            settings := some { fov := some state } })
    | .setFieldOfView (some fov) => (fov, ⟨some (resultOf .kSuccess)⟩)
    | .setFieldOfView none => (state, ⟨some (resultOf .kParameterMissing)⟩)
    | .setBottomDetection _ | .setInWaterSquelch _
    | .setSquelchlessInWaterDetector _ =>
        (state, ⟨some (resultOf .kInvalidRequest)⟩)
    | .getVesselInfo => (state, { result := some (resultOf .kInvalidRequest) })

theorem viewDevice_understands : Understands wirePlatform viewDevice where
  requests := by
    intro request payload serialized
    obtain rfl := Option.some.inj serialized
    exact decodeRequest_encodeRequest request
  replies _ _ := Codec.parse_encode
  short := by
    intro state request
    cases request with
    | getProcessorSettings => cases state <;> decide
    | setFieldOfView fov => cases fov <;> exact Nat.lt_of_sub_eq_succ rfl
    | setBottomDetection | setInWaterSquelch | setSquelchlessInWaterDetector
    | getVesselInfo =>
        exact Nat.lt_of_sub_eq_succ rfl

def listensDefault (address : String) : Option ReqRepEndpoint :=
  ReqRepEndpoint.all.find? fun endpoint =>
    (endpointAddress defaultConfig endpoint).toOption = some address

/-- The second request is taken first, and its caller times out; a third call is
made after the first one has returned. -/
def viewRun : List SessionLabel :=
  [.call (.setFieldOfView (.of .k60d1000m)) defaultConfig,
    .call .getProcessorSettings defaultConfig, .send 0 .sends, .send 1 .sends,
    .serve 1, .serve 0, .receive 1, .call .getProcessorSettings defaultConfig,
    .send 2 .sends, .timeOut 1, .serve 0, .receive 1]

theorem viewRun_reaches : ∃ session : Session Proto.FieldOfView,
    Reach (Session.next wirePlatform (viewDevice.listening listensDefault))
      (Unrestricted _ _) { server := .k90d500m } session ∧
      session.callers.map (Caller.outcome? wirePlatform) =
        [some (.ok (.fieldOfView {})), some (.error timedOut),
          some (.ok
            (.processorSettings { settings := { fov := .k60d1000m } }))] ∧
      session.log.map Prod.fst = [1, 0, 2] ∧
      ∀ caller ∈ session.callers, caller.Reaches listensDefault := by
  have executed :
      (runLabels
        (Session.next wirePlatform (viewDevice.listening listensDefault))
      { server := .k90d500m } viewRun).map (fun session =>
        (session.callers.map (Caller.outcome? wirePlatform),
          session.log.map Prod.fst,
          decide (∀ caller ∈ session.callers, caller.Reaches listensDefault))) =
      some ([some (.ok (.fieldOfView {})), some (.error timedOut),
        some (.ok (.processorSettings { settings := { fov := .k60d1000m } }))],
        [1, 0, 2], true) := by
    decide +kernel
  obtain ⟨session, run, observed⟩ := Option.map_eq_some_iff.mp executed
  obtain ⟨outcomes, log, reaches⟩ := by
    simpa only [Prod.mk.injEq] using observed
  exact ⟨session, reach_of_runLabels run, outcomes, log,
    of_decide_eq_true reaches⟩

theorem concurrent_calls_linearizable_viewRun :
    ∃ session : Session Proto.FieldOfView,
    session.callers.map (Caller.outcome? wirePlatform) =
        [some (.ok (.fieldOfView {})), some (.error timedOut),
          some (.ok
            (.processorSettings { settings := { fov := .k60d1000m } }))] ∧
      session.log.map Prod.fst = [1, 0, 2] ∧
      Shared.Linearizable (Session.served wirePlatform
        (viewDevice.listening listensDefault)) .k90d500m
        session.shared := by
  obtain ⟨session, reach, outcomes, log, _⟩ := viewRun_reaches
  exact ⟨session, outcomes, log,
    (Session.concurrent_calls_linearizable _ _ _ session reach).1⟩

theorem device_calls_linearizable_viewRun :
    ∃ session : Session Proto.FieldOfView, ∃ order,
    session.callers.map (Caller.outcome? wirePlatform) =
        [some (.ok (.fieldOfView {})), some (.error timedOut),
          some (.ok
            (.processorSettings { settings := { fov := .k60d1000m } }))] ∧
      order.map Prod.fst = [1, 0, 2] ∧
      Shared.Linearizable (viewDevice.perform wirePlatform) .k90d500m
        ⟨session.server, session.callers.map (Caller.seen wirePlatform),
          order⟩ := by
  obtain ⟨session, reach, outcomes, log, reaches⟩ := viewRun_reaches
  obtain ⟨⟨order, linearizable, ids⟩, _⟩ :=
    device_calls_linearizable viewDevice_understands listensDefault _ session
      reach reaches
  exact ⟨session, order, outcomes, ids.trans log, linearizable⟩

end Device

end Farsounder.Requests
