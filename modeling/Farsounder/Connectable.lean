import Farsounder.Timeouts
import Farsounder.Subscriber.Addresses

namespace Farsounder

open Config
open Data
open Subscriber

/-! The ports of an accepted configuration, and the sockets that are connected
to them. -/

def TcpPort (port : Int32) : Prop :=
  1 ≤ port.toInt ∧ port.toInt ≤ 65535

instance (port : Int32) : Decidable (TcpPort port) :=
  inferInstanceAs (Decidable (_ ∧ _))

/-- `connect` refuses exactly those addresses of the host whose port is none. -/
def ConnectsTcpPorts (connects : String → Bool) (host : String) : Prop :=
  ∀ port : Int32, connects (addressAt host port) = true ↔ TcpPort port

/-- Every address made from the configuration has a TCP port, and no `connect`
of `run_loop` or `send_request` is refused. -/
structure Connectable (runtime : Requests.Runtime) (parsers : Parsers)
    (config : ClientConfig) : Prop where
  pubsub : ∀ message, ∃ port, TcpPort port ∧
    pubsubAddress config (.of message) = .ok (addressAt config.host port)
  reqrep : ∀ endpoint, ∃ port, TcpPort port ∧
    Requests.endpointAddress config endpoint = .ok (addressAt config.host port)
  rest : ∃ port, TcpPort port ∧
    Requests.restBaseUrl config =
    .ok ("http://" ++ config.host ++ ":" ++ toString port.toInt)
  runLoop : ∀ {κ : Type} (system : System κ) message rest,
    Reach (System.next ⟨config, parsers⟩) (Unrestricted _ _) {} system →
    system.loop = .connecting (message :: rest) →
    ∃ address, pubsubAddress config message = .ok address ∧
    runtime.connects address = true
  sendRequest : ∀ endpoint request,
    Requests.awaitReply runtime config endpoint request ≠
    .error (.zmqError .connect)

section Built

variable {host : String} {subscribe : List (EnumValue PubSubMessage)}
  {portOverrides : PortOverrides} {callbackExecutor : CallbackExecutor}
  {timeoutSeconds : Double} {config : ClientConfig}

theorem pubsubAddress_eq
    (built : Built host subscribe portOverrides callbackExecutor
      timeoutSeconds config) (message : PubSubMessage) :
    pubsubAddress config (.of message) = .ok (addressAt config.host
      ((portOverrides.find (PubSubMessage.toString (.of message))).getD
        message.defaultPort)) := by
  rw [pubsubAddress, resolvePubsubPort, resolvePort,
    built.pubsub.port (defaultPubsubPorts_of message)]
  rfl

theorem endpointAddress_eq
    (built : Built host subscribe portOverrides callbackExecutor
      timeoutSeconds config) (endpoint : ReqRepEndpoint) :
    Requests.endpointAddress config endpoint = .ok (addressAt config.host
      ((portOverrides.find (ReqRepEndpoint.toString (.of endpoint))).getD
        endpoint.defaultPort)) := by
  rw [Requests.endpointAddress, resolveReqrepPort, resolvePort,
    built.reqrep.port (defaultReqrepPorts_of endpoint)]
  rfl

theorem restBaseUrl_eq
    (built : Built host subscribe portOverrides callbackExecutor
      timeoutSeconds config) :
    Requests.restBaseUrl config =
      .ok ("http://" ++ config.host ++ ":" ++ toString
      ((portOverrides.find (RestEndpoint.toString (.of .GetHistoryData))).getD
        RestEndpoint.GetHistoryData.defaultPort).toInt) := by
  rw [Requests.restBaseUrl, resolveRestPort, resolvePort,
    built.rest.port (defaultRestPorts_of .GetHistoryData)]
  rfl

end Built

theorem restUrl_injective (host : String) :
    Function.Injective fun port : Int32 =>
      "http://" ++ host ++ ":" ++ toString port.toInt := by
  intro first second same
  have printed := (String.append_right_inj _).mp same
  exact Int32.toInt_inj.mp (Data.Decimal.toString_injective printed)

/-! Which overrides are TCP ports. -/

theorem Config.PubSubMessage.defaultPort_tcp (message : PubSubMessage) :
    TcpPort message.defaultPort := by
  cases message <;> decide

theorem Config.ReqRepEndpoint.defaultPort_tcp (endpoint : ReqRepEndpoint) :
    TcpPort endpoint.defaultPort := by
  cases endpoint <;> decide

theorem Config.RestEndpoint.defaultPort_tcp (endpoint : RestEndpoint) :
    TcpPort endpoint.defaultPort := by
  cases endpoint
  decide

theorem override_tcp {overrides : PortOverrides}
    (positive : ∀ entry ∈ overrides.entries, 0 < entry.2)
    (bounded : ∀ entry ∈ overrides.entries, entry.2.toInt ≤ 65535)
    {key : String} {standard : Int32} (default : TcpPort standard) :
    TcpPort ((overrides.find key).getD standard) := by
  cases found : overrides.find key with
  | none => exact default
  | some port =>
      have member := mem_of_ofList found
      exact ⟨Int32.lt_iff_toInt_lt.mp (positive _ member), bounded _ member⟩

section Built

variable {host : String} {subscribe : List (EnumValue PubSubMessage)}
  {portOverrides : PortOverrides} {callbackExecutor : CallbackExecutor}
  {timeoutSeconds : Double} {config : ClientConfig} {runtime : Requests.Runtime}
  {parsers : Parsers}

theorem Connectable.override_le
    (connectable : Connectable runtime parsers config)
    (built : Built host subscribe portOverrides callbackExecutor
      timeoutSeconds config) {key : String} {port : Int32}
    (member : (key, port) ∈ portOverrides.entries) :
    port.toInt ≤ 65535 := by
  have found : portOverrides.find key = some port :=
    (UnorderedMap.ofList_eq_some portOverrides.keysNodup).mpr member
  rcases (built.accepted _ member).2 with names | names | names
  · obtain ⟨message, mapped⟩ := Option.isSome_iff_exists.mp names
    obtain rfl := pubsubNameMap_eq_some.mp mapped
    obtain ⟨used, tcp, address⟩ := connectable.pubsub message
    rw [pubsubAddress_eq built, found] at address
    obtain rfl := addressAt_injective _ (Except.ok.inj address)
    exact tcp.2
  · obtain ⟨endpoint, mapped⟩ := Option.isSome_iff_exists.mp names
    obtain rfl := reqrepNameMap_eq_some.mp mapped
    obtain ⟨used, tcp, address⟩ := connectable.reqrep endpoint
    rw [endpointAddress_eq built, found] at address
    obtain rfl := addressAt_injective _ (Except.ok.inj address)
    exact tcp.2
  · obtain ⟨endpoint, mapped⟩ := Option.isSome_iff_exists.mp names
    obtain rfl := restNameMap_eq_some.mp mapped
    cases endpoint
    obtain ⟨used, tcp, url⟩ := connectable.rest
    rw [restBaseUrl_eq built, found] at url
    obtain rfl := restUrl_injective _ (Except.ok.inj url)
    exact tcp.2

theorem awaitReply_connects {endpoint : ReqRepEndpoint} {address : String}
    (resolved : Requests.endpointAddress config endpoint = .ok address)
    (connects : runtime.connects address = true) (request : Proto.Request) :
    Requests.awaitReply runtime config endpoint request ≠
      .error (.zmqError .connect) := by
  rw [Requests.awaitReply, resolved]
  cases timeout :
    Requests.toTimeoutMs runtime.times1000 config.timeoutSeconds with
  | error failure =>
      obtain rfl := Requests.toTimeoutMs_error timeout
      simp
  | ok timeoutMs =>
      simp only [Data.Traversal.ok_bind, connects, Bool.not_true,
        Bool.false_eq_true, if_false]
      cases runtime.serialize request with
      | none => simp
      | some payload =>
          cases sent : runtime.sends address timeoutMs payload with
          | throws | timedOut => simp [sent]
          | done =>
              cases received : runtime.recv address timeoutMs payload
                <;> simp [sent, received]

/-- `run_loop` and `send_request` can connect to every port of an accepted
configuration exactly if no override is above 65535. -/
theorem connectable_iff
    (returned : buildConfig host subscribe portOverrides callbackExecutor
      timeoutSeconds = .ok config)
    (connects : ConnectsTcpPorts runtime.connects host) :
    Connectable runtime parsers config ↔
      ∀ entry ∈ portOverrides.entries, entry.2.toInt ≤ 65535 := by
  have built := built_of_buildConfig returned
  constructor
  · intro connectable entry member
    exact connectable.override_le built member
  · intro bounded
    have positive : ∀ entry ∈ portOverrides.entries, 0 < entry.2 :=
      fun entry member => (built.accepted entry member).1
    have tcp : ∀ key standard, TcpPort standard →
        TcpPort ((portOverrides.find key).getD standard) :=
      fun key standard default => override_tcp positive bounded default
    have accepts : ∀ port, TcpPort port →
        runtime.connects (addressAt config.host port) = true := by
      rw [built.host]
      exact fun port => (connects port).mpr
    exact {
      pubsub := fun message =>
      ⟨_, tcp _ _ message.defaultPort_tcp, pubsubAddress_eq built message⟩
      reqrep := fun endpoint =>
        ⟨_, tcp _ _ endpoint.defaultPort_tcp, endpointAddress_eq built endpoint⟩
      rest := ⟨_, tcp _ _ (RestEndpoint.defaultPort_tcp .GetHistoryData),
        restBaseUrl_eq built⟩
      runLoop := by
        intro κ system message rest reach connecting
        obtain ⟨opened, remaining, split, _, remains⟩ :=
          System.socketsFit_of_reach built.known reach
        obtain rfl := remains (message :: rest) (by rw [connecting]; rfl)
        have member : message ∈ config.subscribe :=
          split ▸ List.mem_append_right _ List.mem_cons_self
        obtain ⟨declared, rfl⟩ := built.declared (built.subscribe ▸ member)
        exact ⟨_, pubsubAddress_eq built declared,
          accepts _ (tcp _ _ declared.defaultPort_tcp)⟩
      sendRequest := fun endpoint request =>
        awaitReply_connects (endpointAddress_eq built endpoint)
        (accepts _ (tcp _ _ endpoint.defaultPort_tcp)) request }

end Built

/-! A `connect` that knows the TCP ports of one host. -/

def tcpConnects (host address : String) : Bool :=
  (List.range 65536).any fun port =>
    decide (0 < port) && addressAt host (Int32.ofNat port) == address

theorem connectsTcpPorts_tcpConnects (host : String) :
    ConnectsTcpPorts (tcpConnects host) host := by
  intro port
  simp only [tcpConnects, List.any_eq_true, List.mem_range, Bool.and_eq_true,
    decide_eq_true_eq, beq_iff_eq]
  constructor
  · rintro ⟨number, bounded, positive, same⟩
    obtain rfl := addressAt_injective host same
    have value : (Int32.ofNat number).toInt = number :=
      Int32.toInt_ofNat_of_lt (by omega)
    exact ⟨by omega, by omega⟩
  · rintro ⟨positive, bounded⟩
    refine ⟨port.toInt.toNat, by omega, by omega, congrArg (addressAt host) ?_⟩
    apply Int32.toInt_inj.mp
    rw [Int32.toInt_ofNat_of_lt (by omega)]
    omega

def connecting (connects : String → Bool) : Requests.Runtime :=
  { Requests.answering [] with connects }

@[simp] theorem connecting_connects (connects : String → Bool) :
    (connecting connects).connects = connects := rfl

def localRuntime : Requests.Runtime := connecting (tcpConnects "127.0.0.1")

theorem localRuntime_connects :
    ConnectsTcpPorts localRuntime.connects "127.0.0.1" := by
  rw [localRuntime, connecting_connects]
  exact connectsTcpPorts_tcpConnects "127.0.0.1"

def targetOverride (port : Int32) : PortOverrides :=
  ⟨[("TargetData", port)], List.nodup_singleton _⟩

def targetConfig (port : Int32) : ClientConfig :=
  { Requests.defaultConfig with
    subscribe := [.of .TargetData]
    pubsubPorts := defaultPubsubPorts.assign (.of .TargetData) port }

theorem connectable_iff_targetOverride :
    Connectable localRuntime (vesselEnvironment .ThreadPool).parsers
      (targetConfig 62000) := by
  have returned :
      buildConfig "127.0.0.1" [.of .TargetData]
      (targetOverride 62000) .ThreadPool
      (.finite 2) = .ok (targetConfig 62000) := rfl
  refine (connectable_iff returned localRuntime_connects).mpr ?_
  intro entry member
  obtain rfl := List.mem_singleton.mp member
  decide

/-- An override of 70000 is accepted, and the `connect` that it makes throw ends
the process. -/
theorem accepted_override_ends_process :
    buildConfig "127.0.0.1" [.of .TargetData] (targetOverride 70000) .ThreadPool
      (.finite 2) =
        .ok (targetConfig 70000) ∧
      pubsubAddress (targetConfig 70000) (.of .TargetData) =
        .ok "tcp://127.0.0.1:70000" ∧
      localRuntime.connects "tcp://127.0.0.1:70000" = false ∧
      ∃ system after : System Nat,
        Reach (System.next ⟨targetConfig 70000,
          (vesselEnvironment .ThreadPool).parsers⟩) (Unrestricted _ _)
            {} system ∧
        system.loop = .connecting [.of .TargetData] ∧
        System.next ⟨targetConfig 70000,
          (vesselEnvironment .ThreadPool).parsers⟩ system
          (.loop .throws) = some after ∧
        after.terminated = some (.uncaughtException .runLoop) := by
  have address : pubsubAddress (targetConfig 70000) (.of .TargetData) =
      .ok "tcp://127.0.0.1:70000" := rfl
  have refused : localRuntime.connects (addressAt "127.0.0.1" 70000) ≠ true :=
    fun connected =>
      absurd ((localRuntime_connects 70000).mp connected) (by decide)
  refine ⟨rfl, address, Bool.eq_false_iff.mpr refused, ?_⟩
  have executed : ((runLabels (System.next ⟨targetConfig 70000,
      (vesselEnvironment .ThreadPool).parsers⟩) ({} : System Nat)
      (callRun .controller .start)).bind fun system =>
        (System.next ⟨targetConfig 70000,
          (vesselEnvironment .ThreadPool).parsers⟩ system
          (.loop .throws)).map fun after => (system.loop, after.terminated)) =
      some (.connecting [.of .TargetData],
        some (.uncaughtException .runLoop)) := by
    decide +kernel
  obtain ⟨system, run, last⟩ := Option.bind_eq_some_iff.mp executed
  obtain ⟨after, taken, facts⟩ := Option.map_eq_some_iff.mp last
  obtain ⟨loop, terminated⟩ := Prod.mk.inj facts
  exact ⟨system, after, reach_of_runLabels run, loop, taken, terminated⟩

end Farsounder
