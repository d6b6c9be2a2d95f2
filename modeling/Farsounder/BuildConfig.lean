import Farsounder.Overlay

namespace Farsounder.Config

/-! When `build_config` returns, and that the order in which it visits the
overrides does not matter. -/

def endpointNames : List String :=
  PubSubMessage.all.map (fun message => PubSubMessage.toString (.of message)) ++
    ReqRepEndpoint.all.map (fun endpoint =>
      ReqRepEndpoint.toString (.of endpoint)) ++
    RestEndpoint.all.map (fun endpoint => RestEndpoint.toString (.of endpoint))

example : endpointNames.length = 11 ∧ endpointNames.Nodup := by decide

theorem namesEndpoint_iff {key : String} : NamesEndpoint key ↔
    key ∈ endpointNames := by
  simp only [NamesEndpoint, Option.isSome_iff_exists, pubsubNameMap_eq_some,
    reqrepNameMap_eq_some, restNameMap_eq_some, endpointNames, List.mem_append,
    List.mem_map, or_assoc]
  constructor
  · rintro (⟨message, named⟩ | ⟨endpoint, named⟩ | ⟨endpoint, named⟩)
    · exact .inl ⟨message, message.mem_all, named.symm⟩
    · exact .inr (.inl ⟨endpoint, endpoint.mem_all, named.symm⟩)
    · exact .inr (.inr ⟨endpoint, endpoint.mem_all, named.symm⟩)
  · rintro (⟨message, _, named⟩ | ⟨endpoint, _, named⟩ | ⟨endpoint, _, named⟩)
    · exact .inl ⟨message, named.symm⟩
    · exact .inr (.inl ⟨endpoint, named.symm⟩)
    · exact .inr (.inr ⟨endpoint, named.symm⟩)

theorem applyOverride_accepts (ports : Ports) {key : String} {port : Int32}
    (positive : 0 < port) (names : NamesEndpoint key) :
    ∃ after, applyOverride ports (key, port) = .ok after := by
  have nonnegative : ¬ port ≤ 0 := by simpa using positive
  simp only [applyOverride, if_neg nonnegative]
  cases pubsub : pubsubNameMap key with
  | some message => exact ⟨_, rfl⟩
  | none =>
      cases reqrep : reqrepNameMap key with
      | some endpoint => exact ⟨_, rfl⟩
      | none =>
          cases rest : restNameMap key with
          | some endpoint => exact ⟨_, rfl⟩
          | none => simp [NamesEndpoint, pubsub, reqrep, rest] at names

theorem applyOverrides_accepts {entries : List (String × Int32)} (ports : Ports)
    (accepted : ∀ entry ∈ entries, 0 < entry.2 ∧ NamesEndpoint entry.1) :
    ∃ after, applyOverrides ports entries = .ok after := by
  induction entries generalizing ports with
  | nil => exact ⟨ports, rfl⟩
  | cons entry rest induction =>
      obtain ⟨⟨positive, names⟩, accepteds⟩ := List.forall_mem_cons.mp accepted
      obtain ⟨middle, first⟩ := applyOverride_accepts ports positive names
      obtain ⟨after, later⟩ := induction middle accepteds
      exact ⟨after, by
        rw [applyOverrides, first, Data.Traversal.ok_bind, later]⟩

theorem mem_effectiveSubscribe_declared
    {subscribe : List (EnumValue PubSubMessage)}
    (declared : ∀ value ∈ subscribe, ∃ message, value = .of message)
    {value : EnumValue PubSubMessage}
    (member : value ∈ effectiveSubscribe subscribe) :
    ∃ message, value = .of message := by
  simp only [effectiveSubscribe] at member
  split at member
  · obtain ⟨message, _, same⟩ := List.mem_map.mp member
    exact ⟨message, same.symm⟩
  · exact declared value member

section Built

variable {host : String} {subscribe : List (EnumValue PubSubMessage)}
  {portOverrides : PortOverrides} {callbackExecutor : CallbackExecutor}
  {timeoutSeconds : Double} {config : ClientConfig}

theorem buildConfig_accepts (positive : timeoutSeconds.nonpositive = false)
    (accepted : ∀ entry ∈ portOverrides.entries, 0 < entry.2 ∧
      NamesEndpoint entry.1)
    (declared : ∀ value ∈ subscribe, ∃ message, value = .of message) :
    ∃ config,
      buildConfig host subscribe portOverrides callbackExecutor timeoutSeconds =
      .ok config := by
  obtain ⟨ports, applied⟩ := applyOverrides_accepts defaultPorts accepted
  obtain ⟨_, pubsub, _, _⟩ := applyOverrides_ok portOverrides.keysNodup applied
  have known : ((effectiveSubscribe subscribe).any
      fun message => (ports.pubsub message).isNone) = false := by
    rw [List.any_eq_false]
    intro value member
    obtain ⟨message, rfl⟩ := mem_effectiveSubscribe_declared declared member
    rw [pubsub.port (defaultPubsubPorts_of message)]
    simp
  simp only [buildConfig, positive, applied, known,
    Bool.false_eq_true, if_false, Data.Traversal.ok_bind,
    Data.Traversal.pure_eq]
  exact ⟨_, rfl⟩

theorem Built.subscribe_declared
    (built : Built host subscribe portOverrides callbackExecutor
      timeoutSeconds config) :
    ∀ value ∈ subscribe, ∃ message, value = .of message := by
  intro value member
  refine built.declared ?_
  rwa [effectiveSubscribe, if_neg (by simpa using List.ne_nil_of_mem member)]

theorem Built.accepts
    (built : Built host subscribe portOverrides callbackExecutor
      timeoutSeconds config) :
    ∃ config,
      buildConfig host subscribe portOverrides callbackExecutor timeoutSeconds =
      .ok config :=
  buildConfig_accepts built.positive built.accepted built.subscribe_declared

/-! A configuration is determined by what it says. -/

theorem Built.unique {config' : ClientConfig}
    (built : Built host subscribe portOverrides callbackExecutor
      timeoutSeconds config)
    (built' : Built host subscribe portOverrides callbackExecutor timeoutSeconds
      config') :
    config = config' := by
  have pubsub : config.pubsubPorts = config'.pubsubPorts := by
    funext value
    rw [built.pubsub, built'.pubsub]
  have reqrep : config.reqrepPorts = config'.reqrepPorts := by
    funext value
    rw [built.reqrep, built'.reqrep]
  have rest : config.restPorts = config'.restPorts := by
    funext value
    rw [built.rest, built'.rest]
  have host := built.host.trans built'.host.symm
  have subscribe := built.subscribe.trans built'.subscribe.symm
  have executor := built.callbackExecutor.trans built'.callbackExecutor.symm
  have timeout := built.timeoutSeconds.trans built'.timeoutSeconds.symm
  cases config
  cases config'
  simp only at pubsub reqrep rest host subscribe executor timeout
  simp only [pubsub, reqrep, rest, host, subscribe, executor, timeout]

theorem buildConfig_eq_ok :
    buildConfig host subscribe portOverrides callbackExecutor
      timeoutSeconds = .ok config ↔
    Built host subscribe portOverrides callbackExecutor timeoutSeconds
      config := by
  constructor
  · exact built_of_buildConfig
  · intro built
    obtain ⟨returned, accepted⟩ := built.accepts
    rw [accepted, (built_of_buildConfig accepted).unique built]

theorem UnorderedMap.ofList_eq_some {κ ν : Type} [DecidableEq κ]
    {entries : List (κ × ν)} (keys : (entries.map Prod.fst).Nodup) {key : κ}
    {value : ν} :
    UnorderedMap.ofList entries key = some value ↔ (key, value) ∈ entries := by
  constructor
  · exact mem_of_ofList
  · induction entries with
    | nil => simp
    | cons entry rest induction =>
        obtain ⟨fresh, keys⟩ := List.nodup_cons.mp keys
        intro member
        rw [UnorderedMap.ofList_cons]
        rcases List.mem_cons.mp member with rfl | later
        · exact if_pos rfl
        · rw [if_neg, induction keys later]
          rintro rfl
          exact fresh (List.mem_map.mpr ⟨_, later, rfl⟩)

theorem PortOverrides.find_perm {reordered overrides : PortOverrides}
    (same : reordered.entries.Perm overrides.entries) :
    reordered.find = overrides.find := by
  funext key
  refine Option.ext fun port => ?_
  rw [find, find, UnorderedMap.ofList_eq_some reordered.keysNodup,
    UnorderedMap.ofList_eq_some overrides.keysNodup, same.mem_iff]

theorem Built.reordered {reordered : PortOverrides}
    (same : reordered.entries.Perm portOverrides.entries)
    (built : Built host subscribe portOverrides callbackExecutor
      timeoutSeconds config) :
    Built host subscribe reordered callbackExecutor timeoutSeconds config := by
  have found : ∀ key, UnorderedMap.ofList reordered.entries key =
      UnorderedMap.ofList portOverrides.entries key :=
    congrFun (PortOverrides.find_perm same)
  exact {
    positive := built.positive
    host := built.host
    subscribe := built.subscribe
    callbackExecutor := built.callbackExecutor
    timeoutSeconds := built.timeoutSeconds
    accepted := fun entry member =>
      built.accepted entry (same.mem_iff.mp member)
    pubsub := fun value => by rw [found, built.pubsub]
    reqrep := fun value => by rw [found, built.reqrep]
    rest := fun value => by rw [found, built.rest]
    known := built.known }

end Built

theorem Double.nonpositive_finite {value : Rat} :
    (Double.finite value).nonpositive = false ↔ 0 < value := by
  rw [Double.nonpositive, decide_eq_false_iff_not, Rat.not_le]

/-- `build_config` returns the defaults overlaid by the overrides, for exactly
the arguments that it should accept, in whatever order it visits the
overrides. -/
theorem buildConfig_overlays_defaults (host : String)
    (subscribe : List (EnumValue PubSubMessage)) (portOverrides : PortOverrides)
    (callbackExecutor : CallbackExecutor) (timeoutSeconds : Rat) :
    ((∃ config, buildConfig host subscribe portOverrides callbackExecutor
        (.finite timeoutSeconds) = .ok config) ↔
      0 < timeoutSeconds ∧ (∀ entry ∈ portOverrides.entries, 0 < entry.2) ∧
        (∀ entry ∈ portOverrides.entries, entry.1 ∈ endpointNames) ∧
        ∀ value ∈ subscribe, ∃ message, value = .of message) ∧
    (∀ config, buildConfig host subscribe portOverrides callbackExecutor
        (.finite timeoutSeconds) = .ok config →
      (∀ message, resolvePubsubPort config (.of message) =
        .ok ((portOverrides.find (PubSubMessage.toString (.of message))).getD
          message.defaultPort)) ∧
      (∀ endpoint, resolveReqrepPort config (.of endpoint) =
        .ok ((portOverrides.find (ReqRepEndpoint.toString (.of endpoint))).getD
          endpoint.defaultPort)) ∧
      (∀ endpoint, resolveRestPort config (.of endpoint) =
        .ok ((portOverrides.find (RestEndpoint.toString (.of endpoint))).getD
          endpoint.defaultPort)) ∧
      config.subscribe = (if subscribe = [] then
        [.of .HydrophoneData, .of .TargetData, .of .ProcessorSettings,
          .of .VesselInfo]
        else subscribe) ∧
      config.host = host ∧ config.callbackExecutor = callbackExecutor ∧
      config.timeoutSeconds = .finite timeoutSeconds) ∧
    (∀ reordered : PortOverrides, reordered.entries.Perm portOverrides.entries →
      ∀ config, buildConfig host subscribe reordered callbackExecutor
          (.finite timeoutSeconds) = .ok config ↔
        buildConfig host subscribe portOverrides callbackExecutor
          (.finite timeoutSeconds) = .ok config) := by
  refine ⟨⟨?_, ?_⟩, ?_, ?_⟩
  · rintro ⟨config, returned⟩
    have built := built_of_buildConfig returned
    refine ⟨Double.nonpositive_finite.mp built.positive,
      fun entry member => (built.accepted entry member).1, ?_,
      built.subscribe_declared⟩
    intro entry member
    exact namesEndpoint_iff.mp (built.accepted entry member).2
  · rintro ⟨positive, ports, names, declared⟩
    refine buildConfig_accepts (Double.nonpositive_finite.mpr positive)
      ?_ declared
    intro entry member
    exact ⟨ports entry member, namesEndpoint_iff.mpr (names entry member)⟩
  · intro config returned
    have built := built_of_buildConfig returned
    refine ⟨?_, ?_, ?_, ?_, built.host, built.callbackExecutor,
      built.timeoutSeconds⟩
    · intro message
      rw [resolvePubsubPort, resolvePort,
        built.pubsub.port (defaultPubsubPorts_of message)]
      rfl
    · intro endpoint
      rw [resolveReqrepPort, resolvePort,
        built.reqrep.port (defaultReqrepPorts_of endpoint)]
      rfl
    · intro endpoint
      rw [resolveRestPort, resolvePort,
        built.rest.port (defaultRestPorts_of endpoint)]
      rfl
    · rw [built.subscribe, effectiveSubscribe]
      cases subscribe <;> rfl
  · intro reordered same config
    rw [buildConfig_eq_ok, buildConfig_eq_ok]
    exact ⟨Built.reordered same.symm, Built.reordered same⟩

end Farsounder.Config
