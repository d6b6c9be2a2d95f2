import Farsounder.Types
import Mathlib.Logic.Function.Basic

namespace Farsounder.Config

inductive PubSubMessage where
  | HydrophoneData | TargetData | ProcessorSettings | VesselInfo
  deriving DecidableEq, Repr

inductive ReqRepEndpoint where
  | GetProcessorSettings | SetFieldOfView | SetBottomDetection
  | SetInWaterSquelch | SetSquelchlessInWaterDetector | GetVesselInfo
  deriving DecidableEq, Repr

inductive RestEndpoint where
  | GetHistoryData
  deriving DecidableEq, Repr

inductive CallbackExecutor where
  | ThreadPool | Inline
  deriving DecidableEq, Repr

def PubSubMessage.number : PubSubMessage → Int32
  | HydrophoneData => 0 | TargetData => 1 | ProcessorSettings => 2
  | VesselInfo => 3

def ReqRepEndpoint.number : ReqRepEndpoint → Int32
  | GetProcessorSettings => 0 | SetFieldOfView => 1 | SetBottomDetection => 2
  | SetInWaterSquelch => 3 | SetSquelchlessInWaterDetector => 4
  | GetVesselInfo => 5

def PubSubMessage.all : List PubSubMessage :=
  [HydrophoneData, TargetData, ProcessorSettings, VesselInfo]

def ReqRepEndpoint.all : List ReqRepEndpoint :=
  [GetProcessorSettings, SetFieldOfView, SetBottomDetection, SetInWaterSquelch,
    SetSquelchlessInWaterDetector, GetVesselInfo]

def RestEndpoint.all : List RestEndpoint := [.GetHistoryData]

theorem PubSubMessage.mem_all (message : PubSubMessage) : message ∈ all := by
  cases message <;> simp [all]

theorem ReqRepEndpoint.mem_all (endpoint : ReqRepEndpoint) :
    endpoint ∈ all := by
  cases endpoint <;> simp [all]

theorem RestEndpoint.mem_all (endpoint : RestEndpoint) : endpoint ∈ all := by
  cases endpoint
  simp [all]

instance : Enumerators PubSubMessage where
  number := PubSubMessage.number
  ofNumber? := enumeratorOf PubSubMessage.number PubSubMessage.all
  ofNumber?_eq_some := enumeratorOf_eq_some PubSubMessage.mem_all
    (by intro first second; cases first <;> cases second <;> decide)

instance : Enumerators ReqRepEndpoint where
  number := ReqRepEndpoint.number
  ofNumber? := enumeratorOf ReqRepEndpoint.number ReqRepEndpoint.all
  ofNumber?_eq_some := enumeratorOf_eq_some ReqRepEndpoint.mem_all
    (by intro first second; cases first <;> cases second <;> decide)

instance : Enumerators RestEndpoint where
  number _ := 0
  ofNumber? := enumeratorOf (fun _ => 0) RestEndpoint.all
  ofNumber?_eq_some := enumeratorOf_eq_some RestEndpoint.mem_all
    (by intro first second _; cases first; cases second; rfl)

/-! `std::unordered_map`, as what `find` answers for each key. -/

abbrev UnorderedMap (κ ν : Type) := κ → Option ν

namespace UnorderedMap

variable {κ ν : Type} [DecidableEq κ]

def ofList (entries : List (κ × ν)) : UnorderedMap κ ν :=
  fun key => (entries.find? fun entry => entry.1 = key).map Prod.snd

/-- `map[key] = value` -/
def assign (map : UnorderedMap κ ν) (key : κ) (value : ν) : UnorderedMap κ ν :=
  Function.update map key (some value)

@[simp] theorem assign_self (map : UnorderedMap κ ν) (key : κ) (value : ν) :
    map.assign key value key = some value := by
  simp [assign]

theorem assign_of_ne (map : UnorderedMap κ ν) {key other : κ} (value : ν)
    (distinct : other ≠ key) : map.assign key value other = map other := by
  simp [assign, distinct]

end UnorderedMap

abbrev PubSubPorts := UnorderedMap (EnumValue PubSubMessage) Int32

abbrev ReqRepPorts := UnorderedMap (EnumValue ReqRepEndpoint) Int32

abbrev RestPorts := UnorderedMap (EnumValue RestEndpoint) Int32

structure ClientConfig where
  host : String
  subscribe : List (EnumValue PubSubMessage)
  pubsubPorts : PubSubPorts
  reqrepPorts : ReqRepPorts
  restPorts : RestPorts
  callbackExecutor : CallbackExecutor
  timeoutSeconds : Double

def PubSubMessage.defaultPort : PubSubMessage → Int32
  | HydrophoneData => 61501
  | TargetData => 61502
  | ProcessorSettings => 61503
  | VesselInfo => 61504

def ReqRepEndpoint.defaultPort : ReqRepEndpoint → Int32
  | GetProcessorSettings => 60501
  | SetFieldOfView => 60502
  | SetBottomDetection => 60503
  | SetInWaterSquelch => 60504
  | SetSquelchlessInWaterDetector => 60505
  | GetVesselInfo => 60506

def RestEndpoint.defaultPort : RestEndpoint → Int32
  | GetHistoryData => 3000

def defaultPubsubPorts : PubSubPorts :=
  .ofList (PubSubMessage.all.map fun message =>
    (.of message, message.defaultPort))

def defaultReqrepPorts : ReqRepPorts :=
  .ofList (ReqRepEndpoint.all.map fun endpoint =>
    (.of endpoint, endpoint.defaultPort))

def defaultRestPorts : RestPorts :=
  .ofList (RestEndpoint.all.map fun endpoint =>
    (.of endpoint, endpoint.defaultPort))

def pubsubNameMap : UnorderedMap String PubSubMessage :=
  .ofList [("HydrophoneData", .HydrophoneData), ("TargetData", .TargetData),
    ("ProcessorSettings", .ProcessorSettings), ("VesselInfo", .VesselInfo)]

def reqrepNameMap : UnorderedMap String ReqRepEndpoint :=
  .ofList [("GetProcessorSettings", .GetProcessorSettings),
    ("SetFieldOfView", .SetFieldOfView),
    ("SetBottomDetection", .SetBottomDetection),
    ("SetInWaterSquelch", .SetInWaterSquelch),
    ("SetSquelchlessInWaterDetector", .SetSquelchlessInWaterDetector),
    ("GetVesselInfo", .GetVesselInfo)]

def restNameMap : UnorderedMap String RestEndpoint :=
  .ofList [("GetHistoryData", .GetHistoryData)]

def PubSubMessage.toString (message : EnumValue PubSubMessage) : String :=
  match message.declared? with
  | some .HydrophoneData => "HydrophoneData"
  | some .TargetData => "TargetData"
  | some .ProcessorSettings => "ProcessorSettings"
  | some .VesselInfo => "VesselInfo"
  | none => "Unknown"

def ReqRepEndpoint.toString (endpoint : EnumValue ReqRepEndpoint) : String :=
  match endpoint.declared? with
  | some .GetProcessorSettings => "GetProcessorSettings"
  | some .SetFieldOfView => "SetFieldOfView"
  | some .SetBottomDetection => "SetBottomDetection"
  | some .SetInWaterSquelch => "SetInWaterSquelch"
  | some .SetSquelchlessInWaterDetector => "SetSquelchlessInWaterDetector"
  | some .GetVesselInfo => "GetVesselInfo"
  | none => "Unknown"

def RestEndpoint.toString (endpoint : EnumValue RestEndpoint) : String :=
  match endpoint.declared? with
  | some .GetHistoryData => "GetHistoryData"
  | none => "Unknown"

def pubsubFromName (name : String) : Except Failure PubSubMessage :=
  match pubsubNameMap name with
  | none => .error (.invalidArgument ("Unknown pub-sub message name: " ++ name))
  | some message => .ok message

/-! `build_config`. -/

/-- An override map, as its entries in the order in which the loop visits
them. -/
structure PortOverrides where
  entries : List (String × Int32)
  keysNodup : (entries.map Prod.fst).Nodup

namespace PortOverrides

def find (overrides : PortOverrides) : UnorderedMap String Int32 :=
  .ofList overrides.entries

def none : PortOverrides := ⟨[], List.nodup_nil⟩

end PortOverrides

structure Ports where
  pubsub : PubSubPorts
  reqrep : ReqRepPorts
  rest : RestPorts

def defaultPorts :
    Ports := ⟨defaultPubsubPorts, defaultReqrepPorts, defaultRestPorts⟩

/-- The body of the loop over the overrides. -/
def applyOverride (ports : Ports) (override : String × Int32) :
    Except Failure Ports :=
  let (key, port) := override
  if port ≤ 0 then
    .error (.invalidArgument ("Port override must be positive: " ++ key))
  else
    match pubsubNameMap key with
    | some message =>
        .ok { ports with pubsub := ports.pubsub.assign (.of message) port }
    | none =>
        match reqrepNameMap key with
        | some endpoint =>
            .ok { ports with reqrep := ports.reqrep.assign (.of endpoint) port }
        | none =>
            match restNameMap key with
            | some endpoint =>
                .ok { ports with rest := ports.rest.assign (.of endpoint) port }
            | none =>
                .error (.invalidArgument ("Unknown port override key: " ++ key))

def applyOverrides : Ports → List (String × Int32) → Except Failure Ports
  | ports, [] => .ok ports
  | ports, override :: rest => do
      let ports ← applyOverride ports override
      applyOverrides ports rest

/-- What an empty subscribe argument stands for. -/
def allMessages : List (EnumValue PubSubMessage) := PubSubMessage.all.map .of

def effectiveSubscribe (subscribe : List (EnumValue PubSubMessage)) :
    List (EnumValue PubSubMessage) :=
  if subscribe.isEmpty then allMessages else subscribe

def buildConfig (host : String) (subscribe : List (EnumValue PubSubMessage))
    (portOverrides : PortOverrides) (callbackExecutor : CallbackExecutor)
    (timeoutSeconds : Double) : Except Failure ClientConfig := do
  if timeoutSeconds.nonpositive then
    throw (.invalidArgument "timeout_seconds must be positive")
  let ports ← applyOverrides defaultPorts portOverrides.entries
  let subscribe := effectiveSubscribe subscribe
  if subscribe.any fun message => (ports.pubsub message).isNone then
    throw (.invalidArgument "Unknown pub-sub message type")
  return {
    host, subscribe, callbackExecutor, timeoutSeconds
    pubsubPorts := ports.pubsub
    reqrepPorts := ports.reqrep
    restPorts := ports.rest }

/-- The three `resolve_*_port` functions are one lookup. -/
def resolvePort {κ : Type} (ports : UnorderedMap κ Int32) (complaint : String)
    (key : κ) : Except Failure Int32 :=
  match ports key with
  | none => .error (.invalidArgument complaint)
  | some port => .ok port

def resolvePubsubPort (config : ClientConfig) :
    EnumValue PubSubMessage → Except Failure Int32 :=
  resolvePort config.pubsubPorts "Unknown pub-sub message"

def resolveReqrepPort (config : ClientConfig) :
    EnumValue ReqRepEndpoint → Except Failure Int32 :=
  resolvePort config.reqrepPorts "Unknown request-reply endpoint"

def resolveRestPort (config : ClientConfig) :
    EnumValue RestEndpoint → Except Failure Int32 :=
  resolvePort config.restPorts "Unknown REST endpoint"

/-! What the tables say. -/

@[simp] theorem defaultPubsubPorts_of (message : PubSubMessage) :
    defaultPubsubPorts (.of message) = some message.defaultPort := by
  cases message <;> decide

@[simp] theorem defaultReqrepPorts_of (endpoint : ReqRepEndpoint) :
    defaultReqrepPorts (.of endpoint) = some endpoint.defaultPort := by
  cases endpoint <;> decide

@[simp] theorem defaultRestPorts_of (endpoint : RestEndpoint) :
    defaultRestPorts (.of endpoint) = some endpoint.defaultPort := by
  cases endpoint
  decide

theorem mem_of_ofList {κ ν : Type} [DecidableEq κ] {entries : List (κ × ν)}
    {key : κ} {value : ν}
    (found : UnorderedMap.ofList entries key = some value) :
    (key, value) ∈ entries := by
  simp only [UnorderedMap.ofList, Option.map_eq_some_iff] at found
  obtain ⟨⟨other, _⟩, search, rfl⟩ := found
  obtain rfl : other = key := by simpa using List.find?_some search
  exact List.mem_of_find?_eq_some search

theorem defaultPubsubPorts_isSome {value : EnumValue PubSubMessage}
    (found : (defaultPubsubPorts value).isSome) :
    ∃ message, value = .of message := by
  obtain ⟨port, found⟩ := Option.isSome_iff_exists.mp found
  obtain ⟨message, _, same⟩ := List.mem_map.mp (mem_of_ofList found)
  exact ⟨message, (Prod.mk.inj same).1.symm⟩

theorem pubsubNameMap_eq_some {name : String} {message : PubSubMessage} :
    pubsubNameMap name = some message ↔
      name = PubSubMessage.toString (.of message) := by
  constructor
  · intro found
    have member := mem_of_ofList found
    simp only [List.mem_cons, Prod.mk.injEq, List.not_mem_nil,
      or_false] at member
    rcases member with ⟨rfl, rfl⟩ | ⟨rfl, rfl⟩ | ⟨rfl, rfl⟩ | ⟨rfl, rfl⟩ <;> rfl
  · rintro rfl
    cases message <;> decide

end Farsounder.Config
