import Farsounder.Requests.Platform
import Mathlib.Data.Rat.Floor
import Mathlib.Tactic.NormNum

namespace Farsounder.Requests

open Config
open Data.Wire (Bytes)

/-! What `requests.cpp` gets from libzmq: a REQ socket whose `connect` may
throw, whose `send` and `recv` may throw or time out, and whose `recv` yields a
reply otherwise.  Timeouts are in milliseconds. -/

inductive SocketResult (α : Type) where
  | done (value : α)
  | timedOut
  | throws
  deriving DecidableEq, Repr

structure Runtime extends Platform where
  connects : (address : String) → Bool
  sends : (address : String) → (timeoutMs : Int) → (payload : Bytes) →
    SocketResult Unit
  recv : (address : String) → (timeoutMs : Int) → (payload : Bytes) →
    SocketResult Bytes

def endpointAddress (cfg : ClientConfig) (endpoint : ReqRepEndpoint) :
    Except Failure String := do
  let port ← resolveReqrepPort cfg (.of endpoint)
  return "tcp://" ++ cfg.host ++ ":" ++ toString port.toInt

/-- `static_cast<int>` of a `double`: truncation, undefined out of range. -/
def doubleToInt : Double → Except Failure Int
  | .finite value =>
      let truncated := if 0 ≤ value then ⌊value⌋ else ⌈value⌉
      if -2 ^ 31 ≤ truncated ∧ truncated < 2 ^ 31 then .ok truncated
      else .error .undefinedBehaviour
  | _ => .error .undefinedBehaviour

def toTimeoutMs (times1000 : Double → Double) (timeoutSeconds : Double) :
    Except Failure Int := do
  let ms ← doubleToInt (times1000 timeoutSeconds)
  return if ms > 0 then ms else 1

/-- `send_request` up to the reply: everything before parsing. -/
def awaitReply (runtime : Runtime) (cfg : ClientConfig)
    (endpoint : ReqRepEndpoint) (request : Proto.Request) :
    Except Failure Bytes := do
  let timeoutMs ← toTimeoutMs runtime.times1000 cfg.timeoutSeconds
  let address ← endpointAddress cfg endpoint
  if !runtime.connects address then
    throw (.zmqError .connect)
  match runtime.serialize request with
  | none => throw (.runtimeError "Failed to serialize request")
  | some payload =>
      match runtime.sends address timeoutMs payload with
      | .throws => throw (.zmqError .send)
      | .timedOut => throw (.runtimeError "Failed to send request")
      | .done _ =>
          match runtime.recv address timeoutMs payload with
          | .throws => throw (.zmqError .recv)
          | .timedOut => throw (.runtimeError "Timed out waiting for response")
          | .done reply => return reply

def sendRequest (runtime : Runtime) (cfg : ClientConfig)
    (endpoint : ReqRepEndpoint) (request : Proto.Request) :
    Except Failure (ReplyTo endpoint) := do
  let reply ← awaitReply runtime cfg endpoint request
  match Proto.parseFromArray (runtime.parse endpoint) reply with
  | none => throw (.runtimeError "Failed to parse response")
  | some response => return response

def restBaseUrl (cfg : ClientConfig) : Except Failure String := do
  let port ← resolveRestPort cfg (.of .GetHistoryData)
  return "http://" ++ cfg.host ++ ":" ++ toString port.toInt

section Api

variable (runtime : Runtime) (config : ClientConfig)

def getProcessorSettings : Except Failure GetProcessorSettingsResponse := do
  let protoResponse ← sendRequest runtime config
    .GetProcessorSettings .getProcessorSettings
  return {
    result := convertResult (protoResponse.result.getD {})
    settings := convertProcessorSettings (protoResponse.settings.getD {}) }

def setFieldOfView (fov : EnumValue FieldOfView) :
    Except Failure SetFieldOfViewResponse := do
  let protoResponse ← sendRequest runtime config
    .SetFieldOfView (.setFieldOfView (some (convertFovToProto fov)))
  return { result := convertResult (protoResponse.result.getD {}) }

def setBottomDetection (enableBottomDetection : Bool) :
    Except Failure SetBottomDetectionResponse := do
  let protoResponse ← sendRequest runtime config
    .SetBottomDetection (.setBottomDetection (some enableBottomDetection))
  return { result := convertResult (protoResponse.result.getD {}) }

def setInwaterSquelch (newSquelchVal : FloatBits) :
    Except Failure SetInWaterSquelchResponse := do
  let protoResponse ← sendRequest runtime config
    .SetInWaterSquelch (.setInWaterSquelch (some newSquelchVal))
  return { result := convertResult (protoResponse.result.getD {}) }

def setSquelchlessInwaterDetector (enableSquelchlessDetection : Bool) :
    Except Failure SetSquelchlessInWaterDetectorResponse := do
  let protoResponse ← sendRequest runtime config
    .SetSquelchlessInWaterDetector
    (.setSquelchlessInWaterDetector (some enableSquelchlessDetection))
  return { result := convertResult (protoResponse.result.getD {}) }

def getVesselInfo : Except Failure GetVesselInfoResponse := do
  let protoResponse ← sendRequest runtime config
    .GetVesselInfo .getVesselInfo
  return {
    result := convertResult (protoResponse.result.getD {})
    info := convertVesselInfo (protoResponse.info.getD {}) }

end Api

/-! The six request functions, seen through what they share: a request that is
answered by a reply carrying a `RequestResult`. -/

inductive Call where
  | getProcessorSettings
  | setFieldOfView (fov : EnumValue FieldOfView)
  | setBottomDetection (enableBottomDetection : Bool)
  | setInwaterSquelch (newSquelchVal : FloatBits)
  | setSquelchlessInwaterDetector (enableSquelchlessDetection : Bool)
  | getVesselInfo

namespace Call

variable (runtime : Runtime) (config : ClientConfig)

/-- The `result` of the response the function returns. -/
def result : Call → Except Failure RequestResult
  | getProcessorSettings =>
      (Requests.getProcessorSettings runtime config).map (·.result)
  | setFieldOfView fov =>
      (Requests.setFieldOfView runtime config fov).map (·.result)
  | setBottomDetection enable =>
      (Requests.setBottomDetection runtime config enable).map (·.result)
  | setInwaterSquelch value =>
      (Requests.setInwaterSquelch runtime config value).map (·.result)
  | setSquelchlessInwaterDetector enable =>
      (Requests.setSquelchlessInwaterDetector runtime config enable).map
        (·.result)
  | getVesselInfo =>
      (Requests.getVesselInfo runtime config).map (·.result)

/-- The bytes that answer the function's request. -/
def reply : Call → Except Failure Bytes
  | getProcessorSettings =>
      awaitReply runtime config .GetProcessorSettings .getProcessorSettings
  | setFieldOfView fov =>
      awaitReply runtime config .SetFieldOfView
        (.setFieldOfView (some (convertFovToProto fov)))
  | setBottomDetection enable =>
      awaitReply runtime config .SetBottomDetection
        (.setBottomDetection (some enable))
  | setInwaterSquelch value =>
      awaitReply runtime config .SetInWaterSquelch
        (.setInWaterSquelch (some value))
  | setSquelchlessInwaterDetector enable =>
      awaitReply runtime config .SetSquelchlessInWaterDetector
        (.setSquelchlessInWaterDetector (some enable))
  | getVesselInfo =>
      awaitReply runtime config .GetVesselInfo .getVesselInfo

/-- The `RequestResult` in a reply that parses as the function's response
message: `some none` when the reply has no such submessage. -/
def parsedResult (reply : Bytes) : Call → Option (Option Proto.RequestResult)
  | getProcessorSettings => (parsed .GetProcessorSettings).map (·.result)
  | setFieldOfView _ => (parsed .SetFieldOfView).map (·.result)
  | setBottomDetection _ => (parsed .SetBottomDetection).map (·.result)
  | setInwaterSquelch _ => (parsed .SetInWaterSquelch).map (·.result)
  | setSquelchlessInwaterDetector _ =>
      (parsed .SetSquelchlessInWaterDetector).map (·.result)
  | getVesselInfo => (parsed .GetVesselInfo).map (·.result)
where
  parsed (endpoint : ReqRepEndpoint) : Option (ReplyTo endpoint) :=
    Proto.parseFromArray (runtime.parse endpoint) reply

end Call

theorem sendRequest_eq_ok {runtime : Runtime} {cfg : ClientConfig}
    {endpoint : ReqRepEndpoint} {request : Proto.Request} {reply : Bytes}
    {response : ReplyTo endpoint}
    (received : awaitReply runtime cfg endpoint request = .ok reply)
    (parsed : Proto.parseFromArray (runtime.parse endpoint) reply =
      some response) :
    sendRequest runtime cfg endpoint request = .ok response := by
  simp only [sendRequest, received, Data.Traversal.ok_bind, parsed,
    Data.Traversal.pure_eq]

/-- Every function converts the submessage of its reply, or a default one. -/
theorem Call.result_eq_ok {runtime : Runtime} {config : ClientConfig}
    {call : Call} {reply : Bytes} {submessage : Option Proto.RequestResult}
    (received : call.reply runtime config = .ok reply)
    (parsed : call.parsedResult runtime reply = some submessage) :
    call.result runtime config = .ok (convertResult (submessage.getD {})) := by
  cases call <;>
    simp only [Call.parsedResult, Call.parsedResult.parsed,
      Option.map_eq_some_iff] at parsed
  case getProcessorSettings =>
    obtain ⟨response, responseParsed, rfl⟩ := parsed
    have sent := sendRequest_eq_ok received responseParsed
    simp [Call.result, Requests.getProcessorSettings, sent]
  case setFieldOfView fov =>
    obtain ⟨response, responseParsed, rfl⟩ := parsed
    have sent := sendRequest_eq_ok received responseParsed
    simp [Call.result, Requests.setFieldOfView, sent]
  case setBottomDetection enable =>
    obtain ⟨response, responseParsed, rfl⟩ := parsed
    have sent := sendRequest_eq_ok received responseParsed
    simp [Call.result, Requests.setBottomDetection, sent]
  case setInwaterSquelch value =>
    obtain ⟨response, responseParsed, rfl⟩ := parsed
    have sent := sendRequest_eq_ok received responseParsed
    simp [Call.result, Requests.setInwaterSquelch, sent]
  case setSquelchlessInwaterDetector enable =>
    obtain ⟨response, responseParsed, rfl⟩ := parsed
    have sent := sendRequest_eq_ok received responseParsed
    simp [Call.result, Requests.setSquelchlessInwaterDetector, sent]
  case getVesselInfo =>
    obtain ⟨response, responseParsed, rfl⟩ := parsed
    have sent := sendRequest_eq_ok received responseParsed
    simp [Call.result, Requests.getVesselInfo, sent]

/-- The reply carries a `RequestResult` whose code is set to this enumerator. -/
def CarriesCode (submessage : Option Proto.RequestResult)
    (code : Proto.ResultCode) : Prop :=
  ∃ result, submessage = some result ∧ result.code = some code

theorem convertResult_success_iff (submessage : Option Proto.RequestResult) :
    (convertResult (submessage.getD {})).code = .Success ↔
      CarriesCode submessage .kSuccess ∨
        ∀ code, ¬ CarriesCode submessage code := by
  rw [convertResult_code_eq_success]
  cases submessage with
  | none => simp [CarriesCode]
  | some result => cases held : result.code <;> simp [CarriesCode, held]

/-- A reply is reported as a success only if it says so, exactly when it
carries a listed code at all: without one the getter answers `kSuccess`. -/
theorem success_only_if_carried_iff (runtime : Runtime) (config : ClientConfig)
    (call : Call) (reply : Bytes) (submessage : Option Proto.RequestResult)
    (received : call.reply runtime config = .ok reply)
    (parsed : call.parsedResult runtime reply = some submessage) :
    ∃ result, call.result runtime config = .ok result ∧
      ((result.code = .Success → CarriesCode submessage .kSuccess) ↔
        ∃ code, CarriesCode submessage code) := by
  refine ⟨_, Call.result_eq_ok received parsed, ?_⟩
  rw [convertResult_success_iff]
  constructor
  · intro onlyIf
    by_contra absent
    rw [not_exists] at absent
    exact absent _ (onlyIf (.inr absent))
  · rintro ⟨code, carried⟩ (success | absent)
    · exact success
    · exact absurd carried (absent code)

/-! A server that answers every request with the same reply. -/

def answering (reply : Bytes) : Runtime :=
  { wirePlatform with
    connects := fun _ => true
    sends := fun _ _ _ => .done ()
    recv := fun _ _ _ => .done reply }

def defaultConfig : ClientConfig where
  host := "127.0.0.1"
  subscribe := allMessages
  pubsubPorts := defaultPubsubPorts
  reqrepPorts := defaultReqrepPorts
  restPorts := defaultRestPorts
  callbackExecutor := .ThreadPool
  timeoutSeconds := .finite 2

theorem toTimeoutMs_two :
    toTimeoutMs Double.times1000 (.finite 2) = .ok 2000 := by
  have floored : ⌊(2 * 1000 : Rat)⌋ = 2000 := by norm_num
  have converted : doubleToInt (.finite (2 * 1000)) = .ok 2000 := by
    simp only [doubleToInt, floored, if_pos (show (0 : Rat) ≤ 2 * 1000 by
      norm_num)]
    rfl
  simp [toTimeoutMs, Double.times1000, converted]

theorem answering_reply (reply : Bytes) (call : Call) :
    call.reply (answering reply) defaultConfig = .ok reply := by
  cases call <;>
    simp [Call.reply, awaitReply, defaultConfig, toTimeoutMs_two,
      endpointAddress, resolveReqrepPort, resolvePort, answering, wirePlatform]

theorem success_only_if_carried_iff_kSuccess :
    ∃ result,
      (Call.setBottomDetection true).result
          (answering [0x0a, 0x02, 0x10, 0x00]) defaultConfig = .ok result ∧
      ((result.code = .Success →
          CarriesCode (some { code := some .kSuccess }) .kSuccess) ↔
        ∃ code, CarriesCode (some { code := some .kSuccess }) code) :=
  success_only_if_carried_iff (answering [0x0a, 0x02, 0x10, 0x00]) defaultConfig
    (.setBottomDetection true) [0x0a, 0x02, 0x10, 0x00]
    (some { code := some .kSuccess }) (answering_reply _ _) (by decide)

/-- The empty reply, and a reply whose code is 99, are reported as successes
although neither carries one. -/
theorem absent_and_unlisted_codes_reported_as_success :
    ((Call.setBottomDetection true).parsedResult (answering []) [] = some none ∧
      (Call.setBottomDetection true).result (answering []) defaultConfig =
        .ok { code := .Success } ∧
      ¬ CarriesCode none .kSuccess) ∧
    ((Call.setBottomDetection true).parsedResult
          (answering [0x0a, 0x02, 0x10, 0x63]) [0x0a, 0x02, 0x10, 0x63] =
        some (some {}) ∧
      (Call.setBottomDetection true).result
          (answering [0x0a, 0x02, 0x10, 0x63]) defaultConfig =
        .ok { code := .Success } ∧
      ¬ CarriesCode (some {}) .kSuccess) := by
  have empty : (Call.setBottomDetection true).parsedResult (answering []) [] =
      some none := by decide
  have unlisted : (Call.setBottomDetection true).parsedResult
      (answering [0x0a, 0x02, 0x10, 0x63]) [0x0a, 0x02, 0x10, 0x63] =
        some (some {}) := by decide
  refine ⟨⟨empty, ?_, by simp [CarriesCode]⟩,
    ⟨unlisted, ?_, by simp [CarriesCode]⟩⟩
  · rw [Call.result_eq_ok (answering_reply _ _) empty]
    rfl
  · rw [Call.result_eq_ok (answering_reply _ _) unlisted]
    rfl

end Farsounder.Requests
