import Farsounder.Requests

namespace Farsounder.Requests

open Config
open Data
open Data.Wire (Bytes)

/-! A call and the exchange of messages that it makes. -/

inductive Response where
  | processorSettings (response : GetProcessorSettingsResponse)
  | fieldOfView (response : SetFieldOfViewResponse)
  | bottomDetection (response : SetBottomDetectionResponse)
  | inwaterSquelch (response : SetInWaterSquelchResponse)
  | squelchlessInwaterDetector
      (response : SetSquelchlessInWaterDetectorResponse)
  | vesselInfo (response : GetVesselInfoResponse)
  deriving DecidableEq, Repr

namespace Call

def request : Call → Proto.Request
  | getProcessorSettings => .getProcessorSettings
  | setFieldOfView fov => .setFieldOfView (some (convertFovToProto fov))
  | setBottomDetection enable => .setBottomDetection (some enable)
  | setInwaterSquelch value => .setInWaterSquelch (some value)
  | setSquelchlessInwaterDetector enable =>
      .setSquelchlessInWaterDetector (some enable)
  | getVesselInfo => .getVesselInfo

def endpoint (call : Call) : ReqRepEndpoint :=
  call.request.endpoint

/-- What the function returns. -/
def run (runtime : Runtime) (config : ClientConfig) :
    Call → Except Failure Response
  | getProcessorSettings =>
      (Requests.getProcessorSettings runtime config).map .processorSettings
  | setFieldOfView fov =>
      (Requests.setFieldOfView runtime config fov).map .fieldOfView
  | setBottomDetection enable =>
      (Requests.setBottomDetection runtime config enable).map .bottomDetection
  | setInwaterSquelch value =>
      (Requests.setInwaterSquelch runtime config value).map .inwaterSquelch
  | setSquelchlessInwaterDetector enable =>
      (Requests.setSquelchlessInwaterDetector runtime config enable).map
        .squelchlessInwaterDetector
  | getVesselInfo => (Requests.getVesselInfo runtime config).map .vesselInfo

/-- What the function returns for a reply. -/
def convert : (call : Call) → ReplyTo call.endpoint → Response
  | getProcessorSettings, reply =>
      .processorSettings {
        result := convertResult (reply.result.getD {})
        settings := convertProcessorSettings (reply.settings.getD {}) }
  | setFieldOfView _, reply =>
      .fieldOfView ⟨convertResult (reply.result.getD {})⟩
  | setBottomDetection _, reply =>
      .bottomDetection ⟨convertResult (reply.result.getD {})⟩
  | setInwaterSquelch _, reply =>
      .inwaterSquelch ⟨convertResult (reply.result.getD {})⟩
  | setSquelchlessInwaterDetector _, reply =>
      .squelchlessInwaterDetector ⟨convertResult (reply.result.getD {})⟩
  | getVesselInfo, reply =>
      .vesselInfo {
        result := convertResult (reply.result.getD {})
        info := convertVesselInfo (reply.info.getD {}) }

def unparsed : Failure := .runtimeError "Failed to parse response"

/-- What the function makes of the bytes of a reply. -/
def finish (platform : Platform) (call : Call) (reply : Bytes) :
    Except Failure Response :=
  respond call.convert
    (Proto.parseFromArray (platform.parse call.endpoint) reply)
where
  respond {P : Type} (convert : P → Response) : Option P →
    Except Failure Response
    | none => .error unparsed
    | some response => .ok (convert response)

variable (runtime : Runtime) (config : ClientConfig)

theorem reply_eq (call : Call) :
    call.reply runtime config =
      awaitReply runtime config call.endpoint call.request := by
  cases call <;> rfl

end Call

theorem sendRequest_map {R : Type} (runtime : Runtime) (config : ClientConfig)
    (endpoint : ReqRepEndpoint) (request : Proto.Request)
    (convert : ReplyTo endpoint → R) (wrap : R → Response) :
    (sendRequest runtime config endpoint request >>= fun response =>
        (pure (convert response) : Except Failure R)).map wrap =
      (awaitReply runtime config endpoint request).bind fun reply =>
        Call.finish.respond (wrap ∘ convert)
          (Proto.parseFromArray (runtime.parse endpoint) reply) := by
  unfold sendRequest
  cases awaitReply runtime config endpoint request with
  | error failure => rfl
  | ok reply =>
      simp only [Traversal.ok_bind, Except.bind]
      cases Proto.parseFromArray (runtime.parse endpoint) reply <;> rfl

/-- A call waits for its reply and makes its response of it. -/
theorem Call.run_eq (runtime : Runtime) (config : ClientConfig) (call : Call) :
    call.run runtime config =
      (call.reply runtime config).bind (call.finish runtime.toPlatform) := by
  rw [Call.reply_eq]
  cases call <;> exact sendRequest_map ..

end Farsounder.Requests
