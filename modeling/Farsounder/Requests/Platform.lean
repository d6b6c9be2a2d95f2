import Farsounder.Config
import Farsounder.Conversions
import Farsounder.Proto.Schema

namespace Farsounder

open Config
open Data
open Data.Wire (Bytes Codec)

def Proto.Request.endpoint : Proto.Request → ReqRepEndpoint
  | getProcessorSettings => .GetProcessorSettings
  | setFieldOfView _ => .SetFieldOfView
  | setBottomDetection _ => .SetBottomDetection
  | setInWaterSquelch _ => .SetInWaterSquelch
  | setSquelchlessInWaterDetector _ => .SetSquelchlessInWaterDetector
  | getVesselInfo => .GetVesselInfo

namespace Requests

/-! What the request functions get from their own process: protobuf, and the
arithmetic of doubles. -/

/-- The message that answers a request. -/
@[reducible] def ReplyTo : ReqRepEndpoint → Type
  | .GetProcessorSettings => Proto.GetProcessorSettingsResponse
  | .GetVesselInfo => Proto.GetVesselInfoResponse
  | .SetFieldOfView | .SetBottomDetection | .SetInWaterSquelch
  | .SetSquelchlessInWaterDetector => Proto.ResultResponse

structure Platform where
  /-- `timeout_seconds * 1000.0`, rounded as doubles are. -/
  times1000 : Double → Double
  /-- `SerializeToString`, which may report a failure. -/
  serialize : Proto.Request → Option Bytes
  /-- `ParseFromArray` of the class of an endpoint's replies. -/
  parse : (endpoint : ReqRepEndpoint) → Bytes → Option (ReplyTo endpoint)

/-- The product in exact arithmetic. -/
def Double.times1000 : Double → Double
  | .finite value => .finite (value * 1000)
  | other => other

/-! The wire format. -/

def fieldOfViewRequest : Codec (Option Proto.FieldOfView) :=
  .of (.last 1 (Proto.enum _)) (.refl _) (by decide) (by decide)

/-- Of the two requests that switch a detection. -/
def detectionRequest : Codec (Option Bool) :=
  .of (.last 1 Proto.bool) (.refl _) (by decide) (by decide)

def squelchRequest : Codec (Option FloatBits) :=
  .of (.last 1 .fixed32) (.refl _) (by decide) (by decide)

def encodeRequest : Proto.Request → Bytes
  | .getProcessorSettings | .getVesselInfo => []
  | .setFieldOfView fov => fieldOfViewRequest.encode fov
  | .setBottomDetection enable | .setSquelchlessInWaterDetector enable =>
      detectionRequest.encode enable
  | .setInWaterSquelch value => squelchRequest.encode value

/-- What a server reads at an endpoint. -/
def decodeRequest (payload : Bytes) : ReqRepEndpoint → Option Proto.Request
  | .GetProcessorSettings =>
  (Wire.decode payload).map fun _ => .getProcessorSettings
  | .SetFieldOfView => (fieldOfViewRequest.parse payload).map .setFieldOfView
  | .SetBottomDetection =>
      (detectionRequest.parse payload).map .setBottomDetection
  | .SetInWaterSquelch => (squelchRequest.parse payload).map .setInWaterSquelch
  | .SetSquelchlessInWaterDetector =>
      (detectionRequest.parse payload).map .setSquelchlessInWaterDetector
  | .GetVesselInfo => (Wire.decode payload).map fun _ => .getVesselInfo

def replyCodec : (endpoint : ReqRepEndpoint) → Codec (ReplyTo endpoint)
  | .GetProcessorSettings => Proto.GetProcessorSettingsResponse.codec
  | .GetVesselInfo => Proto.GetVesselInfoResponse.codec
  | .SetFieldOfView | .SetBottomDetection | .SetInWaterSquelch
  | .SetSquelchlessInWaterDetector => Proto.ResultResponse.codec

theorem squelchRequest_short (value : Option FloatBits) :
    (squelchRequest.encode value).length < 2 ^ 31 := by
  cases value with
  | none => decide
  | some bits =>
      have encoded : squelchRequest.encode (some bits) =
          Wire.writeTag 1 5 ++ Wire.writeLittleEndian 4 bits.toNat ++ [] := rfl
      rw [encoded]
      simp [Wire.writeLittleEndian, Wire.writeTag, Wire.writeVarint]

theorem decodeRequest_encodeRequest (request : Proto.Request) :
    decodeRequest (encodeRequest request) request.endpoint = some request := by
  have detection (enable : Option Bool) :
      detectionRequest.parse (detectionRequest.encode enable) =
        some enable := by
    refine Codec.parse_encode ?_
    cases enable with
    | none => decide
    | some enable => cases enable <;> decide
  cases request with
  | getProcessorSettings | getVesselInfo => rfl
  | setFieldOfView fov =>
      have short : (fieldOfViewRequest.encode fov).length < 2 ^ 31 := by
        cases fov with
        | none => decide
        | some fov => cases fov <;> decide
      exact congrArg (Option.map _) (Codec.parse_encode short)
  | setBottomDetection enable =>
      exact congrArg (Option.map _) (detection enable)
  | setInWaterSquelch value =>
      exact congrArg (Option.map _)
        (Codec.parse_encode (squelchRequest_short value))
  | setSquelchlessInWaterDetector enable =>
      exact congrArg (Option.map _) (detection enable)

def wirePlatform : Platform where
  times1000 := Double.times1000
  serialize request := some (encodeRequest request)
  parse endpoint := (replyCodec endpoint).parse

end Requests

end Farsounder
