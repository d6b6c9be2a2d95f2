import Farsounder.Retraction
import Farsounder.Subscriber.Dispatch
import Farsounder.Timestamps

namespace Farsounder

open Config
open Data
open Data.Binary64 (nearest)
open Data.Wire (Bytes Codec)

/-! The messages that the other client values stand for. -/

def SystemType.toProto : SystemType → Proto.SystemType
  | kFS500 => .kFS500
  | kFS1000 => .kFS1000
  | kFS350 => .kFS350

def ProcessorSettings.toProto (settings : ProcessorSettings) :
    Proto.ProcessorSettings where
  minInwaterSquelch := some settings.minInwaterSquelch
  maxInwaterSquelch := some settings.maxInwaterSquelch
  inwaterSquelch := some settings.inwaterSquelch
  squelchlessInwaterDetector := some settings.squelchlessInwaterDetector
  detectBottom := some settings.detectBottom
  systemType := some settings.systemType.toProto
  fov := some (convertFovToProto (.of settings.fov))

def VesselInfo.toProto (info : VesselInfo) : Proto.VesselInfo where
  draft := some info.draft
  keelOffset := some info.keelOffset

def ProcessorSettings.untimed (settings : ProcessorSettings) :
    ProcessorSettings :=
  { settings with time := {} }

theorem convertSystemType_toProto (system : SystemType) :
    convertSystemType (.of system.toProto) = system := by
  rw [convertSystemType, EnumValue.declared?_of]
  cases system <;> rfl

theorem convertFov_toProto (fov : FieldOfView) :
    convertFov (.of (convertFovToProto (.of fov))) = fov := by
  rw [convertFov, convertFovToProto, EnumValue.declared?_of,
    EnumValue.declared?_of]
  cases fov <;> rfl

theorem convertProcessorSettings_toProto (settings : ProcessorSettings) :
    convertProcessorSettings settings.toProto = settings.untimed := by
  have system := convertSystemType_toProto settings.systemType
  have fov := convertFov_toProto settings.fov
  simp only [convertProcessorSettings, ProcessorSettings.toProto,
    ProcessorSettings.untimed, Proto.ProcessorSettings.getSystemType,
    Proto.ProcessorSettings.getFov, Option.getD_some, system, fov]

/-! Times. -/

def CivilTime.timestamp (time : CivilTime) : Timestamp where
  secondsSinceEpoch :=
    nearest (time.instant + nearest ((time.millisecond : Rat) / 1000))

theorem convertTimestamp_toProto {time : CivilTime} (valid : time.Valid)
    (bounded : time.year ≤ 9999) :
    convertTimestamp time.toProto = time.timestamp := by
  have civil := CivilTime.civil_toProto valid bounded
  have validUtc : ValidUtc time.toProto := by
    rw [ValidUtc, civil]
    exact ⟨valid, bounded⟩
  rw [validUtc.convertTimestamp_eq, civil, CivilTime.timestamp]

namespace Subscriber

/-! Client values as they are published. -/

/-- `SerializeToString` of the four generated classes, on the server's side. -/
structure Serializers where
  hydrophoneData : Proto.HydrophoneData → Bytes
  targetData : Proto.TargetData → Bytes
  processorSettings : Proto.ProcessorSettings → Bytes
  vesselInfo : Proto.VesselInfo → Bytes

structure RoundTrips (serializers : Serializers) (parsers : Parsers) :
    Prop where
  hydrophoneData :
    Proto.RoundTrip serializers.hydrophoneData parsers.hydrophoneData
  targetData : Proto.RoundTrip serializers.targetData parsers.targetData
  processorSettings :
    Proto.RoundTrip serializers.processorSettings parsers.processorSettings
  vesselInfo : Proto.RoundTrip serializers.vesselInfo parsers.vesselInfo

def Message.WellFormed : Message → Prop
  | targetData data => data.WellFormed
  | hydrophoneData _ | processorSettings _ | vesselInfo _ => True

/-- Vessel info has no time. -/
def Message.withTime (time : Timestamp) : Message → Message
  | hydrophoneData data => hydrophoneData { data with time }
  | targetData data => targetData { data with time }
  | processorSettings data => processorSettings { data with time }
  | vesselInfo data => vesselInfo data

def Message.serialize (serializers : Serializers) (time : Proto.Time) :
    Message → Bytes
  | hydrophoneData data =>
  serializers.hydrophoneData { data.toProto with time := some time }
  | targetData data =>
      serializers.targetData { data.toProto with time := some time }
  | processorSettings data =>
      serializers.processorSettings { data.toProto with time := some time }
  | vesselInfo data => serializers.vesselInfo data.toProto

section WithTime

variable (time : Proto.Time)

theorem convertHydrophoneData_withTime (data : Proto.HydrophoneData) :
    convertHydrophoneData { data with time := some time } =
      { convertHydrophoneData data with time := convertTimestamp time } := by
  simp only [convertHydrophoneData]
  cases data.rawTimeseries with
  | none | some => rfl

theorem convertTargetData_withTime (data : Proto.TargetData) :
    convertTargetData { data with time := some time } =
      { convertTargetData data with time := convertTimestamp time } :=
  rfl

theorem convertProcessorSettings_withTime (settings : Proto.ProcessorSettings) :
    convertProcessorSettings { settings with time := some time } =
      { convertProcessorSettings settings with
        time := convertTimestamp time } :=
  rfl

end WithTime

theorem decodeArm_serialize {P D : Type} {serialize : P → Bytes}
    {parse : Bytes → Option P} (roundTrip : Proto.RoundTrip serialize parse)
    (convert : P → D) (wrap : D → Message) {proto : P}
    (short : (serialize proto).length < 2 ^ 31) :
    decodeArm parse convert wrap (serialize proto) =
      some (wrap (convert proto)) := by
  rw [decodeArm, roundTrip.parseFromArray short]
  rfl

section Serialized

variable {serializers : Serializers} {parsers : Parsers}

theorem decodeFrame_serialize (roundTrips : RoundTrips serializers parsers)
    {message : Message} {time : Proto.Time} (wellFormed : message.WellFormed)
    (short : (message.serialize serializers time).length < 2 ^ 31) :
    decodeFrame parsers (.of message.type)
      (message.serialize serializers time) =
      some (message.withTime (convertTimestamp time)) := by
  rw [decodeFrame, EnumValue.declared?_of]
  cases message with
  | hydrophoneData data =>
      refine (decodeArm_serialize roundTrips.hydrophoneData _ _ short).trans ?_
      rw [convertHydrophoneData_withTime, convertHydrophoneData_toProto]
      rfl
  | targetData data =>
      refine (decodeArm_serialize roundTrips.targetData _ _ short).trans ?_
      rw [convertTargetData_withTime, convertTargetData_toProto wellFormed]
      rfl
  | processorSettings data =>
      refine (decodeArm_serialize roundTrips.processorSettings _ _ short).trans
        ?_
      rw [convertProcessorSettings_withTime, convertProcessorSettings_toProto]
      rfl
  | vesselInfo data => exact decodeArm_serialize roundTrips.vesselInfo _ _ short

end Serialized

/-- A value that a server publishes, and when it was taken. -/
structure Broadcast (serializers : Serializers) where
  message : Message
  time : CivilTime
  wellFormed : message.WellFormed
  valid : time.Valid
  bounded : time.year ≤ 9999
  short : (message.serialize serializers time.toProto).length < 2 ^ 31

namespace Broadcast

variable {serializers : Serializers} {parsers : Parsers}

def frame (broadcast : Broadcast serializers) : Bytes :=
  broadcast.message.serialize serializers broadcast.time.toProto

def value (broadcast : Broadcast serializers) : Message :=
  broadcast.message.withTime broadcast.time.timestamp

theorem decodeFrame_frame (roundTrips : RoundTrips serializers parsers)
    (broadcast : Broadcast serializers) :
    decodeFrame parsers (.of broadcast.message.type) broadcast.frame =
      some broadcast.value := by
  have decoded :=
    decodeFrame_serialize roundTrips broadcast.wellFormed broadcast.short
  rw [convertTimestamp_toProto broadcast.valid broadcast.bounded] at decoded
  exact decoded

end Broadcast

/-! Over the wire format. -/

def wireSerializers : Serializers where
  hydrophoneData := Proto.HydrophoneData.codec.encode
  targetData := Proto.TargetData.codec.encode
  processorSettings := Proto.ProcessorSettings.codec.encode
  vesselInfo := Proto.VesselInfo.codec.encode

theorem wire_roundTrips : RoundTrips wireSerializers wireParsers where
  hydrophoneData _ := Codec.parse_encode
  targetData _ := Codec.parse_encode
  processorSettings _ := Codec.parse_encode
  vesselInfo _ := Codec.parse_encode

end Subscriber

end Farsounder
