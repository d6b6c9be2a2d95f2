import Farsounder.Data.WireCodec
import Farsounder.Data.Words
import Farsounder.Proto

namespace Farsounder.Proto

open Data
open Data.Wire
  (Bytes Field Member Scalar Layout Codec unpackVarints unpackFixed64)

/-! The messages as the `.proto` files declare them, on the protobuf wire
format. -/

/-- The NMEA sentence that a heading or a position comes from; the client does
not read it. -/
structure NmeaData where
  time : Option Time := none
  sentence : Option Bytes := none
  playbackTime : Option Time := none
  deriving DecidableEq, Repr

def enumNumber (value : UInt64) : Int32 :=
  value.toUInt32.toInt32

def uint32 : Scalar UInt32 :=
  .refine .varint (fun value => some value.toUInt32) UInt32.toUInt64 fun _ => by
    simp

/-- A negative number is sign-extended to ten bytes. -/
def int32 : Scalar Int32 :=
  .refine .varint (fun value => some value.toUInt32.toInt32)
    (fun value => value.toInt64.toUInt64) fun _ => by simp

theorem packable_int32 (number : Nat) (value : Int32) :
    (int32.write number value).payload? number = none :=
  rfl

def bool : Scalar Bool :=
  .refine .varint (fun value => some (value ≠ 0)) (fun value =>
    if value then 1 else 0)
    fun value => by cases value <;> rfl

def enum (E : Type) [Enumerators E] : Scalar E :=
  .refine .varint (fun value => Enumerators.ofNumber? (enumNumber value))
    (fun enumerator => (Enumerators.number enumerator).toInt64.toUInt64)
      fun enumerator => by
      simpa [enumNumber] using Enumerators.ofNumber?_eq_some.mpr rfl

def unpackInt32 (payload : Bytes) : Option (List Int32) :=
  (unpackVarints payload).map fun values => values.map (·.toUInt32.toInt32)

def Time.codec : Codec Time :=
  .of
    (.both (.last 1 uint32) <|
      .both (.last 2 uint32) <|
      .both (.last 3 uint32) <|
      .both (.last 4 uint32) <|
      .both (.last 5 uint32) <|
      .both (.last 6 uint32) <|
      .last 7 uint32)
    ⟨fun (year, month, day, hour, minute, second, millisecond) =>
        ⟨year, month, day, hour, minute, second, millisecond⟩,
      fun value => (value.year, value.month, value.day, value.hour,
        value.minute, value.second, value.millisecond), fun _ => rfl,
        fun _ => rfl⟩
    (by decide) (by decide)

def VesselInfo.codec : Codec VesselInfo :=
  .of
    (.both (.last 1 .fixed32) <|
      .last 2 .fixed32)
    ⟨fun (draft, keelOffset) => ⟨draft, keelOffset⟩,
      fun value => (value.draft, value.keelOffset), fun _ => rfl, fun _ => rfl⟩
    (by decide) (by decide)

def Bin.codec : Codec Bin :=
  .of
    (.both (.last 1 int32) <|
      .both (.last 2 int32) <|
      .both (.last 3 int32) <|
      .both (.last 4 .fixed32) <|
      .both (.last 5 .fixed32) <|
      .both (.last 6 .fixed32) <|
      .last 7 .fixed32)
    ⟨fun (horIndex, verIndex, rangeIndex, crossRange, downRange, depth,
      strength) =>
        ⟨horIndex, verIndex, rangeIndex, crossRange, downRange, depth,
          strength⟩,
      fun value =>
      (value.horIndex, value.verIndex, value.rangeIndex, value.crossRange,
        value.downRange, value.depth, value.strength), fun _ => rfl,
        fun _ => rfl⟩
    (by decide) (by decide)

def GridDescription.codec : Codec GridDescription :=
  .of
    (.both (.last 1 (enum _)) <|
      .both (.repeated 2 .fixed64 unpackFixed64 (Scalar.packable_fixed64 2)) <|
      .both (.repeated 3 .fixed64 unpackFixed64 (Scalar.packable_fixed64 3)) <|
      .last 4 .fixed64)
    ⟨fun (mode, horAngles, verAngles, maxRange) =>
      ⟨mode, horAngles, verAngles, maxRange⟩, fun value =>
        (value.mode, value.horAngles, value.verAngles, value.maxRange), fun _ =>
          rfl, fun _ => rfl⟩
    (by decide) (by decide)

def ArrayData.codec : Codec ArrayData :=
  .of
    (.both (.repeated 1 int32 unpackInt32 (packable_int32 1)) <|
      .both (.last 2 (enum _)) <|
      .both (.last 3 (enum _)) <|
      .last 4 .payload)
    ⟨fun (dims, type, order, data) => ⟨dims, type, order, data⟩,
      fun value => (value.dims, value.type, value.order, value.data), fun _ =>
      rfl, fun _ => rfl⟩
    (by decide) (by decide)

def NmeaData.codec : Codec NmeaData :=
  .of
    (.both (.message 1 Time.codec) <|
      .both (.last 2 .payload) <|
      .message 3 Time.codec)
    ⟨fun (time, sentence, playbackTime) => ⟨time, sentence, playbackTime⟩,
      fun value => (value.time, value.sentence, value.playbackTime), fun _ =>
      rfl, fun _ => rfl⟩
    (by decide) (by decide)

def Heading.codec : Codec Heading :=
  .of
    (.both (.last 1 .fixed64) <|
      .checked 3 NmeaData.codec)
    ⟨fun (heading, _) => ⟨heading⟩,
      fun value => (value.heading, ()), fun _ => rfl, fun _ => rfl⟩
    (by decide) (by decide)

def Position.codec : Codec Position :=
  .of
    (.both (.last 1 .fixed64) <|
      .both (.last 2 .fixed64) <|
      .checked 7 NmeaData.codec)
    ⟨fun (lat, lon, _) => ⟨lat, lon⟩,
      fun value => (value.lat, value.lon, ()), fun _ => rfl, fun _ => rfl⟩
    (by decide) (by decide)

def Group.codec : Codec Group :=
  .of
    (.messages 1 Bin.codec)
    ⟨fun bins => ⟨bins⟩,
      fun value => value.bins, fun _ => rfl, fun _ => rfl⟩
    (by decide) (by decide)

def ProcessorSettings.codec : Codec ProcessorSettings :=
  .of
    (.both (.message 1 Time.codec) <|
      .both (.last 2 .fixed32) <|
      .both (.last 3 .fixed32) <|
      .both (.last 4 .fixed32) <|
      .both (.last 5 bool) <|
      .both (.last 6 bool) <|
      .both (.last 7 (enum _)) <|
      .last 8 (enum _))
    ⟨fun (time, minInwaterSquelch, maxInwaterSquelch, inwaterSquelch,
      squelchlessInwaterDetector, detectBottom, systemType, fov) =>
        ⟨time, minInwaterSquelch, maxInwaterSquelch, inwaterSquelch,
          squelchlessInwaterDetector, detectBottom, systemType, fov⟩,
      fun value =>
      (value.time, value.minInwaterSquelch, value.maxInwaterSquelch,
        value.inwaterSquelch, value.squelchlessInwaterDetector,
        value.detectBottom, value.systemType, value.fov), fun _ => rfl,
        fun _ => rfl⟩
    (by decide) (by decide)

def HydrophoneData.codec : Codec HydrophoneData :=
  .of
    (.both (.message 1 Time.codec) <|
      .both (.message 2 ArrayData.codec) <|
      .both (.last 3 int32) <|
      .both (.last 4 int32) <|
      .both (.last 5 .payload) <|
      .last 6 .payload)
    ⟨fun (time, rawTimeseries, numHorPhones, numVerPhones, serial,
      transmitId) =>
        ⟨time, rawTimeseries, numHorPhones, numVerPhones, serial, transmitId⟩,
      fun value =>
      (value.time, value.rawTimeseries, value.numHorPhones, value.numVerPhones,
        value.serial, value.transmitId), fun _ => rfl, fun _ => rfl⟩
    (by decide) (by decide)

def TargetData.codec : Codec TargetData :=
  .of
    (.both (.message 1 Time.codec) <|
      .both (.last 2 .payload) <|
      .both (.message 4 Heading.codec) <|
      .both (.message 5 Position.codec) <|
      .both (.messages 6 Bin.codec) <|
      .both (.messages 7 Group.codec) <|
      .both (.message 8 GridDescription.codec) <|
      .both (.last 9 .fixed64) <|
      .last 10 int32)
    ⟨fun (time, serial, heading, position, bottom, groups,
      gridDescription, maxDepth, maxRangeIndex) =>
        ⟨time, serial, heading, position, bottom, groups,
          gridDescription, maxDepth, maxRangeIndex⟩,
      fun value => (value.time, value.serial, value.heading, value.position,
        value.bottom, value.groups, value.gridDescription, value.maxDepth,
        value.maxRangeIndex), fun _ => rfl, fun _ => rfl⟩
    (by decide) (by decide)

def RequestResult.codec : Codec RequestResult :=
  .of
    (.both (.message 1 Time.codec) <|
      .both (.last 2 (enum _)) <|
      .last 3 .payload)
    ⟨fun (time, code, resultDetail) => ⟨time, code, resultDetail⟩,
      fun value => (value.time, value.code, value.resultDetail), fun _ => rfl,
      fun _ => rfl⟩
    (by decide) (by decide)

def GetProcessorSettingsResponse.codec : Codec GetProcessorSettingsResponse :=
  .of
    (.both (.message 1 RequestResult.codec) <|
      .message 2 ProcessorSettings.codec)
    ⟨fun (result, settings) => ⟨result, settings⟩,
      fun value => (value.result, value.settings), fun _ => rfl, fun _ => rfl⟩
    (by decide) (by decide)

def ResultResponse.codec : Codec ResultResponse :=
  .of
    (.message 1 RequestResult.codec)
    ⟨fun result => ⟨result⟩,
      fun value => value.result, fun _ => rfl, fun _ => rfl⟩
    (by decide) (by decide)

def GetVesselInfoResponse.codec : Codec GetVesselInfoResponse :=
  .of
    (.both (.message 1 RequestResult.codec) <|
      .message 2 VesselInfo.codec)
    ⟨fun (result, info) => ⟨result, info⟩,
      fun value => (value.result, value.info), fun _ => rfl, fun _ => rfl⟩
    (by decide) (by decide)

end Farsounder.Proto
