import Farsounder.Data.Binary64
import Farsounder.Proto

namespace Farsounder

open Data.Wire (Bytes)

/-! `std::tm` and `timegm`. -/

structure Tm where
  year : Int32
  mon : Int32
  mday : Int32
  hour : Int32
  min : Int32
  sec : Int32
  deriving DecidableEq, Repr

def isLeapYear (year : Int) : Bool :=
  year % 4 = 0 && (year % 100 ≠ 0 || year % 400 = 0)

/-- Days from 1970-01-01 to the first of January in the proleptic Gregorian
calendar. -/
def daysBeforeYear (year : Int) : Int :=
  365 * (year - 1970) + ((year - 1) / 4 - 1969 / 4) -
    ((year - 1) / 100 - 1969 / 100) + ((year - 1) / 400 - 1969 / 400)

/-- Days from the first of January to the first of the month, January being
0. -/
def daysBeforeMonth (leap : Bool) (month : Nat) : Int :=
  [0, 31, 59, 90, 120, 151, 181, 212, 243, 273, 304, 334].getD month 0 +
    if leap && 2 ≤ month then 1 else 0

/-- The instant of a calendar date whose fields may be out of range: months are
carried into the year, everything else is added up. -/
def epochSeconds (tm : Tm) : Int :=
  let months := 12 * (tm.year.toInt + 1900) + tm.mon.toInt
  let year := months / 12
  let days := daysBeforeYear year +
    daysBeforeMonth (isLeapYear year) (months % 12).toNat + (tm.mday.toInt - 1)
  86400 * days + 3600 * tm.hour.toInt + 60 * tm.min.toInt + tm.sec.toInt

/-- Whether the normalised year of an instant fits in `tm_year`.  Every such
instant also fits in a 64-bit `time_t`. -/
def yearFits (seconds : Int) : Bool :=
  86400 * daysBeforeYear (1900 - 2 ^ 31) ≤ seconds &&
    seconds < 86400 * daysBeforeYear (1900 + 2 ^ 31)

def timegm (tm : Tm) : Int :=
  if yearFits (epochSeconds tm) then epochSeconds tm else -1

/-! `conversions.cpp`. -/

/-- The `uint32` fields are cast to `int` and re-based there. -/
def timeToTm (time : Proto.Time) : Tm where
  year := (time.year.getD 0).toInt32 - 1900
  mon := (time.month.getD 0).toInt32 - 1
  mday := (time.day.getD 0).toInt32
  hour := (time.hour.getD 0).toInt32
  min := (time.minute.getD 0).toInt32
  sec := (time.second.getD 0).toInt32

/-- The cast to `double`, the quotient and the sum are rounded by `round`. -/
def convertTimestampIn (round : Rat → Rat) (time : Proto.Time) : Timestamp where
  secondsSinceEpoch :=
    round (round (timegm (timeToTm time)) +
      round ((time.millisecond.getD 0).toNat / 1000))

def convertTimestamp (time : Proto.Time) : Timestamp :=
  convertTimestampIn Data.Binary64.nearest time

def convertResultCode (code : EnumValue Proto.ResultCode) : ResultCode :=
  match code.declared? with
  | some .kSuccess => .Success
  | some .kUnknownError => .UnknownError
  | some .kOperationUnavailable => .OperationUnavailable
  | some .kParameterOutOfRange => .ParameterOutOfRange
  | some .kParameterMissing => .ParameterMissing
  | some .kInvalidRequest => .InvalidRequest
  | none => .UnknownError

def convertResult (r : Proto.RequestResult) : RequestResult where
  time := match r.time with
    | some time => convertTimestamp time
    | none => {}
  code := convertResultCode r.getCode
  detail := r.resultDetail.getD []

def convertSystemType (t : EnumValue Proto.SystemType) : SystemType :=
  match t.declared? with
  | some .kFS500 => .kFS500
  | some .kFS1000 => .kFS1000
  | some .kFS350 => .kFS350
  | _ => .kFS500

def convertFov (fov : EnumValue Proto.FieldOfView) : FieldOfView :=
  match fov.declared? with
  | some .k120d100m => .k120d100m
  | some .k120d200m => .k120d200m
  | some .k90d500m => .k90d500m
  | some .k60d1000m => .k60d1000m
  | some .k90d100m => .k90d100m
  | some .k90d200m => .k90d200m
  | some .k90d350m => .k90d350m
  | some .kStandby => .kStandby
  | _ => .k90d500m

def convertFovToProto (fov : EnumValue FieldOfView) : Proto.FieldOfView :=
  match fov.declared? with
  | some .k120d100m => .k120d100m
  | some .k120d200m => .k120d200m
  | some .k90d500m => .k90d500m
  | some .k60d1000m => .k60d1000m
  | some .k90d100m => .k90d100m
  | some .k90d200m => .k90d200m
  | some .k90d350m => .k90d350m
  | some .kStandby => .kStandby
  | none => .k90d500m

def convertArrayType (type : EnumValue Proto.ArrayType) : ArrayDataType :=
  match type.declared? with
  | some .BYTE => .kByte
  | some .INT16 => .kInt16
  | some .UINT16 => .kUInt16
  | some .INT32 => .kInt32
  | some .UINT32 => .kUInt32
  | some .INT64 => .kInt64
  | some .UINT64 => .kUInt64
  | some .FLOAT32 => .kFloat32
  | some .FLOAT64 => .kFloat64
  | some .COMPLEX64 => .kComplex64
  | some .COMPLEX128 => .kComplex128
  | some .BOOL => .kBool
  | none => .kByte

def convertArrayOrder (order : EnumValue Proto.ArrayOrder) : ArrayDataOrder :=
  match order.declared? with
  | some .ROW_MAJOR => .kRowMajor
  | some .COLUMN_MAJOR => .kColumnMajor
  | none => .kRowMajor

def convertBin (b : Proto.Bin) : Bin where
  horIndex := b.horIndex.getD 0
  verIndex := b.verIndex.getD 0
  rangeIndex := b.rangeIndex.getD 0
  crossRange := b.crossRange.getD 0
  downRange := b.downRange.getD 0
  depth := b.depth.getD 0
  strength := b.strength.getD 0

/-- The mode is a `static_cast`: the number is kept, declared or not. -/
def convertGridDescription (g : Proto.GridDescription) : GridDescription where
  mode := match g.mode with
    | some _ => ⟨g.getMode.raw⟩
    | none => .of .kFixed
  horAngles := g.horAngles
  verAngles := g.verAngles
  maxRange := g.maxRange.getD 0

def convertHydrophoneData (h : Proto.HydrophoneData) : HydrophoneData :=
  let data : HydrophoneData := {
    time := match h.time with
      | some time => convertTimestamp time
      | none => {}
    serial := h.serial.getD []
    transmitId := h.transmitId.getD []
    numHorPhones := h.numHorPhones.getD 0
    numVerPhones := h.numVerPhones.getD 0 }
  match h.rawTimeseries with
  | none => data
  | some ts =>
      { data with
        dims := ts.dims
        type := match ts.type with
          | some _ => convertArrayType ts.getType
          | none => .kByte
        order := match ts.order with
          | some _ => convertArrayOrder ts.getOrder
          | none => .kRowMajor
        rawTimeseries := ts.data.getD [] }

def convertTargetData (t : Proto.TargetData) : TargetData where
  time := match t.time with
    | some time => convertTimestamp time
    | none => {}
  serial := t.serial.getD []
  heading := t.heading.map fun heading => ⟨heading.heading.getD 0⟩
  position := t.position.map fun position =>
    ⟨position.lat.getD 0, position.lon.getD 0⟩
  bottom := t.bottom.map convertBin
  groups := t.groups.map fun group => ⟨group.bins.map convertBin⟩
  gridDescription := t.gridDescription.map convertGridDescription
  maxDepth := t.maxDepth.getD 0
  maxRangeIndex := t.maxRangeIndex.getD 0

def convertProcessorSettings (s : Proto.ProcessorSettings) :
    ProcessorSettings where
  time := match s.time with
    | some time => convertTimestamp time
    | none => {}
  minInwaterSquelch := s.minInwaterSquelch.getD 0
  maxInwaterSquelch := s.maxInwaterSquelch.getD 0
  inwaterSquelch := s.inwaterSquelch.getD 0
  squelchlessInwaterDetector := s.squelchlessInwaterDetector.getD false
  detectBottom := s.detectBottom.getD false
  systemType := convertSystemType s.getSystemType
  fov := convertFov s.getFov

def convertVesselInfo (v : Proto.VesselInfo) : VesselInfo where
  draft := v.draft.getD 0
  keelOffset := v.keelOffset.getD 0

/-! What the result conversions say about a reply. -/

theorem convertResultCode_of_eq_success {code : Proto.ResultCode} :
    convertResultCode (.of code) = .Success ↔ code = .kSuccess := by
  rw [convertResultCode, EnumValue.declared?_of]
  cases code <;> simp

theorem convertResult_code_eq_success {r : Proto.RequestResult} :
    (convertResult r).code = .Success ↔
      r.code = some .kSuccess ∨ r.code = none := by
  simp only [convertResult, Proto.RequestResult.getCode,
    convertResultCode_of_eq_success]
  cases held : r.code <;> simp

end Farsounder
