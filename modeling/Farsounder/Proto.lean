import Farsounder.Types
import Mathlib.Algebra.Ring.Nat

namespace Farsounder.Proto

open Data.Wire (Bytes)

/-! The messages of the `.proto` files as the generated classes hold them: an
optional field is an `Option`, its presence bit being `isSome`.  The enums are
closed, so a field of enum type only ever holds a listed enumerator. -/

inductive ResultCode where
  | kSuccess | kUnknownError | kOperationUnavailable | kParameterOutOfRange
  | kParameterMissing | kInvalidRequest
  deriving DecidableEq, Repr

inductive FieldOfView where
  | k120d100m | k120d200m | k90d500m | k60d1000m | k90d100m | k90d200m
  | k90d350m | kStandby | OBSELETE_k90d110m | OBSELETE_k90d220m
  | OBSELETE_k90d330m | OBSELETE_k60d440m | OBSELETE_kAlt
  deriving DecidableEq, Repr

inductive SystemType where
  | kFS500 | kFS1000 | kFS350 | OBSELETE_kFS3DT
  deriving DecidableEq, Repr

inductive ArrayType where
  | BYTE | INT16 | UINT16 | INT32 | UINT32 | INT64 | UINT64 | FLOAT32 | FLOAT64
  | COMPLEX64 | COMPLEX128 | BOOL
  deriving DecidableEq, Repr

inductive ArrayOrder where
  | ROW_MAJOR | COLUMN_MAJOR
  deriving DecidableEq, Repr

inductive GridMode where
  | kFixed | OBSELETE_kAlternating
  deriving DecidableEq, Repr

def ResultCode.number : ResultCode → Int32
  | kSuccess => 0 | kUnknownError => 1 | kOperationUnavailable => 2
  | kParameterOutOfRange => 3 | kParameterMissing => 4 | kInvalidRequest => 5

def FieldOfView.number : FieldOfView → Int32
  | k120d100m => 5 | k120d200m => 6 | k90d500m => 7 | k60d1000m => 8
  | k90d100m => 9 | k90d200m => 10 | k90d350m => 11 | kStandby => 12
  | OBSELETE_k90d110m => 0 | OBSELETE_k90d220m => 1 | OBSELETE_k90d330m => 2
  | OBSELETE_k60d440m => 3 | OBSELETE_kAlt => 4

def SystemType.number : SystemType → Int32
  | kFS500 => 1 | kFS1000 => 2 | kFS350 => 3 | OBSELETE_kFS3DT => 0

def ArrayType.number : ArrayType → Int32
  | BYTE => 0 | INT16 => 1 | UINT16 => 2 | INT32 => 3 | UINT32 => 4 | INT64 => 5
  | UINT64 => 6 | FLOAT32 => 7 | FLOAT64 => 8 | COMPLEX64 => 9
  | COMPLEX128 => 10 | BOOL => 11

def ArrayOrder.number : ArrayOrder → Int32
  | ROW_MAJOR => 0 | COLUMN_MAJOR => 1

def GridMode.number : GridMode → Int32
  | kFixed => 0 | OBSELETE_kAlternating => 1

def ResultCode.all : List ResultCode :=
  [kSuccess, kUnknownError, kOperationUnavailable, kParameterOutOfRange,
    kParameterMissing, kInvalidRequest]

def FieldOfView.all : List FieldOfView :=
  [k120d100m, k120d200m, k90d500m, k60d1000m, k90d100m, k90d200m, k90d350m,
    kStandby, OBSELETE_k90d110m, OBSELETE_k90d220m, OBSELETE_k90d330m,
    OBSELETE_k60d440m, OBSELETE_kAlt]

def SystemType.all : List SystemType :=
  [kFS500, kFS1000, kFS350, OBSELETE_kFS3DT]

def ArrayType.all : List ArrayType :=
  [BYTE, INT16, UINT16, INT32, UINT32, INT64, UINT64, FLOAT32, FLOAT64,
    COMPLEX64, COMPLEX128, BOOL]

def ArrayOrder.all : List ArrayOrder := [ROW_MAJOR, COLUMN_MAJOR]

def GridMode.all : List GridMode := [kFixed, OBSELETE_kAlternating]

instance : Enumerators ResultCode where
  number := ResultCode.number
  ofNumber? := enumeratorOf ResultCode.number ResultCode.all
  ofNumber?_eq_some := enumeratorOf_eq_some
    (by intro code; cases code <;> simp [ResultCode.all])
    (by intro first second; cases first <;> cases second <;> decide)

instance : Enumerators FieldOfView where
  number := FieldOfView.number
  ofNumber? := enumeratorOf FieldOfView.number FieldOfView.all
  ofNumber?_eq_some := enumeratorOf_eq_some
    (by intro fov; cases fov <;> simp [FieldOfView.all])
    (by intro first second; cases first <;> cases second <;> decide)

instance : Enumerators SystemType where
  number := SystemType.number
  ofNumber? := enumeratorOf SystemType.number SystemType.all
  ofNumber?_eq_some := enumeratorOf_eq_some
    (by intro system; cases system <;> simp [SystemType.all])
    (by intro first second; cases first <;> cases second <;> decide)

instance : Enumerators ArrayType where
  number := ArrayType.number
  ofNumber? := enumeratorOf ArrayType.number ArrayType.all
  ofNumber?_eq_some := enumeratorOf_eq_some
    (by intro type; cases type <;> simp [ArrayType.all])
    (by intro first second; cases first <;> cases second <;> decide)

instance : Enumerators ArrayOrder where
  number := ArrayOrder.number
  ofNumber? := enumeratorOf ArrayOrder.number ArrayOrder.all
  ofNumber?_eq_some := enumeratorOf_eq_some
    (by intro order; cases order <;> simp [ArrayOrder.all])
    (by intro first second; cases first <;> cases second <;> decide)

instance : Enumerators GridMode where
  number := GridMode.number
  ofNumber? := enumeratorOf GridMode.number GridMode.all
  ofNumber?_eq_some := enumeratorOf_eq_some
    (by intro mode; cases mode <;> simp [GridMode.all])
    (by intro first second; cases first <;> cases second <;> decide)

structure Time where
  year : Option UInt32 := none
  month : Option UInt32 := none
  day : Option UInt32 := none
  hour : Option UInt32 := none
  minute : Option UInt32 := none
  second : Option UInt32 := none
  millisecond : Option UInt32 := none
  deriving DecidableEq, Repr

structure RequestResult where
  time : Option Time := none
  code : Option ResultCode := none
  resultDetail : Option Bytes := none
  deriving DecidableEq, Repr

structure ProcessorSettings where
  time : Option Time := none
  minInwaterSquelch : Option FloatBits := none
  maxInwaterSquelch : Option FloatBits := none
  inwaterSquelch : Option FloatBits := none
  squelchlessInwaterDetector : Option Bool := none
  detectBottom : Option Bool := none
  systemType : Option SystemType := none
  fov : Option FieldOfView := none
  deriving DecidableEq, Repr

structure VesselInfo where
  draft : Option FloatBits := none
  keelOffset : Option FloatBits := none
  deriving DecidableEq, Repr

structure ArrayData where
  dims : List Int32 := []
  type : Option ArrayType := none
  order : Option ArrayOrder := none
  data : Option Bytes := none
  deriving DecidableEq, Repr

structure HydrophoneData where
  time : Option Time := none
  rawTimeseries : Option ArrayData := none
  numHorPhones : Option Int32 := none
  numVerPhones : Option Int32 := none
  serial : Option Bytes := none
  transmitId : Option Bytes := none
  deriving DecidableEq, Repr

structure Heading where
  heading : Option DoubleBits := none
  deriving DecidableEq, Repr

structure Position where
  lat : Option DoubleBits := none
  lon : Option DoubleBits := none
  deriving DecidableEq, Repr

structure Bin where
  horIndex : Option Int32 := none
  verIndex : Option Int32 := none
  rangeIndex : Option Int32 := none
  crossRange : Option FloatBits := none
  downRange : Option FloatBits := none
  depth : Option FloatBits := none
  strength : Option FloatBits := none
  deriving DecidableEq, Repr

structure Group where
  bins : List Bin := []
  deriving DecidableEq, Repr

structure GridDescription where
  mode : Option GridMode := none
  horAngles : List DoubleBits := []
  verAngles : List DoubleBits := []
  maxRange : Option DoubleBits := none
  deriving DecidableEq, Repr

structure TargetData where
  time : Option Time := none
  serial : Option Bytes := none
  heading : Option Heading := none
  position : Option Position := none
  bottom : List Bin := []
  groups : List Group := []
  gridDescription : Option GridDescription := none
  maxDepth : Option DoubleBits := none
  maxRangeIndex : Option Int32 := none
  deriving DecidableEq, Repr

inductive Request where
  | getProcessorSettings
  | setFieldOfView (fov : Option FieldOfView)
  | setBottomDetection (enableBottomDetection : Option Bool)
  | setInWaterSquelch (newSquelchVal : Option FloatBits)
  | setSquelchlessInWaterDetector (enableSquelchlessDetection : Option Bool)
  | getVesselInfo
  deriving DecidableEq, Repr

structure GetProcessorSettingsResponse where
  result : Option RequestResult := none
  settings : Option ProcessorSettings := none
  deriving DecidableEq, Repr

/-- The four `Set…Response` messages have this one field. -/
structure ResultResponse where
  result : Option RequestResult := none
  deriving DecidableEq, Repr

structure GetVesselInfoResponse where
  result : Option RequestResult := none
  info : Option VesselInfo := none
  deriving DecidableEq, Repr

/-! Getters.  An unset field reads as its declared default, an unset enum
without one as the first enumerator listed in the `.proto` file. -/

def RequestResult.getCode (result : RequestResult) : EnumValue ResultCode :=
  .of (result.code.getD .kSuccess)

def ProcessorSettings.getSystemType (settings : ProcessorSettings) :
    EnumValue SystemType :=
  .of (settings.systemType.getD .kFS500)

def ProcessorSettings.getFov (settings : ProcessorSettings) :
    EnumValue FieldOfView :=
  .of (settings.fov.getD .k90d500m)

def ArrayData.getType (array : ArrayData) : EnumValue ArrayType :=
  .of (array.type.getD .BYTE)

def ArrayData.getOrder (array : ArrayData) : EnumValue ArrayOrder :=
  .of (array.order.getD .ROW_MAJOR)

def GridDescription.getMode (grid : GridDescription) : EnumValue GridMode :=
  .of (grid.mode.getD .kFixed)

/-- `ParseFromArray(data, static_cast<int>(size))`: the size is narrowed to 32
bits, and one that reads as a negative `int` is refused. -/
def parseFromArray {M : Type} (parse : Bytes → Option M) (data : Bytes) :
    Option M :=
  let size := data.length % 2 ^ 32
  if 2 ^ 31 ≤ size then none else parse (data.take size)

/-- A message is parsed as it was serialized, if it is shorter than 2 GiB. -/
def RoundTrip {M : Type} (serialize : M → Bytes)
    (parse : Bytes → Option M) : Prop :=
  ∀ message, (serialize message).length < 2 ^ 31 →
    parse (serialize message) = some message

theorem parseFromArray_of_short {M : Type} (parse : Bytes → Option M)
    {data : Bytes} (short : data.length < 2 ^ 31) :
    parseFromArray parse data = parse data := by
  have size : data.length % 2 ^ 32 = data.length := Nat.mod_eq_of_lt (by omega)
  rw [parseFromArray, size, if_neg (by omega), List.take_length]

theorem RoundTrip.parseFromArray {M : Type} {serialize : M → Bytes}
    {parse : Bytes → Option M} (roundTrip : RoundTrip serialize parse)
    {message : M} (short : (serialize message).length < 2 ^ 31) :
    Proto.parseFromArray parse (serialize message) = some message := by
  rw [parseFromArray_of_short _ short, roundTrip message short]

end Farsounder.Proto
