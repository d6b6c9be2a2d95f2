import Farsounder.Data.Traversal
import Farsounder.Data.Wire
import Mathlib.Data.Rat.Defs

namespace Farsounder

open Data.Wire (Bytes)

/-! `float` and `double` values that are only copied are kept as their IEEE
bit patterns; a `std::string` filled from the wire is its bytes. -/

abbrev FloatBits := UInt32

abbrev DoubleBits := UInt64

/-- A `double` on which the code computes, in exact arithmetic. -/
inductive Double where
  | finite (value : Rat)
  | posInf
  | negInf
  | nan
  deriving DecidableEq, Repr

/-- `value <= 0.0`; every comparison with a NaN is false. -/
def Double.nonpositive : Double → Bool
  | .finite value => value ≤ 0
  | .posInf => false
  | .negInf => true
  | .nan => false

/-- The call that throws a `zmq::error_t`. -/
inductive ZmqCall where
  | connect | send | recv
  deriving DecidableEq, Repr

/-- How a call can fail to return a value: by one of the exceptions the code
or libzmq throws, or by an operation whose behaviour C++ leaves undefined. -/
inductive Failure where
  | invalidArgument (what : String)
  | runtimeError (what : String)
  | zmqError (call : ZmqCall)
  | undefinedBehaviour
  deriving DecidableEq, Repr

/-! A scoped enumeration has an underlying `int`: a value of its type need not
be one of the declared enumerators. -/

class Enumerators (E : Type) where
  number : E → Int32
  ofNumber? : Int32 → Option E
  ofNumber?_eq_some : ∀ {raw enumerator},
    ofNumber? raw = some enumerator ↔ number enumerator = raw

structure EnumValue (E : Type) where
  raw : Int32
  deriving DecidableEq, Repr

namespace EnumValue

variable {E : Type} [Enumerators E]

def of (enumerator : E) : EnumValue E :=
  ⟨Enumerators.number enumerator⟩

/-- The enumerator a `switch` finds, if the value is a declared one. -/
def declared? (value : EnumValue E) : Option E :=
  Enumerators.ofNumber? value.raw

theorem declared?_eq_some {value : EnumValue E} {enumerator : E} :
    value.declared? = some enumerator ↔ value = of enumerator := by
  cases value with
  | mk raw =>
      simp only [declared?, of, mk.injEq]
      exact Enumerators.ofNumber?_eq_some.trans eq_comm

@[simp] theorem declared?_of (enumerator : E) :
    (of enumerator).declared? = some enumerator :=
  declared?_eq_some.mpr rfl

theorem of_injective : Function.Injective (of : E → EnumValue E) := by
  intro first second equal
  have found := declared?_of first
  rw [equal, declared?_of] at found
  exact (Option.some.inj found).symm

end EnumValue

/-- The enumerator with a given number in a table of all of them. -/
def enumeratorOf {E : Type} (number : E → Int32) (all : List E) (raw : Int32) :
    Option E :=
  all.find? fun enumerator => number enumerator = raw

theorem enumeratorOf_eq_some {E : Type} {number : E → Int32} {all : List E}
    (complete : ∀ enumerator, enumerator ∈ all)
    (injective : Function.Injective number) {raw : Int32} {enumerator : E} :
    enumeratorOf number all raw = some enumerator ↔
    number enumerator = raw := by
  constructor
  · intro found
    simpa using List.find?_some found
  · rintro rfl
    cases search : enumeratorOf number all (number enumerator) with
    | none =>
        have missed := List.find?_eq_none.mp search enumerator (complete _)
        simp at missed
    | some other =>
        have same : number other = number enumerator := by
          simpa using List.find?_some search
        rw [injective same]

/-! Client types. -/

inductive ResultCode where
  | Success | UnknownError | OperationUnavailable | ParameterOutOfRange
  | ParameterMissing | InvalidRequest
  deriving DecidableEq, Repr

inductive FieldOfView where
  | k120d100m | k120d200m | k90d500m | k60d1000m | k90d100m | k90d200m
  | k90d350m | kStandby
  deriving DecidableEq, Repr

inductive SystemType where
  | kFS500 | kFS1000 | kFS350
  deriving DecidableEq, Repr

inductive ArrayDataType where
  | kByte | kInt16 | kUInt16 | kInt32 | kUInt32 | kInt64 | kUInt64 | kFloat32
  | kFloat64 | kComplex64 | kComplex128 | kBool
  deriving DecidableEq, Repr

inductive ArrayDataOrder where
  | kRowMajor | kColumnMajor
  deriving DecidableEq, Repr

inductive GridMode where
  | kFixed
  deriving DecidableEq, Repr

namespace FieldOfView

def number : FieldOfView → Int32
  | k120d100m => 5 | k120d200m => 6 | k90d500m => 7 | k60d1000m => 8
  | k90d100m => 9 | k90d200m => 10 | k90d350m => 11 | kStandby => 12

def all : List FieldOfView :=
  [k120d100m, k120d200m, k90d500m, k60d1000m, k90d100m, k90d200m, k90d350m,
    kStandby]

instance : Enumerators FieldOfView where
  number := number
  ofNumber? := enumeratorOf number all
  ofNumber?_eq_some := enumeratorOf_eq_some
    (by intro fov; cases fov <;> simp [all])
    (by intro first second; cases first <;> cases second <;> decide)

end FieldOfView

def ArrayDataType.number : ArrayDataType → Int32
  | kByte => 0 | kInt16 => 1 | kUInt16 => 2 | kInt32 => 3 | kUInt32 => 4
  | kInt64 => 5 | kUInt64 => 6 | kFloat32 => 7 | kFloat64 => 8
  | kComplex64 => 9 | kComplex128 => 10 | kBool => 11

def ArrayDataOrder.number : ArrayDataOrder → Int32
  | kRowMajor => 0 | kColumnMajor => 1

instance : Enumerators GridMode where
  number _ := 0
  ofNumber? := enumeratorOf (fun _ => 0) [.kFixed]
  ofNumber?_eq_some := enumeratorOf_eq_some
    (by intro mode; cases mode; simp)
    (by intro first second _; cases first; cases second; rfl)

structure Timestamp where
  secondsSinceEpoch : Rat := 0
  deriving DecidableEq, Repr

structure RequestResult where
  time : Timestamp := {}
  code : ResultCode := .Success
  detail : Bytes := []
  deriving DecidableEq, Repr

structure Position where
  latitudeDegrees : DoubleBits := 0
  longitudeDegrees : DoubleBits := 0
  deriving DecidableEq, Repr

structure Heading where
  degrees : DoubleBits := 0
  deriving DecidableEq, Repr

structure ProcessorSettings where
  time : Timestamp := {}
  minInwaterSquelch : FloatBits := 0
  maxInwaterSquelch : FloatBits := 0
  inwaterSquelch : FloatBits := 0
  squelchlessInwaterDetector : Bool := false
  detectBottom : Bool := false
  systemType : SystemType := .kFS500
  fov : FieldOfView := .k90d500m
  deriving DecidableEq, Repr

structure VesselInfo where
  draft : FloatBits := 0
  keelOffset : FloatBits := 0
  deriving DecidableEq, Repr

structure GetProcessorSettingsResponse where
  result : RequestResult := {}
  settings : ProcessorSettings := {}
  deriving DecidableEq, Repr

structure SetFieldOfViewResponse where
  result : RequestResult := {}
  deriving DecidableEq, Repr

structure SetBottomDetectionResponse where
  result : RequestResult := {}
  deriving DecidableEq, Repr

structure SetInWaterSquelchResponse where
  result : RequestResult := {}
  deriving DecidableEq, Repr

structure SetSquelchlessInWaterDetectorResponse where
  result : RequestResult := {}
  deriving DecidableEq, Repr

structure GetVesselInfoResponse where
  result : RequestResult := {}
  info : VesselInfo := {}
  deriving DecidableEq, Repr

structure Bin where
  horIndex : Int32 := 0
  verIndex : Int32 := 0
  rangeIndex : Int32 := 0
  crossRange : FloatBits := 0
  downRange : FloatBits := 0
  depth : FloatBits := 0
  strength : FloatBits := 0
  deriving DecidableEq, Repr

structure TargetGroup where
  bins : List Bin := []
  deriving DecidableEq, Repr

structure GridDescription where
  mode : EnumValue GridMode := .of .kFixed
  horAngles : List DoubleBits := []
  verAngles : List DoubleBits := []
  maxRange : DoubleBits := 0
  deriving DecidableEq, Repr

structure TargetData where
  time : Timestamp := {}
  serial : Bytes := []
  heading : Option Heading := none
  position : Option Position := none
  bottom : List Bin := []
  groups : List TargetGroup := []
  gridDescription : Option GridDescription := none
  maxDepth : DoubleBits := 0
  maxRangeIndex : Int32 := 0
  deriving DecidableEq, Repr

structure HydrophoneData where
  time : Timestamp := {}
  serial : Bytes := []
  transmitId : Bytes := []
  numHorPhones : Int32 := 0
  numVerPhones : Int32 := 0
  dims : List Int32 := []
  type : ArrayDataType := .kByte
  order : ArrayDataOrder := .kRowMajor
  rawTimeseries : Bytes := []
  deriving DecidableEq, Repr

end Farsounder
