import Farsounder.Data.Words
import Farsounder.History.Parse

namespace Farsounder

open Data.Binary64
open Data.Words
open History
open Nlohmann

namespace Nlohmann.Json

/-! JSON values that stand for the fields of a record. -/

/-- A `double` is written as a floating point number, or as an integer that it
holds. -/
inductive DenotesDouble : Json → Double → Prop
  | float (value : Double) : DenotesDouble (.numberFloat value) value
  | integer {value : Int64} (exact : HeldByDouble value.toInt) :
      DenotesDouble (.numberInteger value) (.finite value.toInt)
  | unsigned {value : UInt64} (exact : HeldByDouble value.toNat) :
      DenotesDouble (.numberUnsigned value) (.finite value.toNat)

inductive DenotesInt32 : Json → Int32 → Prop
  | integer {value : Int64} {result : Int32} (same : value.toInt =
    result.toInt) :
      DenotesInt32 (.numberInteger value) result
  | unsigned {value : UInt64} {result : Int32} (same : value.toNat =
    result.toInt) :
      DenotesInt32 (.numberUnsigned value) result
  | float {result : Int32} :
  DenotesInt32 (.numberFloat (.finite result.toInt)) result

def HoldsDouble (payload : Json) (key : String) (value : Double) : Prop :=
  ∃ held, payload.member? key = some held ∧ held.DenotesDouble value

def HoldsBool (payload : Json) (key : String) (value : Bool) : Prop :=
  payload.member? key = some (.boolean value)

def HoldsInt32 (payload : Json) (key : String) (value : Int32) : Prop :=
  ∃ held, payload.member? key = some held ∧ held.DenotesInt32 value

/-- An absent depth is omitted. -/
def HoldsDepth (payload : Json) (key : String) : Option Double → Prop
  | none => payload.member? key = none
  | some value => payload.HoldsDouble key value

/-- An empty list may be omitted. -/
def HoldsArray {α : Type} (encodes : Json → α → Prop) (payload : Json)
    (key : String) (items : List α) : Prop :=
  payload.member? key = none ∧ items = [] ∨
    ∃ elements, payload.member? key = some (.array elements) ∧
      List.Forall₂ encodes elements items

end Nlohmann.Json

/-! Encodings, with any other members and in any order. -/

structure EncodesBottom (payload : Json) (item : GriddedBottomDetection) :
    Prop where
  timestampUtc : payload.HoldsDouble "timestamp_utc" item.timestampUtc
  latitudeDegrees : payload.HoldsDouble "latitude_degrees" item.latitudeDegrees
  longitudeDegrees :
    payload.HoldsDouble "longitude_degrees" item.longitudeDegrees
  gridIntervalMeters :
    payload.HoldsDouble "grid_interval_meters" item.gridIntervalMeters
  targetStrengthDb :
    payload.HoldsDouble "target_strength_db" item.targetStrengthDb
  isTideCorrected : payload.HoldsBool "is_tide_corrected" item.isTideCorrected
  uploadedToCloud : payload.HoldsBool "uploaded_to_cloud" item.uploadedToCloud
  numberOfPoints : payload.HoldsInt32 "number_of_points" item.numberOfPoints
  depthMeters : payload.HoldsDouble "depth_meters" item.depthMeters

structure EncodesInwater (payload : Json) (item : GriddedInwaterDetection) :
    Prop where
  timestampUtc : payload.HoldsDouble "timestamp_utc" item.timestampUtc
  latitudeDegrees : payload.HoldsDouble "latitude_degrees" item.latitudeDegrees
  longitudeDegrees :
    payload.HoldsDouble "longitude_degrees" item.longitudeDegrees
  gridIntervalMeters :
    payload.HoldsDouble "grid_interval_meters" item.gridIntervalMeters
  targetStrengthDb :
    payload.HoldsDouble "target_strength_db" item.targetStrengthDb
  isTideCorrected : payload.HoldsBool "is_tide_corrected" item.isTideCorrected
  uploadedToCloud : payload.HoldsBool "uploaded_to_cloud" item.uploadedToCloud
  numberOfPoints : payload.HoldsInt32 "number_of_points" item.numberOfPoints
  deepestDepthMeters :
    payload.HoldsDepth "deepest_depth_meters" item.deepestDepthMeters
  shallowestDepthMeters :
    payload.HoldsDepth "shallowest_depth_meters" item.shallowestDepthMeters

structure EncodesHistory (payload : Json) (data : HistoryData) : Prop where
  bottom : payload.HoldsArray EncodesBottom "gridded_bottom_detections"
    data.griddedBottomDetections
  inwater : payload.HoldsArray EncodesInwater "gridded_inwater_detections"
    data.griddedInwaterDetections

/-! What the reads return on them. -/

namespace Nlohmann.Documented

variable {json : JsonLibrary} {payload : Json} {key : String}

theorem getDouble_of_denotes (documented : Documented json) {held : Json}
    {value : Double} (denotes : held.DenotesDouble value) :
    json.getDouble held = .ok value := by
  cases denotes with
  | float value => exact documented.double_float value
  | @integer value exact =>
      obtain ⟨rounded, returned, kept⟩ := documented.double_integer value
      rw [returned, kept exact]
  | @unsigned value exact =>
      obtain ⟨rounded, returned, kept⟩ := documented.double_unsigned value
      rw [returned, kept exact]

theorem doubleAt_of_holds (documented : Documented json) {value : Double}
    (holds : payload.HoldsDouble key value) :
    json.doubleAt payload key = .ok value := by
  obtain ⟨held, member, denotes⟩ := holds
  exact documented.doubleAt_eq_ok.mpr ⟨held, member,
    documented.getDouble_of_denotes denotes⟩

theorem int32At_of_holds (documented : Documented json) {value : Int32}
    (holds : payload.HoldsInt32 key value) :
    json.int32At payload key = .ok value := by
  obtain ⟨held, member, denotes⟩ := holds
  have range := int32_range value
  refine documented.int32At_eq_ok.mpr ⟨held, member, ?_⟩
  cases denotes with
  | @integer held _ same =>
      apply congrArg some
      rw [← Int32.toInt_inj, Int64.toInt_toInt32, same]
      exact bmod_exact_iff.mpr range
  | @unsigned held _ same =>
      apply congrArg some
      rw [← Int32.toInt_inj, uint64_toInt32, same]
      exact bmod_exact_iff.mpr range
  | float =>
      rw [Json.toInt32?, truncate_intCast, if_pos range, Int32.ofInt_toInt]

theorem depthAt_of_holds (documented : Documented json) {depth : Option Double}
    (holds : payload.HoldsDepth key depth) :
    json.depthAt payload key = .ok depth := by
  cases depth with
  | none => exact documented.depthAt_missing holds
  | some value =>
      obtain ⟨held, member, denotes⟩ := holds
      rw [documented.depthAt_present member,
        documented.getDouble_of_denotes denotes]
      rfl

end Nlohmann.Documented

theorem Nlohmann.Json.HoldsArray.detections {α : Type}
    {encodes : Json → α → Prop} {payload : Json} {key : String} {items : List α}
    (holds : payload.HoldsArray encodes key items) :
    List.Forall₂ encodes (payload.detections key) items := by
  rw [Json.detections]
  cases holds with
  | inl omitted =>
      rw [omitted.1, omitted.2]
      exact .nil
  | inr written =>
      obtain ⟨elements, member, encoded⟩ := written
      rw [member]
      exact encoded

namespace Requests

variable {json : JsonLibrary}

theorem bottomRead_of_encodes (documented : Documented json) {payload : Json}
    {item : GriddedBottomDetection} (encodes : EncodesBottom payload item) :
    BottomRead json payload item where
  timestampUtc := documented.doubleAt_of_holds encodes.timestampUtc
  latitudeDegrees := documented.doubleAt_of_holds encodes.latitudeDegrees
  longitudeDegrees := documented.doubleAt_of_holds encodes.longitudeDegrees
  gridIntervalMeters := documented.doubleAt_of_holds encodes.gridIntervalMeters
  targetStrengthDb := documented.doubleAt_of_holds encodes.targetStrengthDb
  isTideCorrected := documented.boolAt_eq_ok.mpr encodes.isTideCorrected
  uploadedToCloud := documented.boolAt_eq_ok.mpr encodes.uploadedToCloud
  numberOfPoints := documented.int32At_of_holds encodes.numberOfPoints
  depthMeters := documented.doubleAt_of_holds encodes.depthMeters

theorem inwaterRead_of_encodes (documented : Documented json) {payload : Json}
    {item : GriddedInwaterDetection} (encodes : EncodesInwater payload item) :
    InwaterRead json payload item where
  timestampUtc := documented.doubleAt_of_holds encodes.timestampUtc
  latitudeDegrees := documented.doubleAt_of_holds encodes.latitudeDegrees
  longitudeDegrees := documented.doubleAt_of_holds encodes.longitudeDegrees
  gridIntervalMeters := documented.doubleAt_of_holds encodes.gridIntervalMeters
  targetStrengthDb := documented.doubleAt_of_holds encodes.targetStrengthDb
  isTideCorrected := documented.boolAt_eq_ok.mpr encodes.isTideCorrected
  uploadedToCloud := documented.boolAt_eq_ok.mpr encodes.uploadedToCloud
  numberOfPoints := documented.int32At_of_holds encodes.numberOfPoints
  deepestDepthMeters := documented.depthAt_of_holds encodes.deepestDepthMeters
  shallowestDepthMeters :=
    documented.depthAt_of_holds encodes.shallowestDepthMeters

end Requests

/-! Every history has an encoding. -/

namespace History

def depthMember (key : String) : Option Double → List (String × Json)
  | none => []
  | some depth => [(key, .numberFloat depth)]

def GriddedBottomDetection.toJson (item : GriddedBottomDetection) : Json :=
  .object [
    ("depth_meters", .numberFloat item.depthMeters),
    ("grid_interval_meters", .numberFloat item.gridIntervalMeters),
    ("is_tide_corrected", .boolean item.isTideCorrected),
    ("latitude_degrees", .numberFloat item.latitudeDegrees),
    ("longitude_degrees", .numberFloat item.longitudeDegrees),
    ("number_of_points", .numberInteger item.numberOfPoints.toInt64),
    ("target_strength_db", .numberFloat item.targetStrengthDb),
    ("timestamp_utc", .numberFloat item.timestampUtc),
    ("uploaded_to_cloud", .boolean item.uploadedToCloud)]

def GriddedInwaterDetection.toJson (item : GriddedInwaterDetection) : Json :=
  .object (depthMember "deepest_depth_meters" item.deepestDepthMeters ++ [
    ("grid_interval_meters", .numberFloat item.gridIntervalMeters),
    ("is_tide_corrected", .boolean item.isTideCorrected),
    ("latitude_degrees", .numberFloat item.latitudeDegrees),
    ("longitude_degrees", .numberFloat item.longitudeDegrees),
    ("number_of_points", .numberInteger item.numberOfPoints.toInt64)] ++
    depthMember "shallowest_depth_meters" item.shallowestDepthMeters ++ [
    ("target_strength_db", .numberFloat item.targetStrengthDb),
    ("timestamp_utc", .numberFloat item.timestampUtc),
    ("uploaded_to_cloud", .boolean item.uploadedToCloud)])

def HistoryData.toJson (data : HistoryData) : Json :=
  .object [
    ("gridded_bottom_detections",
      .array (data.griddedBottomDetections.map GriddedBottomDetection.toJson)),
    ("gridded_inwater_detections",
      .array (data.griddedInwaterDetections.map
        GriddedInwaterDetection.toJson))]

theorem denotesInt32_toInt64 (value : Int32) :
    (Json.numberInteger value.toInt64).DenotesInt32 value :=
  .integer value.toInt_toInt64

theorem GriddedBottomDetection.encodes_toJson (item : GriddedBottomDetection) :
    EncodesBottom item.toJson item where
  timestampUtc := ⟨_, rfl, .float _⟩
  latitudeDegrees := ⟨_, rfl, .float _⟩
  longitudeDegrees := ⟨_, rfl, .float _⟩
  gridIntervalMeters := ⟨_, rfl, .float _⟩
  targetStrengthDb := ⟨_, rfl, .float _⟩
  isTideCorrected := rfl
  uploadedToCloud := rfl
  numberOfPoints := ⟨_, rfl, denotesInt32_toInt64 _⟩
  depthMeters := ⟨_, rfl, .float _⟩

theorem GriddedInwaterDetection.encodes_toJson
    (item : GriddedInwaterDetection) :
    EncodesInwater item.toJson item := by
  obtain ⟨_, _, _, _, _, _, _, _, deepest, shallowest⟩ := item
  cases deepest <;> cases shallowest <;> exact {
    timestampUtc := ⟨_, rfl, .float _⟩
    latitudeDegrees := ⟨_, rfl, .float _⟩
    longitudeDegrees := ⟨_, rfl, .float _⟩
    gridIntervalMeters := ⟨_, rfl, .float _⟩
    targetStrengthDb := ⟨_, rfl, .float _⟩
    isTideCorrected := rfl
    uploadedToCloud := rfl
    numberOfPoints := ⟨_, rfl, denotesInt32_toInt64 _⟩
    deepestDepthMeters := by first | rfl | exact ⟨_, rfl, .float _⟩
    shallowestDepthMeters := by first | rfl | exact ⟨_, rfl, .float _⟩ }

theorem HistoryData.encodes_toJson (data : HistoryData) :
    EncodesHistory data.toJson data where
  bottom := .inr ⟨_, rfl, List.forall₂_map_left_iff.mpr
    (List.forall₂_same.mpr fun item _ => item.encodes_toJson)⟩
  inwater := .inr ⟨_, rfl, List.forall₂_map_left_iff.mpr
    (List.forall₂_same.mpr fun item _ => item.encodes_toJson)⟩

end History

namespace Requests

variable {json : JsonLibrary}

/-- Parsing an encoding of history data gives the data back. -/
theorem parseHistoryData_of_encodes (documented : Documented json)
    (payload : Json) (data : HistoryData)
    (encodes : EncodesHistory payload data) :
    parseHistoryData json payload = .ok data := by
  rw [parseHistoryData_eq_ok documented]
  constructor
  · exact encodes.bottom.detections.imp fun _ _ =>
      bottomRead_of_encodes documented
  · exact encodes.inwater.detections.imp fun _ _ =>
      inwaterRead_of_encodes documented

/-- One bottom detection and two in the water, the second without its shallowest
depth. -/
def sampleHistory : HistoryData where
  griddedBottomDetections := [
    { timestampUtc := .finite 10, latitudeDegrees := .finite 40,
      longitudeDegrees := .finite (-70), numberOfPoints := 3
      depthMeters := .finite (25 / 2) }]
  griddedInwaterDetections := [
    { timestampUtc := .finite 20, uploadedToCloud := true, numberOfPoints := 5,
      deepestDepthMeters := some (.finite 55)
      shallowestDepthMeters := some (.finite 4) },
    { timestampUtc := .finite 30, numberOfPoints := -1,
      deepestDepthMeters := some (.finite 60) }]

theorem parseHistoryData_of_encodes_sample :
    parseHistoryData exactLibrary sampleHistory.toJson = .ok sampleHistory :=
  parseHistoryData_of_encodes documented_exactLibrary _ _
    sampleHistory.encodes_toJson

end Requests

end Farsounder
