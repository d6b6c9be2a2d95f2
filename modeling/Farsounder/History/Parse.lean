import Farsounder.History.Json

namespace Farsounder

open Data.Traversal
open Nlohmann

/-! `history.hpp`. -/

namespace History

structure GriddedBottomDetection where
  timestampUtc : Double := .finite 0
  latitudeDegrees : Double := .finite 0
  longitudeDegrees : Double := .finite 0
  gridIntervalMeters : Double := .finite 0
  targetStrengthDb : Double := .finite 0
  isTideCorrected : Bool := false
  uploadedToCloud : Bool := false
  numberOfPoints : Int32 := 0
  depthMeters : Double := .finite 0
  deriving DecidableEq, Repr

structure GriddedInwaterDetection where
  timestampUtc : Double := .finite 0
  latitudeDegrees : Double := .finite 0
  longitudeDegrees : Double := .finite 0
  gridIntervalMeters : Double := .finite 0
  targetStrengthDb : Double := .finite 0
  isTideCorrected : Bool := false
  uploadedToCloud : Bool := false
  numberOfPoints : Int32 := 0
  deepestDepthMeters : Option Double := none
  shallowestDepthMeters : Option Double := none
  deriving DecidableEq, Repr

structure HistoryData where
  griddedBottomDetections : List GriddedBottomDetection := []
  griddedInwaterDetections : List GriddedInwaterDetection := []
  deriving DecidableEq, Repr

end History

open History

/-! The parsing functions of `requests.cpp`. -/

namespace Nlohmann.JsonLibrary

variable (json : JsonLibrary) (payload : Json) (key : String)

/-- `payload.at(key).get<double>()` -/
def doubleAt : Except JsonFailure Double := do
  json.getDouble (← json.valueAt payload key)

def boolAt : Except JsonFailure Bool := do
  json.getBool (← json.valueAt payload key)

def int32At : Except JsonFailure Int32 := do
  json.getInt32 (← json.valueAt payload key)

/-- A depth, `std::nullopt` if the key is missing. -/
def depthAt : Except JsonFailure (Option Double) := do
  if json.contains payload key then
    return some (← json.doubleAt payload key)
  else
    return none

/-- The loop over `payload.at(key)`, if there is one, that pushes what `parse`
returns. -/
def detectionsAt {α : Type} (parse : Json → Except JsonFailure α) :
    Except JsonFailure (List α) := do
  if json.contains payload key then
    (json.elements (← json.valueAt payload key)).mapM parse
  else
    return []

end Nlohmann.JsonLibrary

namespace Requests

variable (json : JsonLibrary) (payload : Json)

def parseGriddedBottomDetection :
    Except JsonFailure GriddedBottomDetection := do
  let timestampUtc ← json.doubleAt payload "timestamp_utc"
  let latitudeDegrees ← json.doubleAt payload "latitude_degrees"
  let longitudeDegrees ← json.doubleAt payload "longitude_degrees"
  let gridIntervalMeters ← json.doubleAt payload "grid_interval_meters"
  let targetStrengthDb ← json.doubleAt payload "target_strength_db"
  let isTideCorrected ← json.boolAt payload "is_tide_corrected"
  let uploadedToCloud ← json.boolAt payload "uploaded_to_cloud"
  let numberOfPoints ← json.int32At payload "number_of_points"
  let depthMeters ← json.doubleAt payload "depth_meters"
  return { timestampUtc, latitudeDegrees, longitudeDegrees, gridIntervalMeters,
           targetStrengthDb, isTideCorrected, uploadedToCloud, numberOfPoints,
           depthMeters }

def parseGriddedInwaterDetection :
    Except JsonFailure GriddedInwaterDetection := do
  let timestampUtc ← json.doubleAt payload "timestamp_utc"
  let latitudeDegrees ← json.doubleAt payload "latitude_degrees"
  let longitudeDegrees ← json.doubleAt payload "longitude_degrees"
  let gridIntervalMeters ← json.doubleAt payload "grid_interval_meters"
  let targetStrengthDb ← json.doubleAt payload "target_strength_db"
  let isTideCorrected ← json.boolAt payload "is_tide_corrected"
  let uploadedToCloud ← json.boolAt payload "uploaded_to_cloud"
  let numberOfPoints ← json.int32At payload "number_of_points"
  let deepestDepthMeters ← json.depthAt payload "deepest_depth_meters"
  let shallowestDepthMeters ← json.depthAt payload "shallowest_depth_meters"
  return { timestampUtc, latitudeDegrees, longitudeDegrees, gridIntervalMeters,
           targetStrengthDb, isTideCorrected, uploadedToCloud, numberOfPoints,
           deepestDepthMeters, shallowestDepthMeters }

def parseHistoryData : Except JsonFailure HistoryData := do
  let griddedBottomDetections ←
    json.detectionsAt payload "gridded_bottom_detections"
      (parseGriddedBottomDetection json)
  let griddedInwaterDetections ←
    json.detectionsAt payload "gridded_inwater_detections"
      (parseGriddedInwaterDetection json)
  return { griddedBottomDetections, griddedInwaterDetections }

end Requests

/-! What each read returns. -/

/-- The elements that the loop over the value of a key visits. -/
def Nlohmann.Json.detections (payload : Json) (key : String) : List Json :=
  match payload.member? key with
  | some container => container.visited
  | none => []

namespace Nlohmann.Documented

variable {json : JsonLibrary} {payload : Json} {key : String}

theorem doubleAt_eq_ok (documented : Documented json) {value : Double} :
    json.doubleAt payload key = .ok value ↔
      ∃ held, payload.member? key = some held ∧
        json.getDouble held = .ok value := by
  simp only [JsonLibrary.doubleAt, bind_eq_ok, documented.valueAt_eq_ok]

theorem doubleAt_returns_iff (documented : Documented json) :
    (∃ value, json.doubleAt payload key = .ok value) ↔
      ∃ held, payload.member? key = some held ∧ held.isNumber = true := by
  simp only [documented.doubleAt_eq_ok]
  constructor
  · rintro ⟨value, held, member, returned⟩
    exact ⟨held, member, documented.getDouble_returns_iff.mp ⟨value, returned⟩⟩
  · rintro ⟨held, member, number⟩
    obtain ⟨value, returned⟩ := documented.getDouble_returns_iff.mpr number
    exact ⟨value, held, member, returned⟩

theorem boolAt_eq_ok (documented : Documented json) {value : Bool} :
    json.boolAt payload key = .ok value ↔
    payload.member? key = some (.boolean value) := by
  simp only [JsonLibrary.boolAt, bind_eq_ok, documented.valueAt_eq_ok,
    documented.getBool_eq_ok]
  constructor
  · rintro ⟨held, member, rfl⟩
    exact member
  · intro member
    exact ⟨_, member, rfl⟩

theorem int32At_eq_ok (documented : Documented json) {value : Int32} :
    json.int32At payload key = .ok value ↔
      ∃ held, payload.member? key = some held ∧ held.toInt32? = some value := by
  simp only [JsonLibrary.int32At, bind_eq_ok, documented.valueAt_eq_ok,
    documented.getInt32_eq_ok]

theorem depthAt_missing (documented : Documented json)
    (missing : payload.member? key = none) :
    json.depthAt payload key = .ok none := by
  rw [JsonLibrary.depthAt, documented.contains, missing]
  rfl

theorem depthAt_present (documented : Documented json) {held : Json}
    (present : payload.member? key = some held) :
    json.depthAt payload key = (json.getDouble held).map some := by
  rw [JsonLibrary.depthAt, documented.contains, present, JsonLibrary.doubleAt,
    documented.at_member present]
  show (json.getDouble held >>= fun value => Except.ok (some value)) = _
  cases json.getDouble held <;> rfl

theorem detectionsAt_eq (documented : Documented json) {α : Type}
    (parse : Json → Except JsonFailure α) :
    json.detectionsAt payload key parse =
      (payload.detections key).mapM parse := by
  rw [JsonLibrary.detectionsAt, documented.contains, Json.detections]
  cases held : payload.member? key with
  | none => rfl
  | some container =>
      rw [documented.at_member held]
      show (json.elements container).mapM parse = _
      rw [documented.elements]

end Nlohmann.Documented

/-! What a parsed record says about its payload. -/

namespace Requests

variable {json : JsonLibrary} {payload : Json}

/-- The reads that both records begin with. -/
structure DetectionRead (json : JsonLibrary) (payload : Json)
    (timestampUtc latitudeDegrees longitudeDegrees gridIntervalMeters
      targetStrengthDb :
    Double) (isTideCorrected uploadedToCloud : Bool) (numberOfPoints : Int32) :
    Prop where
  timestampUtc : json.doubleAt payload "timestamp_utc" = .ok timestampUtc
  latitudeDegrees :
    json.doubleAt payload "latitude_degrees" = .ok latitudeDegrees
  longitudeDegrees :
    json.doubleAt payload "longitude_degrees" = .ok longitudeDegrees
  gridIntervalMeters : json.doubleAt payload "grid_interval_meters" =
    .ok gridIntervalMeters
  targetStrengthDb : json.doubleAt payload "target_strength_db" =
    .ok targetStrengthDb
  isTideCorrected :
    json.boolAt payload "is_tide_corrected" = .ok isTideCorrected
  uploadedToCloud :
    json.boolAt payload "uploaded_to_cloud" = .ok uploadedToCloud
  numberOfPoints : json.int32At payload "number_of_points" = .ok numberOfPoints

structure BottomRead (json : JsonLibrary) (payload : Json)
    (item : GriddedBottomDetection) : Prop
    extends DetectionRead json payload item.timestampUtc item.latitudeDegrees
      item.longitudeDegrees item.gridIntervalMeters item.targetStrengthDb
        item.isTideCorrected
      item.uploadedToCloud item.numberOfPoints where
  depthMeters : json.doubleAt payload "depth_meters" = .ok item.depthMeters

structure InwaterRead (json : JsonLibrary) (payload : Json)
    (item : GriddedInwaterDetection) : Prop
    extends DetectionRead json payload item.timestampUtc item.latitudeDegrees
      item.longitudeDegrees item.gridIntervalMeters item.targetStrengthDb
        item.isTideCorrected
      item.uploadedToCloud item.numberOfPoints where
  deepestDepthMeters :
    json.depthAt payload "deepest_depth_meters" = .ok item.deepestDepthMeters
  shallowestDepthMeters :
    json.depthAt payload "shallowest_depth_meters" =
      .ok item.shallowestDepthMeters

theorem parseGriddedBottomDetection_eq_ok {item : GriddedBottomDetection} :
    parseGriddedBottomDetection json payload = .ok item ↔
    BottomRead json payload item := by
  simp only [parseGriddedBottomDetection, bind_eq_ok, pure_eq_ok]
  constructor
  · rintro ⟨_, timestamp, _, latitude, _, longitude, _, interval, _, strength,
      _, tide, _, uploaded, _, points, _, depth, rfl⟩
    exact ⟨⟨timestamp, latitude, longitude, interval, strength, tide, uploaded,
      points⟩, depth⟩
  · intro read
    exact ⟨_, read.timestampUtc, _, read.latitudeDegrees, _,
      read.longitudeDegrees, _, read.gridIntervalMeters, _,
      read.targetStrengthDb, _, read.isTideCorrected, _, read.uploadedToCloud,
      _, read.numberOfPoints, _, read.depthMeters, rfl⟩

theorem parseGriddedInwaterDetection_eq_ok {item : GriddedInwaterDetection} :
    parseGriddedInwaterDetection json payload = .ok item ↔
    InwaterRead json payload item := by
  simp only [parseGriddedInwaterDetection, bind_eq_ok, pure_eq_ok]
  constructor
  · rintro ⟨_, timestamp, _, latitude, _, longitude, _, interval, _, strength,
      _, tide, _, uploaded, _, points, _, deepest, _, shallowest, rfl⟩
    exact ⟨⟨timestamp, latitude, longitude, interval, strength, tide, uploaded,
      points⟩, deepest, shallowest⟩
  · intro read
    exact ⟨_, read.timestampUtc, _, read.latitudeDegrees, _,
      read.longitudeDegrees, _, read.gridIntervalMeters, _,
      read.targetStrengthDb, _, read.isTideCorrected, _, read.uploadedToCloud,
      _, read.numberOfPoints, _, read.deepestDepthMeters, _,
      read.shallowestDepthMeters, rfl⟩

/-- History data is returned exactly if each visited element is parsed, in
order. -/
theorem parseHistoryData_eq_ok (documented : Documented json)
    {data : HistoryData} :
    parseHistoryData json payload = .ok data ↔
      List.Forall₂ (BottomRead json)
        (payload.detections "gridded_bottom_detections")
        data.griddedBottomDetections ∧
      List.Forall₂ (InwaterRead json)
        (payload.detections "gridded_inwater_detections")
        data.griddedInwaterDetections := by
  simp only [parseHistoryData, documented.detectionsAt_eq, bind_eq_ok,
    pure_eq_ok, mapM_eq_ok, parseGriddedBottomDetection_eq_ok,
    parseGriddedInwaterDetection_eq_ok]
  constructor
  · rintro ⟨_, bottom, _, inwater, rfl⟩
    exact ⟨bottom, inwater⟩
  · rintro ⟨bottom, inwater⟩
    exact ⟨_, bottom, _, inwater, rfl⟩

end Requests

end Farsounder
