import Farsounder.History.Parse

namespace Farsounder

open Data.Traversal
open History
open Nlohmann

namespace Nlohmann.Json

/-! What the reads of a payload accept. -/

def HasNumber (payload : Json) (key : String) : Prop :=
  ∃ held, payload.member? key = some held ∧ held.isNumber = true

def HasBoolean (payload : Json) (key : String) : Prop :=
  ∃ value, payload.member? key = some (.boolean value)

/-- A number or a boolean that can be cast to an `int32_t`. -/
def HasCount (payload : Json) (key : String) : Prop :=
  ∃ value held, payload.member? key = some held ∧ held.toInt32? = some value

def OnlyNumber (payload : Json) (key : String) : Prop :=
  ∀ held, payload.member? key = some held → held.isNumber = true

/-- What both records read. -/
structure DetectionShape (payload : Json) : Prop where
  numbers : ∀ key ∈ ["timestamp_utc", "latitude_degrees", "longitude_degrees",
    "grid_interval_meters", "target_strength_db"], payload.HasNumber key
  booleans : ∀ key ∈ ["is_tide_corrected", "uploaded_to_cloud"],
    payload.HasBoolean key
  count : payload.HasCount "number_of_points"

structure BottomShape (payload : Json) :
    Prop extends DetectionShape payload where
  depth : payload.HasNumber "depth_meters"

structure InwaterShape (payload : Json) :
    Prop extends DetectionShape payload where
  deepest : payload.OnlyNumber "deepest_depth_meters"
  shallowest : payload.OnlyNumber "shallowest_depth_meters"

structure HistoryShape (payload : Json) : Prop where
  bottom : ∀ element ∈ payload.detections "gridded_bottom_detections",
    element.BottomShape
  inwater : ∀ element ∈ payload.detections "gridded_inwater_detections",
    element.InwaterShape

/-- The count is a floating point number that an `int32_t` cannot hold. -/
def CountOverflows (payload : Json) : Prop :=
  ∃ value, payload.member? "number_of_points" = some (.numberFloat value) ∧
    (Json.numberFloat value).toInt32? = none

/-- The failure is an exception, unless the cast of the count is undefined. -/
def ThrowsOrOverflows (payload : Json) (failure : JsonFailure) : Prop :=
  failure = .undefinedBehaviour → payload.CountOverflows

end Nlohmann.Json

namespace Nlohmann.Documented

variable {json : JsonLibrary} {payload : Json} {key : String}

theorem boolAt_returns_iff (documented : Documented json) :
    (∃ value, json.boolAt payload key = .ok value) ↔
    payload.HasBoolean key := by
  simp only [documented.boolAt_eq_ok, Json.HasBoolean]

theorem int32At_returns_iff (documented : Documented json) :
    (∃ value, json.int32At payload key = .ok value) ↔ payload.HasCount key := by
  simp only [documented.int32At_eq_ok, Json.HasCount]

theorem depthAt_returns_iff (documented : Documented json) :
    (∃ depth, json.depthAt payload key = .ok depth) ↔
    payload.OnlyNumber key := by
  cases member : payload.member? key with
  | none =>
      rw [documented.depthAt_missing member]
      refine iff_of_true ⟨none, rfl⟩ ?_
      intro held present
      rw [member] at present
      contradiction
  | some held =>
      rw [documented.depthAt_present member]
      constructor
      · rintro ⟨depth, returned⟩ other present
        rw [member] at present
        obtain rfl := Option.some.inj present
        apply documented.getDouble_returns_iff.mp
        cases read : json.getDouble held with
        | ok value => exact ⟨value, rfl⟩
        | error failure =>
            rw [read] at returned
            contradiction
      · intro only
        obtain ⟨value, returned⟩ := documented.getDouble_returns_iff.mpr
            (only held member)
        rw [returned]
        exact ⟨some value, rfl⟩

/-! The only undefined behaviour is that of the count. -/

theorem valueAt_throws (documented : Documented json) :
    FailsOnly payload.ThrowsOrOverflows (json.valueAt payload key) := by
  intro failure failed
  cases held : payload.member? key with
  | some value =>
      rw [documented.at_member held] at failed
      contradiction
  | none =>
      cases payload with
      | object members =>
          rw [documented.at_missing held] at failed
          exact (Except.error.inj failed) ▸ nofun
      | _ =>
          rw [documented.at_other rfl] at failed
          exact (Except.error.inj failed) ▸ nofun

theorem getDouble_throws (documented : Documented json) (held : Json) :
    FailsOnly payload.ThrowsOrOverflows (json.getDouble held) := by
  intro failure failed
  cases number : held.isNumber with
  | true =>
      obtain ⟨value, returned⟩ := documented.getDouble_returns_iff.mpr number
      rw [returned] at failed
      contradiction
  | false =>
      rw [documented.double_other number] at failed
      exact (Except.error.inj failed) ▸ nofun

theorem getBool_throws (documented : Documented json) (held : Json) :
    FailsOnly payload.ThrowsOrOverflows (json.getBool held) := by
  intro failure failed
  cases boolean : held.isBoolean with
  | true =>
      cases held with
      | boolean value =>
          rw [documented.bool_boolean] at failed
          contradiction
      | _ => contradiction
  | false =>
      rw [documented.bool_other boolean] at failed
      exact (Except.error.inj failed) ▸ nofun

theorem doubleAt_throws (documented : Documented json) :
    FailsOnly payload.ThrowsOrOverflows (json.doubleAt payload key) :=
  .bind documented.valueAt_throws fun held _ => documented.getDouble_throws held

theorem boolAt_throws (documented : Documented json) :
    FailsOnly payload.ThrowsOrOverflows (json.boolAt payload key) :=
  .bind documented.valueAt_throws fun held _ => documented.getBool_throws held

theorem depthAt_throws (documented : Documented json) :
    FailsOnly payload.ThrowsOrOverflows (json.depthAt payload key) := by
  rw [JsonLibrary.depthAt]
  split
  · exact .bind documented.doubleAt_throws fun _ _ => .pure _
  · exact .pure none

theorem countAt_throws (documented : Documented json) :
    FailsOnly payload.ThrowsOrOverflows
      (json.int32At payload "number_of_points") := by
  refine .bind documented.valueAt_throws fun held returned failure failed => ?_
  rintro rfl
  have member := documented.valueAt_eq_ok.mp returned
  cases cast : held.toInt32? with
  | some value =>
      rw [documented.int32_cast cast] at failed
      contradiction
  | none =>
      cases held with
      | numberFloat value => exact ⟨value, member, cast⟩
      | numberInteger | numberUnsigned | boolean => contradiction
      | _ =>
          rw [documented.int32_other rfl rfl] at failed
          contradiction

end Nlohmann.Documented

/-! The records and the whole payload. -/

namespace Requests

variable {json : JsonLibrary} {payload : Json}

section Detection

variable {timestampUtc latitudeDegrees longitudeDegrees gridIntervalMeters
    targetStrengthDb :
    Double} {isTideCorrected uploadedToCloud : Bool} {numberOfPoints : Int32}

theorem DetectionRead.shape (documented : Documented json)
    (read : DetectionRead json payload timestampUtc latitudeDegrees
      longitudeDegrees
      gridIntervalMeters targetStrengthDb isTideCorrected uploadedToCloud
      numberOfPoints) :
    payload.DetectionShape where
  numbers := by
    simp only [List.forall_mem_cons, Json.HasNumber,
      ← documented.doubleAt_returns_iff]
    exact ⟨⟨_, read.timestampUtc⟩, ⟨_, read.latitudeDegrees⟩,
      ⟨_, read.longitudeDegrees⟩, ⟨_, read.gridIntervalMeters⟩,
      ⟨_, read.targetStrengthDb⟩, nofun⟩
  booleans := by
    simp only [List.forall_mem_cons, ← documented.boolAt_returns_iff]
    exact ⟨⟨_, read.isTideCorrected⟩, ⟨_, read.uploadedToCloud⟩, nofun⟩
  count := documented.int32At_returns_iff.mp ⟨_, read.numberOfPoints⟩

end Detection

theorem detectionRead_of_shape (documented : Documented json)
    (shape : payload.DetectionShape) :
    ∃ timestamp latitude longitude interval strength tide uploaded points,
      DetectionRead json payload timestamp latitude longitude interval strength
        tide uploaded
        points := by
  obtain ⟨numbers, booleans, count⟩ := shape
  simp only [List.forall_mem_cons, Json.HasNumber,
    ← documented.doubleAt_returns_iff] at numbers
  simp only [List.forall_mem_cons, ← documented.boolAt_returns_iff] at booleans
  obtain ⟨⟨_, timestamp⟩, ⟨_, latitude⟩, ⟨_, longitude⟩, ⟨_, interval⟩,
      ⟨_, strength⟩, _⟩ :=
    numbers
  obtain ⟨⟨_, tide⟩, ⟨_, uploaded⟩, _⟩ := booleans
  obtain ⟨_, points⟩ := documented.int32At_returns_iff.mpr count
  exact ⟨_, _, _, _, _, _, _, _, timestamp, latitude, longitude, interval,
    strength, tide, uploaded, points⟩

theorem bottomRead_iff_shape (documented : Documented json) :
    (∃ item, BottomRead json payload item) ↔ payload.BottomShape := by
  constructor
  · rintro ⟨item, read, depth⟩
    exact ⟨read.shape documented, documented.doubleAt_returns_iff.mp ⟨_, depth⟩⟩
  · rintro ⟨detection, depth⟩
    obtain ⟨_, _, _, _, _, _, _, _, read⟩ :=
      detectionRead_of_shape documented detection
    obtain ⟨_, depth⟩ := documented.doubleAt_returns_iff.mpr depth
    exact ⟨⟨_, _, _, _, _, _, _, _, _⟩, read, depth⟩

theorem inwaterRead_iff_shape (documented : Documented json) :
    (∃ item, InwaterRead json payload item) ↔ payload.InwaterShape := by
  constructor
  · rintro ⟨item, read, deepest, shallowest⟩
    exact ⟨read.shape documented,
      documented.depthAt_returns_iff.mp ⟨_, deepest⟩,
      documented.depthAt_returns_iff.mp ⟨_, shallowest⟩⟩
  · rintro ⟨detection, deepest, shallowest⟩
    obtain ⟨_, _, _, _, _, _, _, _, read⟩ :=
      detectionRead_of_shape documented detection
    obtain ⟨_, deepest⟩ := documented.depthAt_returns_iff.mpr deepest
    obtain ⟨_, shallowest⟩ := documented.depthAt_returns_iff.mpr shallowest
    exact ⟨⟨_, _, _, _, _, _, _, _, _, _⟩, read, deepest, shallowest⟩

theorem parseGriddedBottomDetection_throws (documented : Documented json) :
    FailsOnly payload.ThrowsOrOverflows
      (parseGriddedBottomDetection json payload) := by
  refine .bind documented.doubleAt_throws fun _ _ =>
    .bind documented.doubleAt_throws fun _ _ => ?_
  refine .bind documented.doubleAt_throws fun _ _ =>
    .bind documented.doubleAt_throws fun _ _ => ?_
  refine .bind documented.doubleAt_throws fun _ _ => ?_
  refine .bind documented.boolAt_throws fun _ _ =>
    .bind documented.boolAt_throws fun _ _ => ?_
  refine .bind documented.countAt_throws fun _ _ => ?_
  exact .bind documented.doubleAt_throws fun _ _ => .pure _

theorem parseGriddedInwaterDetection_throws (documented : Documented json) :
    FailsOnly payload.ThrowsOrOverflows
      (parseGriddedInwaterDetection json payload) := by
  refine .bind documented.doubleAt_throws fun _ _ =>
    .bind documented.doubleAt_throws fun _ _ => ?_
  refine .bind documented.doubleAt_throws fun _ _ =>
    .bind documented.doubleAt_throws fun _ _ => ?_
  refine .bind documented.doubleAt_throws fun _ _ => ?_
  refine .bind documented.boolAt_throws fun _ _ =>
    .bind documented.boolAt_throws fun _ _ => ?_
  refine .bind documented.countAt_throws fun _ _ => ?_
  refine .bind documented.depthAt_throws fun _ _ => ?_
  exact .bind documented.depthAt_throws fun _ _ => .pure _

theorem parseHistoryData_accepts_iff (documented : Documented json) :
    (∃ data, parseHistoryData json payload = .ok data) ↔
    payload.HistoryShape := by
  have bottom : (∃ items, (payload.detections "gridded_bottom_detections").mapM
        (parseGriddedBottomDetection json) = .ok items) ↔
      ∀ element ∈ payload.detections "gridded_bottom_detections",
      element.BottomShape := by
    simp only [mapM_returns_iff, parseGriddedBottomDetection_eq_ok,
      bottomRead_iff_shape documented]
  have inwater :
      (∃ items, (payload.detections "gridded_inwater_detections").mapM
        (parseGriddedInwaterDetection json) = .ok items) ↔
      ∀ element ∈ payload.detections "gridded_inwater_detections",
      element.InwaterShape := by
    simp only [mapM_returns_iff, parseGriddedInwaterDetection_eq_ok,
      inwaterRead_iff_shape documented]
  simp only [parseHistoryData, documented.detectionsAt_eq, bind_eq_ok,
    pure_eq_ok]
  constructor
  · rintro ⟨_, items, parsed, others, alsoParsed, _⟩
    exact ⟨bottom.mp ⟨items, parsed⟩, inwater.mp ⟨others, alsoParsed⟩⟩
  · rintro ⟨bottomShape, inwaterShape⟩
    obtain ⟨items, parsed⟩ := bottom.mpr bottomShape
    obtain ⟨others, alsoParsed⟩ := inwater.mpr inwaterShape
    exact ⟨_, items, parsed, others, alsoParsed, rfl⟩

theorem parseHistoryData_throws (documented : Documented json) :
    FailsOnly (fun failure => failure = .undefinedBehaviour →
      ∃ element ∈ payload.detections "gridded_bottom_detections" ++
        payload.detections "gridded_inwater_detections", element.CountOverflows)
      (parseHistoryData json payload) := by
  rw [parseHistoryData, documented.detectionsAt_eq, documented.detectionsAt_eq]
  refine .bind (.mapM fun element listed => ?_) fun _ _ =>
    .bind (.mapM fun element listed => ?_) fun _ _ => .pure _
  · refine (parseGriddedBottomDetection_throws documented).mono fun failure
      throws undefined => ?_
    exact ⟨element, List.mem_append_left _ listed, throws undefined⟩
  · refine (parseGriddedInwaterDetection_throws documented).mono fun failure
      throws undefined => ?_
    exact ⟨element, List.mem_append_right _ listed, throws undefined⟩

/-- A payload is accepted exactly if every element that the two loops visit has
the shape of its record; a payload that is not an object is accepted as an empty
history.  On every other payload an exception is thrown, or the cast of a count
is undefined. -/
theorem parseHistoryData_returns_iff (documented : Documented json)
    (payload : Json) :
    ((∃ data, parseHistoryData json payload = .ok data) ↔
    payload.HistoryShape) ∧
    (payload.isObject = false → parseHistoryData json payload = .ok {}) ∧
    (¬ payload.HistoryShape → ∃ failure,
      parseHistoryData json payload = .error failure ∧
      (failure = .undefinedBehaviour →
        ∃ element ∈ payload.detections "gridded_bottom_detections" ++
          payload.detections "gridded_inwater_detections",
            element.CountOverflows)) := by
  refine ⟨parseHistoryData_accepts_iff documented, ?_, ?_⟩
  · intro other
    rw [parseHistoryData_eq_ok documented]
    cases payload with
    | object members => contradiction
    | _ => exact ⟨.nil, .nil⟩
  · intro misshapen
    rw [← parseHistoryData_accepts_iff documented] at misshapen
    cases result : parseHistoryData json payload with
    | ok data => exact absurd ⟨data, result⟩ misshapen
    | error failure =>
        exact ⟨failure, rfl, parseHistoryData_throws documented failure result⟩

/-- An in-water detection that is a string. -/
def stringDetection : Json :=
  .object [("gridded_inwater_detections", .array [.string []])]

theorem parseHistoryData_returns_iff_string :
    ∃ failure, parseHistoryData exactLibrary stringDetection = .error failure ∧
      (failure = .undefinedBehaviour →
        ∃ element ∈ stringDetection.detections "gridded_bottom_detections" ++
          stringDetection.detections "gridded_inwater_detections",
            element.CountOverflows) := by
  refine (parseHistoryData_returns_iff documented_exactLibrary
    stringDetection).2.2 ?_
  intro shape
  obtain ⟨_, _, absent, _⟩ :=
    (shape.inwater (.string []) List.mem_cons_self).count
  contradiction

/-- A top-level array, and detections that are null or an object, are
accepted. -/
theorem misshapen_payloads_accepted :
    Documented exactLibrary ∧
    parseHistoryData exactLibrary (.array [.string []]) = .ok {} ∧
    parseHistoryData exactLibrary
      (.object [("gridded_bottom_detections", .null)]) = .ok {} ∧
    parseHistoryData exactLibrary
      (.object [("gridded_inwater_detections", .object [])]) =
      .ok {} :=
  ⟨documented_exactLibrary, rfl, rfl, rfl⟩

end Requests

end Farsounder
