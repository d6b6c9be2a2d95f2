import Farsounder.History.Shape

namespace Farsounder

open Data.Traversal
open History
open Nlohmann

namespace Nlohmann.Json

/-- The second object is the first with a null for each of some depths that it
lacks. -/
structure GainsNullDepths (before after : Json) (keys : List String) :
    Prop where
  objects : before.isObject = true ∧ after.isObject = true
  gained : keys ≠ []
  depths : ∀ key ∈ keys, key = "deepest_depth_meters" ∨
    key = "shallowest_depth_meters"
  missing : ∀ key ∈ keys, before.member? key = none
  null : ∀ key ∈ keys, after.member? key = some .null
  others : ∀ key, key ∉ keys → after.member? key = before.member? key

/-- The second payload is the first, but for null depths in some of its in-water
detections. -/
structure NullDepthsAdded (before after : Json) : Prop where
  others : ∀ key, key ≠ "gridded_inwater_detections" →
    after.member? key = before.member? key
  inwater : List.Forall₂ (fun old new => new = old ∨ ∃ keys,
    GainsNullDepths old new keys)
    (before.detections "gridded_inwater_detections")
    (after.detections "gridded_inwater_detections")
  differ : after.detections "gridded_inwater_detections" ≠
    before.detections "gridded_inwater_detections"

/-- A detection with an explicit null depth does not have the shape of its
record. -/
theorem GainsNullDepths.misshapen {before after : Json} {keys : List String}
    (gains : GainsNullDepths before after keys) : ¬ after.InwaterShape := by
  intro shape
  obtain ⟨key, listed⟩ := List.exists_mem_of_ne_nil keys gains.gained
  have null := gains.null key listed
  cases gains.depths key listed with
  | inl deepest =>
      rw [deepest] at null
      exact Bool.noConfusion (shape.deepest .null null)
  | inr shallowest =>
      rw [shallowest] at null
      exact Bool.noConfusion (shape.shallowest .null null)

end Nlohmann.Json

namespace Requests

variable {json : JsonLibrary} {before after : Json}

theorem valueAt_congr (documented : Documented json) {key : String}
    (objects : before.isObject = true ∧ after.isObject = true)
    (kept : after.member? key = before.member? key) :
    json.valueAt after key = json.valueAt before key := by
  cases member : before.member? key with
  | some value =>
      rw [member] at kept
      rw [documented.at_member kept, documented.at_member member]
  | none =>
      rw [member] at kept
      cases before with
      | object members =>
          cases after with
          | object others =>
              rw [documented.at_missing kept, documented.at_missing member]
          | _ => nomatch objects.2
      | _ => nomatch objects.1

theorem depthAt_null (documented : Documented json) {key : String}
    (null : after.member? key = some .null) :
    json.depthAt after key = .error (.typeError 302) := by
  rw [documented.depthAt_present null, documented.double_other rfl]
  rfl

/-- Mandatory fields that are as they were read as they did. -/
theorem DetectionRead.kept
    {timestampUtc latitudeDegrees longitudeDegrees gridIntervalMeters
      targetStrengthDb :
    Double} {isTideCorrected uploadedToCloud : Bool} {numberOfPoints : Int32}
      (read : DetectionRead json before timestampUtc latitudeDegrees
        longitudeDegrees
      gridIntervalMeters targetStrengthDb isTideCorrected uploadedToCloud
        numberOfPoints) (kept : ∀ key, key ≠ "deepest_depth_meters" →
          key ≠ "shallowest_depth_meters" →
      json.valueAt after key = json.valueAt before key) :
    DetectionRead json after timestampUtc latitudeDegrees longitudeDegrees
      gridIntervalMeters
      targetStrengthDb isTideCorrected uploadedToCloud numberOfPoints := by
  have double {key : String} {value : Double}
      (notDeepest : key ≠ "deepest_depth_meters")
      (notShallowest : key ≠ "shallowest_depth_meters")
      (returned : json.doubleAt before key = .ok value) :
      json.doubleAt after key = .ok value := by
    rw [JsonLibrary.doubleAt, kept key notDeepest notShallowest]
    exact returned
  have bool {key : String} {value : Bool}
      (notDeepest : key ≠ "deepest_depth_meters")
      (notShallowest : key ≠ "shallowest_depth_meters")
      (returned : json.boolAt before key = .ok value) :
      json.boolAt after key = .ok value := by
    rw [JsonLibrary.boolAt, kept key notDeepest notShallowest]
    exact returned
  exact {
    timestampUtc := double (by decide) (by decide) read.timestampUtc
    latitudeDegrees := double (by decide) (by decide) read.latitudeDegrees
    longitudeDegrees := double (by decide) (by decide) read.longitudeDegrees
    gridIntervalMeters := double (by decide) (by decide) read.gridIntervalMeters
    targetStrengthDb := double (by decide) (by decide) read.targetStrengthDb
    isTideCorrected := bool (by decide) (by decide) read.isTideCorrected
    uploadedToCloud := bool (by decide) (by decide) read.uploadedToCloud
    numberOfPoints := by
      rw [JsonLibrary.int32At, kept _ (by decide) (by decide)]
      exact read.numberOfPoints }

/-- Where the detection was parsed before, its null depth is now a type
error. -/
theorem parse_gained (documented : Documented json) {keys : List String}
    (gains : Json.GainsNullDepths before after keys)
    {item : GriddedInwaterDetection}
    (parsed : parseGriddedInwaterDetection json before = .ok item) :
    parseGriddedInwaterDetection json after = .error (.typeError 302) := by
  have read := parseGriddedInwaterDetection_eq_ok.mp parsed
  have kept :
      ∀ key, key ∉ keys → json.valueAt after key = json.valueAt before key :=
    fun key unlisted =>
      valueAt_congr documented gains.objects (gains.others key unlisted)
  have mandatory :=
    read.toDetectionRead.kept fun key notDeepest notShallowest =>
    kept key fun listed =>
      (gains.depths key listed).elim notDeepest notShallowest
  simp only [parseGriddedInwaterDetection, mandatory.timestampUtc,
    mandatory.latitudeDegrees, mandatory.longitudeDegrees,
    mandatory.gridIntervalMeters, mandatory.targetStrengthDb,
    mandatory.isTideCorrected, mandatory.uploadedToCloud,
    mandatory.numberOfPoints, ok_bind]
  by_cases deepest : "deepest_depth_meters" ∈ keys
  · rw [depthAt_null documented (gains.null _ deepest), error_bind]
  · -- The deepest depth reads as before; the key gained is the other one.
    have sameDepth : json.depthAt after "deepest_depth_meters" =
        .ok item.deepestDepthMeters := by
      rw [JsonLibrary.depthAt, documented.contains, JsonLibrary.doubleAt,
        kept _ deepest, gains.others _ deepest, ← documented.contains]
      exact read.deepestDepthMeters
    have shallowest : "shallowest_depth_meters" ∈ keys := by
      obtain ⟨key, listed⟩ := List.exists_mem_of_ne_nil keys gains.gained
      cases gains.depths key listed with
      | inl isDeepest => exact absurd (isDeepest ▸ listed) deepest
      | inr isShallowest => exact isShallowest ▸ listed
    rw [sameDepth, ok_bind, depthAt_null documented (gains.null _ shallowest),
      error_bind]

/-- A depth that the detection lacks is left empty in the item read from it. -/
def LacksNoted (detection : Json) (item : GriddedInwaterDetection) : Prop :=
  (detection.member? "deepest_depth_meters" = none →
    item.deepestDepthMeters = none) ∧
  (detection.member? "shallowest_depth_meters" = none →
    item.shallowestDepthMeters = none)

theorem lacksNoted_of_parse (documented : Documented json) {detection : Json}
    {item : GriddedInwaterDetection}
    (parsed : parseGriddedInwaterDetection json detection = .ok item) :
    LacksNoted detection item := by
  have read := parseGriddedInwaterDetection_eq_ok.mp parsed
  constructor
  · intro missing
    have empty := read.deepestDepthMeters
    rw [documented.depthAt_missing missing] at empty
    exact (Except.ok.inj empty).symm
  · intro missing
    have empty := read.shallowestDepthMeters
    rw [documented.depthAt_missing missing] at empty
    exact (Except.ok.inj empty).symm

/-- Null depths make a payload unreadable: none with them is accepted, and where
the payload was accepted without them it is refused with a type error. A depth
that is missing is left empty. -/
theorem nullDepths_refused (documented : Documented json) (before after : Json)
    (added : Json.NullDepthsAdded before after) :
    (∃ failure, parseHistoryData json after = .error failure) ∧
    (∀ data, parseHistoryData json before = .ok data →
      parseHistoryData json after = .error (.typeError 302)) ∧
    ∀ payload data, parseHistoryData json payload = .ok data →
      List.Forall₂ LacksNoted (payload.detections "gridded_inwater_detections")
        data.griddedInwaterDetections := by
  refine ⟨?_, ?_, ?_⟩
  · cases result : parseHistoryData json after with
    | error failure => exact ⟨failure, rfl⟩
    | ok data =>
        have shape :=
          (parseHistoryData_accepts_iff documented).mp ⟨data, result⟩
        obtain ⟨old, new, listed, keys, gains⟩ :=
          exists_changed added.inwater added.differ
        exact absurd (shape.inwater new listed) gains.misshapen
  · intro data accepted
    obtain ⟨bottom, inwater⟩ := (parseHistoryData_eq_ok documented).mp accepted
    have bottom' : (after.detections "gridded_bottom_detections").mapM
        (parseGriddedBottomDetection json) =
          .ok data.griddedBottomDetections := by
      rw [Json.detections, added.others _ (by decide)]
      exact mapM_eq_ok.mpr (bottom.imp fun _ _ =>
        parseGriddedBottomDetection_eq_ok.mpr)
    have inwater' : (after.detections "gridded_inwater_detections").mapM
        (parseGriddedInwaterDetection json) = .error (.typeError 302) := by
      apply mapM_eq_error added.inwater _ added.differ
      · exact mapM_eq_ok.mpr (inwater.imp fun _ _ =>
          parseGriddedInwaterDetection_eq_ok.mpr)
      · rintro old new item ⟨keys, gains⟩ parsed
        exact parse_gained documented gains parsed
    rw [parseHistoryData, documented.detectionsAt_eq,
      documented.detectionsAt_eq, bottom', ok_bind, inwater', error_bind]
  · intro payload data accepted
    have inwater := ((parseHistoryData_eq_ok documented).mp accepted).2
    exact inwater.imp fun _ _ read =>
      lacksNoted_of_parse documented
        (parseGriddedInwaterDetection_eq_ok.mpr read)

/-! One in-water detection, with an explicit null depth or without one. -/

def inwaterDetection (depths : List (String × Json)) : Json :=
  .object (depths ++ [
    ("grid_interval_meters", .numberFloat (.finite 0)),
    ("is_tide_corrected", .boolean false),
    ("latitude_degrees", .numberFloat (.finite 0)),
    ("longitude_degrees", .numberFloat (.finite 0)),
    ("number_of_points", .numberUnsigned 6),
    ("target_strength_db", .numberFloat (.finite 0)),
    ("timestamp_utc", .numberFloat (.finite 30)),
    ("uploaded_to_cloud", .boolean false)])

def inwaterPayload (depths : List (String × Json)) : Json :=
  .object [("gridded_inwater_detections", .array [inwaterDetection depths])]

theorem inwaterPayload_nullDepths :
    Json.NullDepthsAdded (inwaterPayload [])
      (inwaterPayload [("deepest_depth_meters", .null)]) where
  others key other := by
    have missed : (key == "gridded_inwater_detections") = false :=
      beq_eq_false_iff_ne.mpr other
    simp only [inwaterPayload, Json.member?, List.lookup_cons, missed]
  inwater := .cons (.inr ⟨["deepest_depth_meters"], {
    objects := ⟨rfl, rfl⟩
    gained := nofun
    depths := by simp
    missing := by
      intro key listed
      obtain rfl := List.mem_singleton.mp listed
      rfl
    null := by
      intro key listed
      obtain rfl := List.mem_singleton.mp listed
      rfl
    others := by
      intro key unlisted
      have missed : (key == "deepest_depth_meters") = false :=
        beq_eq_false_iff_ne.mpr fun same =>
          unlisted (List.mem_singleton.mpr same)
      simp only [inwaterDetection, Json.member?, List.cons_append,
        List.nil_append, List.lookup_cons, missed] }⟩) .nil
  differ := by
    intro equal
    have members := Json.object.inj (List.cons.inj equal).1
    exact absurd (congrArg List.length members) (by decide)

theorem nullDepths_refused_deepest :
    parseHistoryData exactLibrary
      (inwaterPayload [("deepest_depth_meters", .null)]) =
      .error (.typeError 302) := by
  have accepted : parseHistoryData exactLibrary (inwaterPayload []) =
      .ok
        { griddedInwaterDetections :=
            [{ timestampUtc := .finite 30, numberOfPoints := 6 }] } :=
    rfl
  exact (nullDepths_refused documented_exactLibrary _ _
    inwaterPayload_nullDepths).2.1
    _ accepted

/-- A detection is read without its depth, and refused with a null one. -/
theorem null_depth_is_not_absent :
    Documented exactLibrary ∧
    Json.NullDepthsAdded (inwaterPayload [])
      (inwaterPayload [("deepest_depth_meters", .null)]) ∧
    parseHistoryData exactLibrary (inwaterPayload []) =
      .ok { griddedInwaterDetections := [
              { timestampUtc := .finite 30, numberOfPoints := 6 }] } ∧
    parseHistoryData exactLibrary
    (inwaterPayload [("deepest_depth_meters", .null)]) =
      .error (.typeError 302) :=
  ⟨documented_exactLibrary, inwaterPayload_nullDepths, rfl, rfl⟩

end Requests

end Farsounder
