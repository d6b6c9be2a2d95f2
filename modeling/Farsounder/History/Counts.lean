import Farsounder.History.RoundTrip

namespace Farsounder

open Data.Words
open History
open Nlohmann

namespace Nlohmann.Json

/-- The integer that a `static_cast` to `int32_t` makes of a value: integers
wrap around, fractions are cut off, and a boolean counts as 0 or 1. -/
inductive CastsTo : Json → Int → Prop
  | integer (value : Int64) :
  CastsTo (.numberInteger value) (value.toInt.bmod (2 ^ 32))
  | unsigned (value : UInt64) :
      CastsTo (.numberUnsigned value) ((value.toNat : Int).bmod (2 ^ 32))
  | float {value : Rat} (low : -2 ^ 31 ≤ truncate value)
    (high : truncate value < 2 ^ 31) :
      CastsTo (.numberFloat (.finite value)) (truncate value)
  | boolean (value : Bool) : CastsTo (.boolean value) (if value then 1 else 0)

theorem castsTo_of_toInt32? {held : Json} {count : Int32}
    (cast : held.toInt32? = some count) :
    held.CastsTo count.toInt := by
  cases held with
  | numberInteger value =>
      obtain rfl := Option.some.inj cast
      rw [Int64.toInt_toInt32]
      exact .integer value
  | numberUnsigned value =>
      obtain rfl := Option.some.inj cast
      rw [uint64_toInt32]
      exact .unsigned value
  | numberFloat value =>
      cases value with
      | finite value =>
          rw [toInt32?] at cast
          split at cast
          case isTrue range =>
            obtain rfl := Option.some.inj cast
            rw [toInt_ofInt_exact range.1 range.2]
            exact .float range.1 range.2
          case isFalse => contradiction
      | posInf | negInf | nan => contradiction
  | boolean value =>
      obtain rfl := Option.some.inj cast
      cases value
      · exact .boolean false
      · exact .boolean true
  | null | string | array | object => contradiction

/-- The cast keeps the value exactly if it is an integer of 32 bits. -/
theorem CastsTo.exact_iff {held : Json} {count : Int}
    (cast : held.CastsTo count) :
    held.number? = some (count : Rat) ↔
      ∃ value : Int, held.number? = some (value : Rat) ∧ -2 ^ 31 ≤ value ∧
        value < 2 ^ 31 := by
  have integer {value : Int} :
      some (value : Rat) = some ((value.bmod (2 ^ 32) : Int) : Rat) ↔
      ∃ same : Int, some (value : Rat) = some (same : Rat) ∧ -2 ^ 31 ≤ same ∧
      same < 2 ^ 31 := by
    simp only [Option.some.injEq, Int.cast_inj, exists_eq_left']
    exact eq_comm.trans bmod_exact_iff
  cases cast with
  | integer value => exact integer
  | unsigned value => exact integer
  | @float value low high =>
      constructor
      · intro same
        exact ⟨_, same, low, high⟩
      · rintro ⟨same, equal, _⟩
        obtain rfl := Option.some.inj equal
        rw [truncate_intCast]
        rfl
  | boolean value =>
      exact iff_of_false nofun (fun ⟨_, equal, _⟩ => nomatch equal)

/-- The count of a record is the cast of the value given for it. -/
def CountRead (payload : Json) (count : Int32) : Prop :=
  ∃ held, payload.member? "number_of_points" = some held ∧
    held.CastsTo count.toInt ∧
    (held.number? = some (count.toInt : Rat) ↔
      ∃ value : Int, held.number? = some (value : Rat) ∧ -2 ^ 31 ≤ value ∧
      value < 2 ^ 31)

end Nlohmann.Json

namespace Requests

variable {json : JsonLibrary}

theorem countRead_of_int32At (documented : Documented json) {payload : Json}
    {count : Int32}
    (read : json.int32At payload "number_of_points" = .ok count) :
    payload.CountRead count := by
  obtain ⟨held, member, cast⟩ := documented.int32At_eq_ok.mp read
  have casts := Json.castsTo_of_toInt32? cast
  exact ⟨held, member, casts, casts.exact_iff⟩

/-- Each point count of an accepted payload is the cast of the value given for
it, which keeps the value exactly if it is an integer of 32 bits. -/
theorem pointCounts_cast (documented : Documented json) (payload : Json)
    (data : HistoryData) (accepted : parseHistoryData json payload = .ok data) :
    List.Forall₂ (fun element item => element.CountRead item.numberOfPoints)
      (payload.detections "gridded_bottom_detections")
        data.griddedBottomDetections ∧
    List.Forall₂ (fun element item => element.CountRead item.numberOfPoints)
      (payload.detections "gridded_inwater_detections")
        data.griddedInwaterDetections := by
  obtain ⟨bottom, inwater⟩ := (parseHistoryData_eq_ok documented).mp accepted
  constructor
  · exact bottom.imp fun _ _ read =>
      countRead_of_int32At documented read.numberOfPoints
  · exact inwater.imp fun _ _ read =>
      countRead_of_int32At documented read.numberOfPoints

theorem pointCounts_cast_sample :
    List.Forall₂ (fun element item => element.CountRead item.numberOfPoints)
      (sampleHistory.toJson.detections "gridded_bottom_detections")
      sampleHistory.griddedBottomDetections :=
  (pointCounts_cast documented_exactLibrary sampleHistory.toJson
    sampleHistory rfl).1

/-- A bottom detection with a given count. -/
def countedDetection (points : Json) : Json :=
  .object [
    ("depth_meters", .numberFloat (.finite 0)),
    ("grid_interval_meters", .numberFloat (.finite 0)),
    ("is_tide_corrected", .boolean false),
    ("latitude_degrees", .numberFloat (.finite 0)),
    ("longitude_degrees", .numberFloat (.finite 0)),
    ("number_of_points", points),
    ("target_strength_db", .numberFloat (.finite 0)),
    ("timestamp_utc", .numberFloat (.finite 0)),
    ("uploaded_to_cloud", .boolean false)]

/-- A count of `2^32 + 1`, one of two and a half, and a boolean are read as 1, 2
and 1. -/
theorem pointCounts_altered :
    Documented exactLibrary ∧
    parseHistoryData exactLibrary
      (.object [("gridded_bottom_detections", .array [
        countedDetection (.numberUnsigned 4294967297),
        countedDetection (.numberFloat (.finite (5 / 2))),
        countedDetection (.boolean true)])]) =
      .ok { griddedBottomDetections := [{ numberOfPoints := 1 },
        { numberOfPoints := 2 },
              { numberOfPoints := 1 }] } :=
  ⟨documented_exactLibrary, by decide +kernel⟩

end Requests

end Farsounder
