import Farsounder.Connectable
import Farsounder.Data.Decimal
import Farsounder.History.RoundTrip
import Farsounder.Timeouts

namespace Farsounder.Requests

open Config
open Data
open History
open Nlohmann

/-! `get_history_data`. -/

inductive Magnitude where
  | finite (value : ℚ≥0)
  | infinite
  | nan
  deriving DecidableEq

/-- A double that is printed: zeros and NaNs have a sign too. -/
structure SignedDouble where
  negative : Bool := false
  magnitude : Magnitude
  deriving DecidableEq

def SignedDouble.value : SignedDouble → Double
  | ⟨negative, .finite value⟩ => .finite (if negative then -value else value)
  | ⟨false, .infinite⟩ => .posInf
  | ⟨true, .infinite⟩ => .negInf
  | ⟨_, .nan⟩ => .nan

/-- The arguments, with the defaults of `requests.hpp`. -/
structure HistoryQuery where
  latitude : SignedDouble
  longitude : SignedDouble
  radiusMeters : SignedDouble := { magnitude := .finite 500 }
  sinceTimestampUtc : Option SignedDouble := none
  tideCorrectedOnly : Bool := false
  skip : Int32 := 0
  limit : Int32 := 50000
  includeCount : Bool := true
  deriving DecidableEq

def flagToString (flag : Bool) : String :=
  if flag then "true" else "false"

/-- The `cpr::Parameters` of the request.  What `std::to_string` makes of a
double depends on the locale. -/
def HistoryQuery.params (doubleToString : SignedDouble → String)
    (query : HistoryQuery) :
    List (String × String) :=
  [("latitude", doubleToString query.latitude),
    ("longitude", doubleToString query.longitude),
    ("radius_meters", doubleToString query.radiusMeters),
    ("tide_corrected_only", flagToString query.tideCorrectedOnly),
    ("skip", toString query.skip.toInt),
    ("limit", toString query.limit.toInt),
    ("include_count", flagToString query.includeCount)] ++
  match query.sinceTimestampUtc with
  | some since => [("since_timestamp_utc", doubleToString since)]
  | none => []

/-- `cpr::Response`.  The error is its message, and there is none if its code is
`OK`. -/
structure HttpResponse where
  error : Option String := none
  statusCode : Int := 200
  text : String := ""
  deriving DecidableEq, Repr

/-- What the function gets from its process, from cpr and from nlohmann::json;
`parse` throws a `parse_error` with a number. -/
structure RestRuntime where
  /-- `timeout_seconds * 1000.0`, rounded as doubles are. -/
  times1000 : Double → Double
  doubleToString : SignedDouble → String
  get : (url : String) → (params : List (String × String)) → (timeoutMs : Int) →
    HttpResponse
  parse : String → Except Nat Json
  json : JsonLibrary

inductive HistoryFailure where
  | failure (failure : Failure)
  | parseError (id : Nat)
  | jsonFailure (failure : JsonFailure)
  deriving DecidableEq, Repr

def getHistoryData (runtime : RestRuntime) (config : ClientConfig)
    (query : HistoryQuery) :
    Except HistoryFailure HistoryData := do
  let url := (← (restBaseUrl config).mapError .failure) ++ "/api/history_data"
  let timeoutMs ← (toTimeoutMs runtime.times1000 config.timeoutSeconds).mapError
      .failure
  let response := runtime.get url
      (query.params runtime.doubleToString) timeoutMs
  match response.error with
  | some message =>
      throw (.failure (.runtimeError ("REST request failed: " ++ message)))
  | none =>
      if response.statusCode ≠ 200 then
        throw (.failure (.runtimeError ("REST request failed with status " ++
          toString response.statusCode ++ ": " ++ response.text)))
      let payload ← (runtime.parse response.text).mapError .parseError
      (parseHistoryData runtime.json payload).mapError .jsonFailure

/-! What the parameters say. -/

/-- The text is a number in decimal notation, the nearest one with six
places. -/
def Shows (text : String) : Double → Prop
  | .finite value => ∃ units : Int,
      Decimal.read text = some ((units : Rat) / 10 ^ 6) ∧
      |units - value * 10 ^ 6| ≤ 1 / 2
  | .posInf => text = "inf"
  | .negInf => text = "-inf"
  | .nan => text = "nan" ∨ text = "-nan"

/-- How doubles are printed where the locale has a decimal point. -/
def PrintsDecimals (doubleToString : SignedDouble → String) : Prop :=
  ∀ value : SignedDouble, Shows (doubleToString value) value.value

/-- A parameter is given once, with this text. -/
def Given (params : List (String × String)) (name text : String) : Prop :=
  ∀ other, (name, other) ∈ params ↔ other = text

/-- The parameters of a request for this query. -/
structure Asks (params : List (String × String)) (query : HistoryQuery) :
    Prop where
  names : (params.map Prod.fst).Nodup
  latitude : ∃ text, Given params "latitude" text ∧
    Shows text query.latitude.value
  longitude : ∃ text, Given params "longitude" text ∧
    Shows text query.longitude.value
  radiusMeters : ∃ text, Given params "radius_meters" text ∧
    Shows text query.radiusMeters.value
  sinceTimestampUtc : match query.sinceTimestampUtc with
    | some since =>
        ∃ text, Given params "since_timestamp_utc" text ∧ Shows text since.value
    | none => ∀ text, ("since_timestamp_utc", text) ∉ params
  tideCorrectedOnly :
    Given params "tide_corrected_only" (if query.tideCorrectedOnly then "true"
      else "false")
  skip : ∃ text, Given params "skip" text ∧
    Decimal.read text = some (query.skip.toInt : Rat)
  limit : ∃ text, Given params "limit" text ∧
    Decimal.read text = some (query.limit.toInt : Rat)
  includeCount : Given params "include_count" (if query.includeCount then "true"
    else "false")

theorem HistoryQuery.names_nodup (doubleToString : SignedDouble → String)
    (query : HistoryQuery) :
    ((query.params doubleToString).map Prod.fst).Nodup := by
  cases since : query.sinceTimestampUtc <;> simp [params, since]

theorem given_of_mem {params : List (String × String)} {name text : String}
    (names : (params.map Prod.fst).Nodup) (member : (name, text) ∈ params) :
    Given params name text := by
  intro other
  constructor
  · intro otherMember
    exact congrArg Prod.snd
      (List.inj_on_of_nodup_map names otherMember member rfl)
  · rintro rfl
    exact member

theorem Given.eq {params : List (String × String)} {name text text' : String}
    (given : Given params name text) (given' : Given params name text') :
    text = text' :=
  (given' text).mp ((given text).mpr rfl)

theorem HistoryQuery.asks_params {doubleToString : SignedDouble → String}
    (prints : PrintsDecimals doubleToString) (query : HistoryQuery) :
    Asks (query.params doubleToString) query := by
  have given {name text : String}
      (member : (name, text) ∈ query.params doubleToString) :
      Given (query.params doubleToString) name text :=
    given_of_mem (query.names_nodup doubleToString) member
  refine ⟨query.names_nodup doubleToString, ⟨_, given ?_, prints _⟩,
    ⟨_, given ?_, prints _⟩, ⟨_, given ?_, prints _⟩, ?_, given ?_,
    ⟨_, given ?_, Decimal.read_int _⟩, ⟨_, given ?_, Decimal.read_int _⟩,
    given ?_⟩
  case refine_4 =>
    cases since : query.sinceTimestampUtc with
    | none => simp [params, since]
    | some since' =>
        refine ⟨_, given ?_, prints _⟩
        simp [params, since]
  all_goals simp [params, flagToString]

/-! What a request says of the query it was made from. -/

/-- They are the same number when they are printed with six places. -/
def Near : Double → Double → Prop
  | .finite first, .finite second => |first - second| ≤ 1 / 1000000
  | first, second => first = second

theorem near_of_shows_finite {text : String} {first second : Rat}
    (shows : Shows text (.finite first))
    (shows' : Shows text (.finite second)) :
    Near (.finite first) (.finite second) := by
  obtain ⟨units, read, close⟩ := shows
  obtain ⟨units', read', close'⟩ := shows'
  have same : (units : Rat) = units' := by
    have divided := Option.some.inj (read.symm.trans read')
    rwa [div_left_inj' (by norm_num)] at divided
  rw [← same, abs_le] at close'
  rw [abs_le] at close
  rw [Near, abs_le]
  constructor <;> linarith

/-- What a text that is no number in decimal notation stands for. -/
def special? : String → Option Double
  | "inf" => some .posInf
  | "-inf" => some .negInf
  | "nan" | "-nan" => some .nan
  | _ => none

def Double.special? : Double → Option Double
  | .finite _ => none
  | other => some other

theorem read_eq_none {text : String} (special : (special? text).isSome = true) :
    Decimal.read text = none := by
  unfold Requests.special? at special
  split at special
  · rfl
  · rfl
  · rfl
  · rfl
  · contradiction

theorem Shows.special {text : String} {value : Double}
    (shows : Shows text value) :
    special? text = Double.special? value := by
  cases value with
  | finite value =>
      obtain ⟨units, read, _⟩ := shows
      cases special : special? text with
      | none => rfl
      | some value' =>
          rw [read_eq_none (Option.isSome_iff_exists.mpr ⟨_, special⟩)] at read
          contradiction
  | posInf | negInf =>
      rw [show text = _ from shows]
      rfl
  | nan => rcases shows with rfl | rfl <;> rfl

theorem Shows.near {text : String} {first second : Double}
    (shows : Shows text first) (shows' : Shows text second) :
    Near first second := by
  have same := shows.special.symm.trans shows'.special
  cases first with
  | finite value =>
      cases second with
      | finite value' => exact near_of_shows_finite shows shows'
      | posInf | negInf | nan => contradiction
  | posInf | negInf | nan =>
      cases second with
      | finite value' => contradiction
      | posInf | negInf | nan => exact Option.some.inj same

/-- The queries agree, up to the six places of their numbers. -/
structure Alike (first second : HistoryQuery) : Prop where
  latitude : Near first.latitude.value second.latitude.value
  longitude : Near first.longitude.value second.longitude.value
  radiusMeters : Near first.radiusMeters.value second.radiusMeters.value
  sinceTimestampUtc :
    Option.Rel (fun since since' => Near since.value since'.value)
    first.sinceTimestampUtc second.sinceTimestampUtc
  tideCorrectedOnly : first.tideCorrectedOnly = second.tideCorrectedOnly
  skip : first.skip = second.skip
  limit : first.limit = second.limit
  includeCount : first.includeCount = second.includeCount

theorem near_of_given {params : List (String × String)} {name : String}
    {first second : Double}
    (shown : ∃ text, Given params name text ∧ Shows text first)
    (shown' : ∃ text, Given params name text ∧ Shows text second) :
    Near first second := by
  obtain ⟨text, given, shows⟩ := shown
  obtain ⟨text', given', shows'⟩ := shown'
  rw [given.eq given'] at shows
  exact shows.near shows'

theorem int32_of_given {params : List (String × String)} {name : String}
    {first second : Int32}
    (printed : ∃ text, Given params name text ∧
      Decimal.read text = some (first.toInt : Rat))
    (printed' : ∃ text, Given params name text ∧
      Decimal.read text = some (second.toInt : Rat)) :
    first = second := by
  obtain ⟨text, given, read⟩ := printed
  obtain ⟨text', given', read'⟩ := printed'
  rw [given.eq given', read', Option.some.injEq, Int.cast_inj] at read
  exact Int32.toInt_inj.mp read.symm

theorem flag_of_given {params : List (String × String)} {name : String}
    {first second : Bool}
    (given : Given params name (if first then "true" else "false"))
    (given' : Given params name (if second then "true" else "false")) :
    first = second := by
  have same := given.eq given'
  cases first <;> cases second <;> first | rfl | exact absurd same (by decide)

theorem Asks.alike {params : List (String × String)}
    {first second : HistoryQuery} (asks : Asks params first)
    (asks' : Asks params second) : Alike first second where
  latitude := near_of_given asks.latitude asks'.latitude
  longitude := near_of_given asks.longitude asks'.longitude
  radiusMeters := near_of_given asks.radiusMeters asks'.radiusMeters
  sinceTimestampUtc := by
    have since := asks.sinceTimestampUtc
    have since' := asks'.sinceTimestampUtc
    cases asked : first.sinceTimestampUtc with
    | none =>
        cases asked' : second.sinceTimestampUtc with
        | none => exact .none
        | some value' =>
            rw [asked] at since
            rw [asked'] at since'
            obtain ⟨text, given, _⟩ := since'
            exact absurd ((given text).mpr rfl) (since text)
    | some value =>
        cases asked' : second.sinceTimestampUtc with
        | none =>
            rw [asked] at since
            rw [asked'] at since'
            obtain ⟨text, given, _⟩ := since
            exact absurd ((given text).mpr rfl) (since' text)
        | some value' =>
            rw [asked] at since
            rw [asked'] at since'
            exact .some (near_of_given since since')
  tideCorrectedOnly :=
    flag_of_given asks.tideCorrectedOnly asks'.tideCorrectedOnly
  skip := int32_of_given asks.skip asks'.skip
  limit := int32_of_given asks.limit asks'.limit
  includeCount := flag_of_given asks.includeCount asks'.includeCount

/-- Every query is asked for as it is: each parameter is sent once, the numbers
as the nearest ones with six places, the rest exactly, and the start of the
period only if there is one.  So queries that are sent alike are alike. -/
theorem history_query_read_back {doubleToString : SignedDouble → String}
    (prints : PrintsDecimals doubleToString) (query : HistoryQuery) :
    Asks (query.params doubleToString) query ∧
      ∀ other : HistoryQuery,
        other.params doubleToString = query.params doubleToString →
          Alike other query := by
  refine ⟨query.asks_params prints, ?_⟩
  intro other same
  exact (same ▸ other.asks_params prints).alike (query.asks_params prints)

/-- What is printed in the locale `"C"`. -/
def printDecimals : SignedDouble → String
  | ⟨negative, .finite value⟩ => Decimal.fixedPoint 6 negative value
  | ⟨negative, .infinite⟩ => if negative then "-inf" else "inf"
  | ⟨negative, .nan⟩ => if negative then "-nan" else "nan"

theorem prints_printDecimals : PrintsDecimals printDecimals := by
  rintro ⟨negative, magnitude⟩
  cases magnitude with
  | finite value =>
      obtain ⟨units, close, read⟩ :=
        Decimal.read_fixedPoint (show 0 < 6 by decide) negative value
      exact ⟨units, read, close⟩
  | infinite => cases negative <;> rfl
  | nan =>
      cases negative with
      | true => exact .inr rfl
      | false => exact .inl rfl

/-- 40 degrees north and 70 degrees west. -/
def sampleQuery : HistoryQuery where
  latitude := { magnitude := .finite 40 }
  longitude := { negative := true, magnitude := .finite 70 }

theorem history_query_read_back_sample :
    Asks (sampleQuery.params printDecimals) sampleQuery :=
  (history_query_read_back prints_printDecimals sampleQuery).1

/-! What the function returns. -/

/-- The server answered, and the body of its answer is JSON. -/
def Answered (runtime : RestRuntime) (url : String) (query : HistoryQuery)
    (timeoutMs : Int) (payload : Json) : Prop :=
  let response := runtime.get url
      (query.params runtime.doubleToString) timeoutMs
  response.error = none ∧ response.statusCode = 200 ∧
    runtime.parse response.text = .ok payload

def historyUrl (host : String) (portOverrides : PortOverrides) : String :=
  "http://" ++ host ++ ":" ++ toString ((portOverrides.find
    (RestEndpoint.toString (.of .GetHistoryData))).getD
      RestEndpoint.GetHistoryData.defaultPort).toInt ++ "/api/history_data"

theorem getHistoryData_eq {runtime : RestRuntime} {config : ClientConfig}
    {query : HistoryQuery} {base : String} {timeoutMs : Int}
    (resolved : restBaseUrl config = .ok base)
    (converted : toTimeoutMs runtime.times1000 config.timeoutSeconds =
      .ok timeoutMs) {data : HistoryData} :
    getHistoryData runtime config query = .ok data ↔
      ∃ payload,
        Answered runtime (base ++ "/api/history_data") query timeoutMs payload ∧
        parseHistoryData runtime.json payload = .ok data := by
  simp only [getHistoryData, resolved, converted, Except.mapError,
    Traversal.ok_bind, Answered]
  cases runtime.get (base ++ "/api/history_data")
    (query.params runtime.doubleToString) timeoutMs with
  | mk error statusCode text =>
      cases error with
      | some message => simp
      | none =>
          by_cases accepted : statusCode = 200
          · cases parsed : runtime.parse text with
            | error id => simp [accepted]
            | ok payload =>
                cases read : parseHistoryData runtime.json payload
                  <;> simp [accepted, read]
          · simp [accepted]

section Download

variable {host : String} {subscribe : List (EnumValue PubSubMessage)}
  {portOverrides : PortOverrides} {callbackExecutor : CallbackExecutor}
  {timeoutSeconds : Double} {config : ClientConfig} {runtime : RestRuntime}
  {timeoutMs : Int}

/-- With a configuration that `build_config` accepts, `get_history_data` returns
what the server at the configured host and port answers, and nothing else: the
detections that it reads are those of the body, in order, and an encoding of
history data gives the data back. -/
theorem history_download (documented : Documented runtime.json)
    (returned : buildConfig host subscribe portOverrides callbackExecutor
      timeoutSeconds = .ok config)
    (converted : toTimeoutMs runtime.times1000 timeoutSeconds = .ok timeoutMs)
    (query : HistoryQuery) (data : HistoryData) :
    let answered :=
  Answered runtime (historyUrl host portOverrides) query timeoutMs
    (getHistoryData runtime config query = .ok data ↔
    ∃ payload, answered payload ∧
      List.Forall₂ (BottomRead runtime.json)
        (payload.detections "gridded_bottom_detections")
        data.griddedBottomDetections ∧
      List.Forall₂ (InwaterRead runtime.json)
        (payload.detections "gridded_inwater_detections")
        data.griddedInwaterDetections) ∧
    ∀ payload, answered payload → EncodesHistory payload data →
      getHistoryData runtime config query = .ok data := by
  have built := built_of_buildConfig returned
  have resolved := restBaseUrl_eq built
  rw [built.host] at resolved
  rw [← built.timeoutSeconds] at converted
  have outcome : getHistoryData runtime config query = .ok data ↔ _ :=
    getHistoryData_eq resolved converted
  simp only [parseHistoryData_eq_ok documented] at outcome
  refine ⟨outcome, ?_⟩
  intro payload answered encodes
  refine outcome.mpr ⟨payload, answered, ?_, ?_⟩
  · exact encodes.bottom.detections.imp fun _ _ =>
      bottomRead_of_encodes documented
  · exact encodes.inwater.detections.imp fun _ _ =>
      inwaterRead_of_encodes documented

end Download

/-- A server that knows one history, and a library that parses its text. -/
def sampleRuntime : RestRuntime where
  times1000 := Double.times1000
  doubleToString := printDecimals
  get url _ _ :=
    if url = "http://127.0.0.1:3000/api/history_data" then { text := "history" }
    else { error := some "Connection refused" }
  parse text := if text = "history" then .ok sampleHistory.toJson
    else .error 101
  json := exactLibrary

theorem history_download_sample :
    getHistoryData sampleRuntime defaultConfig sampleQuery =
      .ok sampleHistory := by
  have returned : buildConfig "127.0.0.1" [] .none .ThreadPool (.finite 2) =
      .ok defaultConfig := rfl
  refine (history_download documented_exactLibrary returned
    toTimeoutMs_two _ _).2
    sampleHistory.toJson ?_ sampleHistory.encodes_toJson
  have url : historyUrl "127.0.0.1" .none =
      "http://127.0.0.1:3000/api/history_data" := by decide
  simp [Answered, url, sampleRuntime]

end Farsounder.Requests
