import Farsounder.Data.Binary64
import Farsounder.Data.Traversal
import Farsounder.Types

namespace Farsounder.Nlohmann

open Data.Binary64
open Data.Traversal
open Data.Wire (Bytes)

/-! What the parsing of history data gets from nlohmann::json. -/

/-- The members of an object are listed in the order in which its map
iterates. -/
inductive Json where
  | null
  | boolean (value : Bool)
  | numberInteger (value : Int64)
  | numberUnsigned (value : UInt64)
  | numberFloat (value : Double)
  | string (value : Bytes)
  | array (elements : List Json)
  | object (members : List (String × Json))

/-- The library's exceptions carry their number; a `static_cast` to a type that
cannot hold the value is undefined. -/
inductive JsonFailure where
  | typeError (id : Nat)
  | outOfRange (id : Nat)
  | undefinedBehaviour
  deriving DecidableEq, Repr

namespace Json

def member? : Json → String → Option Json
  | object members, key => members.lookup key
  | _, _ => none

/-- What a range-based `for` goes through. -/
def visited : Json → List Json
  | array elements => elements
  | object members => members.map Prod.snd
  | null => []
  | scalar => [scalar]

def isObject : Json → Bool
  | object _ => true
  | _ => false

def isNumber : Json → Bool
  | numberInteger _ | numberUnsigned _ | numberFloat _ => true
  | _ => false

def isBoolean : Json → Bool
  | boolean _ => true
  | _ => false

/-- The value of a number. -/
def number? : Json → Option Rat
  | numberInteger value => some value.toInt
  | numberUnsigned value => some value.toNat
  | numberFloat (.finite value) => some value
  | _ => none

end Json

/-- Rounding towards zero. -/
def truncate (value : Rat) : Int :=
  if 0 ≤ value then ⌊value⌋ else ⌈value⌉

theorem truncate_intCast (value : Int) : truncate value = value := by
  rw [truncate, Int.floor_intCast, Int.ceil_intCast, ite_self]

/-- `static_cast<std::int32_t>` of a number or a boolean, where it is
defined. -/
def Json.toInt32? : Json → Option Int32
  | numberInteger value => some value.toInt32
  | numberUnsigned value => some value.toUInt32.toInt32
  | numberFloat (.finite value) =>
      if -2 ^ 31 ≤ truncate value ∧ truncate value < 2 ^ 31 then
        some (Int32.ofInt (truncate value))
      else none
  | boolean value => some (if value then 1 else 0)
  | _ => none

/-- `contains`, `at`, the elements that a range-based `for` visits, and
`get<>`. -/
structure JsonLibrary where
  contains : Json → String → Bool
  valueAt : Json → String → Except JsonFailure Json
  elements : Json → List Json
  getDouble : Json → Except JsonFailure Double
  getBool : Json → Except JsonFailure Bool
  getInt32 : Json → Except JsonFailure Int32

/-- What the library's documentation says of them. -/
structure Documented (json : JsonLibrary) : Prop where
  contains : ∀ payload key,
    json.contains payload key = (payload.member? key).isSome
  at_member : ∀ {payload key value}, payload.member? key = some value →
    json.valueAt payload key = .ok value
  at_missing : ∀ {members key}, members.lookup key = none →
    json.valueAt (.object members) key = .error (.outOfRange 403)
  at_other : ∀ {payload key}, payload.isObject = false →
    json.valueAt payload key = .error (.typeError 304)
  elements : ∀ payload, json.elements payload = payload.visited
  double_float : ∀ value, json.getDouble (.numberFloat value) = .ok value
  double_integer : ∀ value, ∃ rounded, json.getDouble (.numberInteger value) =
    .ok (.finite rounded) ∧ (HeldByDouble value.toInt → rounded = value.toInt)
  double_unsigned : ∀ value, ∃ rounded, json.getDouble (.numberUnsigned value) =
    .ok (.finite rounded) ∧ (HeldByDouble value.toNat → rounded = value.toNat)
  double_other : ∀ {payload}, payload.isNumber = false →
    json.getDouble payload = .error (.typeError 302)
  bool_boolean : ∀ value, json.getBool (.boolean value) = .ok value
  bool_other : ∀ {payload}, payload.isBoolean = false →
    json.getBool payload = .error (.typeError 302)
  int32_cast : ∀ {payload value}, payload.toInt32? = some value →
    json.getInt32 payload = .ok value
  int32_undefined : ∀ {value}, (Json.numberFloat value).toInt32? = none →
    json.getInt32 (.numberFloat value) = .error .undefinedBehaviour
  int32_other : ∀ {payload}, payload.isNumber = false →
    payload.isBoolean = false →
    json.getInt32 payload = .error (.typeError 302)

namespace Documented

variable {json : JsonLibrary}

theorem valueAt_eq_ok (documented : Documented json) {payload value : Json}
    {key : String} :
    json.valueAt payload key = .ok value ↔
    payload.member? key = some value := by
  constructor
  · intro returned
    cases held : payload.member? key with
    | some found =>
        rw [documented.at_member held] at returned
        rw [Except.ok.inj returned]
    | none =>
        cases payload with
        | object members =>
            rw [documented.at_missing held] at returned
            contradiction
        | _ =>
            rw [documented.at_other rfl] at returned
            contradiction
  · exact documented.at_member

theorem getDouble_returns_iff (documented : Documented json) {payload : Json} :
    (∃ value, json.getDouble payload = .ok value) ↔
    payload.isNumber = true := by
  cases payload with
  | numberInteger value =>
      obtain ⟨rounded, returned, _⟩ := documented.double_integer value
      exact iff_of_true ⟨_, returned⟩ rfl
  | numberUnsigned value =>
      obtain ⟨rounded, returned, _⟩ := documented.double_unsigned value
      exact iff_of_true ⟨_, returned⟩ rfl
  | numberFloat value =>
      exact iff_of_true ⟨_, documented.double_float value⟩ rfl
  | _ =>
      rw [documented.double_other rfl]
      exact iff_of_false (fun ⟨_, returned⟩ => nomatch returned) nofun

theorem getBool_eq_ok (documented : Documented json) {payload : Json}
    {value : Bool} :
    json.getBool payload = .ok value ↔ payload = .boolean value := by
  cases payload with
  | boolean held =>
      rw [documented.bool_boolean, Except.ok.injEq, Json.boolean.injEq]
  | _ =>
      rw [documented.bool_other rfl]
      exact iff_of_false nofun nofun

theorem getInt32_eq_ok (documented : Documented json) {payload : Json}
    {value : Int32} :
    json.getInt32 payload = .ok value ↔ payload.toInt32? = some value := by
  cases cast : payload.toInt32? with
  | some result =>
      rw [documented.int32_cast cast, Except.ok.injEq, Option.some.injEq]
  | none =>
      refine iff_of_false ?_ nofun
      cases payload with
      | numberFloat held =>
          rw [documented.int32_undefined cast]
          exact nofun
      | numberInteger | numberUnsigned | boolean => contradiction
      | _ =>
          rw [documented.int32_other rfl rfl]
          exact nofun

end Documented

/-! An instance, which converts every integer to a `double` exactly. -/

def exactLibrary : JsonLibrary where
  contains payload key := (payload.member? key).isSome
  valueAt payload key :=
    match payload with
    | .object members =>
        match members.lookup key with
        | some value => .ok value
        | none => .error (.outOfRange 403)
    | _ => .error (.typeError 304)
  elements := Json.visited
  getDouble
    | .numberInteger value => .ok (.finite value.toInt)
    | .numberUnsigned value => .ok (.finite value.toNat)
    | .numberFloat value => .ok value
    | _ => .error (.typeError 302)
  getBool
    | .boolean value => .ok value
    | _ => .error (.typeError 302)
  getInt32 payload :=
    match payload.toInt32?, payload with
    | some value, _ => .ok value
    | none, .numberFloat _ => .error .undefinedBehaviour
    | none, _ => .error (.typeError 302)

theorem documented_exactLibrary : Documented exactLibrary where
  contains _ _ := rfl
  at_member := by
    intro payload key value held
    cases payload with
    | object members =>
        have found : members.lookup key = some value := held
        simp only [exactLibrary, found]
    | _ => contradiction
  at_missing := by
    intro members key missing
    simp only [exactLibrary, missing]
  at_other := by
    intro payload key other
    cases payload with
    | object members => contradiction
    | _ => rfl
  elements _ := rfl
  double_float _ := rfl
  double_integer value := ⟨value.toInt, rfl, fun _ => rfl⟩
  double_unsigned value := ⟨value.toNat, rfl, fun _ => rfl⟩
  double_other := by
    intro payload other
    cases payload with
    | numberInteger | numberUnsigned | numberFloat => contradiction
    | _ => rfl
  bool_boolean _ := rfl
  bool_other := by
    intro payload other
    cases payload with
    | boolean value => contradiction
    | _ => rfl
  int32_cast := by
    intro payload value cast
    simp only [exactLibrary, cast]
  int32_undefined := by
    intro value undefined
    simp only [exactLibrary, undefined]
  int32_other := by
    intro payload notNumber notBoolean
    cases payload with
    | numberInteger | numberUnsigned | numberFloat | boolean => contradiction
    | _ => rfl

end Farsounder.Nlohmann
