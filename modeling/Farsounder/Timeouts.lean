import Farsounder.BuildConfig
import Farsounder.Requests
import Mathlib.Tactic.Linarith

namespace Farsounder

/-- `first <= second` -/
def Double.le : Double → Double → Prop
  | .finite first, .finite second => first ≤ second
  | .negInf, .finite _ | .negInf, .negInf => True
  | .finite _, .posInf | .negInf, .posInf | .posInf, .posInf => True
  | _, _ => False

instance : LE Double := ⟨Double.le⟩

namespace Requests

open Config

/-! `to_timeout_ms` on the timeouts that `build_config` accepts, in exact
arithmetic. -/

/-- The conversion is defined, gives at least a millisecond, and is exact and
monotone down to the shortest timeout. -/
def SafeTimeout (timeoutSeconds : Double) : Prop :=
  ∃ value ms, timeoutSeconds = .finite value ∧
    toTimeoutMs Double.times1000 timeoutSeconds = .ok ms ∧
    ms = max 1 ⌊1000 * value⌋ ∧ 1 ≤ ms ∧ ms < 2 ^ 31 ∧
    ∀ shorter : Double, shorter.nonpositive = false → shorter ≤ timeoutSeconds →
      ∃ ms', toTimeoutMs Double.times1000 shorter = .ok ms' ∧ ms' ≤ ms

theorem doubleToInt_error {value : Double} {failure : Failure}
    (failed : doubleToInt value = .error failure) :
    failure = .undefinedBehaviour := by
  cases value with
  | finite value =>
      simp only [doubleToInt] at failed
      split at failed
      · split at failed
        · contradiction
        · exact (Except.error.inj failed).symm
      · split at failed
        · contradiction
        · exact (Except.error.inj failed).symm
  | posInf | negInf | nan => exact (Except.error.inj failed).symm

theorem toTimeoutMs_error {times1000 : Double → Double}
    {timeoutSeconds : Double} {failure : Failure}
    (failed : toTimeoutMs times1000 timeoutSeconds = .error failure) :
    failure = .undefinedBehaviour := by
  cases converted : doubleToInt (times1000 timeoutSeconds) with
  | error cause =>
      rw [toTimeoutMs, converted] at failed
      obtain rfl := Except.error.inj failed
      exact doubleToInt_error converted
  | ok ms =>
      rw [toTimeoutMs, converted] at failed
      contradiction

theorem toTimeoutMs_finite {value : Rat} (positive : 0 < value)
    (bounded : 1000 * value < 2 ^ 31) :
    toTimeoutMs Double.times1000 (.finite value) =
      .ok (max 1 ⌊1000 * value⌋) := by
  have nonnegative : 0 ≤ 1000 * value := by linarith
  have low : 0 ≤ ⌊1000 * value⌋ := Int.floor_nonneg.mpr nonnegative
  have high : ⌊1000 * value⌋ < 2 ^ 31 :=
    Int.floor_lt.mpr (by exact_mod_cast bounded)
  have converted :
      doubleToInt (.finite (1000 * value)) = .ok ⌊1000 * value⌋ := by
    simp only [doubleToInt, if_pos nonnegative]
    rw [if_pos ⟨by omega, high⟩]
  rw [toTimeoutMs, Double.times1000, mul_comm value, converted,
    Data.Traversal.ok_bind, Data.Traversal.pure_eq]
  rfl

theorem toTimeoutMs_out_of_range {value : Rat} (large : 2 ^ 31 ≤ 1000 * value) :
    toTimeoutMs Double.times1000 (.finite value) =
      .error .undefinedBehaviour := by
  have nonnegative : 0 ≤ 1000 * value := by linarith
  have high : 2 ^ 31 ≤ ⌊1000 * value⌋ :=
    Int.le_floor.mpr (by exact_mod_cast large)
  have undefined :
      doubleToInt (.finite (1000 * value)) = .error .undefinedBehaviour := by
    simp only [doubleToInt, if_pos nonnegative]
    rw [if_neg (by omega)]
  rw [toTimeoutMs, Double.times1000, mul_comm value, undefined,
    Data.Traversal.error_bind]

theorem safeTimeout_of_bounded {value : Rat} (positive : 0 < value)
    (bounded : 1000 * value < 2 ^ 31) : SafeTimeout (.finite value) := by
  refine ⟨value, _, rfl, toTimeoutMs_finite positive bounded, rfl,
    le_max_left _ _, ?_, ?_⟩
  · have high : ⌊1000 * value⌋ < 2 ^ 31 :=
      Int.floor_lt.mpr (by exact_mod_cast bounded)
    omega
  · intro shorter accepted smaller
    cases shorter with
    | finite value' =>
        have smaller : value' ≤ value := smaller
        have floors : ⌊1000 * value'⌋ ≤ ⌊1000 * value⌋ :=
          Int.floor_le_floor (by linarith)
        exact ⟨_, toTimeoutMs_finite (Double.nonpositive_finite.mp accepted)
          (by linarith), max_le_max le_rfl floors⟩
    | negInf => contradiction
    | posInf | nan => exact smaller.elim

section Built

variable {host : String} {subscribe : List (EnumValue PubSubMessage)}
  {portOverrides : PortOverrides} {callbackExecutor : CallbackExecutor}
  {timeoutSeconds : Double} {config : ClientConfig}

/-- An accepted timeout is converted safely exactly if it is a number of less
than `2^31` milliseconds. -/
theorem safeTimeout_iff
    (returned : buildConfig host subscribe portOverrides callbackExecutor
      timeoutSeconds = .ok config) :
    SafeTimeout config.timeoutSeconds ↔
      ∃ value, timeoutSeconds = .finite value ∧ 1000 * value < 2 ^ 31 := by
  have built := built_of_buildConfig returned
  rw [built.timeoutSeconds]
  constructor
  · rintro ⟨value, ms, rfl, converted, _⟩
    refine ⟨value, rfl, ?_⟩
    by_contra large
    rw [toTimeoutMs_out_of_range (not_lt.mp large)] at converted
    contradiction
  · rintro ⟨value, rfl, bounded⟩
    exact safeTimeout_of_bounded (Double.nonpositive_finite.mp built.positive)
      bounded

end Built

theorem safeTimeout_iff_default : SafeTimeout (.finite 2) := by
  have returned : buildConfig "127.0.0.1" [] .none .ThreadPool (.finite 2) =
      .ok defaultConfig := rfl
  exact (safeTimeout_iff returned).mpr ⟨2, rfl, by norm_num⟩

/-- A timeout of 25 days, an infinite one and a NaN are accepted, and cannot be
converted. -/
theorem accepted_timeouts_undefined :
    (buildConfig "127.0.0.1" [] .none .ThreadPool (.finite 2160000) =
        .ok { defaultConfig with timeoutSeconds := .finite 2160000 } ∧
      toTimeoutMs Double.times1000 (.finite 2160000) =
      .error .undefinedBehaviour) ∧
    (buildConfig "127.0.0.1" [] .none .ThreadPool .posInf =
        .ok { defaultConfig with timeoutSeconds := .posInf } ∧
      toTimeoutMs Double.times1000 .posInf = .error .undefinedBehaviour) ∧
    (buildConfig "127.0.0.1" [] .none .ThreadPool .nan =
        .ok { defaultConfig with timeoutSeconds := .nan } ∧
      toTimeoutMs Double.times1000 .nan = .error .undefinedBehaviour) :=
  ⟨⟨rfl, toTimeoutMs_out_of_range (by norm_num)⟩, ⟨rfl, rfl⟩, rfl, rfl⟩

end Requests

end Farsounder
