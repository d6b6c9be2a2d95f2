import Farsounder.Calendar
import Farsounder.Data.Words
import Mathlib.Tactic.Linarith
import Mathlib.Tactic.NormNum

namespace Farsounder

open Data.Binary64
open Data.Words

/-! A `Time` message and the instant it names. -/

/-- What the seven getters return. -/
def Proto.Time.civil (time : Proto.Time) : CivilTime where
  year := (time.year.getD 0).toNat
  month := (time.month.getD 0).toNat
  day := (time.day.getD 0).toNat
  hour := (time.hour.getD 0).toNat
  minute := (time.minute.getD 0).toNat
  second := (time.second.getD 0).toNat
  millisecond := (time.millisecond.getD 0).toNat

/-- The six fields that go through `int`. -/
def Proto.Time.tmFields (time : Proto.Time) : List UInt32 :=
  [time.year.getD 0, time.month.getD 0, time.day.getD 0, time.hour.getD 0,
    time.minute.getD 0, time.second.getD 0]

/-- `epochSeconds` of fields that are any integers. -/
def civilSeconds (year mon mday hour min sec : Int) : Int :=
  let months := 12 * (year + 1900) + mon
  let normal := months / 12
  let days := daysBeforeYear normal +
    daysBeforeMonth (isLeapYear normal) (months % 12).toNat + (mday - 1)
  86400 * days + 3600 * hour + 60 * min + sec

/-- The second that the fields name once those out of range are carried. -/
def CivilTime.instant (time : CivilTime) : Int :=
  civilSeconds (time.year - 1900) (time.month - 1) time.day time.hour
    time.minute time.second

/-- No cast wraps, no subtraction overflows, and the fields of the `std::tm` are
those of the message, re-based. -/
structure ExactTm (time : Proto.Time) : Prop where
  casts : ∀ field ∈ time.tmFields, field.toInt32.toInt = field.toNat
  subtractions : -2 ^ 31 ≤ (time.year.getD 0).toInt32.toInt - 1900 ∧
    -2 ^ 31 ≤ (time.month.getD 0).toInt32.toInt - 1
  year : (timeToTm time).year.toInt = time.civil.year - 1900
  mon : (timeToTm time).mon.toInt = time.civil.month - 1
  mday : (timeToTm time).mday.toInt = time.civil.day
  hour : (timeToTm time).hour.toInt = time.civil.hour
  min : (timeToTm time).min.toInt = time.civil.minute
  sec : (timeToTm time).sec.toInt = time.civil.second

theorem exactTm_iff {time : Proto.Time} :
    ExactTm time ↔ ∀ field ∈ time.tmFields, field.toNat < 2 ^ 31 := by
  constructor
  · intro exact field listed
    exact uint32_toInt32_exact_iff.mp (exact.casts field listed)
  · intro small
    have casts : ∀ field ∈ time.tmFields, field.toInt32.toInt = field.toNat :=
      fun field listed => uint32_toInt32_exact_iff.mpr (small field listed)
    have bounds := small
    simp only [Proto.Time.tmFields, List.forall_mem_cons] at casts bounds
    obtain ⟨year, month, day, hour, minute, second, _⟩ := casts
    have base : (1900 : Int32).toInt = 1900 := rfl
    have first : (1 : Int32).toInt = 1 := rfl
    refine ⟨fun field listed =>
      uint32_toInt32_exact_iff.mpr (small field listed), ?_, ?_, ?_, day, hour,
        minute, second⟩
    · omega
    · rw [timeToTm, sub_exact (by omega) (by omega), base, year]
      rfl
    · rw [timeToTm, sub_exact (by omega) (by omega), first, month]
      rfl

theorem ExactTm.epochSeconds {time : Proto.Time} (exact : ExactTm time) :
    epochSeconds (timeToTm time) = time.civil.instant := by
  show civilSeconds _ _ _ _ _ _ = civilSeconds _ _ _ _ _ _
  rw [exact.year, exact.mon, exact.mday, exact.hour, exact.min, exact.sec]

/-- The instant and the milliseconds, in seconds. -/
def Proto.Time.exactSeconds (time : Proto.Time) : Rat :=
  time.civil.instant + (time.civil.millisecond : Rat) / 1000

theorem ExactTm.timegm_of_fits {time : Proto.Time} (exact : ExactTm time)
    (fits : yearFits time.civil.instant = true) :
    timegm (timeToTm time) = time.civil.instant := by
  rw [timegm, exact.epochSeconds, if_pos fits]

theorem ExactTm.timegm_of_overflow {time : Proto.Time} (exact : ExactTm time)
    (overflow : yearFits time.civil.instant = false) :
    timegm (timeToTm time) = -1 := by
  rw [timegm, exact.epochSeconds, if_neg (by simp [overflow])]

theorem convertTimestampIn_eq {round : Rat → Rat} {time : Proto.Time}
    {seconds : Int} (returned : timegm (timeToTm time) = seconds) :
    convertTimestampIn round time =
      ⟨round (round seconds +
        round ((time.civil.millisecond : Rat) / 1000))⟩ := by
  rw [convertTimestampIn, returned]
  rfl

/-! Dates and times of day from 1970 to 9999. -/

def ValidUtc (time : Proto.Time) : Prop :=
  time.civil.Valid ∧ time.civil.year ≤ 9999

instance (time : Proto.Time) : Decidable (ValidUtc time) :=
  inferInstanceAs (Decidable (_ ∧ _))

/-- No valid message lies between the two. -/
def Consecutive (first second : Proto.Time) : Prop :=
  first.civil < second.civil ∧
    ∀ between, ValidUtc between →
      ¬ (first.civil < between.civil ∧ between.civil < second.civil)

def CivilTime.toProto (time : CivilTime) : Proto.Time where
  year := some (.ofNat time.year)
  month := some (.ofNat time.month)
  day := some (.ofNat time.day)
  hour := some (.ofNat time.hour)
  minute := some (.ofNat time.minute)
  second := some (.ofNat time.second)
  millisecond := some (.ofNat time.millisecond)

theorem CivilTime.civil_toProto {time : CivilTime} (valid : time.Valid)
    (bounded : time.year ≤ 9999) : time.toProto.civil = time := by
  have month := valid.month
  have day := valid.day.2.trans (daysInMonth_le month)
  have hour := valid.hour
  have minute := valid.minute
  have second := valid.second
  have millisecond := valid.millisecond
  have exact {value : Nat} (small : value < 2 ^ 32) :
      (UInt32.ofNat value).toNat = value :=
    UInt32.toNat_ofNat_of_lt' small
  simp only [Proto.Time.civil, toProto, Option.getD_some]
  rw [exact (by omega), exact (by omega), exact (by omega), exact (by omega),
    exact (by omega), exact (by omega), exact (by omega)]

namespace ValidUtc

variable {time : Proto.Time}

theorem exactTm (valid : ValidUtc time) : ExactTm time := by
  have year := valid.2
  have month := valid.1.month
  have day := valid.1.day.2.trans (daysInMonth_le month)
  have hour := valid.1.hour
  have minute := valid.1.minute
  have second := valid.1.second
  apply exactTm_iff.mpr
  simp only [Proto.Time.tmFields, List.forall_mem_cons]
  simp only [Proto.Time.civil] at year month day hour minute second
  refine ⟨by omega, by omega, by omega, by omega, by omega, by omega, ?_⟩
  intro field listed
  cases listed

/-- Nothing is carried. -/
theorem millis_eq (valid : ValidUtc time) :
    time.civil.millis = 1000 * time.civil.instant + time.civil.millisecond := by
  have month := valid.1.month
  have normal :
      (12 * ((time.civil.year : Int) - 1900 + 1900) +
        (time.civil.month - 1)) / 12 =
      time.civil.year := by omega
  have rest :
      ((12 * ((time.civil.year : Int) - 1900 + 1900) + (time.civil.month - 1)) %
      12).toNat = time.civil.month - 1 := by omega
  simp only [CivilTime.millis, CivilTime.days, CivilTime.leap, CivilTime.clock,
    CivilTime.instant, civilSeconds, normal, rest]
  omega

/-- Valid dates lie between the epoch and the end of the year 9999. -/
theorem instant_range (valid : ValidUtc time) :
    0 ≤ time.civil.instant ∧ time.civil.instant < 86400 * (366 * 9999) := by
  have late := valid.1.year
  have early := valid.2
  have millis := valid.millis_eq
  have millisecond := valid.1.millisecond
  have clock := valid.1.clock_range
  have day := valid.1.dayOfYear
  have days : 0 ≤ time.civil.days ∧ time.civil.days < 366 * 9999 := by
    simp only [CivilTime.days, daysBeforeYear, daysInYear] at day ⊢
    omega
  rw [CivilTime.millis] at millis
  omega

theorem fits (valid : ValidUtc time) : yearFits time.civil.instant = true := by
  have range := valid.instant_range
  simp only [yearFits, Bool.and_eq_true, decide_eq_true_eq]
  simp only [daysBeforeYear]
  omega

theorem held (valid : ValidUtc time) : HeldByDouble time.civil.instant := by
  have range := valid.instant_range
  exact heldByDouble_of_small (by omega)

theorem exactSeconds_eq (valid : ValidUtc time) :
    time.exactSeconds = (time.civil.millis : Rat) / 1000 := by
  rw [Proto.Time.exactSeconds, valid.millis_eq]
  push_cast
  linarith

theorem convertTimestampIn_id (valid : ValidUtc time) :
    convertTimestampIn id time = ⟨(time.civil.millis : Rat) / 1000⟩ := by
  rw [convertTimestampIn_eq (valid.exactTm.timegm_of_fits valid.fits),
    ← valid.exactSeconds_eq]
  rfl

theorem convertTimestamp_eq (valid : ValidUtc time) :
    convertTimestamp time =
      ⟨nearest (time.civil.instant +
        nearest ((time.civil.millisecond : Rat) / 1000))⟩ := by
  rw [convertTimestamp,
    convertTimestampIn_eq (valid.exactTm.timegm_of_fits valid.fits),
    nearest_eq_self.mpr (held_intCast.mpr valid.held)]

end ValidUtc

theorem convertTimestampIn_id_lt_iff {first second : Proto.Time}
    (valid : ValidUtc first) (valid' : ValidUtc second) :
    (convertTimestampIn id first).secondsSinceEpoch <
      (convertTimestampIn id second).secondsSinceEpoch ↔
      first.civil < second.civil := by
  rw [valid.convertTimestampIn_id, valid'.convertTimestampIn_id,
    div_lt_div_iff_of_pos_right (by norm_num), Int.cast_lt]
  exact CivilTime.millis_lt_iff valid.1 valid'.1

/-- The message after one is its successor on the calendar. -/
theorem Consecutive.millis_eq {first second : Proto.Time}
    (valid : ValidUtc first) (valid' : ValidUtc second)
    (consecutive : Consecutive first second) :
    second.civil.millis = first.civil.millis + 1 := by
  obtain ⟨before, nothingBetween⟩ := consecutive
  have later := (CivilTime.millis_lt_iff valid.1 valid'.1).mpr before
  have next := valid.1.next
  have nextMillis := valid.1.next_millis
  by_contra apart
  have below : first.civil.next < second.civil :=
    (CivilTime.millis_lt_iff next valid'.1).mp (by omega)
  have bounded : first.civil.next.year ≤ 9999 := by
    have year := valid'.2
    rw [CivilTime.lt_iff] at below
    omega
  have read := CivilTime.civil_toProto next bounded
  apply nothingBetween first.civil.next.toProto
  · rw [ValidUtc, read]
    exact ⟨next, bounded⟩
  · rw [read]
    exact ⟨(CivilTime.millis_lt_iff valid.1 next).mp (by omega), below⟩

theorem consecutive_of_next {first second : Proto.Time} (valid : ValidUtc first)
    (valid' : ValidUtc second) (next : second.civil = first.civil.next) :
    Consecutive first second := by
  have nextMillis := valid.1.next_millis
  rw [← next] at nextMillis
  constructor
  · exact (CivilTime.millis_lt_iff valid.1 valid'.1).mp (by omega)
  · rintro between validBetween ⟨after, before⟩
    have after := (CivilTime.millis_lt_iff valid.1 validBetween.1).mpr after
    have before := (CivilTime.millis_lt_iff validBetween.1 valid'.1).mpr before
    omega

/-- Timestamps are ordered as the dates and times of day are, are 0 at the
epoch, and grow by a millisecond from each date and time to the next. -/
theorem timestamps_chronological (first second : Proto.Time)
    (valid : ValidUtc first) (valid' : ValidUtc second) :
    ((convertTimestampIn id first).secondsSinceEpoch <
      (convertTimestampIn id second).secondsSinceEpoch ↔
      first.civil.fields < second.civil.fields) ∧
    (first.civil ≠ second.civil →
      convertTimestampIn id first ≠ convertTimestampIn id second) ∧
    (first.civil = ⟨1970, 1, 1, 0, 0, 0, 0⟩ →
      (convertTimestampIn id first).secondsSinceEpoch = 0) ∧
    (Consecutive first second →
      (convertTimestampIn id second).secondsSinceEpoch =
        (convertTimestampIn id first).secondsSinceEpoch + 1 / 1000) := by
  refine ⟨convertTimestampIn_id_lt_iff valid valid', ?_, ?_, ?_⟩
  · intro distinct same
    rw [valid.convertTimestampIn_id, valid'.convertTimestampIn_id,
      Timestamp.mk.injEq, div_left_inj' (by norm_num), Int.cast_inj] at same
    exact distinct (CivilTime.millis_injective valid.1 valid'.1 same)
  · intro epoch
    have millis : (⟨1970, 1, 1, 0, 0, 0, 0⟩ : CivilTime).millis = 0 := by decide
    rw [valid.convertTimestampIn_id, epoch, millis]
    norm_num
  · intro consecutive
    rw [valid.convertTimestampIn_id, valid'.convertTimestampIn_id,
      consecutive.millis_eq valid valid']
    push_cast
    linarith

/-- Into the leap day of 2024. -/
theorem timestamps_chronological_leapDay :
    (convertTimestampIn id (CivilTime.toProto ⟨2024, 2, 29, 0, 0, 0,
      0⟩)).secondsSinceEpoch =
      (convertTimestampIn id (CivilTime.toProto ⟨2024, 2, 28, 23, 59, 59,
        999⟩)).secondsSinceEpoch +
        1 / 1000 := by
  have valid : ValidUtc (CivilTime.toProto ⟨2024, 2, 28, 23, 59, 59, 999⟩) := by
    decide
  have valid' : ValidUtc (CivilTime.toProto ⟨2024, 2, 29, 0, 0, 0, 0⟩) := by
    decide
  have consecutive := consecutive_of_next valid valid' (by decide)
  exact (timestamps_chronological _ _ valid valid').2.2.2 consecutive

/-! Which messages are converted safely. -/

/-- No multiple of `2 ^ -13` comes nearer to half a millisecond than this. -/
theorem near_multiple {value : Rat} {count seconds : Int} {milliseconds : Nat}
    (multiple : value * 2 ^ 13 = count)
    (near : |value - (seconds + (milliseconds : Rat) / 1000)| < 1 / 2000) :
    |value - (seconds + (milliseconds : Rat) / 1000)| * 8192000 ≤ 4095 := by
  have positive : (0 : Rat) < 8192000 := by norm_num
  have scaled : (value - (seconds + (milliseconds : Rat) / 1000)) * 8192000 =
      (1000 * count - 8192 * (1000 * seconds + milliseconds) : Int) := by
    push_cast
    linarith
  have product : |(value - (seconds + (milliseconds : Rat) / 1000)) * 8192000| <
      (4096 : Int) := by
    rw [abs_mul, abs_of_pos positive]
    push_cast
    linarith
  rw [← abs_of_pos positive, ← abs_mul]
  rw [scaled] at product ⊢
  have within :
      |1000 * count - 8192 * (1000 * seconds + milliseconds)| < 4096 := by
    exact_mod_cast product
  exact_mod_cast Int.le_sub_one_of_lt within

theorem nearest_fraction {milliseconds : Nat}
    (bounded : milliseconds < 2 ^ 32) :
    |nearest ((milliseconds : Rat) / 1000) - (milliseconds : Rat) / 1000| *
      2 ^ 30 ≤ 1 / 2 := by
  have cast : (milliseconds : Rat) < (2 ^ 32 : Nat) := Nat.cast_lt.mpr bounded
  push_cast at cast
  apply nearest_close
  rw [abs_of_nonneg (by positivity)]
  linarith

/-- A sum that a `double` could hold to half a millisecond is rounded no
worse. -/
theorem nearest_sum_near {seconds : Int} {milliseconds : Nat}
    (bounded : milliseconds < 2 ^ 32) {value : Rat} (held : Held value)
    (near : |value - (seconds + (milliseconds : Rat) / 1000)| < 1 / 2000) :
    |nearest (seconds + nearest ((milliseconds : Rat) / 1000)) -
      (seconds + (milliseconds : Rat) / 1000)| < 1 / 2000 := by
  have fraction := nearest_fraction bounded
  generalize nearest ((milliseconds : Rat) / 1000) = rounded at fraction ⊢
  have best := nearest_le (seconds + rounded) held
  have sum := abs_sub_le (nearest (seconds + rounded)) (seconds + rounded)
    (seconds + (milliseconds : Rat) / 1000)
  have other := abs_sub_le value (seconds + (milliseconds : Rat) / 1000)
    (seconds + rounded)
  rw [add_sub_add_left_eq_sub] at sum other
  rw [abs_sub_comm ((milliseconds : Rat) / 1000)] at other
  rcases le_or_gt |(seconds : Rat) + rounded| (2 ^ 41) with close | far
  · have kept := nearest_close 12 (seconds + rounded) (by linarith)
    linarith
  · have size := abs_sub_abs_le_abs_sub (seconds + rounded) value
    rw [abs_sub_comm (seconds + rounded)] at size
    obtain ⟨count, multiple⟩ := held.multiple_of_large 13 (by linarith)
    have strict := near_multiple multiple near
    linarith

/-- The instant is kept where it is cast, and the sum with the milliseconds to
half a millisecond. -/
def Proto.Time.KeptInstant (time : Proto.Time) : Prop :=
  nearest (timegm (timeToTm time)) = time.civil.instant ∧
    |(convertTimestamp time).secondsSinceEpoch - time.exactSeconds| < 1 / 2000

/-- A message whose instant `timegm` represents. -/
def Ordinary (time : Proto.Time) : Prop :=
  ExactTm time ∧ yearFits time.civil.instant = true

/-- The instant is returned, or, if it cannot be represented, something that no
ordinary message is converted to. -/
structure SafeTimestamp (time : Proto.Time) : Prop where
  exact : ExactTm time
  value : time.KeptInstant ∨
    yearFits time.civil.instant = false ∧
      ∀ other, Ordinary other → convertTimestamp time ≠ convertTimestamp other

/-- One second before the epoch, and some milliseconds. -/
def beforeEpoch (millisecond : Option UInt32) : Proto.Time where
  year := some 1969
  month := some 12
  day := some 31
  hour := some 23
  minute := some 59
  second := some 59
  millisecond := millisecond

theorem beforeEpoch_instant (millisecond : Option UInt32) :
    (beforeEpoch millisecond).civil.instant = -1 := by
  have seconds : civilSeconds (1969 - 1900) (12 - 1) 31 23 59 59 = -1 := by
    decide
  exact seconds

theorem beforeEpoch_ordinary (millisecond : Option UInt32) :
    Ordinary (beforeEpoch millisecond) :=
  ⟨exactTm_iff.mpr (by simp [Proto.Time.tmFields, beforeEpoch]), by
    rw [beforeEpoch_instant]
    decide⟩

/-- What a message is converted to when `timegm` fails, a second before the
epoch is converted to as well. -/
theorem overflow_is_beforeEpoch {time : Proto.Time} (exact : ExactTm time)
    (overflow : yearFits time.civil.instant = false) :
    convertTimestamp time =
      convertTimestamp (beforeEpoch time.millisecond) := by
  have ordinary := beforeEpoch_ordinary time.millisecond
  have returned := ordinary.1.timegm_of_fits ordinary.2
  rw [beforeEpoch_instant] at returned
  rw [convertTimestamp, convertTimestamp, convertTimestampIn_eq returned,
    convertTimestampIn_eq (exact.timegm_of_overflow overflow)]
  rfl

namespace SafeTimestamp

variable {time : Proto.Time}

theorem fits (safe : SafeTimestamp time) :
    yearFits time.civil.instant = true := by
  cases fits : yearFits time.civil.instant with
  | true => rfl
  | false =>
      cases safe.value with
      | inl kept =>
          -- An instant that is kept would be -1, which does fit.
          have minusOne : nearest (-1 : Int) = (-1 : Int) :=
            nearest_eq_self.mpr
              (held_intCast.mpr (heldByDouble_of_small (by decide)))
          have second := kept.1
          rw [safe.exact.timegm_of_overflow fits, minusOne,
            Int.cast_inj] at second
          rw [← second] at fits
          contradiction
      | inr distinguished =>
          have passedOn := overflow_is_beforeEpoch safe.exact fits
          exact absurd passedOn (distinguished.2 _ (beforeEpoch_ordinary _))

theorem keptInstant (safe : SafeTimestamp time) : time.KeptInstant := by
  cases safe.value with
  | inl kept => exact kept
  | inr overflow => exact absurd safe.fits (by simp [overflow.1])

theorem held (safe : SafeTimestamp time) : HeldByDouble time.civil.instant := by
  have kept := safe.keptInstant.1
  rw [safe.exact.timegm_of_fits safe.fits] at kept
  exact held_intCast.mp (nearest_eq_self.mp kept)

end SafeTimestamp

theorem ExactTm.keptInstant {time : Proto.Time} (exact : ExactTm time)
    (fits : yearFits time.civil.instant = true)
    (held : HeldByDouble time.civil.instant) {value : Rat}
    (heldSum : Held value) (near : |value - time.exactSeconds| < 1 / 2000) :
    time.KeptInstant := by
  have returned := exact.timegm_of_fits fits
  have kept := nearest_eq_self.mpr (held_intCast.mpr held)
  constructor
  · rw [returned, kept]
  · rw [convertTimestamp, convertTimestampIn_eq returned, kept]
    exact nearest_sum_near (time.millisecond.getD 0).toNat_lt heldSum near

theorem ValidUtc.keptInstant {time : Proto.Time} (valid : ValidUtc time) :
    time.KeptInstant := by
  have range := valid.instant_range
  have early : (0 : Rat) ≤ time.civil.instant := by exact_mod_cast range.1
  have late : (time.civil.instant : Rat) < (86400 * (366 * 9999) : Int) :=
    Int.cast_lt.mpr range.2
  have millisecond : (time.civil.millisecond : Rat) < (1000 : Nat) :=
    Nat.cast_lt.mpr valid.1.millisecond
  have positive : 0 ≤ time.exactSeconds := add_nonneg early (by positivity)
  have close := nearest_close 12 time.exactSeconds (by
    rw [abs_of_nonneg positive, Proto.Time.exactSeconds]
    push_cast at late millisecond
    linarith)
  have near : |nearest time.exactSeconds - time.exactSeconds| < 1 / 2000 := by
    linarith
  exact valid.exactTm.keptInstant valid.fits valid.held (held_nearest _) near

/-- A timestamp is safe exactly if the six fields fit in an `int`, the year they
come to, with carries, fits in `tm_year`, the seconds are held by a `double`,
and with the milliseconds they are to half a millisecond. -/
theorem safeTimestamp_iff (time : Proto.Time) :
    SafeTimestamp time ↔
      (∀ field ∈ time.tmFields, field.toNat < 2 ^ 31) ∧
        yearFits time.civil.instant = true ∧ HeldByDouble time.civil.instant ∧
        ∃ value, Held value ∧ |value - time.exactSeconds| < 1 / 2000 := by
  constructor
  · intro safe
    exact ⟨exactTm_iff.mp safe.exact, safe.fits, safe.held, _, held_nearest _,
      safe.keptInstant.2⟩
  · rintro ⟨small, fits, held, value, heldSum, near⟩
    have exact := exactTm_iff.mpr small
    exact ⟨exact, .inl (exact.keptInstant fits held heldSum near)⟩

/-- A year of `2^31` wraps around.  The last month and year of an `int` come to
a year that does not fit; with a thousand milliseconds the result is the epoch.
In the year `2^31 - 1` a second is lost to rounding, in the year 4000000 a
millisecond. -/
theorem unsafe_timestamps :
    ¬ SafeTimestamp
        { year := some 2147483648, month := some 1, day := some 1 } ∧
    ¬ SafeTimestamp
        { year := some 2147483647, month := some 2147483647, day := some 1
          millisecond := some 1000 } ∧
    convertTimestamp
        { year := some 2147483647, month := some 2147483647, day := some 1
          millisecond := some 1000 } =
      convertTimestamp
        { year := some 1970, month := some 1, day := some 1 } ∧
    ¬ SafeTimestamp
        { year := some 2147483647, month := some 1, day := some 1
          second := some 1 } ∧
    convertTimestamp
        { year := some 2147483647, month := some 1, day := some 1
          second := some 1 } =
      convertTimestamp
        { year := some 2147483647, month := some 1, day := some 1 } ∧
    ¬ SafeTimestamp
        { year := some 4000000, month := some 1, day := some 1
          millisecond := some 1 } ∧
    convertTimestamp
        { year := some 4000000, month := some 1, day := some 1
          millisecond := some 1 } =
      convertTimestamp
        { year := some 4000000, month := some 1, day := some 1 } := by
  refine ⟨fun safe => ?_, fun safe => ?_, by decide +kernel, fun safe => ?_,
    by decide +kernel, fun safe => ?_, by decide +kernel⟩
  · have wrapped := safe.exact.casts 2147483648 (by simp [Proto.Time.tmFields])
    contradiction
  · have fits := safe.fits
    contradiction
  · have kept := safe.keptInstant.1
    revert kept
    decide +kernel
  · have kept := safe.keptInstant.2
    revert kept
    decide +kernel

end Farsounder
