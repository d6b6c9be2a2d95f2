import Farsounder.Conversions
import Farsounder.Data.Blocks

namespace Farsounder

open Data (Blocks)

/-! The civil calendar that `timegm` counts in. -/

def daysInMonth (leap : Bool) (month : Nat) : Nat :=
  [31, if leap then 29 else 28, 31, 30, 31, 30, 31, 31, 30, 31, 30,
    31].getD (month - 1) 0

/-- A date and a time of day, read as `Time` declares them. -/
structure CivilTime where
  year : Nat
  month : Nat
  day : Nat
  hour : Nat
  minute : Nat
  second : Nat
  millisecond : Nat
  deriving DecidableEq, Repr

namespace CivilTime

def leap (time : CivilTime) : Bool :=
  isLeapYear time.year

def fields (time : CivilTime) : List Nat :=
  [time.year, time.month, time.day, time.hour, time.minute, time.second,
    time.millisecond]

/-- Lexicographic, from the year down to the millisecond. -/
instance : LT CivilTime := ⟨fun first second => first.fields < second.fields⟩

structure Valid (time : CivilTime) : Prop where
  year : 1970 ≤ time.year
  month : 1 ≤ time.month ∧ time.month ≤ 12
  day : 1 ≤ time.day ∧ time.day ≤ daysInMonth time.leap time.month
  hour : time.hour < 24
  minute : time.minute < 60
  second : time.second < 60
  millisecond : time.millisecond < 1000

instance (time : CivilTime) : Decidable time.Valid :=
  decidable_of_iff
    (1970 ≤ time.year ∧ (1 ≤ time.month ∧ time.month ≤ 12) ∧
      (1 ≤ time.day ∧ time.day ≤ daysInMonth time.leap time.month) ∧
      time.hour < 24 ∧
      time.minute < 60 ∧ time.second < 60 ∧ time.millisecond < 1000)
    ⟨fun ⟨year, month, day, hour, minute, second, millisecond⟩ =>
        ⟨year, month, day, hour, minute, second, millisecond⟩,
      fun ⟨year, month, day, hour, minute, second, millisecond⟩ =>
        ⟨year, month, day, hour, minute, second, millisecond⟩⟩

/-- Days since 1970-01-01. -/
def days (time : CivilTime) : Int :=
  daysBeforeYear time.year +
    (daysBeforeMonth time.leap (time.month - 1) + (time.day - 1))

/-- Milliseconds since midnight. -/
def clock (time : CivilTime) : Int :=
  3600000 * time.hour + 60000 * time.minute + 1000 * time.second +
    time.millisecond

def millis (time : CivilTime) : Int :=
  86400000 * time.days + time.clock

end CivilTime

/-! Years, and the months of a year, lie end to end. -/

def daysInYear (year : Int) : Int :=
  if isLeapYear year then 366 else 365

theorem isLeapYear_iff {year : Int} :
    isLeapYear year = true ↔
    year % 4 = 0 ∧ (year % 100 ≠ 0 ∨ year % 400 = 0) := by
  simp [isLeapYear]

theorem daysBeforeYear_succ (year : Int) :
    daysBeforeYear (year + 1) = daysBeforeYear year + daysInYear year := by
  simp only [daysBeforeYear, daysInYear]
  by_cases leap : isLeapYear year = true
  · rw [if_pos leap]
    rw [isLeapYear_iff] at leap
    omega
  · rw [if_neg leap]
    rw [isLeapYear_iff] at leap
    omega

theorem daysInYear_nonneg (year : Int) : 0 ≤ daysInYear year := by
  rw [daysInYear]
  split <;> omega

theorem daysBeforeMonth_succ (leap : Bool) {month : Nat}
    (within : month + 1 < 12) :
    daysBeforeMonth leap (month + 1) =
      daysBeforeMonth leap month + daysInMonth leap (month + 1) := by
  have table : ∀ leap : Bool, ∀ month < 11, daysBeforeMonth leap (month + 1) =
      daysBeforeMonth leap month + daysInMonth leap (month + 1) := by decide
  exact table leap month (by omega)

theorem daysInMonth_pos {leap : Bool} {month : Nat}
    (within : 1 ≤ month ∧ month ≤ 12) :
    1 ≤ daysInMonth leap month := by
  have table : ∀ leap : Bool, ∀ month < 12,
      1 ≤ daysInMonth leap (month + 1) := by decide
  have positive := table leap (month - 1) (by omega)
  rwa [Nat.sub_add_cancel within.1] at positive

theorem daysBeforeMonth_january (leap : Bool) : daysBeforeMonth leap 0 = 0 := by
  cases leap <;> rfl

theorem daysInMonth_le {leap : Bool} {month : Nat}
    (within : 1 ≤ month ∧ month ≤ 12) :
    daysInMonth leap month ≤ 31 := by
  have table : ∀ leap : Bool, ∀ month < 12,
      daysInMonth leap (month + 1) ≤ 31 := by decide
  have bounded := table leap (month - 1) (by omega)
  rwa [Nat.sub_add_cancel within.1] at bounded

/-- December ends the year. -/
theorem daysBeforeMonth_december (year : Int) :
    daysBeforeMonth (isLeapYear year) 11 + daysInMonth (isLeapYear year) 12 =
      daysInYear year := by
  rw [daysInYear]
  cases isLeapYear year <;> rfl

theorem daysBeforeMonth_le (year : Int) {month : Nat} (within : month < 12) :
    0 ≤ daysBeforeMonth (isLeapYear year) month ∧
      daysBeforeMonth (isLeapYear year) month + daysInMonth (isLeapYear year)
        (month + 1) ≤
        daysInYear year := by
  have table : ∀ leap : Bool, ∀ month < 12, 0 ≤ daysBeforeMonth leap month ∧
      daysBeforeMonth leap month + daysInMonth leap (month + 1) ≤
        if leap then 366 else 365 := by decide
  rw [daysInYear]
  exact table (isLeapYear year) month within

def yearBlocks : Blocks Nat :=
  .consecutive (fun _ => True) (fun year => daysBeforeYear year) (fun year =>
    daysInYear year)
    (fun year => daysInYear_nonneg year) (fun within => within)
    (by
      intro year _
      rw [Int.natCast_succ]
      exact daysBeforeYear_succ year)

/-- The months of a year of either kind, January being 0. -/
def monthBlocks (leap : Bool) : Blocks Nat :=
  .consecutive (fun month => month < 12) (daysBeforeMonth leap)
    (fun month => daysInMonth leap (month + 1)) (fun _ => Int.natCast_nonneg _)
    (fun within => Nat.lt_of_succ_lt within) (fun within =>
      daysBeforeMonth_succ leap within)

namespace CivilTime

variable {first second : CivilTime}

theorem Valid.dayOfMonth {time : CivilTime} (valid : time.Valid) :
    (0 : Int) ≤ time.day - 1 ∧
      (time.day - 1 : Int) < daysInMonth time.leap (time.month - 1 + 1) := by
  have day := valid.day
  rw [Nat.sub_add_cancel valid.month.1]
  omega

theorem Valid.dayOfYear {time : CivilTime} (valid : time.Valid) :
    0 ≤ daysBeforeMonth time.leap (time.month - 1) + (time.day - 1) ∧
      daysBeforeMonth time.leap (time.month - 1) + (time.day - 1) <
        daysInYear time.year := by
  have month := valid.month
  have day := valid.dayOfMonth
  have within := daysBeforeMonth_le time.year
      (show time.month - 1 < 12 by omega)
  simp only [leap] at day ⊢
  omega

theorem Valid.clock_range {time : CivilTime} (valid : time.Valid) :
    0 ≤ time.clock ∧ time.clock < 86400000 := by
  have hour := valid.hour
  have minute := valid.minute
  have second := valid.second
  have millisecond := valid.millisecond
  simp only [clock]
  omega

/-- Days are ordered by year, month and day of the month. -/
theorem days_lt_iff (valid : first.Valid) (valid' : second.Valid) :
    first.days < second.days ↔
      first.year < second.year ∨ first.year = second.year ∧
        (first.month < second.month ∨ first.month = second.month ∧
          first.day < second.day) := by
  refine (yearBlocks.lt_iff trivial trivial valid.dayOfYear
    valid'.dayOfYear).trans ?_
  refine or_congr_right (and_congr_right fun sameYear => ?_)
  have sameKind : second.leap = first.leap := by rw [leap, leap, sameYear]
  have month := valid.month
  have month' := valid'.month
  have offset := valid'.dayOfMonth
  rw [sameKind] at offset ⊢
  refine ((monthBlocks first.leap).lt_iff (show first.month - 1 < 12 by omega)
    (show second.month - 1 < 12 by omega) valid.dayOfMonth offset).trans ?_
  omega

theorem days_eq_iff (valid : first.Valid) (valid' : second.Valid) :
    first.days = second.days ↔
      first.year = second.year ∧ first.month = second.month ∧
        first.day = second.day := by
  have forwards := days_lt_iff valid valid'
  have backwards := days_lt_iff valid' valid
  omega

theorem clock_lt_iff (valid : first.Valid) (valid' : second.Valid) :
    first.clock < second.clock ↔
      first.hour < second.hour ∨ first.hour = second.hour ∧
        (first.minute < second.minute ∨ first.minute = second.minute ∧
          (first.second < second.second ∨ first.second = second.second ∧
            first.millisecond < second.millisecond)) := by
  have minutes := And.intro valid.minute valid'.minute
  have seconds := And.intro valid.second valid'.second
  have milliseconds := And.intro valid.millisecond valid'.millisecond
  simp only [clock]
  omega

theorem lt_iff : first < second ↔
    first.year < second.year ∨ first.year = second.year ∧
      (first.month < second.month ∨ first.month = second.month ∧
        (first.day < second.day ∨ first.day = second.day ∧
          (first.hour < second.hour ∨ first.hour = second.hour ∧
            (first.minute < second.minute ∨ first.minute = second.minute ∧
              (first.second < second.second ∨ first.second = second.second ∧
                first.millisecond < second.millisecond))))) := by
  show first.fields < second.fields ↔ _
  simp [fields, List.cons_lt_cons_iff]

/-- The milliseconds since the epoch are ordered as the fields are. -/
theorem millis_lt_iff (valid : first.Valid) (valid' : second.Valid) :
    first.millis < second.millis ↔ first < second := by
  have dates := days_lt_iff valid valid'
  have sameDates := days_eq_iff valid valid'
  have clocks := clock_lt_iff valid valid'
  have range := valid.clock_range
  have range' := valid'.clock_range
  have ordered : first.millis < second.millis ↔
      first.days < second.days ∨ first.days = second.days ∧
      first.clock < second.clock := by
    simp only [millis]
    omega
  rw [ordered, dates, sameDates, clocks, lt_iff]
  simp only [and_or_left, and_assoc, or_assoc]

theorem millis_injective (valid : first.Valid) (valid' : second.Valid)
    (same : first.millis = second.millis) : first = second := by
  have forwards := (millis_lt_iff valid valid').not.mp same.not_lt
  have backwards := (millis_lt_iff valid' valid).not.mp same.not_gt
  rw [lt_iff] at forwards backwards
  cases first
  cases second
  simp only [CivilTime.mk.injEq] at forwards backwards ⊢
  omega

/-! The next millisecond, with its carries. -/

def next (time : CivilTime) : CivilTime :=
  if time.millisecond < 999 then
    { time with millisecond := time.millisecond + 1 }
  else if time.second < 59 then
    { time with second := time.second + 1, millisecond := 0 }
  else if time.minute < 59 then
    { time with minute := time.minute + 1, second := 0, millisecond := 0 }
  else if time.hour < 23 then
    { time with
      hour := time.hour + 1, minute := 0, second := 0, millisecond := 0 }
  else if time.day < daysInMonth time.leap time.month then
    ⟨time.year, time.month, time.day + 1, 0, 0, 0, 0⟩
  else if time.month < 12 then ⟨time.year, time.month + 1, 1, 0, 0, 0, 0⟩
  else ⟨time.year + 1, 1, 1, 0, 0, 0, 0⟩

theorem Valid.midnight {year month day : Nat} (late : 1970 ≤ year)
    (inYear : 1 ≤ month ∧ month ≤ 12)
    (inMonth : 1 ≤ day ∧ day ≤ daysInMonth (isLeapYear year) month) :
    Valid ⟨year, month, day, 0, 0, 0, 0⟩ :=
  ⟨late, inYear, inMonth, by simp, by simp, by simp, by simp⟩

theorem Valid.next {time : CivilTime} (valid : time.Valid) :
    time.next.Valid := by
  obtain ⟨year, month, day, hour, minute, second, millisecond⟩ := valid
  rw [CivilTime.next]
  split
  · exact ⟨year, month, day, hour, minute, second, by simp only; omega⟩
  split
  · exact ⟨year, month, day, hour, minute, by simp only; omega, by simp⟩
  split
  · exact ⟨year, month, day, hour, by simp only; omega, by simp, by simp⟩
  split
  · exact ⟨year, month, day, by simp only; omega, by simp, by simp, by simp⟩
  split
  case isTrue earlier => exact .midnight year month ⟨by omega, earlier⟩
  split
  · have following : 1 ≤ time.month + 1 ∧ time.month + 1 ≤ 12 := by omega
    exact .midnight year following ⟨le_rfl, daysInMonth_pos following⟩
  · exact .midnight (by omega) (by omega) ⟨le_rfl, daysInMonth_pos (by omega)⟩

/-- Midnight of the day after. -/
theorem millis_of_midnight {time : CivilTime} {year month day : Nat}
    (last : time.hour = 23 ∧ time.minute = 59 ∧ time.second = 59 ∧
      time.millisecond = 999)
    (following : (⟨year, month, day, 0, 0, 0, 0⟩ : CivilTime).days =
      time.days + 1) :
    (⟨year, month, day, 0, 0, 0, 0⟩ : CivilTime).millis = time.millis + 1 := by
  rw [millis, following]
  simp only [millis, clock]
  omega

theorem Valid.next_millis {time : CivilTime} (valid : time.Valid) :
    time.next.millis = time.millis + 1 := by
  have day := valid.day
  have month := valid.month
  have hour := valid.hour
  have minute := valid.minute
  have second := valid.second
  have millisecond := valid.millisecond
  rw [CivilTime.next]
  split
  · simp only [millis, days, leap, clock]
    omega
  split
  · simp only [millis, days, leap, clock]
    omega
  split
  · simp only [millis, days, leap, clock]
    omega
  split
  · simp only [millis, days, leap, clock]
    omega
  split
  · apply millis_of_midnight (by omega)
    simp only [days, leap]
    omega
  have ended : time.day = daysInMonth time.leap time.month := by omega
  split
  · apply millis_of_midnight (by omega)
    have start := daysBeforeMonth_succ time.leap
        (show time.month - 1 + 1 < 12 by omega)
    rw [Nat.sub_add_cancel month.1, ← ended] at start
    simp only [days, leap, Nat.add_sub_cancel] at start ⊢
    omega
  · apply millis_of_midnight (by omega)
    have december : time.month = 12 := by omega
    have length := daysBeforeMonth_december time.year
    have start := daysBeforeYear_succ time.year
    rw [december] at ended
    simp only [days, leap, december, Int.natCast_succ, Nat.sub_self,
      daysBeforeMonth_january, Nat.reduceSub] at ended ⊢
    omega

end CivilTime

end Farsounder
