import Mathlib.Data.List.TakeWhile
import Mathlib.Data.NNRat.Defs
import Mathlib.Data.Rat.Floor
import Mathlib.Tactic.FieldSimp
import Mathlib.Tactic.Linarith
import Mathlib.Tactic.Ring

namespace Farsounder.Data.Decimal

/-! Rounding to an integer. -/

/-- The nearest integer; of two that are equally near, the even one. -/
def halfEven (value : Rat) : Int :=
  if value - ⌊value⌋ < 1 / 2 then ⌊value⌋
  else if 1 / 2 < value - ⌊value⌋ then ⌊value⌋ + 1
  else if ⌊value⌋ % 2 = 0 then ⌊value⌋
  else ⌊value⌋ + 1

theorem abs_halfEven_sub (value : Rat) :
    |(halfEven value : Rat) - value| ≤ 1 / 2 := by
  have below := Int.floor_le value
  have above := Int.lt_floor_add_one value
  unfold halfEven
  rw [abs_le]
  split
  · constructor <;> linarith
  · split
    · push_cast
      constructor <;> linarith
    · have tie : value - ⌊value⌋ = 1 / 2 := by linarith
      split
      · constructor <;> linarith
      · push_cast
        constructor <;> linarith

theorem natAbs_halfEven_le {value : Rat} {bound : Nat}
    (small : |value| ≤ bound) :
    (halfEven value).natAbs ≤ bound := by
  have close := abs_le.mp (abs_halfEven_sub value)
  have bounds := abs_le.mp small
  have upper : (halfEven value : Rat) < (bound + 1 : Int) := by
    push_cast
    linarith
  have lower : ((-(bound + 1) : Int) : Rat) < halfEven value := by
    push_cast
    linarith
  have upper := Int.cast_lt.mp upper
  have lower := Int.cast_lt.mp lower
  omega

/-- No integer is nearer. -/
theorem abs_halfEven_sub_le (value : Rat) (other : Int) :
    |(halfEven value : Rat) - value| ≤ |(other : Rat) - value| := by
  by_cases same : other = halfEven value
  · rw [same]
  · have close := abs_halfEven_sub value
    have apart : (1 : Rat) ≤ |(other : Rat) - halfEven value| := by
      have distinct : (1 : Int) ≤ |other - halfEven value| :=
        Int.one_le_abs (sub_ne_zero.mpr same)
      exact_mod_cast distinct
    have around := abs_sub_le (other : Rat) value (halfEven value)
    rw [abs_sub_comm value] at around
    linarith

theorem halfEven_nonneg {value : Rat} (nonneg : 0 ≤ value) :
    0 ≤ halfEven value := by
  have floored : 0 ≤ ⌊value⌋ := Int.floor_nonneg.mpr nonneg
  unfold halfEven
  split
  · exact floored
  · split
    · omega
    · split <;> omega

/-! Digits. -/

/-- The digits of a number, with as many zeros before them as make up `count`
characters. -/
def padded (count value : Nat) : List Char :=
  List.replicate (count - (Nat.toDigits 10 value).length) '0' ++
    Nat.toDigits 10 value

theorem length_padded {count value : Nat} (positive : 0 < count)
    (bounded : value < 10 ^ count) :
    (padded count value).length = count := by
  have fits := (Nat.length_toDigits_le_iff (by decide) positive).mpr bounded
  rw [padded, List.length_append, List.length_replicate]
  omega

theorem ofDigitChars_padded (count value : Nat) :
    Nat.ofDigitChars 10 (padded count value) 0 = value := by
  rw [padded, Nat.ofDigitChars_append, Nat.ofDigitChars_replicate_zero,
    Nat.mul_zero, Nat.ofDigitChars_ten_toDigits]

theorem isDigit_of_mem_padded {count value : Nat} {digit : Char}
    (member : digit ∈ padded count value) : digit.isDigit := by
  cases List.mem_append.mp member with
  | inl zero =>
      rw [List.eq_of_mem_replicate zero]
      rfl
  | inr digit => exact Nat.isDigit_of_mem_toDigits (by decide) (by decide) digit

/-! Decimal notation, and what it denotes. -/

/-- A sequence of digits. -/
def readNat (text : List Char) : Option Nat :=
  if !text.isEmpty && text.all Char.isDigit then
    some (Nat.ofDigitChars 10 text 0) else none

/-- A sequence of digits, and perhaps a point and another one. -/
def readUnsigned (text : List Char) : Option Rat :=
  match text.dropWhile (· ≠ '.') with
  | [] => (readNat text).map fun (whole : Nat) => (whole : Rat)
  | _ :: fraction => do
      let whole ← readNat (text.takeWhile (· ≠ '.'))
      let units ← readNat fraction
      some ((whole : Rat) + units / 10 ^ fraction.length)

def read (text : String) : Option Rat :=
  match text.toList with
  | '-' :: rest => (readUnsigned rest).map (- ·)
  | rest => readUnsigned rest

/-- The notation with `places` digits after the point.  The sign is printed
apart: it is the magnitude that is rounded, and zero has a sign too. -/
def fixedPoint (places : Nat) (negative : Bool) (magnitude : ℚ≥0) : String :=
  let units := (halfEven (magnitude * 10 ^ places)).toNat
  .ofList ((if negative then ['-'] else []) ++
    (Nat.toDigits 10 (units / 10 ^ places) ++
      '.' :: padded places (units % 10 ^ places)))

theorem readNat_digits {text : List Char} (nonempty : text ≠ [])
    (digits : ∀ digit ∈ text, digit.isDigit) :
    readNat text = some (Nat.ofDigitChars 10 text 0) := by
  apply if_pos
  rw [Bool.and_eq_true, Bool.not_eq_true', List.isEmpty_eq_false_iff,
    List.all_eq_true]
  exact ⟨nonempty, digits⟩

theorem readNat_toDigits (value : Nat) :
    readNat (Nat.toDigits 10 value) = some value := by
  have digits : ∀ digit ∈ Nat.toDigits 10 value, digit.isDigit :=
    fun _ member =>
    Nat.isDigit_of_mem_toDigits (by decide) (by decide) member
  rw [readNat_digits Nat.toDigits_ne_nil digits, Nat.ofDigitChars_ten_toDigits]

theorem readNat_padded {count value : Nat} (positive : 0 < count)
    (bounded : value < 10 ^ count) :
    readNat (padded count value) = some value := by
  have nonempty : padded count value ≠ [] := by
    apply List.ne_nil_of_length_pos
    rwa [length_padded positive bounded]
  rw [readNat_digits nonempty fun _ => isDigit_of_mem_padded,
    ofDigitChars_padded]

theorem digit_ne_point {value : Nat} {digit : Char}
    (member : digit ∈ Nat.toDigits 10 value) :
    decide (digit ≠ '.') = true := by
  have isDigit := Nat.isDigit_of_mem_toDigits (by decide) (by decide) member
  apply decide_eq_true
  intro point
  rw [point] at isDigit
  contradiction

theorem readUnsigned_toDigits (value : Nat) :
    readUnsigned (Nat.toDigits 10 value) = some (value : Rat) := by
  have pointless : (Nat.toDigits 10 value).dropWhile (· ≠ '.') = [] :=
    List.dropWhile_eq_nil_iff.mpr fun _ => digit_ne_point
  rw [readUnsigned, pointless, readNat_toDigits]
  rfl

theorem readUnsigned_point {places units : Nat} (whole : Nat)
    (positive : 0 < places) (bounded : units < 10 ^ places) :
    readUnsigned (Nat.toDigits 10 whole ++ '.' :: padded places units) =
      some ((whole : Rat) + units / 10 ^ places) := by
  have rest :
      (Nat.toDigits 10 whole ++ '.' :: padded places units).dropWhile
      (· ≠ '.') =
      '.' :: padded places units := by
    rw [List.dropWhile_append_of_pos fun _ => digit_ne_point]
    rfl
  have first :
      (Nat.toDigits 10 whole ++ '.' :: padded places units).takeWhile
      (· ≠ '.') =
      Nat.toDigits 10 whole := by
    rw [List.takeWhile_append_of_pos fun _ => digit_ne_point]
    exact List.append_nil _
  simp only [readUnsigned, rest, first, readNat_toDigits,
    readNat_padded positive bounded, length_padded positive bounded,
    Option.bind_eq_bind, Option.bind_some]

theorem read_minus (text : List Char) :
    read (.ofList ('-' :: text)) = (readUnsigned text).map (- ·) := by
  rw [read, String.toList_ofList]
  rfl

theorem read_digits (value : Nat) (rest : List Char) :
    read (.ofList (Nat.toDigits 10 value ++ rest)) =
      readUnsigned (Nat.toDigits 10 value ++ rest) := by
  cases digits : Nat.toDigits 10 value with
  | nil => exact absurd digits Nat.toDigits_ne_nil
  | cons first later =>
      have isDigit : first.isDigit :=
        Nat.isDigit_of_mem_toDigits (by decide) (by decide)
        (digits ▸ List.mem_cons_self)
      rw [read, String.toList_ofList]
      split
      · rename_i minus
        obtain ⟨rfl, _⟩ := List.cons.inj minus
        contradiction
      · rfl

/-- An integer is printed without a point. -/
theorem read_int (value : Int) :
    read (toString value) = some (value : Rat) := by
  cases value with
  | ofNat value =>
      have printed : toString (Int.ofNat value) =
          .ofList (Nat.toDigits 10 value ++ []) := by
        rw [List.append_nil]
        rfl
      rw [printed, read_digits, List.append_nil, readUnsigned_toDigits]
      simp
  | negSucc value =>
      have printed : toString (Int.negSucc value) =
          .ofList ('-' :: Nat.toDigits 10 (value + 1)) := by
        rw [← List.singleton_append, String.ofList_append]
        rfl
      rw [printed, read_minus, readUnsigned_toDigits]
      simp [Int.negSucc_eq]

theorem toString_injective : Function.Injective (toString : Int → String) := by
  intro first second printed
  have value := read_int first
  rw [printed, read_int] at value
  exact (Int.cast_injective (Option.some.inj value)).symm

theorem readUnsigned_units {places : Nat} (units : Nat)
    (positive : 0 < places) :
    readUnsigned (Nat.toDigits 10 (units / 10 ^ places) ++
      '.' :: padded places (units % 10 ^ places)) =
        some ((units : Rat) / 10 ^ places) := by
  have scale : (10 ^ places : Rat) ≠ 0 := by positivity
  rw [readUnsigned_point _ positive (Nat.mod_lt _ (by positivity))]
  refine congrArg some ?_
  have divided : ((units / 10 ^ places : Nat) : Rat) * 10 ^ places +
      ((units % 10 ^ places : Nat) : Rat) = units := by
    exact_mod_cast Nat.div_add_mod' units (10 ^ places)
  rw [← divided, add_div, mul_div_cancel_right₀ _ scale]

/-- A number in fixed-point notation is the nearest one that has so many
places. -/
theorem read_fixedPoint {places : Nat} (positive : 0 < places) (negative : Bool)
    (magnitude : ℚ≥0) :
    ∃ units : Int,
      |(units : Rat) - (if negative then -magnitude else magnitude : Rat) *
        10 ^ places| ≤ 1 / 2 ∧
      read (fixedPoint places negative magnitude) =
        some ((units : Rat) / 10 ^ places) := by
  have nonneg : (0 : Rat) ≤ magnitude * 10 ^ places :=
    mul_nonneg magnitude.coe_nonneg (by positivity)
  obtain ⟨units, rounded⟩ := Int.eq_ofNat_of_zero_le (halfEven_nonneg nonneg)
  have close := abs_halfEven_sub ((magnitude : Rat) * 10 ^ places)
  rw [rounded, Int.cast_natCast] at close
  simp only [fixedPoint, rounded, Int.toNat_natCast]
  cases negative with
  | true =>
      refine ⟨-units, ?_, ?_⟩
      · rw [if_pos rfl, ← abs_neg]
        push_cast
        convert close using 2
        ring
      · rw [if_pos rfl, List.singleton_append, read_minus,
          readUnsigned_units units positive, Option.map_some, ← neg_div]
        push_cast
        rfl
  | false =>
      refine ⟨units, close, ?_⟩
      rw [if_neg (by decide), List.nil_append, read_digits,
        readUnsigned_units units positive, Int.cast_natCast]

end Farsounder.Data.Decimal
