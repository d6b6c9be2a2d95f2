import Mathlib.Algebra.Ring.Int.Defs
import Mathlib.Algebra.Ring.Nat

namespace Farsounder.Data.Words

/-! Conversions to 32-bit integers, and where they keep the value. -/

theorem uint32_toInt32 (word : UInt32) :
    word.toInt32.toInt = (word.toNat : Int).bmod (2 ^ 32) := by
  rw [← Int32.toInt_toBitVec, UInt32.toBitVec_toInt32,
    BitVec.toInt_eq_toNat_bmod]
  rfl

theorem uint64_toInt32 (word : UInt64) :
    word.toUInt32.toInt32.toInt = (word.toNat : Int).bmod (2 ^ 32) := by
  rw [uint32_toInt32, UInt64.toNat_toUInt32, Int.natCast_emod]
  exact Int.emod_bmod _ _

theorem bmod_exact_iff {value : Int} :
    value.bmod (2 ^ 32) = value ↔ -2 ^ 31 ≤ value ∧ value < 2 ^ 31 := by
  rw [Int.bmod_def]
  split <;> omega

theorem uint32_toInt32_exact_iff {word : UInt32} :
    word.toInt32.toInt = word.toNat ↔ word.toNat < 2 ^ 31 := by
  rw [uint32_toInt32, bmod_exact_iff]
  omega

theorem sub_exact {word base : Int32} (low : -2 ^ 31 ≤ word.toInt - base.toInt)
    (high : word.toInt - base.toInt < 2 ^ 31) :
    (word - base).toInt = word.toInt - base.toInt := by
  rw [Int32.toInt_sub]
  exact bmod_exact_iff.mpr ⟨low, high⟩

theorem toInt_ofInt_exact {value : Int} (low : -2 ^ 31 ≤ value)
    (high : value < 2 ^ 31) :
    (Int32.ofInt value).toInt = value := by
  rw [Int32.toInt_ofInt]
  exact bmod_exact_iff.mpr ⟨low, high⟩

theorem int32_range (word : Int32) :
    -2 ^ 31 ≤ word.toInt ∧ word.toInt < 2 ^ 31 :=
  ⟨word.le_toInt, word.toInt_lt⟩

/-- Sign extension keeps the low word. -/
@[simp] theorem toInt32_signExtend (word : Int32) :
    word.toInt64.toUInt64.toUInt32.toInt32 = word := by
  rw [← Int32.toBitVec_inj]
  simp only [Int32.toBitVec_toInt64, UInt32.toBitVec_toInt32,
    UInt64.toBitVec_toUInt32, Int64.toBitVec_toUInt64]
  ext index bounded
  have bounded' : index < 64 := by omega
  simp [BitVec.getElem_signExtend, bounded, bounded']

end Farsounder.Data.Words
