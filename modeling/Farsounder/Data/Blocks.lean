import Mathlib.Data.Nat.Basic
import Mathlib.Order.Lattice

namespace Farsounder.Data

universe u

/-! Blocks of consecutive integers, numbered in the order in which they lie. -/

structure Blocks (ι : Type u) [LinearOrder ι] where
  inside : ι → Prop
  start : ι → Int
  length : ι → Int
  apart : ∀ {first second}, inside first → inside second → first < second →
    start first + length first ≤ start second

namespace Blocks

/-- Blocks laid end to end, each starting where the one before it ends. -/
def consecutive (inside : Nat → Prop) (start length : Nat → Int)
    (nonnegative : ∀ index, 0 ≤ length index)
    (closed : ∀ {index}, inside (index + 1) → inside index)
    (next : ∀ {index}, inside (index + 1) →
      start (index + 1) = start index + length index) :
    Blocks Nat where
  inside := inside
  start := start
  length := length
  apart := by
    intro first second _ within before
    induction before with
    | refl => exact Int.le_of_eq (next within).symm
    | @step middle _ induction =>
        have earlier := induction (closed within)
        have onwards : start middle.succ = start middle + length middle :=
          next within
        have long := nonnegative middle
        omega

section Offsets

variable {ι : Type u} [LinearOrder ι] (blocks : Blocks ι) {first second : ι}
  {low high : Int}

/-- A place in one block comes before a place in another exactly if its block
does, or the blocks are the same and its offset is smaller. -/
theorem lt_iff (within : blocks.inside first) (within' : blocks.inside second)
    (offset : 0 ≤ low ∧ low < blocks.length first)
    (offset' : 0 ≤ high ∧ high < blocks.length second) :
    blocks.start first + low < blocks.start second + high ↔
      first < second ∨ first = second ∧ low < high := by
  rcases lt_trichotomy first second with before | rfl | after
  · have apart := blocks.apart within within' before
    exact iff_of_true (by omega) (.inl before)
  · simp
  · have apart := blocks.apart within' within after
    apply iff_of_false
    · omega
    · rintro (before | ⟨same, _⟩)
      · exact lt_asymm before after
      · exact ne_of_gt after same

end Offsets

end Blocks

end Farsounder.Data
