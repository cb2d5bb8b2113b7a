import Mathlib.Algebra.Order.Floor.Semiring
import Mathlib.Data.List.GetD
import Mathlib.Tactic.Linarith

/-!
# Interpolation — a list read at fractional positions

`interpolate l x` is the value at position `x` of the curve that is linear between
the elements of `l`. On an ascending list the curve ascends (`interpolate_mono`),
and it begins and ends with the elements of the list.
-/

namespace Interpolation

/-- Reading an ascending list in order. -/
theorem getD_le_getD {α : Type} [Preorder α] {l : List α} {d : α} (hl : l.Pairwise (· ≤ ·))
    {i j : Nat} (hij : i ≤ j) (hj : j < l.length) : l.getD i d ≤ l.getD j d := by
  rw [List.getD_eq_getElem l d (Nat.lt_of_le_of_lt hij hj), List.getD_eq_getElem l d hj]
  rcases Nat.eq_or_lt_of_le hij with rfl | hlt
  · exact le_refl _
  · exact List.pairwise_iff_getElem.mp hl i j _ hj hlt

variable {K : Type} [Field K] [LinearOrder K] [IsStrictOrderedRing K] [FloorSemiring K]

/-- The value at position `x`, between the elements `⌊x⌋` and `⌊x⌋ + 1`. -/
def interpolate (l : List K) (x : K) : K :=
  l.getD ⌊x⌋₊ 0 + (x - ⌊x⌋₊) * (l.getD (⌊x⌋₊ + 1) 0 - l.getD ⌊x⌋₊ 0)

theorem interpolate_natCast (l : List K) (k : Nat) : interpolate l (k : K) = l.getD k 0 := by
  rw [interpolate, Nat.floor_natCast, sub_self, zero_mul, add_zero]

variable {l : List K}

/-- The curve lies between the neighbours of a position. -/
theorem interpolate_between (hl : l.Pairwise (· ≤ ·)) {x : K} (hx : 0 ≤ x)
    (hlt : ⌊x⌋₊ + 1 < l.length) :
    l.getD ⌊x⌋₊ 0 ≤ interpolate l x ∧ interpolate l x ≤ l.getD (⌊x⌋₊ + 1) 0 := by
  have hstep : 0 ≤ l.getD (⌊x⌋₊ + 1) 0 - l.getD ⌊x⌋₊ 0 :=
    sub_nonneg.mpr (getD_le_getD hl (Nat.le_succ _) hlt)
  have hfrac : 0 ≤ x - ⌊x⌋₊ := sub_nonneg.mpr (Nat.floor_le hx)
  have hone : x - ⌊x⌋₊ ≤ 1 := by
    have := Nat.lt_floor_add_one x
    linarith
  constructor
  · have := mul_nonneg hfrac hstep
    rw [interpolate]
    linarith
  · have := mul_le_mul_of_nonneg_right hone hstep
    rw [one_mul] at this
    rw [interpolate]
    linarith

/-- An ascending list makes an ascending curve. -/
theorem interpolate_mono (hl : l.Pairwise (· ≤ ·)) {x y : K} (hx : 0 ≤ x) (hxy : x ≤ y)
    (hy : y ≤ (l.length - 1 : Nat)) (hne : l ≠ []) : interpolate l x ≤ interpolate l y := by
  have hpos : 0 < l.length := List.length_pos_iff.mpr hne
  have hy0 : 0 ≤ y := le_trans hx hxy
  have hfloor : ⌊y⌋₊ ≤ l.length - 1 := Nat.floor_le_of_le hy
  rcases Nat.eq_or_lt_of_le (Nat.floor_le_floor hxy) with heq | hlt
  · rcases Nat.eq_or_lt_of_le hfloor with hlast | hinner
    · -- both positions are that of the last element
      have hyx : y ≤ x := by
        rw [← hlast, ← heq] at hy
        exact le_trans hy (Nat.floor_le hx)
      rw [le_antisymm hxy hyx]
    · have hstep : 0 ≤ l.getD (⌊y⌋₊ + 1) 0 - l.getD ⌊y⌋₊ 0 :=
        sub_nonneg.mpr (getD_le_getD hl (Nat.le_succ _) (by omega))
      have hmul := mul_le_mul_of_nonneg_right (sub_le_sub_right hxy (⌊y⌋₊ : K)) hstep
      rw [interpolate, interpolate, heq]
      linarith
  · have hupper := (interpolate_between hl hx (by omega)).2
    have hmiddle : l.getD (⌊x⌋₊ + 1) 0 ≤ l.getD ⌊y⌋₊ 0 := getD_le_getD hl hlt (by omega)
    have hlower : l.getD ⌊y⌋₊ 0 ≤ interpolate l y := by
      rcases Nat.eq_or_lt_of_le hfloor with hlast | hinner
      · have heq : y = (⌊y⌋₊ : K) := by
          refine le_antisymm ?_ (Nat.floor_le hy0)
          rw [hlast]
          exact hy
        conv_rhs => rw [heq]
        rw [interpolate_natCast]
      · exact (interpolate_between hl hy0 (by omega)).1
    exact le_trans hupper (le_trans hmiddle hlower)

end Interpolation
