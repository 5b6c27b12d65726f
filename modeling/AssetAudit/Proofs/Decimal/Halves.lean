import AssetAudit.Proofs.Decimal.Rounding
import Mathlib.Data.Rat.Cast.Order
import Mathlib.Tactic.Linarith

/-!
# Rounding to the nearest number

A rounded quotient lies no further than a half from the quotient, and at a half it is even. So no whole
number is nearer, and of two that are equally near it is the even one. Larger quotients are not rounded
to smaller numbers.
-/
namespace AssetAudit.Decimal

/-- No whole number is nearer to `x`, and of two that are equally near this one is even. -/
structure IsNearest (x : ℚ) (d : Int) : Prop where
  nearest : ∀ other : Int, |x - d| ≤ |x - other|
  even : ∀ other : Int, other ≠ d → |x - d| = |x - other| → d % 2 = 0

variable {num den : Nat}

/-- How far a rounded quotient can be from the quotient, times the denominator. -/
theorem roundDiv_near (hDen : 0 < den) (num : Nat) :
    2 * (roundDiv num den * den) ≤ 2 * num + den ∧ 2 * num ≤ 2 * (roundDiv num den * den) + den ∧
      (2 * (roundDiv num den * den) = 2 * num + den ∨ 2 * num = 2 * (roundDiv num den * den) + den →
        roundDiv num den % 2 = 0) := by
  have hSplit := Nat.div_add_mod num den
  have hRest := Nat.mod_lt num hDen
  have hNext : (num / den + 1) * den = den * (num / den) + den := by
    rw [Nat.add_mul, Nat.one_mul, Nat.mul_comm]
  have hSame : num / den * den = den * (num / den) := Nat.mul_comm _ _
  unfold roundDiv
  dsimp only
  split_ifs with hBelow hAbove hEven
  · omega
  · rw [hNext]
    omega
  · rw [hSame]
    omega
  · rw [hNext]
    omega

theorem roundDiv_mono (hDen : 0 < den) {num num' : Nat} (h : num ≤ num') :
    roundDiv num den ≤ roundDiv num' den := by
  rcases Nat.lt_or_eq_of_le (Nat.div_le_div_right (c := den) h) with hLess | hSame
  · have hFirst : roundDiv num den ≤ num / den + 1 :=
      roundDiv_le (by rw [Nat.mul_comm]; exact (Nat.lt_mul_div_succ num hDen).le) hDen
    have hSecond : num' / den ≤ roundDiv num' den := le_roundDiv (Nat.div_mul_le_self num' den) hDen
    omega
  · have hSplit := Nat.div_add_mod num den
    have hSplit' := Nat.div_add_mod num' den
    rw [hSame] at hSplit
    unfold roundDiv
    dsimp only
    rw [hSame]
    split_ifs <;> omega

theorem abs_sub_roundDiv_le (hDen : 0 < den) (num : Nat) :
    |(num / den : ℚ) - roundDiv num den| ≤ 1 / 2 := by
  obtain ⟨hAbove, hBelow, -⟩ := roundDiv_near hDen num
  have hPos : (0 : ℚ) < den := by exact_mod_cast hDen
  have hAbove : 2 * ((roundDiv num den : ℚ) * den) ≤ 2 * num + den := by exact_mod_cast hAbove
  have hBelow : 2 * (num : ℚ) ≤ 2 * (roundDiv num den * den) + den := by exact_mod_cast hBelow
  rw [abs_le]
  constructor
  · rw [le_sub_iff_add_le, le_div_iff₀ hPos]
    linarith
  · rw [sub_le_iff_le_add, div_le_iff₀ hPos]
    linarith

theorem roundDiv_even_of_half (hDen : 0 < den)
    (h : |(num / den : ℚ) - roundDiv num den| = 1 / 2) : roundDiv num den % 2 = 0 := by
  have hSome : (den : ℚ) ≠ 0 := by exact_mod_cast hDen.ne'
  apply (roundDiv_near hDen num).2.2
  rcases (abs_eq (by norm_num)).mp h with hBelow | hAbove
  · right
    rw [sub_eq_iff_eq_add, div_eq_iff hSome] at hBelow
    have hCast : 2 * (num : ℚ) = 2 * (roundDiv num den * den) + den := by linarith
    exact_mod_cast hCast
  · left
    rw [sub_eq_iff_eq_add, div_eq_iff hSome] at hAbove
    have hCast : 2 * ((roundDiv num den : ℚ) * den) = 2 * num + den := by linarith
    exact_mod_cast hCast

/-- A quotient is rounded to the nearest number, a half to the even one. -/
theorem isNearest_roundDiv (hDen : 0 < den) (num : Nat) :
    IsNearest (num / den) (roundDiv num den) := by
  have hHalf := abs_sub_roundDiv_le hDen num
  -- another whole number is at least one away, so that it is no nearer than a half
  have hApart : ∀ other : Int, other ≠ roundDiv num den →
      1 ≤ |(num / den : ℚ) - roundDiv num den| + |(num / den : ℚ) - other| := by
    intro other hOther
    have hWhole : 1 ≤ |(roundDiv num den : Int) - other| :=
      Int.one_le_abs (sub_ne_zero.mpr hOther.symm)
    have hCast : (1 : ℚ) ≤ |(roundDiv num den : ℚ) - other| := by exact_mod_cast hWhole
    calc (1 : ℚ) ≤ |(roundDiv num den : ℚ) - other| := hCast
      _ ≤ |(roundDiv num den : ℚ) - num / den| + |(num / den : ℚ) - other| := abs_sub_le _ _ _
      _ = _ := by rw [abs_sub_comm]
  constructor
  · intro other
    rw [Int.cast_natCast]
    by_cases hOther : other = roundDiv num den
    · rw [hOther, Int.cast_natCast]
    · have hFar := hApart other hOther
      linarith
  · intro other hOther hEqual
    rw [Int.cast_natCast] at hEqual
    have hFar := hApart other hOther
    rw [← hEqual] at hFar
    have hEven := roundDiv_even_of_half hDen (le_antisymm hHalf (by linarith))
    exact_mod_cast hEven

end AssetAudit.Decimal
