import AssetAudit.Decimal.Binary
import AssetAudit.FileSize
import Mathlib.Data.Nat.Log

/-!
# How far rounding goes

A rounded quotient stays between the whole numbers around it, and a half below an even number is
rounded up to it. A number with few enough digits stays as it is, and any other is rounded to a power of
two or beyond as soon as it comes within half a unit of it. This is how large a size may be and still have
a text.
-/
namespace AssetAudit

namespace Decimal

variable {num den k : Nat}

theorem roundDiv_le (h : num ≤ k * den) (hDen : 0 < den) : roundDiv num den ≤ k := by
  have hLow : num / den ≤ k := Nat.div_le_of_le_mul (by rwa [Nat.mul_comm])
  have hSplit := Nat.div_add_mod num den
  rcases Nat.lt_or_eq_of_le hLow with hLess | hEq
  · unfold roundDiv
    dsimp only
    split_ifs <;> omega
  · have hExact : num % den = 0 := by
      rw [hEq, Nat.mul_comm] at hSplit
      omega
    unfold roundDiv
    rw [hExact, if_pos (by omega)]
    exact hLow

theorem le_roundDiv (h : k * den ≤ num) (hDen : 0 < den) : k ≤ roundDiv num den := by
  have hLow : k ≤ num / den := (Nat.le_div_iff_mul_le hDen).mpr h
  unfold roundDiv
  dsimp only
  split_ifs <;> omega

/-- A quotient is rounded to an even number or beyond when it is at most a half below it. -/
theorem le_roundDiv_iff_of_even (hEven : k % 2 = 0) (hDen : 0 < den) :
    k ≤ roundDiv num den ↔ 2 * (k * den) ≤ 2 * num + den := by
  have hSplit := Nat.div_add_mod num den
  have hRest := Nat.mod_lt num hDen
  rcases Nat.lt_trichotomy k (num / den + 1) with hLess | hNext | hMore
  · have hBelow : k * den ≤ num := (Nat.le_div_iff_mul_le hDen).mp (by omega)
    exact iff_of_true (le_roundDiv hBelow hDen) (by omega)
  · have hProduct : k * den = den * (num / den) + den := by
      rw [hNext, Nat.add_mul, Nat.one_mul, Nat.mul_comm]
    have hOdd : ¬num / den % 2 = 0 := by omega
    rw [hProduct, hNext]
    unfold roundDiv
    dsimp only
    split_ifs <;> omega
  · have hAbove : (num / den + 2) * den ≤ k * den := Nat.mul_le_mul_right den hMore
    rw [Nat.add_mul, Nat.mul_comm] at hAbove
    have hRounded : roundDiv num den ≤ num / den + 1 := by
      unfold roundDiv
      dsimp only
      split_ifs <;> omega
    exact iff_of_false (by omega) (by omega)

variable {digits n : Nat}

theorem roundBinary_le (n : Nat) : roundBinary digits n ≤ Nat.pow 2 (Nat.log2 n + 1) := by
  change roundBinary digits n ≤ 2 ^ (Nat.log2 n + 1)
  have hUnit : 0 < 2 ^ (Nat.log2 n + 1 - digits) := Nat.two_pow_pos _
  have hPower : 2 ^ (Nat.log2 n + 1) =
      2 ^ (Nat.log2 n + 1 - (Nat.log2 n + 1 - digits)) * 2 ^ (Nat.log2 n + 1 - digits) := by
    rw [← Nat.pow_add]
    congr 1
    omega
  have hBelow : n ≤ 2 ^ (Nat.log2 n + 1) := Nat.le_of_lt Nat.lt_log2_self
  rw [hPower] at hBelow ⊢
  exact Nat.mul_le_mul_right _ (roundDiv_le hBelow hUnit)

theorem le_roundBinary (hDigits : 0 < digits) (hn : n ≠ 0) :
    Nat.pow 2 (Nat.log2 n) ≤ roundBinary digits n := by
  change 2 ^ Nat.log2 n ≤ roundBinary digits n
  have hUnit : 0 < 2 ^ (Nat.log2 n + 1 - digits) := Nat.two_pow_pos _
  have hPower : 2 ^ Nat.log2 n =
      2 ^ (Nat.log2 n - (Nat.log2 n + 1 - digits)) * 2 ^ (Nat.log2 n + 1 - digits) := by
    rw [← Nat.pow_add]
    congr 1
    omega
  have hAbove : 2 ^ Nat.log2 n ≤ n := Nat.log2_self_le hn
  rw [hPower] at hAbove ⊢
  exact Nat.mul_le_mul_right _ (le_roundDiv hAbove hUnit)

theorem roundBinary_of_lt (hDigits : 0 < digits) (h : n < Nat.pow 2 digits) :
    roundBinary digits n = n := by
  have hUnit : Nat.log2 n + 1 - digits = 0 := by
    rcases Nat.eq_zero_or_pos n with rfl | hPos
    · exact Nat.sub_eq_zero_of_le hDigits
    · have hLog := (Nat.log2_lt hPos.ne').mpr h
      omega
  have hWhole : roundDiv n 1 = n :=
    Nat.le_antisymm (roundDiv_le (Nat.mul_one n).ge Nat.one_pos) (le_roundDiv (Nat.mul_one n).le Nat.one_pos)
  unfold roundBinary
  rw [hUnit]
  exact (Nat.mul_one _).trans hWhole

/-- The least number that is rounded to a power of two or beyond: half a unit below it. -/
def leastReaching (digits e : Nat) : Nat :=
  Nat.pow 2 e - Nat.pow 2 (e - digits - 1)

theorem two_pow_le_roundBinary_iff {e : Nat} (hDigits : 0 < digits) (he : digits < e) :
    Nat.pow 2 e ≤ roundBinary digits n ↔ leastReaching digits e ≤ n := by
  change 2 ^ e ≤ roundBinary digits n ↔ 2 ^ e - 2 ^ (e - digits - 1) ≤ n
  have hHalf : 2 ^ (e - digits) = 2 * 2 ^ (e - digits - 1) := by
    rw [← Nat.pow_succ']
    congr 1
    omega
  have hSmall : 2 * 2 ^ (e - digits - 1) ≤ 2 ^ (e - 1) := by
    rw [← Nat.pow_succ']
    exact Nat.pow_le_pow_right (by decide) (by omega)
  have hDouble : 2 ^ e = 2 * 2 ^ (e - 1) := by
    rw [← Nat.pow_succ']
    congr 1
    omega
  have hSome : 0 < 2 ^ (e - digits - 1) := Nat.two_pow_pos _
  have hBelow : n < 2 ^ (Nat.log2 n + 1) := Nat.lt_log2_self
  rcases Nat.lt_trichotomy (Nat.log2 n + 1) e with hShort | hLong | hLonger
  · have hPower : 2 ^ (Nat.log2 n + 1) ≤ 2 ^ (e - 1) :=
      Nat.pow_le_pow_right (by decide) (by omega)
    have hRounded : roundBinary digits n ≤ 2 ^ (Nat.log2 n + 1) := roundBinary_le n
    exact iff_of_false (by omega) (by omega)
  · have hUnit : 0 < 2 ^ (e - digits) := Nat.two_pow_pos _
    have hProduct : 2 ^ e = 2 ^ digits * 2 ^ (e - digits) := by
      rw [← Nat.pow_add]
      congr 1
      omega
    have hEven : 2 ^ digits % 2 = 0 := by
      obtain ⟨d, rfl⟩ := Nat.exists_eq_succ_of_ne_zero hDigits.ne'
      rw [Nat.pow_succ]
      exact Nat.mul_mod_left _ _
    have hRounded : roundBinary digits n = roundDiv n (2 ^ (e - digits)) * 2 ^ (e - digits) := by
      unfold roundBinary
      rw [hLong]
      rfl
    rw [hRounded, hProduct, Nat.mul_le_mul_right_iff hUnit,
      le_roundDiv_iff_of_even hEven hUnit, ← hProduct]
    omega
  · have hn : n ≠ 0 := by
      rintro rfl
      have hZero : Nat.log2 0 = 0 := by decide
      omega
    have hPower : 2 ^ e ≤ 2 ^ Nat.log2 n := Nat.pow_le_pow_right (by decide) (by omega)
    have hRounded : 2 ^ Nat.log2 n ≤ roundBinary digits n := le_roundBinary hDigits hn
    have hAtLeast : 2 ^ Nat.log2 n ≤ n := Nat.log2_self_le hn
    exact iff_of_true (by omega) (by omega)

end Decimal

namespace FileSize

/-- The least number of bytes that is beyond the range of floating-point numbers. -/
def beyond : Nat :=
  Decimal.leastReaching 53 1024

theorem leastReaching_pos {e : Nat} (h : 53 < e) : 0 < Decimal.leastReaching 53 e :=
  Nat.sub_pos_of_lt (Nat.pow_lt_pow_right (by decide) (by omega))

/-- A size has no text when it is beyond the floating-point numbers. -/
theorem format?_eq_none_iff (bytes : Int) : format? bytes = none ↔ (beyond : Int) ≤ bytes := by
  have hPos : 0 < beyond := leastReaching_pos (by decide)
  have hChoice : ∀ (e n : Nat) (text : Text), 53 < e →
      ((if Nat.pow 2 e ≤ Decimal.roundBinary 53 n then none else some text) = none ↔
        Decimal.leastReaching 53 e ≤ n) := by
    intro e n text he
    rw [← Decimal.two_pow_le_roundBinary_iff (by decide) he]
    split <;> simp_all
  cases bytes with
  | negSucc n => exact iff_of_false nofun (by omega)
  | ofNat n =>
    rw [Int.ofNat_eq_natCast, Int.ofNat_le]
    cases n with
    | zero => exact iff_of_false nofun (by omega)
    | succ n =>
      have hWide : 53 < 1024 := by decide
      unfold format? beyond
      dsimp only
      -- with a variable for the limit the power itself is never computed
      generalize 1024 = e at hWide ⊢
      exact hChoice e (n + 1) _ hWide

end FileSize

end AssetAudit
