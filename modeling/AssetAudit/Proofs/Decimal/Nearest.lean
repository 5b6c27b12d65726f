import AssetAudit.Decimal.Binary
import AssetAudit.Proofs.Text.Digits
import Mathlib.Tactic.FieldSimp
import Mathlib.Tactic.Ring

/-!
# The nearest floating-point number

A floating-point number is a mantissa on a grid: the least grid takes every mantissa of up to 53 binary
digits, the others only those of exactly 53. A quotient that lies no further from it than half a unit of
its grid, or a quarter below a power of two, is read as it. The parts of a number determine its bits, and
a number that has been read is never no number.
-/
namespace AssetAudit.Decimal

/-- The bits of a positive number, but for the sign, are its mantissa and the number of its grid. -/
structure OnGrid (mantissa grid magnitude : Nat) : Prop where
  positive : 0 < mantissa
  fits : mantissa < 2 ^ 53
  full : 0 < grid → 2 ^ 52 ≤ mantissa
  spelled : magnitude = mantissa + grid * 2 ^ 52
  finite : magnitude < infiniteMagnitude

/-- How far below a number, in quarters of a unit, its neighbourhood reaches. -/
def reach (mantissa grid : Nat) : Nat :=
  if mantissa = 2 ^ 52 ∧ 0 < grid then 1 else 2

theorem reach_le_two (mantissa grid : Nat) : reach mantissa grid ≤ 2 := by
  unfold reach
  split <;> decide

theorem reach_eq_two_or (mantissa grid : Nat) :
    reach mantissa grid = 2 ∨ reach mantissa grid = 1 ∧ mantissa = 2 ^ 52 := by
  unfold reach
  split
  · rename_i hPower
    exact .inr ⟨rfl, hPower.1⟩
  · exact .inl rfl

/-- A quotient of the neighbourhood of a number, whose ends belong to it when the mantissa is even. -/
structure Near (mantissa grid num den : Nat) : Prop where
  low : (4 * mantissa - reach mantissa grid) * (den * 2 ^ grid) ≤ 4 * (num * unitsOfOne)
  high : 4 * (num * unitsOfOne) ≤ (4 * mantissa + 2) * (den * 2 ^ grid)
  inside : mantissa % 2 = 1 →
    (4 * mantissa - reach mantissa grid) * (den * 2 ^ grid) < 4 * (num * unitsOfOne) ∧
      4 * (num * unitsOfOne) < (4 * mantissa + 2) * (den * 2 ^ grid)

theorem roundDiv_eq {num den k : Nat} (hDen : 0 < den) (hLow : 2 * (k * den) ≤ 2 * num + den)
    (hHigh : 2 * num ≤ 2 * (k * den) + den)
    (hOdd : k % 2 = 1 → 2 * (k * den) < 2 * num + den ∧ 2 * num < 2 * (k * den) + den) :
    roundDiv num den = k := by
  have hSplit := Nat.div_add_mod num den
  have hRest := Nat.mod_lt num hDen
  rw [Nat.mul_comm] at hSplit
  rcases Nat.lt_trichotomy (num / den) k with hLess | hEqual | hMore
  · -- the quotient is one less, and the rest is rounded up
    have hNext : num / den + 1 = k := by
      by_contra hFar
      have hProduct : (num / den + 2) * den ≤ k * den := Nat.mul_le_mul_right den (by omega)
      rw [Nat.add_mul] at hProduct
      omega
    have hProduct : k * den = num / den * den + den := by
      rw [← hNext, Nat.add_mul, Nat.one_mul]
    unfold roundDiv
    dsimp only
    split_ifs <;> omega
  · have hProduct : k * den = num / den * den := by rw [hEqual]
    unfold roundDiv
    dsimp only
    split_ifs <;> omega
  · have hProduct : (k + 1) * den ≤ num / den * den := Nat.mul_le_mul_right den hMore
    rw [Nat.add_mul] at hProduct
    omega

variable {mantissa grid magnitude num den : Nat}

/-- The grid of a quotient follows from the number of its binary digits. -/
theorem shift_eq (hDen : 0 < den) (hHigh : num < 2 ^ (53 + grid) * den)
    (hLow : 0 < grid → 2 ^ (52 + grid) * den ≤ num) : Nat.log2 (num / den) - 52 = grid := by
  have hBelow : num / den < 2 ^ (53 + grid) := (Nat.div_lt_iff_lt_mul hDen).mpr hHigh
  have hLog : Nat.log2 (num / den) < 53 + grid := by
    by_cases hZero : num / den = 0
    · rw [hZero]
      exact Nat.lt_of_lt_of_le (by decide) (Nat.le_add_right 53 grid)
    · exact (Nat.log2_lt hZero).mpr hBelow
  rcases Nat.eq_zero_or_pos grid with rfl | hGrid
  · omega
  · have hAbove : 2 ^ (52 + grid) ≤ num / den := (Nat.le_div_iff_mul_le hDen).mpr (hLow hGrid)
    have hSome : num / den ≠ 0 := (Nat.lt_of_lt_of_le (Nat.two_pow_pos _) hAbove).ne'
    have hLog' := (Nat.le_log2 hSome).mpr hAbove
    omega

/-- The neighbourhood in halves of a unit of the grid. Only a power of two may have its quotients on the
grid below. -/
theorem near_halves (hNear : Near mantissa grid num den) :
    2 * (mantissa * (den * 2 ^ grid)) ≤ 2 * (num * unitsOfOne) + den * 2 ^ grid ∧
      2 * (num * unitsOfOne) ≤ 2 * (mantissa * (den * 2 ^ grid)) + den * 2 ^ grid ∧
      (mantissa % 2 = 1 →
        2 * (mantissa * (den * 2 ^ grid)) < 2 * (num * unitsOfOne) + den * 2 ^ grid ∧
        2 * (num * unitsOfOne) < 2 * (mantissa * (den * 2 ^ grid)) + den * 2 ^ grid) := by
  obtain ⟨hLow, hHigh, hInside⟩ := hNear
  have hReach := reach_le_two mantissa grid
  generalize den * 2 ^ grid = unit at *
  generalize num * unitsOfOne = scaled at *
  have hBelow : 4 * (mantissa * unit) ≤ (4 * mantissa - reach mantissa grid) * unit + 2 * unit := by
    rw [← Nat.mul_assoc, ← Nat.add_mul]
    exact Nat.mul_le_mul_right unit (by omega)
  have hAbove : (4 * mantissa + 2) * unit = 4 * (mantissa * unit) + 2 * unit := by
    rw [Nat.add_mul, Nat.mul_assoc]
  refine ⟨by omega, by omega, fun hOdd => ?_⟩
  obtain ⟨hLess, hMore⟩ := hInside hOdd
  exact ⟨by omega, by omega⟩

/-- Below a power of two the grid is twice as fine, and a quotient there is rounded up to the power. -/
theorem round_below_power {k scaled : Nat} (hDen : 0 < den)
    (hLow : (4 * 2 ^ 52 - 1) * (den * 2 ^ (k + 1)) ≤ 4 * scaled)
    (hBelow : scaled < 2 ^ (52 + (k + 1)) * den) :
    Nat.log2 (scaled / den) - 52 = k ∧ roundDiv scaled (den * 2 ^ k) = 2 ^ 53 := by
  have hUnit : 0 < den * 2 ^ k := Nat.mul_pos hDen (Nat.two_pow_pos k)
  have hTwice : den * 2 ^ (k + 1) = 2 * (den * 2 ^ k) := by
    rw [Nat.pow_succ]
    ring
  have hTop : 2 ^ (52 + (k + 1)) * den = 2 ^ 53 * (den * 2 ^ k) := by
    rw [show 52 + (k + 1) = 53 + k by omega, Nat.pow_add]
    ring
  have hFront : 2 ^ (52 + k) * den = 2 ^ 52 * (den * 2 ^ k) := by
    rw [Nat.pow_add]
    ring
  rw [hTwice] at hLow
  rw [hTop] at hBelow
  constructor
  · apply shift_eq hDen
    · rw [Nat.pow_add, Nat.mul_assoc, Nat.mul_comm (2 ^ k)]
      exact hBelow
    · intro _
      rw [hFront]
      omega
  · apply roundDiv_eq hUnit
    · omega
    · omega
    · exact fun hOdd => absurd hOdd (by decide)

/-- A quotient of the neighbourhood of a number is read as the number. -/
theorem nearestMagnitude_eq (h : OnGrid mantissa grid magnitude) (hDen : 0 < den)
    (hNear : Near mantissa grid num den) : nearestMagnitude num den = magnitude := by
  have hUnit : 0 < den * 2 ^ grid := Nat.mul_pos hDen (Nat.two_pow_pos grid)
  obtain ⟨hLow, hHigh, hOdd⟩ := near_halves hNear
  have hNearLow := hNear.low
  have hRound : roundDiv (num * unitsOfOne)
      (den * 2 ^ (Nat.log2 (num * unitsOfOne / den) - 52)) +
        (Nat.log2 (num * unitsOfOne / den) - 52) * 2 ^ 52 = magnitude := by
    generalize num * unitsOfOne = scaled at *
    have hSplit : ∀ n, 2 ^ (n + grid) * den = 2 ^ n * (den * 2 ^ grid) := by
      intro n
      rw [Nat.pow_add]
      ring
    have hFits : (mantissa + 1) * (den * 2 ^ grid) ≤ 2 ^ 53 * (den * 2 ^ grid) :=
      Nat.mul_le_mul_right _ h.fits
    rw [Nat.add_mul, Nat.one_mul] at hFits
    have hTop : scaled < 2 ^ (53 + grid) * den := by
      rw [hSplit]
      omega
    by_cases hFull : 0 < grid → 2 ^ (52 + grid) * den ≤ scaled
    · rw [shift_eq hDen hTop hFull, roundDiv_eq hUnit hLow hHigh hOdd, h.spelled]
    · obtain ⟨hGrid, hBelow⟩ := not_forall.mp hFull
      rw [not_le] at hBelow
      have hPower : mantissa = 2 ^ 52 := by
        apply Nat.le_antisymm _ (h.full hGrid)
        by_contra hMore
        have hProduct : (2 ^ 52 + 1) * (den * 2 ^ grid) ≤ mantissa * (den * 2 ^ grid) :=
          Nat.mul_le_mul_right _ (by omega)
        rw [Nat.add_mul, Nat.one_mul] at hProduct
        rw [hSplit] at hBelow
        omega
      obtain ⟨k, rfl⟩ : ∃ k, grid = k + 1 := ⟨grid - 1, by omega⟩
      rw [reach, if_pos ⟨hPower, hGrid⟩, hPower] at hNearLow
      obtain ⟨hShift, hRounded⟩ := round_below_power hDen hNearLow hBelow
      rw [hShift, hRounded, h.spelled, hPower]
      omega
  have hMinimum : nearestMagnitude num den = min magnitude infiniteMagnitude :=
    congrArg (min · infiniteMagnitude) hRound
  rw [hMinimum]
  exact Nat.min_eq_left h.finite.le

structure Close (mantissa grid : Nat) (x : ℚ) : Prop where
  low : ((4 * mantissa - reach mantissa grid : Nat) : ℚ) * 2 ^ grid ≤ 4 * (x * unitsOfOne)
  high : 4 * (x * unitsOfOne) ≤ ((4 * mantissa + 2 : Nat) : ℚ) * 2 ^ grid
  inside : mantissa % 2 = 1 →
    ((4 * mantissa - reach mantissa grid : Nat) : ℚ) * 2 ^ grid < 4 * (x * unitsOfOne) ∧
      4 * (x * unitsOfOne) < ((4 * mantissa + 2 : Nat) : ℚ) * 2 ^ grid

theorem near_of_close (hDen : 0 < den) (h : Close mantissa grid (num / den)) :
    Near mantissa grid num den := by
  have hPositive : (0 : ℚ) < den := by exact_mod_cast hDen
  have hScaled : 4 * ((num / den : ℚ) * unitsOfOne) = 4 * (num * unitsOfOne) / den := by
    rw [div_mul_eq_mul_div, mul_div_assoc']
  obtain ⟨hLow, hHigh, hInside⟩ := h
  rw [hScaled] at hLow hHigh hInside
  rw [le_div_iff₀ hPositive, mul_right_comm, mul_assoc] at hLow
  rw [div_le_iff₀ hPositive, mul_right_comm, mul_assoc] at hHigh
  rw [lt_div_iff₀ hPositive, mul_right_comm, mul_assoc, div_lt_iff₀ hPositive, mul_right_comm,
    mul_assoc] at hInside
  exact ⟨by exact_mod_cast hLow, by exact_mod_cast hHigh, by exact_mod_cast hInside⟩

section Range

variable {x : ℚ}

theorem unitsOfOne_eq : unitsOfOne = 2 ^ 1074 := by
  unfold unitsOfOne
  -- with a variable for the exponent the power itself is never computed
  generalize 1074 = k
  rfl

theorem cast_unitsOfOne : (unitsOfOne : ℚ) = 2 ^ 1074 := by
  rw [unitsOfOne_eq, Nat.cast_pow, Nat.cast_ofNat]

theorem cast_unitsOfOne_pos : (0 : ℚ) < unitsOfOne := by
  rw [cast_unitsOfOne]
  exact pow_pos zero_lt_two _

theorem two_pow_le_ten_pow : (2 : ℚ) ^ 1200 ≤ 10 ^ 400 := by
  have hCubes : (2 : ℚ) ^ 1200 = (2 ^ 3) ^ 400 := (pow_mul 2 3 400)
  rw [hCubes]
  exact pow_le_pow_left₀ (by norm_num) (by norm_num) 400

theorem unitsOfOne_le : unitsOfOne ≤ 10 ^ 400 := by
  have hPowers : (2 : ℚ) ^ 1074 ≤ 10 ^ 400 :=
    (pow_le_pow_right₀ one_le_two (by decide)).trans two_pow_le_ten_pow
  rw [← cast_unitsOfOne] at hPowers
  exact_mod_cast hPowers

theorem two_le_of_close (hPositive : 0 < mantissa) (h : Close mantissa grid x) :
    2 ≤ 4 * (x * unitsOfOne) := by
  have hReach : 2 ≤ 4 * mantissa - reach mantissa grid := by
    have hMost := reach_le_two mantissa grid
    omega
  have hFactor : (2 : ℚ) ≤ ((4 * mantissa - reach mantissa grid : Nat) : ℚ) := by
    exact_mod_cast hReach
  have hPower : (1 : ℚ) ≤ 2 ^ grid := one_le_pow₀ (by norm_num)
  calc (2 : ℚ) = 2 * 1 := (mul_one 2).symm
    _ ≤ ((4 * mantissa - reach mantissa grid : Nat) : ℚ) * 2 ^ grid :=
      mul_le_mul hFactor hPower zero_le_one (zero_le_two.trans hFactor)
    _ ≤ 4 * (x * unitsOfOne) := h.low

/-- No number of a neighbourhood has 400 digits before the point. -/
theorem lt_of_close (hOnGrid : OnGrid mantissa grid magnitude) (h : Close mantissa grid x) :
    x < 10 ^ 400 := by
  by_contra hLarge
  rw [not_lt] at hLarge
  have hGrid : grid ≤ 2046 := by
    have hFinite := hOnGrid.finite
    rw [hOnGrid.spelled] at hFinite
    unfold infiniteMagnitude at hFinite
    simp only [Nat.pow_eq] at hFinite
    omega
  have hFits : 4 * mantissa + 2 ≤ 2 ^ 55 := by
    have := hOnGrid.fits
    omega
  have hFactor : ((4 * mantissa + 2 : Nat) : ℚ) ≤ 2 ^ 55 := by exact_mod_cast hFits
  have hChain : (2 : ℚ) ^ 2274 ≤ 2 ^ 2101 :=
    calc (2 : ℚ) ^ 2274 = 2 ^ 1200 * unitsOfOne := by rw [cast_unitsOfOne, ← pow_add]
      _ ≤ x * unitsOfOne :=
        mul_le_mul_of_nonneg_right (two_pow_le_ten_pow.trans hLarge) cast_unitsOfOne_pos.le
      _ ≤ 4 * (x * unitsOfOne) := by
        apply le_mul_of_one_le_left _ (by norm_num)
        exact mul_nonneg ((pow_nonneg (by norm_num) 400).trans hLarge) cast_unitsOfOne_pos.le
      _ ≤ ((4 * mantissa + 2 : Nat) : ℚ) * 2 ^ grid := h.high
      _ ≤ 2 ^ 55 * 2 ^ 2046 :=
        mul_le_mul hFactor (pow_le_pow_right₀ one_le_two hGrid) (pow_nonneg zero_le_two _)
          (pow_nonneg zero_le_two _)
      _ = 2 ^ 2101 := (pow_add 2 55 2046).symm
  exact absurd ((pow_le_pow_iff_right₀ one_lt_two).mp hChain) (by decide)

/-- Every number of a neighbourhood has a digit among the first 400 behind the point. -/
theorem one_le_of_close (hPositive : 0 < mantissa) (h : Close mantissa grid x) :
    1 ≤ x * 10 ^ 400 := by
  have hTwo := two_le_of_close hPositive h
  have hNonneg : 0 ≤ x := by
    by_contra hNegative
    have hLess : x * unitsOfOne < 0 :=
      mul_neg_of_neg_of_pos (not_le.mp hNegative) cast_unitsOfOne_pos
    have hFour : 4 * (x * unitsOfOne) < 0 := mul_neg_of_pos_of_neg (by norm_num) hLess
    exact absurd (hTwo.trans_lt hFour) (by norm_num)
  have hQuarters : 4 * (x * unitsOfOne) = x * (unitsOfOne * 2 ^ 2) := by ring
  calc (1 : ℚ) ≤ 4 * (x * unitsOfOne) := one_le_two.trans hTwo
    _ = x * 2 ^ 1076 := by rw [hQuarters, cast_unitsOfOne, ← pow_add]
    _ ≤ x * 2 ^ 1200 :=
      mul_le_mul_of_nonneg_left (pow_le_pow_right₀ one_le_two (by decide)) hNonneg
    _ ≤ x * 10 ^ 400 := mul_le_mul_of_nonneg_left two_pow_le_ten_pow hNonneg

/-- A decimal number of the neighbourhood of a number is read as the number. -/
theorem nearest_eq {digits : Nat} {exponent : Int} (hOnGrid : OnGrid mantissa grid magnitude)
    (h : Close mantissa grid (digits * 10 ^ exponent)) (negative : Bool) :
    nearest negative digits exponent =
      UInt64.ofNat (if negative then 2 ^ 63 + magnitude else magnitude) := by
  have hSome : digits ≠ 0 := by
    rintro rfl
    have hTwo := two_le_of_close hOnGrid.positive h
    rw [Nat.cast_zero, zero_mul, zero_mul, mul_zero] at hTwo
    exact absurd hTwo (by norm_num)
  have hAbove : ¬400 < Int.ofNat (Nat.toDigits 10 digits).length + exponent := by
    intro hMore
    have hLarge := (le_decimal hSome exponent).trans_lt (lt_of_close hOnGrid h)
    rw [← zpow_natCast, zpow_lt_zpow_iff_right₀ (by norm_num)] at hLarge
    unfold Text.ofNat at hLarge
    omega
  have hBelow : ¬Int.ofNat (Nat.toDigits 10 digits).length + exponent < -400 := by
    intro hLess
    have hSmall := one_le_of_close hOnGrid.positive h
    have hTiny := mul_lt_mul_of_pos_right (decimal_lt digits exponent)
      (pow_pos (by norm_num : (0 : ℚ) < 10) 400)
    rw [← zpow_natCast, ← zpow_add₀ (by norm_num)] at hTiny
    rw [← zpow_natCast] at hSmall
    have hOne := hSmall.trans_lt hTiny
    rw [← zpow_zero (10 : ℚ), zpow_lt_zpow_iff_right₀ (by norm_num)] at hOne
    unfold Text.ofNat at hOne
    omega
  unfold nearest
  dsimp only
  rw [if_neg hSome, if_neg hAbove, if_neg hBelow]
  cases exponent with
  | ofNat e =>
    rw [Int.ofNat_eq_natCast, zpow_natCast] at h
    have hNear : Near mantissa grid (digits * Nat.pow 10 e) 1 :=
      near_of_close Nat.one_pos (by simpa using h)
    dsimp only
    rw [nearestMagnitude_eq hOnGrid Nat.one_pos hNear]
    rfl
  | negSucc e =>
    rw [zpow_negSucc, ← div_eq_mul_inv] at h
    have hDen : 0 < Nat.pow 10 (e + 1) := Nat.pow_pos (by decide)
    have hNear : Near mantissa grid digits (Nat.pow 10 (e + 1)) :=
      near_of_close hDen (by simpa using h)
    dsimp only
    rw [nearestMagnitude_eq hOnGrid hDen hNear]
    rfl

end Range

section Bits

variable {bits : UInt64} {negative : Bool} {mantissa : Nat} {exponent : Int}

def signed (negative : Bool) (magnitude : Nat) : Nat :=
  if negative then 2 ^ 63 + magnitude else magnitude

theorem eq_ofNat_signed {n : Nat} (hBits : bits.toNat = n) : bits = UInt64.ofNat n := by
  rw [← hBits, UInt64.ofNat_toNat]

theorem infinite_of_parts (h : Parts.ofBits bits = .infinite negative) : bits = infinity negative := by
  unfold Parts.ofBits at h
  dsimp only at h
  simp only [Nat.pow_eq] at h
  have hRange := bits.toNat_lt
  split_ifs at h with hField hFraction hZero
  obtain rfl := Parts.infinite.inj h
  by_cases hSign : 2 ^ 63 ≤ bits.toNat
  · rw [decide_eq_true hSign]
    exact eq_ofNat_signed (n := 0xfff0000000000000) (by omega)
  · rw [decide_eq_false hSign]
    exact eq_ofNat_signed (n := 0x7ff0000000000000) (by omega)

theorem finite_of_parts (h : Parts.ofBits bits = .finite negative mantissa exponent) :
    ∃ grid magnitude, bits = UInt64.ofNat (signed negative magnitude) ∧
      exponent = Int.ofNat grid - 1074 ∧ magnitude = mantissa + grid * 2 ^ 52 ∧
      mantissa < 2 ^ 53 ∧ (0 < grid → 2 ^ 52 ≤ mantissa) ∧ magnitude < infiniteMagnitude := by
  unfold Parts.ofBits at h
  dsimp only at h
  simp only [Nat.pow_eq] at h
  have hRange := bits.toNat_lt
  have hLimit : infiniteMagnitude = 2047 * 2 ^ 52 := rfl
  have hSigned : bits.toNat = signed (decide (2 ^ 63 ≤ bits.toNat)) (bits.toNat % 2 ^ 63) := by
    unfold signed
    by_cases hSign : 2 ^ 63 ≤ bits.toNat
    · rw [decide_eq_true hSign, if_pos rfl]
      omega
    · rw [decide_eq_false hSign, if_neg nofun]
      omega
  split_ifs at h with hField hFraction hZero
  · obtain ⟨rfl, rfl, rfl⟩ := Parts.finite.inj h
    refine ⟨0, bits.toNat % 2 ^ 63, eq_ofNat_signed hSigned, rfl, ?_, ?_, ?_, ?_⟩
    · omega
    · omega
    · exact fun hGrid => absurd hGrid (Nat.lt_irrefl 0)
    · rw [hLimit]
      omega
  · obtain ⟨rfl, rfl, rfl⟩ := Parts.finite.inj h
    refine ⟨bits.toNat / 2 ^ 52 % 2 ^ 11 - 1, bits.toNat % 2 ^ 63, eq_ofNat_signed hSigned,
      ?_, ?_, ?_, ?_, ?_⟩
    · rw [Int.ofNat_eq_natCast, Int.ofNat_eq_natCast]
      omega
    · omega
    · omega
    · intro _
      omega
    · rw [hLimit]
      omega

/-- Bits up to those of infinity are some number. -/
theorem parts_signed_ne_nan {magnitude : Nat} (h : magnitude ≤ infiniteMagnitude) (negative : Bool) :
    Parts.ofBits (UInt64.ofNat (signed negative magnitude)) ≠ .nan := by
  have hLimit : infiniteMagnitude = 2047 * 2 ^ 52 := rfl
  have hSize : signed negative magnitude % 2 ^ 63 = magnitude ∧
      signed negative magnitude < 2 ^ 64 := by
    unfold signed
    split
    · omega
    · omega
  unfold Parts.ofBits
  rw [UInt64.toNat_ofNat_of_lt' hSize.2]
  dsimp only
  simp only [Nat.pow_eq]
  split_ifs with hField hFraction hZero
  · exact nofun
  · exact absurd hFraction (by omega)
  · exact nofun
  · exact nofun

theorem parts_nearest_ne_nan (negative : Bool) (digits : Nat) (exponent : Int) :
    Parts.ofBits (nearest negative digits exponent) ≠ .nan := by
  have hLargest : ∀ num den, nearestMagnitude num den ≤ infiniteMagnitude := fun _ _ =>
    Nat.min_le_right _ _
  unfold nearest
  apply parts_signed_ne_nan
  split_ifs
  · exact Nat.zero_le _
  · exact Nat.le_refl _
  · exact Nat.zero_le _
  · split
    · exact hLargest _ _
    · exact hLargest _ _

end Bits

end AssetAudit.Decimal
