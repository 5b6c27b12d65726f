import AssetAudit.Decimal.Shortest
import AssetAudit.Proofs.Decimal.Nearest
import Mathlib.Tactic.LinearCombination

/-!
# The shortest digits of a number

The search for the shortest digits of a number finds some, with seventeen digits at the latest, and what
it finds lies in the neighbourhood of the number.
-/
namespace AssetAudit.Decimal

variable {mantissa grid magnitude unit d : Nat} {n : Neighbourhood} {power : Int}

structure Neighbourhood.Quarters (n : Neighbourhood) (mantissa grid unit : Nat) : Prop where
  positive : 0 < unit
  den : 0 < n.den
  low : n.low = (4 * mantissa - reach mantissa grid) * unit
  value : n.value = 4 * mantissa * unit
  high : n.high = (4 * mantissa + 2) * unit
  closed : n.closed = decide (mantissa % 2 = 0)
  size : unit * (4 * unitsOfOne) = n.den * 2 ^ grid

theorem ratio_eq (mantissa grid k : Nat) : ∃ unit den,
    ratio mantissa (Int.ofNat grid - Int.ofNat k) = (mantissa * unit, den) ∧ 0 < unit ∧ 0 < den ∧
      unit * 2 ^ k = den * 2 ^ grid := by
  rcases Nat.lt_or_ge grid k with hSmall | hLarge
  · obtain ⟨j, rfl⟩ := Nat.exists_eq_add_of_lt hSmall
    have hExponent : Int.ofNat grid - Int.ofNat (grid + j + 1) = Int.negSucc j := by
      simp only [Int.ofNat_eq_natCast]
      omega
    refine ⟨1, 2 ^ (j + 1), ?_, Nat.one_pos, Nat.two_pow_pos _, ?_⟩
    · rw [hExponent, Nat.mul_one]
      rfl
    · rw [Nat.one_mul, ← Nat.pow_add, Nat.add_comm (j + 1), ← Nat.add_assoc]
  · obtain ⟨j, rfl⟩ := Nat.exists_eq_add_of_le hLarge
    have hExponent : Int.ofNat (k + j) - Int.ofNat k = Int.ofNat j := by
      simp only [Int.ofNat_eq_natCast]
      omega
    refine ⟨2 ^ j, 1, ?_, Nat.two_pow_pos j, Nat.one_pos, ?_⟩
    · rw [hExponent]
      rfl
    · rw [Nat.one_mul, ← Nat.pow_add, Nat.add_comm]

theorem four_mul_two_pow (k : Nat) : 4 * 2 ^ k = 2 ^ (k + 2) := by
  rw [Nat.pow_add, Nat.mul_comm]

theorem four_mul_unitsOfOne : 4 * unitsOfOne = 2 ^ (1074 + 2) := by
  rw [unitsOfOne_eq, four_mul_two_pow]

theorem below_eq_reach (mantissa grid : Nat) :
    (if mantissa = Nat.pow 2 52 ∧ Int.ofNat grid - 1074 ≠ -1074 then 1 else 2) =
      reach mantissa grid := by
  unfold reach
  congr 1
  simp only [Nat.pow_eq, Int.ofNat_eq_natCast, eq_iff_iff]
  omega

theorem quarters_of (hPositive : 0 < mantissa) (grid : Nat) :
    ∃ unit, (Neighbourhood.of mantissa (Int.ofNat grid - 1074)).Quarters mantissa grid unit := by
  have hExponent : Int.ofNat grid - 1074 - 2 = Int.ofNat grid - Int.ofNat (1074 + 2) := by
    simp only [Int.ofNat_eq_natCast]
    omega
  obtain ⟨unit, den, hRatio, hUnit, hDen, hSize⟩ := ratio_eq mantissa grid (1074 + 2)
  have hUnits : unit * (4 * unitsOfOne) = den * 2 ^ grid := by rw [four_mul_unitsOfOne, hSize]
  refine ⟨unit, ?_⟩
  unfold Neighbourhood.of
  rw [hExponent, hRatio]
  dsimp only
  rw [below_eq_reach, Nat.mul_div_cancel_left unit hPositive]
  constructor
  · exact hUnit
  · exact hDen
  · dsimp only
    rw [Nat.sub_mul, Nat.mul_comm, Nat.mul_assoc]
  · dsimp only
    ring
  · dsimp only
    ring
  · rfl
  · dsimp only
    exact hUnits

theorem scale_eq (power : Int) : ∃ u v : Nat, 0 < u ∧ 0 < v ∧
    (∀ num den, scale num den power = (num * u, den * v)) ∧ (u : ℚ) = 10 ^ power * v := by
  cases power with
  | ofNat p =>
    refine ⟨10 ^ p, 1, Nat.pow_pos (by decide), Nat.one_pos, ?_, ?_⟩
    · intro num den
      rw [Nat.mul_one]
      rfl
    · rw [Int.ofNat_eq_natCast, zpow_natCast, Nat.cast_one, mul_one, Nat.cast_pow, Nat.cast_ofNat]
  | negSucc p =>
    refine ⟨1, 10 ^ (p + 1), Nat.one_pos, Nat.pow_pos (by decide), ?_, ?_⟩
    · intro num den
      rw [Nat.mul_one]
      rfl
    · rw [zpow_negSucc, Nat.cast_one, Nat.cast_pow, Nat.cast_ofNat, inv_mul_cancel₀ (by norm_num)]

section Grid

variable {u v : Nat}

/-- A multiple of a scaled denominator lies in a scaled neighbourhood. -/
def Neighbourhood.Holds (n : Neighbourhood) (u v d : Nat) : Prop :=
  if n.closed then n.low * u ≤ d * (n.den * v) ∧ d * (n.den * v) ≤ n.high * u
  else n.low * u < d * (n.den * v) ∧ d * (n.den * v) < n.high * u

theorem Neighbourhood.holds_of_lt {n : Neighbourhood} (hLow : n.low * u < d * (n.den * v))
    (hHigh : d * (n.den * v) < n.high * u) : n.Holds u v d := by
  unfold Neighbourhood.Holds
  split
  · exact ⟨hLow.le, hHigh.le⟩
  · exact ⟨hLow, hHigh⟩

theorem onGrid?_eq (hScale : ∀ num den, scale num den power = (num * u, den * v)) :
    (∀ d, onGrid? n power = some d → n.Holds u v d) ∧
      (onGrid? n power = none → ¬n.Holds u v (n.value * u / (n.den * v)) ∧
        ¬n.Holds u v (n.value * u / (n.den * v) + 1)) := by
  have hHolds : ∀ d, (if n.closed then
      decide (n.low * u ≤ d * (n.den * v)) && decide (d * (n.den * v) ≤ n.high * u)
      else decide (n.low * u < d * (n.den * v)) && decide (d * (n.den * v) < n.high * u)) = true ↔
        n.Holds u v d := by
    intro d
    unfold Neighbourhood.Holds
    split
    · simp only [Bool.and_eq_true, decide_eq_true_eq]
    · simp only [Bool.and_eq_true, decide_eq_true_eq]
  unfold onGrid?
  simp only [hScale]
  simp only [← hHolds]
  split
  · rename_i hDown hUp
    rw [hDown, hUp]
    exact ⟨nofun, fun _ => ⟨nofun, nofun⟩⟩
  · rename_i hDown hUp
    refine ⟨?_, nofun⟩
    rintro _ ⟨⟩
    exact hDown
  · rename_i hDown hUp
    refine ⟨?_, nofun⟩
    rintro _ ⟨⟩
    exact hUp
  · rename_i hDown hUp
    constructor
    · intro d h
      split_ifs at h
      all_goals cases h
      · exact hDown
      · exact hUp
      · exact hDown
      · exact hUp
    · intro h
      split_ifs at h

/-- In quarters of a unit and on the grid of a power of ten, the same order. -/
theorem exists_factor (hQuarters : n.Quarters mantissa grid unit) (hu : 0 < u) (hv : 0 < v)
    (hPower : (u : ℚ) = 10 ^ power * v) : ∃ c : ℚ, 0 < c ∧
      (∀ k : Nat, (k : ℚ) * 2 ^ grid = ((k * unit * u : Nat) : ℚ) * c) ∧
      ∀ d : Nat, 4 * (d * 10 ^ (-power) * unitsOfOne) = ((d * (n.den * v) : Nat) : ℚ) * c := by
  have hDen : (0 : ℚ) < n.den := by exact_mod_cast hQuarters.den
  have hU : (0 : ℚ) < u := by exact_mod_cast hu
  have hV : (0 : ℚ) < v := by exact_mod_cast hv
  have hTen : (0 : ℚ) < 10 ^ power := zpow_pos (by norm_num) power
  have hSize : (unit : ℚ) * (4 * unitsOfOne) = n.den * 2 ^ grid := by
    exact_mod_cast hQuarters.size
  refine ⟨4 * unitsOfOne / (n.den * u), ?_, ?_, ?_⟩
  · exact div_pos (mul_pos (by norm_num) cast_unitsOfOne_pos) (mul_pos hDen hU)
  · intro k
    rw [Nat.cast_mul, Nat.cast_mul, mul_div_assoc', eq_div_iff (mul_pos hDen hU).ne']
    linear_combination -(k * u : ℚ) * hSize
  · intro d
    rw [Nat.cast_mul, Nat.cast_mul, mul_div_assoc', eq_div_iff (mul_pos hDen hU).ne', hPower, zpow_neg]
    have hCancel : (10 : ℚ) ^ power * (10 ^ power)⁻¹ = 1 := mul_inv_cancel₀ hTen.ne'
    linear_combination (4 * d * unitsOfOne * n.den * v : ℚ) * hCancel

theorem close_of_holds (hQuarters : n.Quarters mantissa grid unit) (hu : 0 < u) (hv : 0 < v)
    (hPower : (u : ℚ) = 10 ^ power * v) (h : n.Holds u v d) :
    Close mantissa grid (d * 10 ^ (-power)) := by
  obtain ⟨c, hc, hQuarter, hDecimal⟩ := exists_factor hQuarters hu hv hPower
  unfold Neighbourhood.Holds at h
  rw [hQuarters.closed, hQuarters.low, hQuarters.high] at h
  have hWeak : (4 * mantissa - reach mantissa grid) * unit * u ≤ d * (n.den * v) ∧
      d * (n.den * v) ≤ (4 * mantissa + 2) * unit * u := by
    split at h
    · exact h
    · exact ⟨h.1.le, h.2.le⟩
  constructor
  · rw [hQuarter, hDecimal]
    exact mul_le_mul_of_nonneg_right (by exact_mod_cast hWeak.1) hc.le
  · rw [hQuarter, hDecimal]
    exact mul_le_mul_of_nonneg_right (by exact_mod_cast hWeak.2) hc.le
  · intro hOdd
    rw [if_neg (by simp [hOdd])] at h
    rw [hQuarter, hQuarter, hDecimal]
    exact ⟨mul_lt_mul_of_pos_right (by exact_mod_cast h.1) hc,
      mul_lt_mul_of_pos_right (by exact_mod_cast h.2) hc⟩

/-- On a grid so fine that the number has seventeen digits, one of its two neighbours is found. -/
theorem holds_of_fine (hOnGrid : OnGrid mantissa grid magnitude)
    (hQuarters : n.Quarters mantissa grid unit) (hu : 0 < u) (hv : 0 < v)
    (hFine : 10 ^ 16 * (n.den * v) ≤ n.value * u) :
    n.Holds u v (n.value * u / (n.den * v)) ∨ n.Holds u v (n.value * u / (n.den * v) + 1) := by
  have hDen : 0 < n.den * v := Nat.mul_pos hQuarters.den hv
  have hUnit : 0 < unit * u := Nat.mul_pos hQuarters.positive hu
  have hSplit := Nat.div_add_mod (n.value * u) (n.den * v)
  have hRest := Nat.mod_lt (n.value * u) hDen
  rw [Nat.mul_comm] at hSplit
  have hReach := reach_eq_two_or mantissa grid
  have hFits := hOnGrid.fits
  have hPositive := hOnGrid.positive
  by_contra hNeither
  rw [not_or] at hNeither
  obtain ⟨hDown, hUp⟩ := hNeither
  have hLow : n.low * u = (4 * mantissa - reach mantissa grid) * (unit * u) := by
    rw [hQuarters.low, Nat.mul_assoc]
  have hValue : n.value * u = 4 * mantissa * (unit * u) := by
    rw [hQuarters.value, Nat.mul_assoc]
  have hHigh : n.high * u = (4 * mantissa + 2) * (unit * u) := by
    rw [hQuarters.high, Nat.mul_assoc]
  have hUpper : (4 * mantissa + 2) * (unit * u) = 4 * mantissa * (unit * u) + 2 * (unit * u) :=
    Nat.add_mul _ _ _
  have hLower : (4 * mantissa - reach mantissa grid) * (unit * u) + reach mantissa grid * (unit * u) =
      4 * mantissa * (unit * u) := by
    rw [← Nat.add_mul, Nat.sub_add_cancel (by omega)]
  have hSome : 0 < reach mantissa grid * (unit * u) := Nat.mul_pos (by omega) hUnit
  have hDownLow : n.value * u / (n.den * v) * (n.den * v) ≤ n.low * u := by
    by_contra hMore
    exact hDown (Neighbourhood.holds_of_lt (Nat.lt_of_not_le hMore) (by omega))
  have hUpHigh : n.high * u ≤ (n.value * u / (n.den * v) + 1) * (n.den * v) := by
    by_contra hLess
    rw [Nat.add_mul, Nat.one_mul] at hLess
    exact hUp (Neighbourhood.holds_of_lt (by rw [Nat.add_mul, Nat.one_mul]; omega)
      (by rw [Nat.add_mul, Nat.one_mul]; omega))
  rw [Nat.add_mul, Nat.one_mul] at hUpHigh
  have hWide : 2 * (unit * u) + reach mantissa grid * (unit * u) ≤ n.den * v := by omega
  rcases hReach with hTwo | ⟨hOne, hPower⟩
  · rw [hTwo] at hWide
    have hProduct : 4 * mantissa * (unit * u) ≤ 4 * 2 ^ 53 * (unit * u) :=
      Nat.mul_le_mul_right _ (Nat.mul_le_mul_left 4 hFits.le)
    omega
  · rw [hOne, Nat.one_mul] at hWide
    rw [hValue, hPower] at hFine
    omega

end Grid

section Search

variable {num den : Nat}

theorem below_eq (fuel zeros : Nat) (h : den ≤ num * 10 ^ fuel) : ∃ j,
    pointPosition.below den num fuel zeros = -Int.ofNat (zeros + j) ∧ den ≤ num * 10 ^ (j + 1) := by
  induction fuel generalizing num zeros with
  | zero =>
    refine ⟨0, rfl, ?_⟩
    rw [Nat.pow_zero, Nat.mul_one] at h
    omega
  | succ fuel ih =>
    rw [pointPosition.below]
    split
    · rename_i hFirst
      exact ⟨0, rfl, hFirst⟩
    · rw [Nat.pow_succ', ← Nat.mul_assoc] at h
      obtain ⟨j, hPosition, hDigit⟩ := ih (zeros + 1) h
      refine ⟨j + 1, ?_, ?_⟩
      · rw [hPosition, Nat.add_right_comm, Nat.add_assoc]
      · rw [Nat.pow_succ', ← Nat.mul_assoc]
        exact hDigit

theorem pointPosition_le (hDen : 0 < den) (h : den ≤ num * 10 ^ 400) :
    (10 : ℚ) ^ (pointPosition num den - 1) * den ≤ num := by
  unfold pointPosition
  split
  · rename_i hWhole
    have hSome : num / den ≠ 0 := (Nat.div_pos hWhole hDen).ne'
    have hDigits : 10 ^ ((Text.ofNat (num / den)).length - 1) * den ≤ num :=
      (Nat.mul_le_mul_right den (Text.ten_pow_length_le hSome)).trans (Nat.div_mul_le_self num den)
    have hPosition : Int.ofNat (Nat.toDigits 10 (num / den)).length - 1 =
        (((Text.ofNat (num / den)).length - 1 : Nat) : Int) := by
      have hLength := Text.length_ofNat_pos (num / den)
      change ((Text.ofNat (num / den)).length : Int) - 1 = _
      omega
    rw [hPosition, zpow_natCast]
    exact_mod_cast hDigits
  · obtain ⟨j, hPosition, hDigit⟩ := below_eq 400 0 h
    have hExponent : -Int.ofNat (0 + j) - 1 = -((j + 1 : Nat) : Int) := by
      rw [Int.ofNat_eq_natCast]
      omega
    have hCast : (den : ℚ) ≤ num * 10 ^ (j + 1) := by exact_mod_cast hDigit
    rw [hPosition, hExponent, zpow_neg, zpow_natCast, inv_mul_le_iff₀ (pow_pos (by norm_num) _),
      mul_comm]
    exact hCast

theorem search_eq {point : Int} (hLast : ∃ d, onGrid? n (Int.ofNat 17 - point) = some d)
    (fuel count : Nat) (hCount : count + fuel = 17) : ∃ c d, onGrid? n (Int.ofNat c - point) = some d ∧
      shortest.search n point (fuel + 1) count = ⟨Text.trimRightBy (· == '0') (Text.ofNat d),
        point + (Int.ofNat (Text.ofNat d).length - Int.ofNat c)⟩ := by
  induction fuel generalizing count with
  | zero =>
    obtain rfl : count = 17 := hCount
    obtain ⟨d, hFound⟩ := hLast
    refine ⟨17, d, hFound, ?_⟩
    rw [shortest.search, hFound]
  | succ fuel ih =>
    cases hHere : onGrid? n (Int.ofNat count - point) with
    | some d =>
      refine ⟨count, d, hHere, ?_⟩
      rw [shortest.search, hHere]
    | none =>
      obtain ⟨c, d, hFound, hSearch⟩ := ih (count + 1) (by omega)
      refine ⟨c, d, hFound, ?_⟩
      rw [shortest.search, hHere, ← hSearch]

end Search

theorem exists_zeros (t : Text) : ∃ k, t = Text.trimRightBy (· == '0') t ++ List.replicate k '0' := by
  refine ⟨(t.reverse.takeWhile (· == '0')).length, ?_⟩
  have hZeros : (t.reverse.takeWhile (· == '0')).reverse =
      List.replicate (t.reverse.takeWhile (· == '0')).length '0' := by
    apply List.eq_replicate_iff.mpr
    refine ⟨List.length_reverse, ?_⟩
    intro c hMem
    exact eq_of_beq (List.all_eq_true.mp List.all_takeWhile c (List.mem_reverse.mp hMem))
  rw [← hZeros, Text.trimRightBy, ← List.reverse_append, List.takeWhile_append_dropWhile,
    List.reverse_reverse]

structure Digits.Means (d : Digits) (mantissa grid : Nat) : Prop where
  digits : ∀ c ∈ d.digits, c.isDigit = true
  first : ∃ c rest, d.digits = c :: rest ∧ c ≠ '0'
  close : Close mantissa grid (Text.number d.digits * 10 ^ (d.point - Int.ofNat d.digits.length))

theorem means_of_close {m : Nat} {point : Int} {count : Nat} (hPositive : 0 < mantissa)
    (h : Close mantissa grid (m * 10 ^ (-(Int.ofNat count - point)))) :
    (⟨Text.trimRightBy (· == '0') (Text.ofNat m),
      point + (Int.ofNat (Text.ofNat m).length - Int.ofNat count)⟩ : Digits).Means mantissa grid := by
  have hSome : m ≠ 0 := by
    rintro rfl
    have hTwo := two_le_of_close hPositive h
    rw [Nat.cast_zero, zero_mul, zero_mul, mul_zero] at hTwo
    exact absurd hTwo (by norm_num)
  obtain ⟨k, hZeros⟩ := exists_zeros (Text.ofNat m)
  obtain ⟨c, rest, hFirst, hNonzero⟩ := Text.exists_first hSome
  have hNumber := Text.number_ofNat m
  generalize Text.trimRightBy (· == '0') (Text.ofNat m) = short at *
  rw [hZeros, Text.number_append, Text.number_zeros, Nat.add_zero, List.length_replicate] at hNumber
  constructor
  · intro a hMem
    apply Text.isDigit_ofNat m
    rw [hZeros]
    exact List.mem_append_left _ hMem
  · cases short with
    | nil =>
      have hMem : c ∈ List.replicate k '0' := by
        have hWhole : List.replicate k '0' = c :: rest := hZeros.symm.trans hFirst
        rw [hWhole]
        exact List.mem_cons_self
      exact absurd (List.eq_of_mem_replicate hMem) hNonzero
    | cons a more =>
      rw [hZeros, List.cons_append] at hFirst
      obtain ⟨rfl, -⟩ := List.cons.inj hFirst
      exact ⟨a, more, rfl, hNonzero⟩
  · have hLength : (Text.ofNat m).length = short.length + k := by
      rw [hZeros, List.length_append, List.length_replicate]
    have hExponent : point + (Int.ofNat (Text.ofNat m).length - Int.ofNat count) -
        Int.ofNat short.length = k + -(Int.ofNat count - point) := by
      rw [hLength]
      simp only [Int.ofNat_eq_natCast]
      omega
    have hValue : (Text.number short : ℚ) * 10 ^ ((k : Int) + -(Int.ofNat count - point)) =
        m * 10 ^ (-(Int.ofNat count - point)) := by
      rw [← hNumber, zpow_add₀ (by norm_num), zpow_natCast, Nat.cast_mul, Nat.cast_pow,
        Nat.cast_ofNat, mul_assoc]
    dsimp only
    rw [hExponent, hValue]
    exact h

/-- Seventeen digits are enough. -/
theorem exists_onGrid (hOnGrid : OnGrid mantissa grid magnitude)
    (hQuarters : n.Quarters mantissa grid unit) :
    ∃ d, onGrid? n (Int.ofNat 17 - pointPosition n.value n.den) = some d := by
  have hSome : n.den ≤ n.value * 10 ^ 400 := by
    have hValue : n.value * unitsOfOne = mantissa * 2 ^ grid * n.den := by
      rw [hQuarters.value, Nat.mul_right_comm, Nat.mul_assoc mantissa, Nat.mul_comm _ n.den,
        ← hQuarters.size]
      ring
    calc n.den = 1 * n.den := (Nat.one_mul _).symm
      _ ≤ mantissa * 2 ^ grid * n.den :=
        Nat.mul_le_mul_right _ (Nat.mul_pos hOnGrid.positive (Nat.two_pow_pos grid))
      _ = n.value * unitsOfOne := hValue.symm
      _ ≤ n.value * 10 ^ 400 := Nat.mul_le_mul_left _ unitsOfOne_le
  have hPoint := pointPosition_le hQuarters.den hSome
  obtain ⟨u, v, hu, hv, hScale, hPower⟩ := scale_eq (Int.ofNat 17 - pointPosition n.value n.den)
  have hFine : 10 ^ 16 * (n.den * v) ≤ n.value * u := by
    have hExponent : (16 : Int) =
        pointPosition n.value n.den - 1 + (Int.ofNat 17 - pointPosition n.value n.den) := by
      simp only [Int.ofNat_eq_natCast]
      omega
    have hScaled : (10 : ℚ) ^ 16 * (n.den * v) ≤ n.value * u :=
      calc (10 : ℚ) ^ 16 * (n.den * v) = 10 ^ (16 : Int) * (n.den * v) := by norm_num
        _ = 10 ^ (pointPosition n.value n.den - 1) * n.den *
            (10 ^ (Int.ofNat 17 - pointPosition n.value n.den) * v) := by
          rw [hExponent, zpow_add₀ (by norm_num)]
          ring
        _ ≤ n.value * (10 ^ (Int.ofNat 17 - pointPosition n.value n.den) * v) :=
          mul_le_mul_of_nonneg_right hPoint
            (mul_nonneg (zpow_nonneg (by norm_num) _) (Nat.cast_nonneg v))
        _ = n.value * u := by rw [hPower]
    exact_mod_cast hScaled
  cases hFound : onGrid? n (Int.ofNat 17 - pointPosition n.value n.den) with
  | some d => exact ⟨d, rfl⟩
  | none =>
    obtain ⟨hDown, hUp⟩ := (onGrid?_eq hScale).2 hFound
    rcases holds_of_fine hOnGrid hQuarters hu hv hFine with hHolds | hHolds
    · exact absurd hHolds hDown
    · exact absurd hHolds hUp

/-- The shortest digits of a number lie in its neighbourhood. -/
theorem shortest_means (hOnGrid : OnGrid mantissa grid magnitude) :
    (shortest mantissa (Int.ofNat grid - 1074)).Means mantissa grid := by
  obtain ⟨unit, hQuarters⟩ := quarters_of hOnGrid.positive grid
  unfold shortest
  dsimp only
  generalize Neighbourhood.of mantissa (Int.ofNat grid - 1074) = n at *
  obtain ⟨count, d, hFound, hSearch⟩ := search_eq (exists_onGrid hOnGrid hQuarters) 16 1 rfl
  obtain ⟨u, v, hu, hv, hScale, hPower⟩ := scale_eq (Int.ofNat count - pointPosition n.value n.den)
  rw [hSearch]
  apply means_of_close hOnGrid.positive
  exact close_of_holds hQuarters hu hv hPower ((onGrid?_eq hScale).1 d hFound)

end AssetAudit.Decimal
