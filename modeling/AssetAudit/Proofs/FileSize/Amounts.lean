import AssetAudit.Proofs.Decimal.Halves
import AssetAudit.Proofs.FileSize.Figures
import Mathlib.Tactic.FieldSimp
import Mathlib.Tactic.IntervalCases

/-!
# Amounts of sizes

The text of a size below `2 ^ 53` shows the size in the largest unit that it fills, up to the fourth, by
the nearest figure with two places. What the text denotes is never more than half a hundredth of the unit
away, and it grows with the size, also where a figure is rounded up to the next unit. There the figure
that is shown is 1024, which the next unit should have taken over.
-/
namespace AssetAudit.FileSize

open Decimal (roundDiv IsNearest)

theorem unitIndex_eq (num : Nat) {den : Nat} (hDen : 0 < den) (most : Nat) :
    unitIndex num den most = min most (Nat.log 1024 (num / den)) := by
  induction most generalizing den with
  | zero => rw [unitIndex, Nat.zero_min]
  | succ most ih =>
    rw [unitIndex]
    by_cases hFills : 1024 * den ≤ num
    · have hLog : Nat.log 1024 (num / den) = Nat.log 1024 (num / (den * 1024)) + 1 := by
        rw [← Nat.div_div_eq_div_mul]
        exact Nat.log_of_one_lt_of_le (by decide) ((Nat.le_div_iff_mul_le hDen).mpr hFills)
      rw [if_pos hFills, ih (Nat.mul_pos hDen (by decide)), hLog, Nat.add_min_add_right]
    · have hLess : num / den < 1024 := (Nat.div_lt_iff_lt_mul hDen).mpr (Nat.lt_of_not_le hFills)
      rw [if_neg hFills, Nat.log_of_lt hLess, Nat.min_zero]

def unitOf (n : Nat) : Nat :=
  min 3 (Nat.log 1024 n)

def shownHundredths (n : Nat) : Nat :=
  roundDiv (n * 100) (1024 ^ unitOf n)

def exactText (n : Nat) : Text :=
  (Figure.ofHundredths (shownHundredths n)).text ++ ' ' :: units.getD (unitOf n) []

section Sizes

variable {n m : Nat}

theorem pow_unitOf_pos (n : Nat) : 0 < 1024 ^ unitOf n :=
  Nat.pow_pos (by decide)

theorem unitOf_le (n : Nat) : unitOf n ≤ 3 :=
  Nat.min_le_left _ _

theorem pow_unitOf_le (hPos : 1 ≤ n) : 1024 ^ unitOf n ≤ n :=
  (Nat.pow_le_pow_right (by decide) (Nat.min_le_right _ _)).trans
    (Nat.pow_log_le_self 1024 (by omega))

theorem lt_pow_unitOf (hUnit : unitOf n < 3) : n < 1024 ^ (unitOf n + 1) := by
  have hLog : unitOf n = Nat.log 1024 n := by
    unfold unitOf at hUnit ⊢
    omega
  rw [hLog]
  exact Nat.lt_pow_succ_log_self (by decide) n

theorem unitOf_mono (h : n ≤ m) : unitOf n ≤ unitOf m :=
  min_le_min_left 3 (Nat.log_mono_right h)

theorem format?_eq (hRange : n < 2 ^ 53) : format? n = some (exactText n) := by
  have hUnit : unitIndex n 1 3 = unitOf n := by
    rw [unitIndex_eq n Nat.one_pos, Nat.div_one, unitOf]
  rw [exactText, Figure.text_ofHundredths]
  cases n with
  | zero => rfl
  | succ n =>
    have hFits : ∀ e, 53 ≤ e → ¬Nat.pow 2 e ≤ n + 1 := fun e he =>
      Nat.not_le.mpr (hRange.trans_le (Nat.pow_le_pow_right (by decide) he))
    unfold format?
    dsimp only
    rw [Decimal.roundBinary_of_lt (by decide) hRange, if_neg (hFits 1024 (by decide)), formatRatio, hUnit,
      Nat.one_mul]
    rfl

theorem shown?_exactText (n : Nat) :
    shown? (exactText n) = some (Figure.ofHundredths (shownHundredths n), unitOf n) := by
  have hShort := Figure.isShort_ofHundredths (shownHundredths n)
  exact shown?_text hShort.whole hShort.fraction (unitOf_le n)

theorem amount?_exactText (n : Nat) :
    amount? (exactText n) = some ((Figure.ofHundredths (shownHundredths n)).value * 1024 ^ unitOf n) := by
  rw [amount?, shown?_exactText, Option.map_some]

/-- Below the fourth unit no more than 1024 of a unit is shown. -/
theorem shownHundredths_le (hUnit : unitOf n < 3) : shownHundredths n ≤ 102400 := by
  have hLess := lt_pow_unitOf hUnit
  rw [Nat.pow_succ] at hLess
  exact Decimal.roundDiv_le (by omega) (pow_unitOf_pos n)

theorem le_shownHundredths (hPos : 1 ≤ n) : 100 ≤ shownHundredths n := by
  have hFills := pow_unitOf_le hPos
  exact Decimal.le_roundDiv (by omega) (pow_unitOf_pos n)

/-- A figure that is rounded up to 1024 is as much as one of the next unit. -/
theorem shown_mono (hPos : 1 ≤ n) (h : n ≤ m) :
    shownHundredths n * 1024 ^ unitOf n ≤ shownHundredths m * 1024 ^ unitOf m := by
  rcases (unitOf_mono h).lt_or_eq with hLess | hSame
  · calc shownHundredths n * 1024 ^ unitOf n
      _ ≤ 102400 * 1024 ^ unitOf n :=
        Nat.mul_le_mul_right _ (shownHundredths_le (hLess.trans_le (unitOf_le m)))
      _ = 100 * 1024 ^ (unitOf n + 1) := by rw [Nat.pow_succ]; omega
      _ ≤ 100 * 1024 ^ unitOf m := Nat.mul_le_mul_left _ (Nat.pow_le_pow_right (by decide) hLess)
      _ ≤ _ := Nat.mul_le_mul_right _ (le_shownHundredths (hPos.trans h))
  · unfold shownHundredths
    rw [hSame]
    exact Nat.mul_le_mul_right _
      (Decimal.roundDiv_mono (pow_unitOf_pos m) (Nat.mul_le_mul_right 100 h))

theorem isNearest_shownHundredths (n : Nat) :
    IsNearest (100 * (n / 1024 ^ unitOf n)) (shownHundredths n) := by
  have hNear := Decimal.isNearest_roundDiv (pow_unitOf_pos n) (n * 100)
  have hRatio : ((n * 100 : Nat) : ℚ) / (1024 ^ unitOf n : Nat) = 100 * (n / 1024 ^ unitOf n) := by
    push_cast
    ring
  rwa [hRatio] at hNear

theorem abs_sub_shown_le (n : Nat) :
    |(shownHundredths n / 100 * 1024 ^ unitOf n : ℚ) - n| ≤ 1 / 200 * 1024 ^ unitOf n := by
  have hUnit : (0 : ℚ) < 1024 ^ unitOf n := by positivity
  have hHalf := Decimal.abs_sub_roundDiv_le (pow_unitOf_pos n) (n * 100)
  have hParts : (shownHundredths n / 100 * 1024 ^ unitOf n : ℚ) - n =
      -(((n * 100 : Nat) / (1024 ^ unitOf n : Nat) - shownHundredths n) *
        (1 / 100 * 1024 ^ unitOf n)) := by
    push_cast
    field_simp
    ring
  rw [hParts, abs_neg, abs_mul, abs_of_pos (by positivity : (0 : ℚ) < 1 / 100 * 1024 ^ unitOf n)]
  calc _ ≤ 1 / 2 * (1 / 100 * 1024 ^ unitOf n : ℚ) :=
        mul_le_mul_of_nonneg_right hHalf (by positivity)
    _ = _ := by ring

end Sizes

/-- The text shows the size by the nearest figure with two places, a half being rounded to the even one,
in the largest unit that the size fills. -/
structure Shows (n : Nat) (t : Text) (f : Figure) : Prop where
  spelled : t = f.text ++ ' ' :: units.getD (unitOf n) []
  short : f.IsShort
  nearest : ∃ d : Int, f.value = d / 100 ∧ IsNearest (100 * (n / 1024 ^ unitOf n)) d

theorem shows_exactText (n : Nat) :
    Shows n (exactText n) (Figure.ofHundredths (shownHundredths n)) :=
  ⟨rfl, Figure.isShort_ofHundredths _, shownHundredths n, Figure.value_ofHundredths _,
    isNearest_shownHundredths n⟩

/-- Sizes are shown by their nearest figures, and larger sizes never by less. -/
theorem sizes_show_nearest {n : Nat} (hPos : 1 ≤ n) (hRange : n < 2 ^ 53) :
    ∃ t f, format? n = some t ∧ Shows n t f ∧ amount? t = some (f.value * 1024 ^ unitOf n) ∧
      |f.value * 1024 ^ unitOf n - n| ≤ 5 / 1000 * 1024 ^ unitOf n ∧
      ∀ m : Nat, n ≤ m → m < 2 ^ 53 → ∃ t' amount, format? m = some t' ∧ amount? t' = some amount ∧
        f.value * 1024 ^ unitOf n ≤ amount := by
  refine ⟨_, _, format?_eq hRange, shows_exactText n, amount?_exactText n, ?_, ?_⟩
  · rw [Figure.value_ofHundredths]
    exact (abs_sub_shown_le n).trans_eq (by ring)
  · intro m hMore hRange'
    refine ⟨_, _, format?_eq hRange', amount?_exactText m, ?_⟩
    have hShown : (shownHundredths n * 1024 ^ unitOf n : ℚ) ≤ shownHundredths m * 1024 ^ unitOf m := by
      exact_mod_cast shown_mono hPos hMore
    rw [Figure.value_ofHundredths, Figure.value_ofHundredths]
    linarith

/-- The last size that is shown in the second unit denotes as much as the first of the third. -/
theorem sizes_show_nearest_megabyte :
    ∃ f, Shows 1048575 "1024 KB".toList f ∧ |f.value * 1024 - 1048575| ≤ 5 / 1000 * 1024 ∧
      ∃ amount, amount? "1 MB".toList = some amount ∧ f.value * 1024 ≤ amount := by
  have hUnit : unitOf 1048575 = 1 := by decide +kernel
  obtain ⟨t, f, hText, hShows, -, hNear, hMore⟩ := sizes_show_nearest (n := 1048575) (by decide) (by decide)
  obtain ⟨t', amount, hText', hAmount, hLess⟩ := hMore 1048576 (by decide) (by decide)
  have hFirst : format? (1048575 : Nat) = some "1024 KB".toList := by decide +kernel
  have hSecond : format? (1048576 : Nat) = some "1 MB".toList := by decide +kernel
  obtain rfl := Option.some.inj (hText.symm.trans hFirst)
  obtain rfl := Option.some.inj (hText'.symm.trans hSecond)
  rw [hUnit, pow_one] at hNear hLess
  exact ⟨f, hShows, by exact_mod_cast hNear, amount, hAmount, hLess⟩

/-- A size stays behind 1024 of its unit when it is more than half a hundredth away from it. -/
theorem behind_iff (n : Nat) :
    shownHundredths n < 102400 ↔ 2 * (n * 100) + 1024 ^ unitOf n < 2 * (102400 * 1024 ^ unitOf n) :=
  lt_iff_lt_of_le_iff_le (Decimal.le_roundDiv_iff_of_even (by decide) (pow_unitOf_pos n))

theorem stays_behind_iff (n : Nat) :
    (unitOf n < 3 → shownHundredths n < 102400) ↔
      ¬(1048571 ≤ n ∧ n < 1024 ^ 2) ∧ ¬(1073736582 ≤ n ∧ n < 1024 ^ 3) := by
  have hLow : n = 0 ∨ 1024 ^ unitOf n ≤ n := n.eq_zero_or_pos.imp_right pow_unitOf_le
  have hHigh : unitOf n < 3 → n < 1024 ^ (unitOf n + 1) := lt_pow_unitOf
  have hMost := unitOf_le n
  rw [behind_iff]
  generalize unitOf n = k at *
  interval_cases k <;> omega

/-- Below the fourth unit at most 1024 of a unit is shown, and 1024 itself for the few sizes that the
rounding brings to the next unit. -/
theorem figure_below_next_unit_iff {n : Nat} (hRange : n < 2 ^ 53) :
    ∃ t f k, format? n = some t ∧ shown? t = some (f, k) ∧ (k < 3 → f.value ≤ 1024) ∧
      ((k < 3 → f.value < 1024) ↔
        ¬(1048571 ≤ n ∧ n < 1024 ^ 2) ∧ ¬(1073736582 ≤ n ∧ n < 1024 ^ 3)) := by
  refine ⟨_, _, _, format?_eq hRange, shown?_exactText n, ?_, ?_⟩
  · intro hUnit
    have hMost : (shownHundredths n : ℚ) ≤ 102400 := by exact_mod_cast shownHundredths_le hUnit
    rw [Figure.value_ofHundredths]
    linarith
  · have hBelow : (Figure.ofHundredths (shownHundredths n)).value < 1024 ↔ shownHundredths n < 102400 := by
      rw [Figure.value_ofHundredths, div_lt_iff₀ (by norm_num)]
      norm_num
    rw [hBelow, stays_behind_iff]

theorem figure_below_next_unit_iff_last :
    ∃ f, shown? "1023.99 KB".toList = some (f, 1) ∧ f.value < 1024 := by
  obtain ⟨t, f, k, hText, hShown, -, hBelow⟩ := figure_below_next_unit_iff (n := 1048570) (by decide)
  have hFirst : format? (1048570 : Nat) = some "1023.99 KB".toList := by decide +kernel
  obtain rfl := Option.some.inj (hText.symm.trans hFirst)
  have hUnit : (shown? "1023.99 KB".toList).map Prod.snd = some 1 := by decide +kernel
  rw [hShown, Option.map_some] at hUnit
  obtain rfl := Option.some.inj hUnit
  exact ⟨f, hShown, hBelow.mpr (by decide) (by decide)⟩

/-- A size just below a unit is shown as 1024 of the unit before it. -/
theorem megabyte_in_kilobytes :
    format? 1048575 = some "1024 KB".toList ∧
      ¬∀ n : Nat, n < 2 ^ 53 → ∀ t f k, format? n = some t → shown? t = some (f, k) → k < 3 →
        f.value < 1024 := by
  have hText : format? (1048575 : Nat) = some "1024 KB".toList := by decide +kernel
  have hShown : shown? "1024 KB".toList = some (⟨"1024".toList, []⟩, 1) := by decide +kernel
  refine ⟨hText, fun hBelow => ?_⟩
  have hLess := hBelow 1048575 (by decide) _ _ _ hText hShown (by decide)
  exact absurd hLess (by decide +kernel)

end AssetAudit.FileSize
