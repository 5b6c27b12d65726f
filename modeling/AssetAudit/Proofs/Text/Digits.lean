import AssetAudit.Decimal.Read
import Mathlib.Algebra.Order.Field.Power
import Mathlib.Data.Rat.Cast.Order
import Mathlib.Tactic.Linarith

/-!
# Decimal digits

The digits of a number fix its size and are read back as it.
-/
namespace AssetAudit

namespace Text

theorem lt_ten_pow_length (n : Nat) : n < 10 ^ (ofNat n).length :=
  (Nat.length_toDigits_le_iff (by decide) Nat.length_toDigits_pos).mp (Nat.le_refl _)

theorem length_ofNat_pos (n : Nat) : 0 < (ofNat n).length :=
  Nat.length_toDigits_pos

theorem ten_pow_length_le {n : Nat} (h : n ≠ 0) : 10 ^ ((ofNat n).length - 1) ≤ n := by
  by_contra hLess
  rcases Nat.eq_zero_or_pos ((ofNat n).length - 1) with hOne | hMore
  · rw [hOne] at hLess
    omega
  · have hLength : (ofNat n).length ≤ (ofNat n).length - 1 :=
      (Nat.length_toDigits_le_iff (by decide) hMore).mpr (Nat.lt_of_not_le hLess)
    have hSome := length_ofNat_pos n
    omega

theorem length_ofNat_mono {m n : Nat} (h : m ≤ n) : (ofNat m).length ≤ (ofNat n).length :=
  (Nat.length_toDigits_le_iff (by decide) (length_ofNat_pos n)).mpr
    (Nat.lt_of_le_of_lt h (lt_ten_pow_length n))

theorem length_ofNat_le {n e : Nat} (he : 0 < e) (h : n < Nat.pow 2 e) : (ofNat n).length ≤ e :=
  (Nat.length_toDigits_le_iff (by decide) he).mpr
    (Nat.lt_of_lt_of_le h (Nat.pow_le_pow_left (by decide) e))

theorem isDigit_ofNat (n : Nat) : ∀ c ∈ ofNat n, c.isDigit = true := fun _ hMem =>
  Nat.isDigit_of_mem_toDigits (by decide) (by decide) hMem

def number (t : Text) : Nat :=
  Nat.ofDigitChars 10 t 0

variable {t : Text}

theorem number_ofNat (n : Nat) : number (ofNat n) = n :=
  Nat.ofDigitChars_toDigits (by decide) (by decide)

theorem number_append (s t : Text) : number (s ++ t) = number s * 10 ^ t.length + number t := by
  unfold number
  rw [Nat.ofDigitChars_append, Nat.ofDigitChars_eq_ofDigitChars_zero, Nat.mul_comm]

theorem number_zeros (k : Nat) : number (List.replicate k '0') = 0 :=
  Nat.ofDigitChars_replicate_zero

theorem number_lt (h : ∀ c ∈ t, c.isDigit = true) : number t < 10 ^ t.length := by
  induction t with
  | nil => exact Nat.one_pos
  | cons c rest ih =>
    obtain ⟨hFirst, hRest⟩ := List.forall_mem_cons.mp h
    have hDigit : number [c] ≤ 9 := by
      have hRange := (Char.isDigit_iff_toNat.mp hFirst).2
      change 10 * 0 + (c.toNat - '0'.toNat) ≤ 9
      change c.toNat ≤ 57 at hRange
      change 10 * 0 + (c.toNat - 48) ≤ 9
      omega
    have hScaled : number [c] * 10 ^ rest.length ≤ 9 * 10 ^ rest.length :=
      Nat.mul_le_mul_right _ hDigit
    have hBelow := ih hRest
    rw [← List.singleton_append, number_append, List.length_append, List.length_singleton,
      Nat.pow_add, Nat.pow_one]
    omega

/-- A number that is not zero does not start with a zero. -/
theorem exists_first {n : Nat} (h : n ≠ 0) : ∃ c rest, ofNat n = c :: rest ∧ c ≠ '0' := by
  have hSome : ofNat n ≠ [] := List.ne_nil_of_length_pos (length_ofNat_pos n)
  obtain ⟨c, rest, hDigits⟩ := List.exists_cons_of_ne_nil hSome
  refine ⟨c, rest, hDigits, ?_⟩
  rintro rfl
  have hAll := isDigit_ofNat n
  have hLong := ten_pow_length_le h
  have hNumber := number_ofNat n
  rw [hDigits] at hAll hLong hNumber
  have hRest := number_lt (List.forall_mem_cons.mp hAll).2
  have hSame : number ('0' :: rest) = number rest := rfl
  rw [List.length_cons, Nat.add_sub_cancel] at hLong
  omega

end Text

namespace Decimal

theorem readDigits_digits {t : Text} (h : ∀ c ∈ t, c.isDigit = true) :
    (readDigits t).1 = Text.number t := by
  have hGo : ∀ {t : Text} (n count : Nat), (∀ c ∈ t, c.isDigit = true) →
      (readDigits.go n count t).1 = Nat.ofDigitChars 10 t n := by
    intro t
    induction t with
    | nil => exact fun n count _ => rfl
    | cons c rest ih =>
      intro n count h
      obtain ⟨hFirst, hRest⟩ := List.forall_mem_cons.mp h
      have hDigit : (decide ('0' ≤ c) && decide (c ≤ '9')) = true := hFirst
      rw [readDigits.go, if_pos hDigit, ih _ _ hRest, Nat.ofDigitChars_cons, Nat.mul_comm]
      rfl
  cases t with
  | nil => rfl
  | cons c rest => exact hGo 0 0 h

variable {n : Nat} {e : Int}

/-- A decimal number is below the power of ten that has one digit more. -/
theorem decimal_lt (n : Nat) (e : Int) :
    (n : ℚ) * 10 ^ e < 10 ^ (Int.ofNat (Text.ofNat n).length + e) := by
  have hBelow : (n : ℚ) < 10 ^ (Text.ofNat n).length := by
    exact_mod_cast Text.lt_ten_pow_length n
  rw [zpow_add₀ (by norm_num), Int.ofNat_eq_natCast, zpow_natCast]
  exact mul_lt_mul_of_pos_right hBelow (zpow_pos (by norm_num) e)

theorem le_decimal (h : n ≠ 0) (e : Int) :
    (10 : ℚ) ^ (Int.ofNat (Text.ofNat n).length + e - 1) ≤ n * 10 ^ e := by
  have hAbove : (10 : ℚ) ^ ((Text.ofNat n).length - 1) ≤ n := by
    exact_mod_cast Text.ten_pow_length_le h
  have hExponent : Int.ofNat (Text.ofNat n).length + e - 1 =
      (((Text.ofNat n).length - 1 : Nat) : Int) + e := by
    have hSome := Text.length_ofNat_pos n
    rw [Int.ofNat_eq_natCast]
    omega
  rw [hExponent, zpow_add₀ (by norm_num), zpow_natCast]
  exact mul_le_mul_of_nonneg_right hAbove (zpow_nonneg (by norm_num) e)

end Decimal

end AssetAudit
