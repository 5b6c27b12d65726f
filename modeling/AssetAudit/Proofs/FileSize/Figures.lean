import AssetAudit.FileSize
import AssetAudit.Proofs.Path.Spelling
import AssetAudit.Proofs.Text.Digits
import Mathlib.Tactic.Positivity
import Mathlib.Tactic.Ring

/-!
# Figures of sizes

A figure is a decimal number with digits before and behind the point. A number of hundredths is written as
a short figure, without needless zeros and with a point only in front of digits. The text of a size is a
figure and a unit, and from it both are read back.
-/
namespace AssetAudit.FileSize

structure Figure where
  whole : Text
  fraction : Text
  deriving DecidableEq, Repr

namespace Figure

def text (f : Figure) : Text :=
  f.whole ++ if f.fraction = [] then [] else '.' :: f.fraction

def value (f : Figure) : ℚ :=
  Text.number f.whole + Text.number f.fraction / 10 ^ f.fraction.length

/-- A number with at most two places, with no zero at its end behind the point and none in front but for a
single one. -/
structure IsShort (f : Figure) : Prop where
  whole : ∀ c ∈ f.whole, c.isDigit = true
  fraction : ∀ c ∈ f.fraction, c.isDigit = true
  nonempty : f.whole ≠ []
  front : f.whole.head? = some '0' → f.whole = ['0']
  places : f.fraction.length ≤ 2
  back : f.fraction.getLast? ≠ some '0'

def ofText? (t : Text) : Option Figure :=
  match t.dropWhile Char.isDigit with
  | [] => some ⟨t.takeWhile Char.isDigit, []⟩
  | '.' :: fraction =>
    if fraction.all Char.isDigit then some ⟨t.takeWhile Char.isDigit, fraction⟩ else none
  | _ :: _ => none

theorem ofText?_text {f : Figure} (hWhole : ∀ c ∈ f.whole, c.isDigit = true)
    (hFraction : ∀ c ∈ f.fraction, c.isDigit = true) : ofText? f.text = some f := by
  obtain ⟨whole, fraction⟩ := f
  have hPoint : ¬Char.isDigit '.' = true := by decide
  unfold ofText? text
  rw [List.dropWhile_append_of_pos hWhole, List.takeWhile_append_of_pos hWhole]
  by_cases hNone : fraction = []
  · rw [if_pos hNone, hNone]
    simp
  · rw [if_neg hNone, List.dropWhile_cons_of_neg hPoint, List.takeWhile_cons_of_neg hPoint]
    have hAll : fraction.all Char.isDigit = true := List.all_eq_true.mpr hFraction
    simp [hAll]

def placesOf (r : Nat) : Text :=
  if r = 0 then []
  else if r % 10 = 0 then Text.ofNat (r / 10)
  else if r < 10 then '0' :: Text.ofNat r
  else Text.ofNat r

def ofHundredths (n : Nat) : Figure where
  whole := Text.ofNat (n / 100)
  fraction := placesOf (n % 100)

theorem placesOf_eq_nil_iff (r : Nat) : placesOf r = [] ↔ r = 0 := by
  have hDigits : ∀ n, Text.ofNat n ≠ [] := fun n => List.ne_nil_of_length_pos (Text.length_ofNat_pos n)
  unfold placesOf
  by_cases hZero : r = 0
  · exact iff_of_true (if_pos hZero) hZero
  · rw [if_neg hZero]
    refine iff_of_false ?_ hZero
    split
    · exact hDigits _
    · split
      · exact List.cons_ne_nil _ _
      · exact hDigits _

/-- There are at most two places, the last of them no zero, and they stand for their hundredths. -/
theorem placesOf_spec : ∀ r < 100, (placesOf r).all Char.isDigit = true ∧ (placesOf r).length ≤ 2 ∧
    (placesOf r).getLast? ≠ some '0' ∧
    Text.number (placesOf r) * 100 = r * 10 ^ (placesOf r).length := by
  decide +kernel

theorem text_ofHundredths (n : Nat) : (ofHundredths n).text = hundredths n := by
  unfold text ofHundredths hundredths
  dsimp only
  rw [List.append_cancel_left_eq]
  by_cases hZero : n % 100 = 0
  · rw [if_pos ((placesOf_eq_nil_iff _).mpr hZero), if_pos hZero]
  · rw [if_neg ((placesOf_eq_nil_iff _).not.mpr hZero), if_neg hZero, placesOf, if_neg hZero]
    split_ifs <;> rfl

theorem isShort_ofHundredths (n : Nat) : (ofHundredths n).IsShort := by
  obtain ⟨hDigits, hPlaces, hBack, -⟩ := placesOf_spec (n % 100) (Nat.mod_lt n (by decide))
  refine ⟨Text.isDigit_ofNat _, List.all_eq_true.mp hDigits, ?_, ?_, hPlaces, hBack⟩
  · exact List.ne_nil_of_length_pos (Text.length_ofNat_pos _)
  · intro hFront
    by_cases hZero : n / 100 = 0
    · exact congrArg Text.ofNat hZero
    · obtain ⟨c, rest, hDigits, hFirst⟩ := Text.exists_first hZero
      rw [ofHundredths, hDigits] at hFront
      exact absurd (Option.some.inj hFront) hFirst

theorem value_ofHundredths (n : Nat) : (ofHundredths n).value = n / 100 := by
  obtain ⟨-, -, -, hPlaces⟩ := placesOf_spec (n % 100) (Nat.mod_lt n (by decide))
  have hSplit : (100 * (n / 100 : Nat) + (n % 100 : Nat) : ℚ) = n := by
    exact_mod_cast Nat.div_add_mod n 100
  have hPlaces : (Text.number (placesOf (n % 100)) : ℚ) * 100 =
      (n % 100 : Nat) * 10 ^ (placesOf (n % 100)).length := by exact_mod_cast hPlaces
  have hFraction : (Text.number (placesOf (n % 100)) : ℚ) / 10 ^ (placesOf (n % 100)).length =
      (n % 100 : Nat) / 100 := by
    rw [div_eq_div_iff (by positivity) (by norm_num), hPlaces]
  unfold value ofHundredths
  dsimp only
  rw [Text.number_ofNat, hFraction, ← hSplit]
  ring

end Figure

def shown? (t : Text) : Option (Figure × Nat) :=
  match Text.splitOn ' ' t with
  | [figure, unit] =>
    (Figure.ofText? figure).bind fun f => (units.idxOf? unit).map fun k => (f, k)
  | _ => none

def amount? (t : Text) : Option ℚ :=
  (shown? t).map fun shown => shown.1.value * 1024 ^ shown.2

theorem shown?_text {f : Figure} (hWhole : ∀ c ∈ f.whole, c.isDigit = true)
    (hFraction : ∀ c ∈ f.fraction, c.isDigit = true) {k : Nat} (hk : k ≤ 3) :
    shown? (f.text ++ ' ' :: units.getD k []) = some (f, k) := by
  have hUnits : ∀ k ≤ 3, ' ' ∉ units.getD k [] ∧ units.idxOf? (units.getD k []) = some k := by
    decide
  have hDigit : ∀ {t : Text}, (∀ c ∈ t, c.isDigit = true) → ' ' ∉ t := fun h hMem =>
    absurd (h _ hMem) (by decide)
  have hFigure : ' ' ∉ f.text := by
    unfold Figure.text
    split
    · simpa using hDigit hWhole
    · simpa using ⟨hDigit hWhole, hDigit hFraction⟩
  have hSplit : Text.splitOn ' ' (f.text ++ ' ' :: units.getD k []) = [f.text, units.getD k []] := by
    have hPieces : ∀ piece ∈ [f.text, units.getD k []], ' ' ∉ piece := by
      simpa using ⟨hFigure, (hUnits k hk).1⟩
    rw [← Text.splitOn_join (List.cons_ne_nil _ _) hPieces, Text.join_cons_cons]
    rfl
  unfold shown?
  rw [hSplit]
  dsimp only
  rw [Figure.ofText?_text hWhole hFraction, (hUnits k hk).2]
  rfl

end AssetAudit.FileSize
