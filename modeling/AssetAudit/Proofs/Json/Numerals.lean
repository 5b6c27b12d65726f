import AssetAudit.Json.Read
import AssetAudit.Json.Write
import AssetAudit.Proofs.Decimal.Nearest
import AssetAudit.Proofs.Decimal.Shortest

/-!
# Numbers in JSON

The texts of numbers, and what is read of them. A number that is written is read as itself, to its last
bit.
-/
namespace AssetAudit.Json

open Text (number)

def AreDigits (t : Text) : Prop :=
  ∀ c ∈ t, c.isDigit = true

inductive IsExponent : Text → Option Int → Prop
  | none : IsExponent [] none
  | plain {mark : Char} {ds : Text} (hMark : mark = 'e' ∨ mark = 'E') (hSome : ds ≠ [])
      (hDigits : AreDigits ds) : IsExponent (mark :: ds) (some (number ds))
  | positive {mark : Char} {ds : Text} (hMark : mark = 'e' ∨ mark = 'E') (hSome : ds ≠ [])
      (hDigits : AreDigits ds) : IsExponent (mark :: '+' :: ds) (some (number ds))
  | negative {mark : Char} {ds : Text} (hMark : mark = 'e' ∨ mark = 'E') (hSome : ds ≠ [])
      (hDigits : AreDigits ds) : IsExponent (mark :: '-' :: ds) (some (-number ds))

def signText (negative : Bool) : Text :=
  if negative then ['-'] else []

def fractionText (fraction : Text) : Text :=
  if fraction.isEmpty then [] else '.' :: fraction

/-- The text of a number: no zero stands before other whole digits. -/
structure Numeral.IsText (n : Numeral) (t : Text) : Prop where
  whole : n.whole = ['0'] ∨ ∃ c rest, n.whole = c :: rest ∧ c ≠ '0'
  wholeDigits : AreDigits n.whole
  fractionDigits : AreDigits n.fraction
  text : ∃ e, IsExponent e n.exponent ∧
    t = signText n.negative ++ (n.whole ++ (fractionText n.fraction ++ e))
  length : n.length = t.length

/-- What may follow a number: no character that belongs to one. -/
def EndsNumber (rest : Text) : Prop :=
  ∀ c ∈ rest.head?, c.isDigit = false ∧ c ≠ '.' ∧ c ≠ 'e' ∧ c ≠ 'E'

variable {t rest ds : Text} {n : Numeral}

theorem digits_append (hDigits : AreDigits ds) (hRest : ∀ c ∈ rest.head?, c.isDigit = false) :
    digits (ds ++ rest) = ds := by
  unfold digits
  rw [List.takeWhile_append_of_pos hDigits]
  cases rest with
  | nil => exact List.append_nil ds
  | cons c more => rw [List.takeWhile_cons_of_neg (by rw [hRest c rfl]; nofun), List.append_nil]

theorem isDigit_mark {mark : Char} (h : mark = 'e' ∨ mark = 'E') : mark.isDigit = false := by
  rcases h with rfl | rfl
  · rfl
  · rfl

/-- Neither an exponent nor what follows it goes on with the digits before it. -/
theorem IsExponent.no_digit {e : Text} {value : Option Int} (h : IsExponent e value)
    (hRest : EndsNumber rest) : ∀ c ∈ (e ++ rest).head?, c.isDigit = false ∧ c ≠ '.' := by
  cases h with
  | none => exact fun c hMem => ⟨(hRest c hMem).1, (hRest c hMem).2.1⟩
  | plain hMark | positive hMark | negative hMark =>
    rintro c ⟨⟩
    refine ⟨isDigit_mark hMark, ?_⟩
    rcases hMark with rfl | rfl
    · decide
    · decide

theorem exponent?_append {e : Text} {value : Option Int} (h : IsExponent e value)
    (hRest : EndsNumber rest) : exponent? (e ++ rest) = value.map (·, e.length) := by
  have hEnd : ∀ c ∈ rest.head?, c.isDigit = false := fun c hMem => (hRest c hMem).1
  have hMarked : ∀ {mark : Char}, mark = 'e' ∨ mark = 'E' → (mark == 'e' || mark == 'E') = true := by
    rintro mark (rfl | rfl)
    · rfl
    · rfl
  cases h with
  | none =>
    cases rest with
    | nil => rfl
    | cons c more =>
      obtain ⟨-, -, hLower, hUpper⟩ := hRest c rfl
      change (if (c == 'e' || c == 'E') = true then _ else none) = none
      rw [if_neg (by simp [hLower, hUpper])]
  | plain hMark hSome hDigits =>
    rename_i mark ds
    have hNoSign : ∀ {sign : Char} {r : Text}, sign.isDigit = false → ds ++ rest ≠ sign :: r := by
      intro sign r hSign hEq
      cases ds with
      | nil => exact hSome rfl
      | cons c more =>
        obtain ⟨rfl, -⟩ := List.cons.inj hEq
        rw [hDigits c List.mem_cons_self] at hSign
        cases hSign
    rw [List.cons_append, exponent?, if_pos (hMarked hMark)]
    · dsimp only
      rw [digits_append hDigits hEnd, if_neg (by simpa using hSome),
        Decimal.readDigits_digits hDigits]
      simp [Nat.add_comm]
    · exact fun r => hNoSign rfl
    · exact fun r => hNoSign rfl
  | positive hMark hSome hDigits | negative hMark hSome hDigits =>
    rw [List.cons_append, List.cons_append, exponent?, if_pos (hMarked hMark)]
    dsimp only
    rw [digits_append hDigits hEnd, if_neg (by simpa using hSome),
      Decimal.readDigits_digits hDigits, List.length_cons, List.length_cons, Nat.add_comm (1 + 1)]
    rfl

/-- Of the two kinds of whole digits the reader takes all. -/
theorem wholeDigits_append {whole : Text}
    (hWhole : whole = ['0'] ∨ ∃ c more, whole = c :: more ∧ c ≠ '0') (hDigits : AreDigits whole)
    (hRest : ∀ c ∈ rest.head?, c.isDigit = false) : wholeDigits (whole ++ rest) = whole := by
  rcases hWhole with rfl | ⟨c, more, rfl, hNonzero⟩
  · rfl
  · rw [List.cons_append, wholeDigits, ← List.cons_append]
    · exact digits_append hDigits hRest
    · rintro tail ⟨⟩
      exact hNonzero rfl

theorem fractionDigits_append {fraction : Text} (hDigits : AreDigits fraction)
    (hRest : ∀ c ∈ rest.head?, c.isDigit = false ∧ c ≠ '.') :
    fractionDigits (fractionText fraction ++ rest) = fraction := by
  cases fraction with
  | nil =>
    change fractionDigits rest = []
    cases rest with
    | nil => rfl
    | cons c more =>
      rw [fractionDigits]
      rintro r ⟨⟩
      exact (hRest '.' rfl).2 rfl
  | cons c more => exact digits_append hDigits fun c hMem => (hRest c hMem).1

theorem unsigned?_append (negative : Bool) {whole fraction e : Text} {exponent : Option Int}
    (hWhole : whole = ['0'] ∨ ∃ c more, whole = c :: more ∧ c ≠ '0') (hDigits : AreDigits whole)
    (hFraction : AreDigits fraction) (hExponent : IsExponent e exponent) (hRest : EndsNumber rest) :
    unsigned? negative (whole ++ (fractionText fraction ++ (e ++ rest))) =
      some ⟨negative, whole, fraction, exponent,
        (signText negative ++ (whole ++ (fractionText fraction ++ e))).length⟩ := by
  have hTail := hExponent.no_digit hRest
  have hAfter : ∀ c ∈ (fractionText fraction ++ (e ++ rest)).head?, c.isDigit = false := by
    cases fraction with
    | nil => exact fun c hMem => (hTail c hMem).1
    | cons d more =>
      rintro c ⟨⟩
      rfl
  have hSome : whole.isEmpty = false := by
    rcases hWhole with rfl | ⟨c, more, rfl, -⟩
    · rfl
    · rfl
  have hDrop : (if fraction.isEmpty = true then fractionText fraction ++ (e ++ rest)
      else (fractionText fraction ++ (e ++ rest)).drop (fraction.length + 1)) = e ++ rest := by
    cases fraction with
    | nil => rfl
    | cons d more => exact List.drop_left
  have hUsed : (signText negative ++ (whole ++ (fractionText fraction ++ e))).length =
      (if negative = true then 1 else 0) + whole.length +
        (if fraction.isEmpty = true then 0 else fraction.length + 1) + e.length := by
    have hSign : (signText negative).length = if negative = true then 1 else 0 := by
      cases negative with
      | true => rfl
      | false => rfl
    have hPoint : (fractionText fraction).length =
        if fraction.isEmpty = true then 0 else fraction.length + 1 := by
      cases fraction with
      | nil => rfl
      | cons d more => rfl
    rw [List.length_append, List.length_append, List.length_append, hSign, hPoint, Nat.add_assoc,
      Nat.add_assoc]
  unfold unsigned?
  dsimp only
  rw [wholeDigits_append hWhole hDigits hAfter, hSome, if_neg nofun, List.drop_left,
    fractionDigits_append hFraction hTail, hDrop, exponent?_append hExponent hRest, hUsed]
  cases exponent with
  | none =>
    cases hExponent
    rfl
  | some e => rfl

theorem numeral?_append (h : n.IsText t) (hRest : EndsNumber rest) :
    numeral? (t ++ rest) = some n := by
  obtain ⟨negative, whole, fraction, exponent, length⟩ := n
  obtain ⟨hWhole, hDigits, hFraction, ⟨e, hExponent, rfl⟩, hLength⟩ := h
  dsimp only at *
  subst hLength
  have hBody := unsigned?_append negative hWhole hDigits hFraction hExponent hRest
  cases negative with
  | true =>
    rw [← hBody]
    simp only [List.append_assoc]
    rfl
  | false =>
    rw [← hBody]
    simp only [List.append_assoc]
    rcases hWhole with rfl | ⟨c, more, rfl, -⟩
    · rfl
    · change numeral? (c :: (more ++ _)) = _
      rw [numeral?]
      · rfl
      · rintro r ⟨⟩
        cases hDigits '-' List.mem_cons_self

theorem Numeral.value_float (hWhole : AreDigits n.whole) (hFraction : AreDigits n.fraction)
    (hFloat : n.fraction ≠ [] ∨ n.exponent ≠ none) :
    n.value = .ok (.float (Decimal.nearest n.negative (number (n.whole ++ n.fraction))
      (n.exponent.getD 0 - Int.ofNat n.fraction.length))) := by
  have hBoth : AreDigits (n.whole ++ n.fraction) := List.forall_mem_append.mpr ⟨hWhole, hFraction⟩
  unfold value
  split
  · rename_i hNone hNoExponent
    rcases hFloat with hSome | hSome
    · exact absurd hNone hSome
    · exact absurd hNoExponent hSome
  · rw [Decimal.readDigits_digits hBoth]

theorem Numeral.value_int (hDigits : AreDigits n.whole) (hFraction : n.fraction = [])
    (hExponent : n.exponent = none) (hLength : n.whole.length ≤ 4300) :
    n.value = .ok (.int (if n.negative then -Int.ofNat (number n.whole) else number n.whole)) := by
  unfold value
  rw [hFraction, hExponent]
  dsimp only
  rw [if_neg (Nat.not_lt.mpr hLength), Decimal.readDigits_digits hDigits]
  rfl

section Layout

open Decimal (Layout Digits)

theorem areDigits_nil : AreDigits [] := fun _ hMem => absurd hMem List.not_mem_nil

theorem areDigits_zeros (k : Nat) : AreDigits (List.replicate k '0') := by
  intro c hMem
  rw [List.eq_of_mem_replicate hMem]
  rfl

theorem number_zeros_append (k : Nat) (t : Text) : number (List.replicate k '0' ++ t) = number t := by
  rw [Text.number_append, Text.number_zeros, Nat.zero_mul, Nat.zero_add]

theorem areDigits_zero : AreDigits ['0'] :=
  areDigits_zeros 1

theorem number_zero : number ['0'] = 0 :=
  Text.number_zeros 1

theorem number_zero_append (t : Text) : number (['0'] ++ t) = number t :=
  number_zeros_append 1 t

theorem isExponent_exponent (e : Int) : IsExponent (Layout.exponent e) (some e) := by
  have hDigits : AreDigits (List.replicate (2 - (Text.ofNat e.natAbs).length) '0' ++
      Text.ofNat e.natAbs) :=
    List.forall_mem_append.mpr ⟨areDigits_zeros _, Text.isDigit_ofNat _⟩
  have hSome : List.replicate (2 - (Text.ofNat e.natAbs).length) '0' ++ Text.ofNat e.natAbs ≠ [] :=
    List.append_ne_nil_of_right_ne_nil _ (List.ne_nil_of_length_pos (Text.length_ofNat_pos _))
  have hNumber : number (List.replicate (2 - (Text.ofNat e.natAbs).length) '0' ++
      Text.ofNat e.natAbs) = e.natAbs := by
    rw [number_zeros_append, Text.number_ofNat]
  unfold Layout.exponent
  dsimp only
  by_cases hSign : e < 0
  · have hValue : -(e.natAbs : Int) = e := by omega
    have hExponent := IsExponent.negative (.inl (rfl : 'e' = 'e')) hSome hDigits
    rw [hNumber, hValue] at hExponent
    rw [if_pos hSign]
    exact hExponent
  · have hValue : (e.natAbs : Int) = e := by omega
    have hExponent := IsExponent.positive (.inl (rfl : 'e' = 'e')) hSome hDigits
    rw [hNumber, hValue] at hExponent
    rw [if_neg hSign]
    exact hExponent

structure Numeral.Denotes (n : Numeral) (t : Text) (x : ℚ) : Prop where
  text : n.IsText t
  float : n.fraction ≠ [] ∨ n.exponent ≠ none
  size : (number (n.whole ++ n.fraction) : ℚ) *
    10 ^ (n.exponent.getD 0 - Int.ofNat n.fraction.length) = x

variable {d : Digits} {x : ℚ}

theorem exists_denotes (negative : Bool) {whole fraction e text : Text} {exponent : Option Int}
    (hWhole : whole = ['0'] ∨ ∃ c more, whole = c :: more ∧ c ≠ '0') (hDigits : AreDigits whole)
    (hFraction : AreDigits fraction) (hExponent : IsExponent e exponent)
    (hText : text = whole ++ (fractionText fraction ++ e))
    (hFloat : fraction ≠ [] ∨ exponent ≠ none)
    (hSize : (number (whole ++ fraction) : ℚ) * 10 ^ (exponent.getD 0 - Int.ofNat fraction.length) = x) :
    ∃ n : Numeral, n.negative = negative ∧ n.Denotes (signText negative ++ text) x := by
  subst hText
  exact ⟨⟨negative, whole, fraction, exponent, _⟩, rfl,
    ⟨hWhole, hDigits, hFraction, ⟨e, hExponent, rfl⟩, rfl⟩, hFloat, hSize⟩

/-- The point stands behind whole digits, which are filled up with zeros. -/
theorem exists_positional {all : Text} (negative : Bool) (hDigits : AreDigits all)
    (hFirst : ∃ c rest, all = c :: rest ∧ c ≠ '0') (p : Nat) :
    ∃ n : Numeral, n.negative = negative ∧ n.Denotes
      (signText negative ++ (all.take (p + 1) ++
        List.replicate (p + 1 - (all.take (p + 1)).length) '0' ++
        '.' :: if (all.drop (p + 1)).isEmpty then ['0'] else all.drop (p + 1)))
      (number all * 10 ^ (Int.ofNat (p + 1) - Int.ofNat all.length)) := by
  have hWhole : ∃ c more, all.take (p + 1) ++
      List.replicate (p + 1 - (all.take (p + 1)).length) '0' = c :: more ∧ c ≠ '0' := by
    obtain ⟨c, rest, rfl, hNonzero⟩ := hFirst
    exact ⟨c, _, rfl, hNonzero⟩
  have hTake : AreDigits (all.take (p + 1) ++
      List.replicate (p + 1 - (all.take (p + 1)).length) '0') :=
    List.forall_mem_append.mpr
      ⟨fun c hMem => hDigits c (List.mem_of_mem_take hMem), areDigits_zeros _⟩
  by_cases hLong : p + 1 < all.length
  · have hSome : all.drop (p + 1) ≠ [] := by
      intro hNone
      have hShort := List.drop_eq_nil_iff.mp hNone
      omega
    have hNoZeros : p + 1 - (all.take (p + 1)).length = 0 := by
      rw [List.length_take]
      omega
    rw [if_neg (by simpa using hLong)]
    apply exists_denotes negative (.inr hWhole) hTake
      (fun c hMem => hDigits c (List.mem_of_mem_drop hMem)) .none
    · rw [List.append_nil, fractionText, if_neg (by simpa using hLong)]
    · exact .inl hSome
    · rw [hNoZeros, List.replicate_zero, List.append_nil, List.take_append_drop, List.length_drop]
      congr 2
      simp only [Option.getD_none, Int.ofNat_eq_natCast]
      omega
  · have hAll : all.take (p + 1) = all := List.take_of_length_le (Nat.le_of_not_lt hLong)
    have hNone : all.drop (p + 1) = [] := List.drop_eq_nil_of_le (Nat.le_of_not_lt hLong)
    rw [hNone]
    apply exists_denotes negative (.inr hWhole) hTake areDigits_zero .none
    · rfl
    · exact .inl nofun
    · have hExponent : Int.ofNat (p + 1) - Int.ofNat all.length =
          ((p + 1 - all.length : Nat) : Int) := by
        simp only [Int.ofNat_eq_natCast]
        omega
      have hTenth : (10 : ℚ) ^ ((none : Option Int).getD 0 - Int.ofNat 1) = 10⁻¹ := zpow_neg_one 10
      rw [hAll, hExponent, Text.number_append, Text.number_append, Text.number_zeros, number_zero,
        List.length_replicate, List.length_singleton, zpow_natCast, hTenth]
      push_cast
      ring

/-- However digits are laid out, their text denotes them. -/
theorem exists_numeral (layout : Layout) (negative : Bool) (hDigits : AreDigits d.digits)
    (hFirst : ∃ c rest, d.digits = c :: rest ∧ c ≠ '0') :
    ∃ n : Numeral, n.negative = negative ∧ n.Denotes (signText negative ++ layout.digits d)
      (number d.digits * 10 ^ (d.point - Int.ofNat d.digits.length)) := by
  obtain ⟨c, rest, hEq, hNonzero⟩ := hFirst
  obtain ⟨all, point⟩ := d
  dsimp only at *
  have hRest : AreDigits rest := by
    rw [hEq] at hDigits
    exact (List.forall_mem_cons.mp hDigits).2
  unfold Layout.digits
  split
  · -- one digit stands before the point
    apply exists_denotes negative (.inr ⟨c, [], rfl, hNonzero⟩) _ hRest (isExponent_exponent _)
    · subst hEq
      cases rest with
      | nil => rfl
      | cons e more => rfl
    · exact .inr nofun
    · subst hEq
      rw [Option.getD_some, List.length_cons]
      congr 2
      simp only [Int.ofNat_eq_natCast]
      omega
    · rw [hEq] at hDigits
      exact List.forall_mem_singleton.mpr (List.forall_mem_cons.mp hDigits).1
  · split
    · rename_i p hPoint
      obtain rfl : point = Int.ofNat (p + 1) := hPoint
      exact exists_positional negative hDigits ⟨c, rest, hEq, hNonzero⟩ p
    · rename_i hPoint
      obtain rfl : point = Int.ofNat 0 := hPoint
      apply exists_denotes negative (.inl rfl) areDigits_zero hDigits .none
      · rw [hEq]
        exact (congrArg ('0' :: '.' :: ·) (List.append_nil _)).symm
      · exact .inl (by rw [hEq]; nofun)
      · rw [number_zero_append]
        rfl
    · rename_i p hPoint
      obtain rfl : point = Int.negSucc p := hPoint
      apply exists_denotes negative (.inl rfl) areDigits_zero
        (List.forall_mem_append.mpr ⟨areDigits_zeros (p + 1), hDigits⟩) .none
      · exact (congrArg ('0' :: '.' :: ·) (List.append_nil _)).symm
      · exact .inl nofun
      · rw [number_zero_append, number_zeros_append, List.length_append, List.length_replicate]
        congr 2
        simp only [Option.getD_none, Int.ofNat_eq_natCast]
        omega

end Layout

section Written

open Decimal (Parts)

def IsNumber (s : Scalar) (t : Text) : Prop :=
  ∃ n : Numeral, n.IsText t ∧ n.value = .ok s

theorem isNumber_float {bits : UInt64} {negative : Bool} {mantissa : Nat} {exponent : Int}
    (h : Parts.ofBits bits = .finite negative mantissa exponent) :
    IsNumber (.float bits) (numberLayout.text (.finite negative mantissa exponent)) := by
  obtain ⟨grid, magnitude, hBits, rfl, hSpelled, hFits, hFull, hFinite⟩ := Decimal.finite_of_parts h
  cases mantissa with
  | zero =>
    have hGrid : grid = 0 := by
      by_contra hMore
      exact absurd (hFull (Nat.pos_of_ne_zero hMore)) (by decide)
    rw [hGrid, Nat.zero_mul] at hSpelled
    rw [hSpelled] at hBits
    refine ⟨⟨negative, ['0'], ['0'], none, _⟩,
      ⟨.inl rfl, areDigits_zero, areDigits_zero, ⟨[], .none, ?_⟩, rfl⟩, ?_⟩
    · cases negative with
      | true => rfl
      | false => rfl
    · rw [hBits]
      exact Numeral.value_float areDigits_zero areDigits_zero (.inl (List.cons_ne_nil _ _))
  | succ m =>
    have hOnGrid : Decimal.OnGrid (m + 1) grid magnitude :=
      ⟨Nat.succ_pos m, hFits, hFull, hSpelled, hFinite⟩
    have hMeans := Decimal.shortest_means hOnGrid
    obtain ⟨n, rfl, hDenotes⟩ := exists_numeral numberLayout negative hMeans.digits hMeans.first
    have hClose := hMeans.close
    rw [← hDenotes.size] at hClose
    refine ⟨n, hDenotes.text, ?_⟩
    rw [Numeral.value_float hDenotes.text.wholeDigits hDenotes.text.fractionDigits hDenotes.float,
      Decimal.nearest_eq hOnGrid hClose, hBits]
    rfl

/-- An integer with no more digits than can be read. -/
def IsReadable (k : Int) : Prop :=
  (Text.ofNat k.natAbs).length ≤ 4300

theorem isNumber_int {k : Int} (h : IsReadable k) : IsNumber (.int k) (Text.ofInt k) := by
  have hWhole : ∀ m : Nat, Text.ofNat m = ['0'] ∨ ∃ c rest, Text.ofNat m = c :: rest ∧ c ≠ '0' := by
    intro m
    by_cases hZero : m = 0
    · rw [hZero]
      exact .inl rfl
    · exact .inr (Text.exists_first hZero)
  cases k with
  | ofNat m =>
    refine ⟨⟨false, Text.ofNat m, [], none, _⟩,
      ⟨hWhole m, Text.isDigit_ofNat m, areDigits_nil, ⟨[], .none, (List.append_nil _).symm⟩, rfl⟩, ?_⟩
    refine (Numeral.value_int (n := ⟨false, Text.ofNat m, [], none, _⟩) (Text.isDigit_ofNat m) rfl rfl
      h).trans ?_
    rw [Text.number_ofNat]
    rfl
  | negSucc m =>
    refine ⟨⟨true, Text.ofNat (m + 1), [], none, _⟩,
      ⟨hWhole (m + 1), Text.isDigit_ofNat (m + 1), areDigits_nil,
        ⟨[], .none, congrArg ('-' :: ·) (List.append_nil _).symm⟩, rfl⟩, ?_⟩
    refine (Numeral.value_int (n := ⟨true, Text.ofNat (m + 1), [], none, _⟩)
      (Text.isDigit_ofNat (m + 1)) rfl rfl h).trans ?_
    rw [Text.number_ofNat]
    rfl

end Written

end AssetAudit.Json
