import AssetAudit.Decimal.Binary
import AssetAudit.Text.Basic

/-!
# Shortest decimal texts

The fewest decimal digits that read back as the same floating-point number, and of those the
nearest to it. The search goes through the numbers of digits in turn and looks at the two
neighbours of the number on the grid of each.
-/
namespace AssetAudit.Decimal

/-- The reals that round to `mantissa * 2 ^ exponent`, as numerators over one denominator, and
the number itself. The ends belong to it when the mantissa is even. -/
structure Neighbourhood where
  low : Nat
  value : Nat
  high : Nat
  den : Nat
  closed : Bool

def Neighbourhood.of (mantissa : Nat) (exponent : Int) : Neighbourhood :=
  let (num, den) := ratio mantissa (exponent - 2)
  let unit := num / mantissa
  let below := if mantissa = Nat.pow 2 52 ∧ exponent ≠ -1074 then 1 else 2
  { low := num * 4 - below * unit
    value := num * 4
    high := num * 4 + 2 * unit
    den
    closed := mantissa % 2 = 0 }

/-- The position of the first significant digit of `num / den`: the number of digits before the
point, or less than one when zeros follow the point. -/
def pointPosition (num den : Nat) : Int :=
  if den ≤ num then Int.ofNat (Nat.toDigits 10 (num / den)).length
  else below num 400 0
where
  below (num : Nat) : Nat → Nat → Int
    | 0, zeros => -Int.ofNat zeros
    | fuel + 1, zeros =>
      if den ≤ num * 10 then -Int.ofNat zeros else below (num * 10) fuel (zeros + 1)

def scale (num den : Nat) (power : Int) : Nat × Nat :=
  match power with
  | .ofNat p => (num * Nat.pow 10 p, den)
  | .negSucc p => (num, den * Nat.pow 10 (p + 1))

/-- The nearer of the two neighbours of the number, on the grid of multiples of `10 ^ -power`, that
lie in its neighbourhood. -/
def onGrid? (n : Neighbourhood) (power : Int) : Option Nat :=
  let (value, den) := scale n.value n.den power
  let (low, _) := scale n.low n.den power
  let (high, _) := scale n.high n.den power
  let holds d := if n.closed then low ≤ d * den && d * den ≤ high else low < d * den && d * den < high
  let down := value / den
  let up := down + 1
  match holds down, holds up with
  | false, false => none
  | true, false => some down
  | false, true => some up
  | true, true =>
    let left := value - down * den
    let right := up * den - value
    if left < right then some down else if right < left then some up
    else if down % 2 = 0 then some down else some up

structure Digits where
  digits : Text
  point : Int

/-- The fewest digits that read back as `mantissa * 2 ^ exponent`; the mantissa is not zero. -/
def shortest (mantissa : Nat) (exponent : Int) : Digits :=
  let n := Neighbourhood.of mantissa exponent
  let point := pointPosition n.value n.den
  search n point 17 1
where
  search (n : Neighbourhood) (point : Int) : Nat → Nat → Digits
    | 0, _ => ⟨['0'], 1⟩
    | fuel + 1, count =>
      match onGrid? n (Int.ofNat count - point) with
      | some d =>
        let all := Text.ofNat d
        ⟨Text.trimRightBy (· == '0') all, point + (Int.ofNat all.length - Int.ofNat count)⟩
      | none => search n point fuel (count + 1)

/-- How a number is laid out: positional while the point lies in a given span, else with an
exponent of at least two digits. -/
structure Layout where
  firstPoint : Int
  lastPoint : Int
  nan : Text
  infinity : Text

def Layout.exponent (e : Int) : Text :=
  let size := Text.ofNat e.natAbs
  'e' :: (if e < 0 then '-' else '+') :: List.replicate (2 - size.length) '0' ++ size

def Layout.digits (layout : Layout) (d : Digits) : Text :=
  if d.point < layout.firstPoint || layout.lastPoint < d.point then
    let mantissa := match d.digits with
      | c :: e :: rest => c :: '.' :: e :: rest
      | short => short
    mantissa ++ Layout.exponent (d.point - 1)
  else match d.point with
    | .ofNat (p + 1) =>
      let whole := d.digits.take (p + 1)
      let rest := d.digits.drop (p + 1)
      whole ++ List.replicate (p + 1 - whole.length) '0' ++
        '.' :: if rest.isEmpty then ['0'] else rest
    | .ofNat 0 => "0.".toList ++ d.digits
    | .negSucc p => "0.".toList ++ List.replicate (p + 1) '0' ++ d.digits

def Layout.text (layout : Layout) : Parts → Text
  | .nan => layout.nan
  | .infinite negative => if negative then '-' :: layout.infinity else layout.infinity
  | .finite negative 0 _ => if negative then "-0.0".toList else "0.0".toList
  | .finite negative (m + 1) e =>
    (if negative then ['-'] else []) ++ layout.digits (shortest (m + 1) e)

def plainLayout : Layout where
  firstPoint := -3
  lastPoint := 16
  nan := "nan".toList
  infinity := "inf".toList

def shortestText (bits : UInt64) : Text :=
  plainLayout.text (Parts.ofBits bits)

end AssetAudit.Decimal
