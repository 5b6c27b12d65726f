import AssetAudit.Decimal.Binary
import AssetAudit.Text.Basic
import AssetAudit.Unicode.Words

/-!
# Reading decimal numbers

Digits, a fraction and an exponent, read to the nearest floating-point number.
-/
namespace AssetAudit.Decimal

def infiniteMagnitude : Nat :=
  2047 * Nat.pow 2 52

/-- How many of the smallest positive numbers make one. -/
def unitsOfOne : Nat :=
  Nat.pow 2 1074

/-- The bits of the floating-point number nearest to `num / den`, but for its sign: its exponent is the
least that leaves no more than 53 binary digits before the point, counted from the smallest one. -/
def nearestMagnitude (num den : Nat) : Nat :=
  let scaled := num * unitsOfOne
  let shift := Nat.log2 (scaled / den) - 52
  min (roundDiv scaled (den * Nat.pow 2 shift) + shift * Nat.pow 2 52) infiniteMagnitude

/-- The number `digits * 10 ^ exponent`, as bits. Exponents far beyond the range are cut so that
no huge power has to be computed. -/
def nearest (negative : Bool) (digits : Nat) (exponent : Int) : UInt64 :=
  let size := Int.ofNat (Nat.toDigits 10 digits).length
  let magnitude :=
    if digits = 0 then 0
    else if 400 < size + exponent then infiniteMagnitude
    else if size + exponent < -400 then 0
    else match exponent with
      | .ofNat e => nearestMagnitude (digits * Nat.pow 10 e) 1
      | .negSucc e => nearestMagnitude digits (Nat.pow 10 (e + 1))
  UInt64.ofNat (if negative then Nat.pow 2 63 + magnitude else magnitude)

def notANumber : UInt64 :=
  0x7ff8000000000000

def infinity (negative : Bool) : UInt64 :=
  if negative then 0xfff0000000000000 else 0x7ff0000000000000

def readDigits : Text → Nat × Nat × Text
  | [] => (0, 0, [])
  | c :: rest => go 0 0 (c :: rest)
where
  go (n count : Nat) : Text → Nat × Nat × Text
    | [] => (n, count, [])
    | c :: rest =>
      if '0' ≤ c && c ≤ '9' then go (n * 10 + (c.toNat - 48)) (count + 1) rest
      else (n, count, c :: rest)

/-- An exponent: a sign and at least one digit. -/
def readExponent? (s : Text) : Option (Int × Text) :=
  let (negative, s) := match s with
    | '-' :: rest => (true, rest)
    | '+' :: rest => (false, rest)
    | _ => (false, s)
  match readDigits s with
  | (_, 0, _) => none
  | (n, _, rest) => some (if negative then -Int.ofNat n else Int.ofNat n, rest)

/-- Digits with an optional fraction and exponent, and nothing else. -/
def readUnsigned? (negative : Bool) (s : Text) : Option UInt64 :=
  let (whole, wholeCount, rest) := readDigits s
  let (digits, fractionCount, rest) := match rest with
    | '.' :: rest =>
      let (fraction, count, rest) := readDigits rest
      (whole * Nat.pow 10 count + fraction, count, rest)
    | _ => (whole, 0, rest)
  if wholeCount + fractionCount = 0 then none
  else
    match rest with
    | [] => some (nearest negative digits (-Int.ofNat fractionCount))
    | c :: rest =>
      if c == 'e' || c == 'E' then
        match readExponent? rest with
        | some (e, []) => some (nearest negative digits (e - Int.ofNat fractionCount))
        | _ => none
      else none

/-- Leave out single low lines between digits; any other low line spoils the number. -/
def joinGroups? : Text → Option Text
  | [] => some []
  | a :: '_' :: b :: rest =>
    if a.isDigit && b.isDigit then (joinGroups? (b :: rest)).map (a :: ·) else none
  | '_' :: _ => none
  | a :: rest => (joinGroups? rest).map (a :: ·)

/-- A number as people write it in settings: blanks around it, digits of any script, the words for
infinity and for no number. -/
def readFloat? (s : Text) : Option UInt64 := do
  let plain := s.trim.map fun c =>
    match Unicode.digitValue? c.toNat with
    | some d => Char.ofNat (48 + d)
    | none => c
  let body ← joinGroups? plain
  let (negative, body) := match body with
    | '-' :: rest => (true, rest)
    | '+' :: rest => (false, rest)
    | _ => (false, body)
  let word := body.map Char.toLower
  if word == "inf".toList || word == "infinity".toList then some (infinity negative)
  else if word == "nan".toList then some notANumber
  else readUnsigned? negative body

end AssetAudit.Decimal
