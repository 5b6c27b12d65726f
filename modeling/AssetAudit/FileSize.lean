import AssetAudit.Decimal.Binary
import AssetAudit.Value.Basic

/-!
# Sizes of files

A number of bytes as a short text: in the largest unit that it fills, with at most two decimal
places and without trailing zeros. Very large numbers keep the precision of a floating-point
number only.
-/
namespace AssetAudit.FileSize

def units : List Text :=
  ["B".toList, "KB".toList, "MB".toList, "GB".toList]

/-- How often `num / den` can be divided by 1024 and stay at least 1, at most `most` times. -/
def unitIndex (num den : Nat) : Nat → Nat
  | 0 => 0
  | most + 1 => if 1024 * den ≤ num then unitIndex num (den * 1024) most + 1 else 0

/-- A number of hundredths without trailing zeros. -/
def hundredths (n : Nat) : Text :=
  let fraction := n % 100
  Text.ofNat (n / 100) ++
    if fraction = 0 then []
    else if fraction % 10 = 0 then '.' :: Text.ofNat (fraction / 10)
    else if fraction < 10 then '.' :: '0' :: Text.ofNat fraction
    else '.' :: Text.ofNat fraction

def formatRatio (num den : Nat) : Text :=
  let k := unitIndex num den 3
  hundredths (Decimal.roundDiv (num * 100) (den * Nat.pow 1024 k)) ++ ' ' :: units.getD k []

/-- A number of bytes; none if it is beyond the range of floating-point numbers. -/
def format? (bytes : Int) : Option Text :=
  match bytes with
  | .ofNat (n + 1) =>
    let value := Decimal.roundBinary 53 (n + 1)
    if Nat.pow 2 1024 ≤ value then none else some (formatRatio value 1)
  | _ => some "0 B".toList

def formatParts : Decimal.Parts → Text
  | .nan => "nan B".toList
  | .infinite true => "0 B".toList
  | .infinite false => "inf GB".toList
  | .finite true _ _ | .finite false 0 _ => "0 B".toList
  | .finite false (m + 1) e =>
    let (num, den) := Decimal.ratio (m + 1) e
    formatRatio num den

end AssetAudit.FileSize
