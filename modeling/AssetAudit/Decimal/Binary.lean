/-!
# Floating-point numbers by their parts

A finite double-precision number is a sign, a natural number and a power of two. Quotients of natural
numbers are rounded to the nearest natural number, a half to the even neighbour, and natural numbers to
a given number of binary digits in the same way.
-/
namespace AssetAudit.Decimal

/-- `num / den` rounded to the nearest number, a half to the even neighbour. -/
def roundDiv (num den : Nat) : Nat :=
  let low := num / den
  let twice := 2 * (num % den)
  if twice < den then low
  else if den < twice then low + 1
  else if low % 2 = 0 then low else low + 1

/-- The nearest number that has at most `digits` significant binary digits. -/
def roundBinary (digits n : Nat) : Nat :=
  let unit := Nat.pow 2 (Nat.log2 n + 1 - digits)
  roundDiv n unit * unit

inductive Parts where
  | nan
  | infinite (negative : Bool)
  /-- The number `mantissa * 2 ^ exponent`. -/
  | finite (negative : Bool) (mantissa : Nat) (exponent : Int)
  deriving DecidableEq, Repr

def Parts.ofBits (bits : UInt64) : Parts :=
  let n := bits.toNat
  let negative := decide (Nat.pow 2 63 ≤ n)
  let field := n / Nat.pow 2 52 % Nat.pow 2 11
  let fraction := n % Nat.pow 2 52
  if field = 2047 then if fraction = 0 then .infinite negative else .nan
  else if field = 0 then .finite negative fraction (-1074)
  else .finite negative (fraction + Nat.pow 2 52) (Int.ofNat field - 1075)

def Parts.isZero : Parts → Bool
  | .finite _ 0 _ => true
  | _ => false

def ratio (mantissa : Nat) (exponent : Int) : Nat × Nat :=
  match exponent with
  | .ofNat e => (mantissa * Nat.pow 2 e, 1)
  | .negSucc e => (mantissa, Nat.pow 2 (e + 1))

end AssetAudit.Decimal
