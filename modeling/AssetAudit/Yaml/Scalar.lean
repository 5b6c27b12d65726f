import AssetAudit.Decimal.Read
import AssetAudit.Decimal.Shortest
import AssetAudit.Unicode.Case
import AssetAudit.Value.Show
import AssetAudit.Yaml.Error
import AssetAudit.Yaml.Resolve

/-!
# Scalars with their meaning

The value of a scalar under its tag. A tag may be given to any text, so each reader says what is
wrong with a text that it does not take.
-/
namespace AssetAudit.Yaml

/-! ## Numbers -/

def digitOf? (base : Nat) (c : Char) : Option Nat :=
  let d? := match Unicode.digitValue? c.toNat with
    | some d => some d
    | none =>
      if 'a' ≤ c && c ≤ 'z' then some (c.toNat - 87)
      else if 'A' ≤ c && c ≤ 'Z' then some (c.toNat - 55) else none
  d?.filter (· < base)

def digitsIn? (base : Nat) (t : Text) : Option Nat :=
  if t.isEmpty then none else t.foldlM (fun n c => (digitOf? base c).map (n * base + ·)) 0

/-- The mark of a base in front of digits, which may be left out. -/
def dropBaseMark (base : Nat) : Text → Text
  | '0' :: c :: rest =>
    if (base = 2 && (c == 'b' || c == 'B')) || (base = 8 && (c == 'o' || c == 'O')) ||
      (base = 16 && (c == 'x' || c == 'X')) then rest else '0' :: c :: rest
  | t => t

def readInt (base : Nat) (t : Text) : Except ValueFault Int :=
  let trimmed := t.trim
  let body := unsigned trimmed
  match digitsIn? base (dropBaseMark base body) with
  | none =>
    .error (.number ("invalid literal for int() with base ".toList ++ Text.ofNat base ++
      ": ".toList ++ t.quoted))
  | some n =>
    if base = 10 && 4300 < body.length then
      .error (.number ("Exceeds the limit (4300 digits) for integer string conversion: value has ".toList ++
        Text.ofNat body.length ++
        " digits; use sys.set_int_max_str_digits() to increase the limit".toList))
    else .ok (if trimmed.startsWith ['-'] then -Int.ofNat n else Int.ofNat n)

/-- Parts of sixty, the first one the greatest. -/
def sixtiesInt (parts : List Text) : Except ValueFault Int :=
  parts.foldlM (fun n part => (readInt 10 part).map (n * 60 + ·)) 0

def isNegative (t : Text) : Bool :=
  t.startsWith ['-']

def intValue (written : Text) : Except ValueFault Int :=
  let t := written.filter (· != '_')
  if t.isEmpty || (unsigned t).isEmpty then .error .emptyNumber
  else
    let body := unsigned t
    let size : Except ValueFault Int := match body with
      | ['0'] => .ok 0
      | '0' :: 'b' :: rest => readInt 2 rest
      | '0' :: 'x' :: rest => readInt 16 rest
      | '0' :: _ => readInt 8 body
      | _ => if body.contains ':' then sixtiesInt (Text.splitOn ':' body) else readInt 10 body
    size.map fun n => if isNegative t then -n else n

def readFloat (t : Text) : Except ValueFault UInt64 :=
  match Decimal.readFloat? t with
  | some bits => .ok bits
  | none => .error (.number ("could not convert string to float: ".toList ++ t.quoted))

/-- Parts of sixty from the last one on, each taken `base` times. -/
def sixtiesFloat (base sum : Float) : List UInt64 → Float
  | [] => sum
  | part :: rest => sixtiesFloat (base * 60) (sum + Float.ofBits part * base) rest

def negateBits (negative : Bool) (bits : UInt64) : UInt64 :=
  if negative then bits ^^^ 0x8000000000000000 else bits

def floatValue (written : Text) : Except ValueFault UInt64 :=
  let t := Unicode.lower (written.filter (· != '_'))
  if t.isEmpty then .error .emptyNumber
  else
    let body := unsigned t
    let size : Except ValueFault UInt64 :=
      if body == ".inf".toList then .ok (Decimal.infinity false)
      else if body == ".nan".toList then .ok Decimal.notANumber
      else if body.contains ':' then
        ((Text.splitOn ':' body).mapM readFloat).map fun parts =>
          (sixtiesFloat 1 0 parts.reverse).toBits
      else readFloat body
    size.map (negateBits (isNegative t))

/-! ## Points in time -/

def number (t : Text) : Nat :=
  (Decimal.readDigits t).1

def isLeap (year : Nat) : Bool :=
  year % 4 = 0 && (year % 100 ≠ 0 || year % 400 = 0)

def daysIn (year month : Nat) : Nat :=
  if month = 2 then if isLeap year then 29 else 28
  else if month = 4 || month = 6 || month = 9 || month = 11 then 30 else 31

def checkDate (year month day : Nat) : Except ValueFault Unit :=
  if year = 0 then .error (.date "year 0 is out of range".toList)
  else if month = 0 || 12 < month then .error (.date "month must be in 1..12".toList)
  else if day = 0 || daysIn year month < day then
    .error (.date "day is out of range for month".toList)
  else .ok ()

def checkClock (hour minute second : Nat) : Except ValueFault Unit :=
  if 23 < hour then .error (.date "hour must be in 0..23".toList)
  else if 59 < minute then .error (.date "minute must be in 0..59".toList)
  else if 59 < second then .error (.date "second must be in 0..59".toList)
  else .ok ()

def spanText (seconds : Int) : Text :=
  let days := seconds.fdiv 86400
  let rest := seconds.fmod 86400
  let parts := (if days = 0 then [] else ["days=".toList ++ Text.ofInt days]) ++
    (if rest = 0 then [] else ["seconds=".toList ++ Text.ofInt rest])
  "datetime.timedelta(".toList ++ Text.join ", ".toList parts ++ [')']

def offsetOf (sign : Char) (hours minutes : Text) : Except ValueFault Int :=
  let size := Int.ofNat (number hours * 3600 + number minutes * 60)
  let seconds := if sign == '-' then -size else size
  if 86400 ≤ size then
    .error (.date ("offset must be a timedelta strictly between -timedelta(hours=24) and timedelta(hours=24), not ".toList ++
      spanText seconds ++ ['.']))
  else .ok seconds

def microseconds (fraction : Text) : Nat :=
  number ((fraction ++ List.replicate 6 '0').take 6)

def timestampValue (t : Text) : Except ValueFault Scalar :=
  match dateText? t with
  | none => .error .timestamp
  | some d =>
    let year := number d.year
    let month := number d.month
    let day := number d.day
    match d.clock with
    | none => (checkDate year month day).map fun () => .date year month day
    | some c => do
      let offset ← match c.zone with
        | some (some (sign, hours, minutes)) => (offsetOf sign hours minutes).map some
        | some none => .ok (some 0)
        | none => .ok none
      checkDate year month day
      checkClock (number c.hour) (number c.minute) (number c.second)
      return .moment {
        year, month, day
        hour := number c.hour
        minute := number c.minute
        second := number c.second
        microsecond := microseconds c.fraction
        offset }

/-! ## Bytes -/

def base64Digit? (c : Char) : Option Nat :=
  if 'A' ≤ c && c ≤ 'Z' then some (c.toNat - 65)
  else if 'a' ≤ c && c ≤ 'z' then some (c.toNat - 71)
  else if '0' ≤ c && c ≤ '9' then some (c.toNat + 4)
  else if c == '+' then some 62
  else if c == '/' then some 63
  else none

/-- Digits of six bits as bytes; `count` and `bits` are of the digits not yet used. -/
def base64From (count bits pads : Nat) : Text → Option (List UInt8)
  | [] => if count = 0 then some [] else none
  | c :: rest =>
    if c == '=' then
      if 2 ≤ count && 4 ≤ count + pads + 1 then some []
      else base64From count bits (if 2 ≤ count then pads + 1 else pads) rest
    else match base64Digit? c with
      | none => base64From count bits pads rest
      | some d =>
        match count with
        | 0 => base64From 1 d 0 rest
        | 1 => (base64From 2 (d % 16) 0 rest).map ((bits * 4 + d / 16).toUInt8 :: ·)
        | 2 => (base64From 3 (d % 4) 0 rest).map ((bits * 16 + d / 4).toUInt8 :: ·)
        | _ => (base64From 0 0 0 rest).map ((bits * 64 + d).toUInt8 :: ·)

def binaryValue (t : Text) : Outcome (List UInt8) :=
  if t.any fun c => 127 < c.toNat then fault .binary
  else match base64From 0 0 0 t with
    | some data => .ok data
    | none => fault .binary

def scalarValue (tag : Tag) (t : Text) : Outcome Scalar :=
  match tag with
  | .null => .ok .null
  | .bool =>
    let low := Unicode.lower t
    if ["yes", "true", "on"].any (·.toList == low) then .ok (.bool true)
    else if ["no", "false", "off"].any (·.toList == low) then .ok (.bool false)
    else .error (.value .truth)
  | .int => ((intValue t).map Scalar.int).mapError .value
  | .float => ((floatValue t).map Scalar.float).mapError .value
  | .binary => (binaryValue t).map .bytes
  | .timestamp => (timestampValue t).mapError .value
  | .str => .ok (.text t)
  | .omap | .pairs | .set | .seq | .map => fault .wrongKind
  | .merge | .value | .other => fault .unknownTag

end AssetAudit.Yaml
