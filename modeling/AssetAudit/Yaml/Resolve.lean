import AssetAudit.Text.Basic
import AssetAudit.Value.Basic

/-!
# What plain scalars mean

A scalar without a tag and without quotes means a truth value, a number, a point in time or
nothing when it is written like one, and a text otherwise.
-/
namespace AssetAudit.Yaml

inductive Tag where
  | null
  | bool
  | int
  | float
  | binary
  | timestamp
  | omap
  | pairs
  | set
  | str
  | seq
  | map
  | merge
  | value
  | other
  deriving DecidableEq, Repr

namespace Tag

def address : Text := "tag:yaml.org,2002:".toList

def words : List (String × Tag) :=
  [("null", .null), ("bool", .bool), ("int", .int), ("float", .float), ("binary", .binary),
    ("timestamp", .timestamp), ("omap", .omap), ("pairs", .pairs), ("set", .set), ("str", .str),
    ("seq", .seq), ("map", .map), ("merge", .merge), ("value", .value)]

def ofText (t : Text) : Tag :=
  match words.find? fun w => address ++ w.1.toList == t with
  | some (_, tag) => tag
  | none => .other

end Tag

def trueWords : List Text :=
  ["yes", "Yes", "YES", "true", "True", "TRUE", "on", "On", "ON"].map String.toList

def falseWords : List Text :=
  ["no", "No", "NO", "false", "False", "FALSE", "off", "Off", "OFF"].map String.toList

def nullWords : List Text :=
  ["~", "null", "Null", "NULL", ""].map String.toList

def unsigned : Text → Text
  | '+' :: rest | '-' :: rest => rest
  | t => t

def isDigitOrGap (c : Char) : Bool :=
  c.isDigit || c == '_'

def afterDigits? : Text → Option Text
  | c :: rest => if c.isDigit then some (rest.dropWhile isDigitOrGap) else none
  | [] => none

def isExponent : Text → Bool
  | [] => true
  | e :: sign :: c :: rest =>
    (e == 'e' || e == 'E') && (sign == '+' || sign == '-') && c.isDigit && rest.all Char.isDigit
  | _ => false

def isSixty : Text → Bool
  | [c] => c.isDigit
  | [a, b] => '0' ≤ a && a ≤ '5' && b.isDigit
  | _ => false

/-- Parts of sixty, each behind a colon. -/
def isSixties : Text → Bool
  | ':' :: rest => (Text.splitOn ':' rest).all isSixty
  | _ => false

def infinityWords : List Text :=
  [".inf", ".Inf", ".INF"].map String.toList

def nanWords : List Text :=
  [".nan", ".NaN", ".NAN"].map String.toList

def isFloatText (t : Text) : Bool :=
  let u := unsigned t
  let positional := match afterDigits? u with
    | some ('.' :: rest) => isExponent (rest.dropWhile isDigitOrGap)
    | some rest =>
      let whole := rest.takeWhile (· != '.')
      let fraction := rest.drop whole.length
      isSixties whole && (match fraction with
        | '.' :: digits => digits.all isDigitOrGap
        | _ => false)
    | none => false
  let bare := match t with
    | '.' :: rest =>
      match afterDigits? rest with
      | some rest => isExponent rest
      | none => false
    | _ => false
  positional || bare || infinityWords.contains u || nanWords.contains t

def isBinaryDigit (c : Char) : Bool := c == '0' || c == '1' || c == '_'

def isOctalDigit (c : Char) : Bool := ('0' ≤ c && c ≤ '7') || c == '_'

def isHexDigit (c : Char) : Bool :=
  isDigitOrGap c || ('a' ≤ c && c ≤ 'f') || ('A' ≤ c && c ≤ 'F')

def isIntText (t : Text) : Bool :=
  match unsigned t with
  | ['0'] => true
  | '0' :: 'b' :: c :: rest => (c :: rest).all isBinaryDigit
  | '0' :: 'x' :: c :: rest => (c :: rest).all isHexDigit
  | '0' :: c :: rest => (c :: rest).all isOctalDigit
  | u =>
    match afterDigits? u with
    | some [] => true
    | some rest => isSixties rest
    | none => false

structure ClockText where
  hour : Text
  minute : Text
  second : Text
  fraction : Text
  /-- Sign, hours and minutes of the distance from universal time, or the letter `Z`. -/
  zone : Option (Option (Char × Text × Text))

structure DateText where
  year : Text
  month : Text
  day : Text
  clock : Option ClockText

def twoDigits? : Text → Option (Text × Text)
  | a :: b :: rest => if a.isDigit && b.isDigit then some ([a, b], rest) else none
  | _ => none

def oneOrTwoDigits? : Text → Option (Text × Text)
  | a :: b :: rest =>
    if a.isDigit then if b.isDigit then some ([a, b], rest) else some ([a], b :: rest) else none
  | [a] => if a.isDigit then some ([a], []) else none
  | [] => none

def behind? (c : Char) : Text → Option Text
  | d :: rest => if c == d then some rest else none
  | [] => none

def zone? (t : Text) : Option (Option (Option (Char × Text × Text))) :=
  match t with
  | [] => some none
  | _ =>
    match t.dropWhile fun c => c == ' ' || c == '\t' with
    | ['Z'] => some (some none)
    | sign :: rest =>
      if sign == '+' || sign == '-' then do
        let (hours, rest) ← oneOrTwoDigits? rest
        match rest with
        | [] => some (some (some (sign, hours, [])))
        | ':' :: rest => do
          let (minutes, rest) ← twoDigits? rest
          if rest.isEmpty then some (some (some (sign, hours, minutes))) else none
        | _ => none
      else none
    | [] => none

def clock? (t : Text) : Option ClockText := do
  let (hour, rest) ← oneOrTwoDigits? t
  let rest ← behind? ':' rest
  let (minute, rest) ← twoDigits? rest
  let rest ← behind? ':' rest
  let (second, rest) ← twoDigits? rest
  let (fraction, rest) := match rest with
    | '.' :: rest => (rest.takeWhile Char.isDigit, rest.dropWhile Char.isDigit)
    | rest => ([], rest)
  let zone ← zone? rest
  return { hour, minute, second, fraction, zone }

/-- A date, and a time of day behind a `T` or blanks. -/
def dateText? (t : Text) : Option DateText := do
  let (century, rest) ← twoDigits? t
  let (rest_, rest) ← twoDigits? rest
  let year := century ++ rest_
  let rest ← behind? '-' rest
  let (month, rest) ← oneOrTwoDigits? rest
  let rest ← behind? '-' rest
  let (day, rest) ← oneOrTwoDigits? rest
  match rest with
  | [] => return { year, month, day, clock := none }
  | c :: more =>
    if c == 'T' || c == 't' then
      let clock ← clock? more
      return { year, month, day, clock := some clock }
    else if c == ' ' || c == '\t' then
      let clock ← clock? (more.dropWhile fun c => c == ' ' || c == '\t')
      return { year, month, day, clock := some clock }
    else none

def isTimestampText (t : Text) : Bool :=
  match dateText? t with
  | some d => d.clock.isSome || (d.month.length == 2 && d.day.length == 2)
  | none => false

def plainTag (t : Text) : Tag :=
  if trueWords.contains t || falseWords.contains t then .bool
  else if isFloatText t then .float
  else if isIntText t then .int
  else if t == ['<', '<'] then .merge
  else if nullWords.contains t then .null
  else if isTimestampText t then .timestamp
  else if t == ['='] then .value
  else .str

end AssetAudit.Yaml
