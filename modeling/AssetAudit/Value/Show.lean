import AssetAudit.Decimal.Shortest
import AssetAudit.Text.Quoted
import AssetAudit.Value.Basic

/-!
# Values as text

A value on its own is shown plainly; inside a list or a mapping a text is shown quoted, so that
the parts can be told apart.
-/
namespace AssetAudit

namespace Moment

def padded (width n : Nat) : Text :=
  let digits := Text.ofNat n
  List.replicate (width - digits.length) '0' ++ digits

def dateText (year month day : Nat) : Text :=
  padded 4 year ++ '-' :: padded 2 month ++ '-' :: padded 2 day

def clockText (m : Moment) : Text :=
  padded 2 m.hour ++ ':' :: padded 2 m.minute ++ ':' :: padded 2 m.second ++
    if m.microsecond = 0 then [] else '.' :: padded 6 m.microsecond

def offsetText : Option Int → Text
  | none => []
  | some seconds =>
    let size := seconds.natAbs
    (if seconds < 0 then '-' else '+') :: padded 2 (size / 3600) ++ ':' :: padded 2 (size / 60 % 60)

def text (m : Moment) (separator : Char) : Text :=
  dateText m.year m.month m.day ++ separator :: m.clockText ++ offsetText m.offset

def numbers : List Nat → Text
  | ns => Text.join ", ".toList (ns.map Text.ofNat)

def written (m : Moment) : Text :=
  let fields := [m.year, m.month, m.day, m.hour, m.minute]
  let tail := if m.microsecond ≠ 0 then [m.second, m.microsecond]
    else if m.second ≠ 0 then [m.second] else []
  let zone := match m.offset with
    | none => []
    | some 0 => ", tzinfo=datetime.timezone.utc".toList
    | some s =>
      let days := s.fdiv 86400
      let seconds := s.fmod 86400
      let parts := (if days = 0 then [] else ["days=".toList ++ Text.ofInt days]) ++
        (if seconds = 0 then [] else ["seconds=".toList ++ Text.ofInt seconds])
      ", tzinfo=datetime.timezone(datetime.timedelta(".toList ++ Text.join ", ".toList parts ++
        "))".toList
  "datetime.datetime(".toList ++ numbers (fields ++ tail) ++ zone ++ [')']

end Moment

def quotedByte (mark : Char) (b : UInt8) : Text :=
  let c := Char.ofNat b.toNat
  if c == mark || c == '\\' then ['\\', c]
  else if c == '\t' then ['\\', 't']
  else if c == '\n' then ['\\', 'n']
  else if c == '\r' then ['\\', 'r']
  else if b < 32 || 126 < b then '\\' :: 'x' :: Text.hex 2 b.toNat
  else [c]

def quotedBytes (data : List UInt8) : Text :=
  let mark := if data.contains 39 && !data.contains 34 then '"' else '\''
  'b' :: mark :: data.flatMap (quotedByte mark) ++ [mark]

namespace Scalar

/-- A scalar by itself. -/
def plain : Scalar → Text
  | .null => "None".toList
  | .bool true => "True".toList
  | .bool false => "False".toList
  | .int n => Text.ofInt n
  | .float bits => Decimal.shortestText bits
  | .text s => s
  | .bytes data => quotedBytes data
  | .date y m d => Moment.dateText y m d
  | .moment m => m.text ' '

/-- A scalar as a part of something. -/
def written : Scalar → Text
  | .text s => s.quoted
  | .date y m d => "datetime.date(".toList ++ Moment.numbers [y, m, d] ++ [')']
  | .moment m => m.written
  | s => s.plain

def kindName : Scalar → Text
  | .null => "NoneType".toList
  | .bool _ => "bool".toList
  | .int _ => "int".toList
  | .float _ => "float".toList
  | .text _ => "str".toList
  | .bytes _ => "bytes".toList
  | .date _ _ _ => "date".toList
  | .moment _ => "datetime".toList

end Scalar

namespace Value

mutual

def written : Value → Text
  | .scalar s => s.written
  | .list items => '[' :: writtenItems items ++ [']']
  | .tuple [item] => '(' :: written item ++ ",)".toList
  | .tuple items => '(' :: writtenItems items ++ [')']
  | .set [] => "set()".toList
  | .set items => '\x7b' :: Text.join ", ".toList (items.map Scalar.written) ++ ['\x7d']
  | .map entries => '\x7b' :: writtenEntries entries ++ ['\x7d']

def writtenItems : List Value → Text
  | [] => []
  | [item] => written item
  | item :: rest => written item ++ ", ".toList ++ writtenItems rest

def writtenEntries : List (Scalar × Value) → Text
  | [] => []
  | [(key, value)] => key.written ++ ": ".toList ++ written value
  | (key, value) :: rest =>
    key.written ++ ": ".toList ++ written value ++ ", ".toList ++ writtenEntries rest

end

def plain : Value → Text
  | .scalar s => s.plain
  | v => v.written

def kindName : Value → Text
  | .scalar s => s.kindName
  | .list _ => "list".toList
  | .tuple _ => "tuple".toList
  | .set _ => "set".toList
  | .map _ => "dict".toList

end Value

end AssetAudit
