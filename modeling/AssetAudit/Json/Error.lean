import AssetAudit.Text.Basic

/-!
# Faults of JSON texts
-/
namespace AssetAudit.Json

inductive Fault where
  | byteOrderMark
  | value
  | propertyName
  | colon
  | comma
  | controlCharacter
  | unterminatedString
  | escape
  | unicodeEscape
  | extraData
  deriving DecidableEq, Repr

inductive ReadError where
  | malformed (fault : Fault) (position : Nat)
  /-- An integer with more digits than can be read. -/
  | integerTooLong (digits : Nat)
  deriving DecidableEq, Repr

def Fault.message : Fault → Text
  | .byteOrderMark => "Unexpected UTF-8 BOM (decode using utf-8-sig)".toList
  | .value => "Expecting value".toList
  | .propertyName => "Expecting property name enclosed in double quotes".toList
  | .colon => "Expecting ':' delimiter".toList
  | .comma => "Expecting ',' delimiter".toList
  | .controlCharacter => "Invalid control character at".toList
  | .unterminatedString => "Unterminated string starting at".toList
  | .escape => "Invalid \\escape".toList
  | .unicodeEscape => "Invalid \\uXXXX escape".toList
  | .extraData => "Extra data".toList

def ReadError.message (document : Text) : ReadError → Text
  | .malformed fault position =>
    let before := document.take position
    let column := position - (before.reverse.dropWhile (· != '\n')).length + 1
    fault.message ++ ": line ".toList ++ Text.ofNat (before.count '\n' + 1) ++ " column ".toList ++
      Text.ofNat column ++ " (char ".toList ++ Text.ofNat position ++ [')']
  | .integerTooLong digits =>
    "Exceeds the limit (4300 digits) for integer string conversion: value has ".toList ++
      Text.ofNat digits ++
      " digits; use sys.set_int_max_str_digits() to increase the limit".toList

end AssetAudit.Json
