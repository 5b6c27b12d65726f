import AssetAudit.Decimal.Shortest
import AssetAudit.Value.Basic

/-!
# Writing JSON

Values as JSON texts, on one line or with an indentation of two. Characters beyond ASCII are
escaped; numbers that JSON does not know are written as words.
-/
namespace AssetAudit.Json

def unicodeEscape (unit : Nat) : Text :=
  '\\' :: 'u' :: Text.hex 4 unit

def escapeChar (c : Char) : Text :=
  if c == '"' || c == '\\' then ['\\', c]
  else if c == '\n' then ['\\', 'n']
  else if c == '\r' then ['\\', 'r']
  else if c == '\t' then ['\\', 't']
  else if c.toNat = 8 then ['\\', 'b']
  else if c.toNat = 12 then ['\\', 'f']
  else if 32 ≤ c.toNat ∧ c.toNat ≤ 126 then [c]
  else if c.toNat < 0x10000 then unicodeEscape c.toNat
  else
    let n := c.toNat - 0x10000
    unicodeEscape (0xd800 + n / 0x400) ++ unicodeEscape (0xdc00 + n % 0x400)

def quote (s : Text) : Text :=
  '"' :: s.flatMap escapeChar ++ ['"']

/-- Numbers with a fraction or an exponent; the last two texts are words. -/
def numberLayout : Decimal.Layout :=
  { Decimal.plainLayout with nan := "NaN".toList, infinity := "Infinity".toList }

inductive WriteError where
  | noForm (kind : Text)
  deriving DecidableEq, Repr

def writeScalar : Scalar → Except WriteError Text
  | .null => .ok "null".toList
  | .bool true => .ok "true".toList
  | .bool false => .ok "false".toList
  | .int n => .ok (Text.ofInt n)
  | .float bits => .ok (numberLayout.text (Decimal.Parts.ofBits bits))
  | .text s => .ok (quote s)
  | .bytes _ => .error (.noForm "bytes".toList)
  | .date _ _ _ => .error (.noForm "date".toList)
  | .moment _ => .error (.noForm "datetime".toList)

/-- A key is written as a text, whatever scalar it is. -/
def writeKey (key : Scalar) : Except WriteError Text :=
  match key with
  | .text s => .ok (quote s)
  | other => (writeScalar other).map quote

structure Style where
  indent : Option Nat

namespace Style

def line (style : Style) (depth : Nat) : Text :=
  match style.indent with
  | none => []
  | some n => '\n' :: List.replicate (n * depth) ' '

def comma (style : Style) (depth : Nat) : Text :=
  match style.indent with
  | none => [',', ' ']
  | some _ => ',' :: style.line depth

end Style

mutual

def write (style : Style) (depth : Nat) : Value → Except WriteError Text
  | .scalar s => writeScalar s
  | .list [] | .tuple [] => .ok ['[', ']']
  | .list (item :: items) | .tuple (item :: items) => do
    let first ← write style (depth + 1) item
    let rest ← writeItems style (depth + 1) items
    return '[' :: style.line (depth + 1) ++ first ++ rest ++ style.line depth ++ [']']
  | .set _ => .error (.noForm "set".toList)
  | .map [] => .ok ['\x7b', '\x7d']
  | .map ((key, value) :: entries) => do
    let key ← writeKey key
    let first ← write style (depth + 1) value
    let rest ← writeEntries style (depth + 1) entries
    return '\x7b' :: style.line (depth + 1) ++ key ++ ':' :: ' ' :: first ++ rest ++
      style.line depth ++ ['\x7d']

def writeItems (style : Style) (depth : Nat) : List Value → Except WriteError Text
  | [] => .ok []
  | item :: items => do
    let first ← write style depth item
    let rest ← writeItems style depth items
    return style.comma depth ++ first ++ rest

def writeEntries (style : Style) (depth : Nat) : List (Scalar × Value) → Except WriteError Text
  | [] => .ok []
  | (key, value) :: entries => do
    let key ← writeKey key
    let first ← write style depth value
    let rest ← writeEntries style depth entries
    return style.comma depth ++ key ++ ':' :: ' ' :: first ++ rest

end

def pretty (v : Value) : Except WriteError Text :=
  write ⟨some 2⟩ 0 v

def compact (v : Value) : Except WriteError Text :=
  write ⟨none⟩ 0 v

end AssetAudit.Json
