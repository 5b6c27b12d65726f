import AssetAudit.Decimal.Read
import AssetAudit.Json.Error
import AssetAudit.Value.Basic

/-!
# Reading JSON

A reader that follows the grammar of JSON and reports the first fault with its position. The words
`NaN` and `Infinity` are read as numbers. A key that comes twice keeps its place and takes the last
value.
-/
namespace AssetAudit.Json

structure Source where
  rest : Text
  position : Nat

abbrev Outcome := Except ReadError

namespace Source

def drop (s : Source) (n : Nat) : Source :=
  ⟨s.rest.drop n, s.position + n⟩

def fault {α : Type} (s : Source) (f : Fault) : Outcome α :=
  .error (.malformed f s.position)

def isLayout (c : Char) : Bool :=
  c == ' ' || c == '\t' || c == '\n' || c == '\r'

def skipLayout (s : Source) : Source :=
  s.drop (s.rest.takeWhile isLayout).length

end Source

def hexDigit? (c : Char) : Option Nat :=
  if '0' ≤ c && c ≤ '9' then some (c.toNat - 48)
  else if 'a' ≤ c && c ≤ 'f' then some (c.toNat - 87)
  else if 'A' ≤ c && c ≤ 'F' then some (c.toNat - 55)
  else none

def fourHex? : Text → Option Nat
  | a :: b :: c :: d :: _ => do
    let a ← hexDigit? a
    let b ← hexDigit? b
    let c ← hexDigit? c
    let d ← hexDigit? d
    return ((a * 16 + b) * 16 + c) * 16 + d
  | _ => none

def escaped? : Char → Option Char
  | '"' => some '"'
  | '\\' => some '\\'
  | '/' => some '/'
  | 'b' => some '\x08'
  | 'f' => some '\x0c'
  | 'n' => some '\n'
  | 'r' => some '\r'
  | 't' => some '\t'
  | _ => none

/-- A code unit pair as one character; a unit without its partner cannot stand for a character. -/
def charOfUnit (unit : Nat) : Char :=
  if 0xd800 ≤ unit ∧ unit < 0xe000 then Char.ofNat 0xfffd else Char.ofNat unit

/-- The character behind `\u` and four digits, and how many more characters it takes: a second
escape when the two are a pair. -/
def unitPair (unit : Nat) (rest : Text) : Option (Char × Nat) :=
  if 0xd800 ≤ unit ∧ unit < 0xdc00 then
    match rest with
    | '\\' :: 'u' :: more =>
      if more.length ≤ 4 then some (charOfUnit unit, 0)
      else (fourHex? more).map fun low =>
        if 0xdc00 ≤ low ∧ low < 0xe000 then
          (Char.ofNat (0x10000 + (unit - 0xd800) * 0x400 + (low - 0xdc00)), 6)
        else (charOfUnit unit, 0)
    | _ => some (charOfUnit unit, 0)
  else some (charOfUnit unit, 0)

/-- The characters of a string up to its closing quote; `start` is the place of the opening one. -/
def stringBody (start : Nat) : Nat → Text → Source → Outcome (Text × Source)
  | 0, got, s => .ok (got.reverse, s)
  | fuel + 1, got, s =>
    match s.rest with
    | [] => .error (.malformed .unterminatedString start)
    | '"' :: _ => .ok (got.reverse, s.drop 1)
    | '\\' :: [] => .error (.malformed .unterminatedString start)
    | '\\' :: 'u' :: rest =>
      if rest.length ≤ 4 then (s.drop 1).fault .unicodeEscape
      else match fourHex? rest with
        | none => (s.drop 1).fault .unicodeEscape
        | some unit =>
          match unitPair unit (rest.drop 4) with
          | none => (s.drop 7).fault .unicodeEscape
          | some (c, more) => stringBody start fuel (c :: got) (s.drop (6 + more))
    | '\\' :: c :: _ =>
      match escaped? c with
      | none => s.fault .escape
      | some c => stringBody start fuel (c :: got) (s.drop 2)
    | c :: _ =>
      if c.toNat ≤ 31 then s.fault .controlCharacter
      else stringBody start fuel (c :: got) (s.drop 1)

def readString (s : Source) : Outcome (Text × Source) :=
  stringBody s.position (s.rest.length + 1) [] (s.drop 1)

def digits (t : Text) : Text :=
  t.takeWhile Char.isDigit

structure Numeral where
  negative : Bool
  whole : Text
  fraction : Text
  exponent : Option Int
  length : Nat

def exponent? (t : Text) : Option (Int × Nat) :=
  match t with
  | c :: rest =>
    if c == 'e' || c == 'E' then
      let (negative, signs, rest) := match rest with
        | '-' :: r => (true, 1, r)
        | '+' :: r => (false, 1, r)
        | r => (false, 0, r)
      let ds := digits rest
      if ds.isEmpty then none
      else
        let n := Int.ofNat (Decimal.readDigits ds).1
        some (if negative then -n else n, 1 + signs + ds.length)
    else none
  | [] => none

/-- The whole digits at the front of a text. A zero stands alone. -/
def wholeDigits : Text → Text
  | '0' :: _ => ['0']
  | t => digits t

def fractionDigits : Text → Text
  | '.' :: rest => digits rest
  | _ => []

def unsigned? (negative : Bool) (body : Text) : Option Numeral :=
  let whole := wholeDigits body
  if whole.isEmpty then none
  else
    let rest := body.drop whole.length
    let fraction := fractionDigits rest
    let rest := if fraction.isEmpty then rest else rest.drop (fraction.length + 1)
    let used := (if negative then 1 else 0) + whole.length +
      (if fraction.isEmpty then 0 else fraction.length + 1)
    match exponent? rest with
    | some (e, n) => some ⟨negative, whole, fraction, some e, used + n⟩
    | none => some ⟨negative, whole, fraction, none, used⟩

def numeral? : Text → Option Numeral
  | '-' :: rest => unsigned? true rest
  | t => unsigned? false t

/-- Integers stay exact; a fraction or an exponent makes a floating-point number. -/
def Numeral.value (n : Numeral) : Outcome Scalar :=
  match n.fraction, n.exponent with
  | [], none =>
    if 4300 < n.whole.length then .error (.integerTooLong n.whole.length)
    else
      let size := Int.ofNat (Decimal.readDigits n.whole).1
      .ok (.int (if n.negative then -size else size))
  | fraction, e =>
    .ok (.float (Decimal.nearest n.negative (Decimal.readDigits (n.whole ++ fraction)).1
      (e.getD 0 - Int.ofNat fraction.length)))

def words : List (Text × Scalar) :=
  [("null".toList, .null), ("true".toList, .bool true), ("false".toList, .bool false),
    ("NaN".toList, .float Decimal.notANumber),
    ("Infinity".toList, .float (Decimal.infinity false)),
    ("-Infinity".toList, .float (Decimal.infinity true))]

def readScalar (s : Source) : Outcome (Scalar × Source) :=
  match words.find? fun w => s.rest.startsWith w.1 with
  | some (word, value) => .ok (value, s.drop word.length)
  | none =>
    match numeral? s.rest with
    | some n => n.value.map (·, s.drop n.length)
    | none => s.fault .value

mutual

def readValue : Nat → Source → Outcome (Value × Source)
  | 0, s => s.fault .value
  | fuel + 1, s =>
    match s.rest with
    | '"' :: _ => do
      let (t, s) ← readString s
      return (.text t, s)
    | '\x7b' :: _ => do
      let s := (s.drop 1).skipLayout
      if s.rest.head? = some '\x7d' then return (.map [], s.drop 1)
      else
        let (entries, s) ← readEntries fuel [] s
        return (.map entries, s)
    | '[' :: _ => do
      let s := (s.drop 1).skipLayout
      if s.rest.head? = some ']' then return (.list [], s.drop 1)
      else
        let (items, s) ← readItems fuel [] s
        return (.list items, s)
    | _ => (readScalar s).map fun (v, s) => (.scalar v, s)

def readItems : Nat → List Value → Source → Outcome (List Value × Source)
  | 0, items, s => .ok (items.reverse, s)
  | fuel + 1, items, s => do
    let (item, s) ← readValue fuel s
    let s := s.skipLayout
    match s.rest with
    | ']' :: _ => return ((item :: items).reverse, s.drop 1)
    | ',' :: _ => readItems fuel (item :: items) (s.drop 1).skipLayout
    | _ => s.fault .comma

def readEntries : Nat → Entries Value → Source → Outcome (Entries Value × Source)
  | 0, entries, s => .ok (entries, s)
  | fuel + 1, entries, s => do
    if s.rest.head? ≠ some '"' then s.fault .propertyName
    else
      let (key, s) ← readString s
      let s := s.skipLayout
      if s.rest.head? ≠ some ':' then s.fault .colon
      else
        let (value, s) ← readValue fuel (s.drop 1).skipLayout
        let entries := Entries.insert entries (.text key) value
        let s := s.skipLayout
        match s.rest with
        | '\x7d' :: _ => return (entries, s.drop 1)
        | ',' :: _ => readEntries fuel entries (s.drop 1).skipLayout
        | _ => s.fault .comma

end

def read (document : Text) : Outcome Value :=
  match document with
  | c :: _ =>
    if c.toNat = 0xfeff then .error (.malformed .byteOrderMark 0) else whole
  | [] => whole
where
  whole : Outcome Value := do
    let s := Source.skipLayout ⟨document, 0⟩
    let (value, s) ← readValue (2 * document.length + 2) s
    let s := s.skipLayout
    if s.rest.isEmpty then return value else s.fault .extraData

end AssetAudit.Json
