import AssetAudit.Regex.Token
import AssetAudit.Unicode.Names

/-!
# Escapes

What a backslash and a character stand for, alone and inside a set, and how a text is written so
that it stands for itself.
-/
namespace AssetAudit.Regex

def isOctal (c : Char) : Bool :=
  '0' ≤ c && c ≤ '7'

def isDecimal (c : Char) : Bool :=
  '0' ≤ c && c ≤ '9'

def isHexadecimal (c : Char) : Bool :=
  isDecimal c || ('a' ≤ c && c ≤ 'f') || ('A' ≤ c && c ≤ 'F')

def isAsciiLetter (c : Char) : Bool :=
  ('a' ≤ c && c ≤ 'z') || ('A' ≤ c && c ≤ 'Z')

def hexValue (c : Char) : Nat :=
  if isDecimal c then c.toNat - 48
  else if 'a' ≤ c then c.toNat - 87
  else c.toNat - 55

def readBase (base : Nat) (digits : Text) : Nat :=
  digits.foldl (fun n c => n * base + hexValue c) 0

/-- Escapes for a single control character, the same alone and inside a set. -/
def controlCode? : Char → Option Nat
  | 'a' => some 7
  | 'f' => some 12
  | 'n' => some 10
  | 'r' => some 13
  | 't' => some 9
  | 'v' => some 11
  | '\\' => some 92
  | _ => none

def category? : Char → Option SetItem
  | 'd' => some (.category .digit false)
  | 'D' => some (.category .digit true)
  | 's' => some (.category .space false)
  | 'S' => some (.category .space true)
  | 'w' => some (.category .word false)
  | 'W' => some (.category .word true)
  | _ => none

def anchor? : Char → Option Anchor
  | 'A' => some .textStart
  | 'b' => some .wordEdge
  | 'B' => some .wordInside
  | 'Z' => some .textEnd
  | _ => none

def hexEscape (c : Char) (digits : Nat) (r : Reading) : Outcome (Nat × Reading) := do
  let (more, r) ← r.takeWhile isHexadecimal digits
  let escape := '\\' :: c :: more
  if more.length ≠ digits then r.fault (.incompleteEscape escape) escape.length
  else
    let code := readBase 16 more
    if 2147483648 ≤ code then .error .codeTooLarge
    else if 1114112 ≤ code then r.fault (.badEscape escape) escape.length
    else return (code, r)

def namedEscape (r : Reading) : Outcome (Nat × Reading) := do
  let (opened, r) ← r.takeIf '{'
  if !opened then r.fault (.missing ['{']) 0
  else
    let (name, r) ← r.name '\x7d' "character name".toList
    match Unicode.namedCode? name with
    | some code => return (code, r)
    | none => r.fault (.undefinedCharacter name) (name.length + 4)

def octalEscape (c : Char) (r : Reading) : Outcome (Nat × Reading) := do
  let (more, r) ← r.takeWhile isOctal 2
  let code := readBase 8 (c :: more)
  if 255 < code then r.fault (.octalTooLarge ('\\' :: c :: more)) (more.length + 2)
  else return (code, r)

/-- Any other character stands for itself, unless it is a letter or a digit. -/
def plainEscape (c : Char) (r : Reading) : Outcome (Nat × Reading) :=
  if isAsciiLetter c || isDecimal c then r.fault (.badEscape ['\\', c]) 2 else .ok (c.toNat, r)

def codeEscape? (c : Char) (r : Reading) : Option (Outcome (Nat × Reading)) :=
  match c with
  | 'x' => some (hexEscape c 2 r)
  | 'u' => some (hexEscape c 4 r)
  | 'U' => some (hexEscape c 8 r)
  | 'N' => some (namedEscape r)
  | _ => none

def setEscape (c : Char) (r : Reading) : Outcome (SetItem × Reading) :=
  let asItem (e : Outcome (Nat × Reading)) : Outcome (SetItem × Reading) := e.map fun (code, r) => (.code code, r)
  if c = 'b' then .ok (.code 8, r)
  else match controlCode? c with
    | some code => .ok (.code code, r)
    | none =>
      match category? c with
      | some item => .ok (item, r)
      | none =>
        match codeEscape? c r with
        | some e => asItem e
        | none => if isOctal c then asItem (octalEscape c r) else asItem (plainEscape c r)

/-- A digit from 1 on: an octal code if two more octal digits follow, else a group. -/
def digitEscape (c : Char) (r : Reading) : Outcome (Expr × Reading) := do
  let (second, r) ← r.takeWhile isDecimal 1
  let (third, r) ←
    if isOctal c && second.any isOctal then r.takeWhile isOctal 1 else .ok ([], r)
  let digits := c :: second ++ third
  if !third.isEmpty then
    let code := readBase 8 digits
    if 255 < code then r.fault (.octalTooLarge ('\\' :: digits)) (digits.length + 1)
    else return (.code code, r)
  else
    let group := readBase 10 digits
    if group ≤ r.groupCount then
      if !r.isClosed group then r.fault .openGroup (digits.length + 1)
      else
        r.checkLookbehind group
        return (.backref group, r)
    else r.fault (.invalidGroup group) digits.length

def exprEscape (c : Char) (r : Reading) : Outcome (Expr × Reading) :=
  let asExpr (e : Outcome (Nat × Reading)) : Outcome (Expr × Reading) := e.map fun (code, r) => (.code code, r)
  match anchor? c with
  | some a => .ok (.anchor a, r)
  | none =>
    match category? c with
    | some item => .ok (.set false [item], r)
    | none =>
      match controlCode? c with
      | some code => .ok (.code code, r)
      | none =>
        match codeEscape? c r with
        | some e => asExpr e
        | none =>
          if c = '0' then asExpr (octalEscape c r)
          else if isDecimal c then digitEscape c r
          else asExpr (plainEscape c r)

def isSpecial (c : Char) : Bool :=
  "()[]\x7b\x7d?*+-|^$\\.&~# \t\n\r\x0b\x0c".toList.contains c

def escapeChar (c : Char) : Text :=
  if isSpecial c then ['\\', c] else [c]

/-- An expression that matches exactly the text. -/
def escape (s : Text) : Text :=
  s.flatMap escapeChar

end AssetAudit.Regex
