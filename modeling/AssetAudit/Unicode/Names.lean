import AssetAudit.Text.Basic
import AssetAudit.Unicode.Names.Aliases
import AssetAudit.Unicode.Names.Alphabets
import AssetAudit.Unicode.Names.Pictures
import AssetAudit.Unicode.Names.Scripts
import AssetAudit.Unicode.Names.Signs
import AssetAudit.Unicode.Names.Syllables

/-!
# Names of characters

A character can be written by its name. Most names stand in tables; a syllable is named by its
sounds, and an ideograph by its code. Names in tables are compared without case.
-/
namespace AssetAudit.Unicode

def nameTables : List String :=
  [alphabetNames, signNames, syllableNames, scriptNames, pictureNames, aliasNames]

def upperHexDigit? (c : Char) : Option Nat :=
  if '0' ≤ c ∧ c ≤ '9' then some (c.toNat - '0'.toNat)
  else if 'A' ≤ c ∧ c ≤ 'F' then some (c.toNat - 'A'.toNat + 10)
  else none

def upperHex? (digits : Text) : Option Nat :=
  digits.foldlM (fun n c => (upperHexDigit? c).map (n * 16 + ·)) 0

structure Named where
  code : Nat
  words : List Text

/-- The next entry of a table. It may begin with the code of its character; else the character
follows the one before. -/
def Named.next (before : Named) (entry : Text) : Named :=
  let (code, entry) := match entry with
    | '@' :: rest =>
      ((upperHex? (rest.takeWhile (· != ' '))).getD 0, (rest.dropWhile (· != ' ')).drop 1)
    | _ => (before.code + 1, entry)
  let shared := (entry.head?.bind upperHexDigit?).getD 0
  let own := (Text.splitOn ' ' (entry.drop 1)).filter (!·.isEmpty)
  ⟨code, before.words.take shared ++ own⟩

def codeAmong? (words : List Text) (before : Named) : List Text → Option Nat
  | [] => none
  | entry :: rest =>
    let named := before.next entry
    if named.words = words then some named.code else codeAmong? words named rest

def entriesOf (table : String) : List Text :=
  (table.splitOn "\n").flatMap fun line => Text.splitOn ';' line.toList

def longestBeginning? (beginnings : List String) (s : Text) : Option (Nat × Text) :=
  let fitting := beginnings.zipIdx.filter fun b => b.1.toList.isPrefixOf s
  let longest? := fitting.foldl
    (fun best b => if best.any fun a => b.1.length ≤ a.1.length then best else some b) none
  longest?.map fun b => (b.2, s.drop b.1.length)

def leadingSounds : List String :=
  ["G", "GG", "N", "D", "DD", "R", "M", "B", "BB", "S", "SS", "", "J", "JJ", "C", "K", "T", "P",
    "H"]

def vowelSounds : List String :=
  ["A", "AE", "YA", "YAE", "EO", "E", "YEO", "YE", "O", "WA", "WAE", "OE", "YO", "U", "WEO", "WE",
    "WI", "YU", "EU", "YI", "I"]

def closingSounds : List String :=
  ["", "G", "GG", "GS", "N", "NJ", "NH", "D", "L", "LG", "LM", "LB", "LS", "LT", "LP", "LH", "M",
    "B", "BS", "S", "SS", "NG", "J", "C", "K", "T", "P", "H"]

def syllableCode? (sounds : Text) : Option Nat := do
  let (lead, rest) ← longestBeginning? leadingSounds sounds
  let (vowel, rest) ← longestBeginning? vowelSounds rest
  let (closing, rest) ← longestBeginning? closingSounds rest
  if rest.isEmpty then some (0xac00 + (lead * 21 + vowel) * 28 + closing) else none

def codeNamedRanges : List (String × List (Nat × Nat)) := [
  ("CJK COMPATIBILITY IDEOGRAPH-", [(0xf900, 0xfa6d), (0xfa70, 0xfad9), (0x2f800, 0x2fa1d)]),
  ("KHITAN SMALL SCRIPT CHARACTER-", [(0x18b00, 0x18cd5)]),
  ("NUSHU CHARACTER-", [(0x1b170, 0x1b2fb)])]

def ideographRanges : List (Nat × Nat) :=
  [(0x3400, 0x4dbf), (0x4e00, 0x9fff), (0x20000, 0x2a6df), (0x2a700, 0x2b738), (0x2b740, 0x2b81d),
    (0x2b820, 0x2cea1), (0x2ceb0, 0x2ebe0), (0x30000, 0x3134a)]

def inRanges (ranges : List (Nat × Nat)) (code : Nat) : Bool :=
  ranges.any fun r => r.1 ≤ code && code ≤ r.2

/-- An ideograph is named by four or five digits. -/
def ideographCode? (digits : Text) : Option Nat :=
  if digits.length = 4 ∨ digits.length = 5 then (upperHex? digits).filter (inRanges ideographRanges)
  else none

def codeInName? (name : Text) : Option Nat :=
  codeNamedRanges.findSome? fun (beginning, ranges) =>
    if name.startsWith beginning.toList then
      let digits := name.drop beginning.length
      (upperHex? digits).filter fun code =>
        inRanges ranges code && digits.length == (if code < 0x10000 then 4 else 5)
    else none

def syllableBeginning : Text := "HANGUL SYLLABLE ".toList

def ideographBeginning : Text := "CJK UNIFIED IDEOGRAPH-".toList

def namedCode? (name : Text) : Option Nat :=
  if name.startsWith syllableBeginning then syllableCode? (name.drop syllableBeginning.length)
  else if name.startsWith ideographBeginning then
    ideographCode? (name.drop ideographBeginning.length)
  else
    let name := name.map Char.toUpper
    let words := Text.splitOn ' ' name
    (codeInName? name).or
      (nameTables.findSome? fun table => codeAmong? words ⟨0, []⟩ (entriesOf table))

end AssetAudit.Unicode
