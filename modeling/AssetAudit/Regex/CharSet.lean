import AssetAudit.Regex.Expr
import AssetAudit.Unicode.Case
import AssetAudit.Unicode.Words

/-!
# How leaves read a character

Whether a code, a set or a category accepts a character, with and without regard to case. Without
it both sides are taken to lower case, and lower-case letters with one upper case count as one.
-/
namespace AssetAudit.Regex

def asciiCategory : Category → Nat → Bool
  | .digit, c => 48 ≤ c && c ≤ 57
  | .space, c => (9 ≤ c && c ≤ 13) || c == 32
  | .word, c => c < 128 && Unicode.isWord c

def unicodeCategory : Category → Nat → Bool
  | .digit, c => Unicode.isDigit c
  | .space, c => Unicode.isBlank c
  | .word, c => Unicode.isWord c

def categoryHolds (flags : Flags) (kind : Category) (c : Nat) : Bool :=
  if flags.unicode then unicodeCategory kind c else asciiCategory kind c

def SetItem.holds (flags : Flags) (c : Nat) : SetItem → Bool
  | .code x => c == x
  | .range lo hi => lo ≤ c && c ≤ hi
  | .category kind negated => categoryHolds flags kind c != negated

def foldCase (flags : Flags) (c : Nat) : Nat :=
  if flags.unicode then Unicode.lowerCode c
  else if 65 ≤ c ∧ c ≤ 90 then c + 32 else c

def hasCase (flags : Flags) (c : Nat) : Bool :=
  if flags.unicode then Unicode.isCased c
  else (65 ≤ c && c ≤ 90) || (97 ≤ c && c ≤ 122)

/-- Is the lower-case letter one of those that the lower-case form of `x` stands for? -/
def sameFolded (flags : Flags) (x folded : Nat) : Bool :=
  folded == foldCase flags x ||
    (flags.unicode && (Unicode.variants (foldCase flags x)).contains folded)

def anyFrom (lo : Nat) (p : Nat → Bool) : Nat → Bool
  | 0 => false
  | n + 1 => p lo || anyFrom (lo + 1) p n

/-- Does the item hold a letter, so that the whole set is read without regard to case? Items
beyond the basic plane always count. -/
def SetItem.hasCase (flags : Flags) : SetItem → Bool
  | .code x => Regex.hasCase flags x || 65536 ≤ foldCase flags x
  | .range lo hi => 65536 ≤ hi || anyFrom lo (Regex.hasCase flags) (hi + 1 - lo)
  | .category _ _ => false

def SetItem.holdsFolded (flags : Flags) (folded : Nat) : SetItem → Bool
  | .code x => if foldCase flags x < 65536 then sameFolded flags x folded else folded == x
  | .range lo hi =>
    anyFrom lo (sameFolded flags · folded) (min (hi + 1) 65536 - lo) ||
      (65536 ≤ hi &&
        ((lo ≤ folded && folded ≤ hi) ||
          (lo ≤ Unicode.upperCode folded && Unicode.upperCode folded ≤ hi)))
  | .category kind negated => categoryHolds flags kind folded != negated

def acceptsCode (flags : Flags) (x c : Nat) : Bool :=
  if flags.ignoreCase && hasCase flags x then sameFolded flags x (foldCase flags c)
  else c == x

def acceptsSet (flags : Flags) (negated : Bool) (items : List SetItem) (c : Nat) : Bool :=
  if flags.ignoreCase && items.any (SetItem.hasCase flags) then
    items.any (SetItem.holdsFolded flags (foldCase flags c)) != negated
  else items.any (SetItem.holds flags c) != negated

def acceptsAny (flags : Flags) (c : Nat) : Bool :=
  flags.dotAll || c != 10

end AssetAudit.Regex
