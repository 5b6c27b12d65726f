import AssetAudit.Yaml.Error

/-!
# Reading a document character by character

What is left of a document with the place it starts at. The end of the document counts as a null
character, which no document holds.
-/
namespace AssetAudit.Yaml

structure Source where
  rest : Text
  index : Nat
  line : Nat
  column : Nat

def endMark : Char := Char.ofNat 0

def isBreak (c : Char) : Bool :=
  c == '\n' || c == '\r' || c.toNat == 0x85 || c.toNat == 0x2028 || c.toNat == 0x2029

def isBreakOrEnd (c : Char) : Bool :=
  c == endMark || isBreak c

/-- A blank other than a tab, or the end. -/
def isSpaceOrEnd (c : Char) : Bool :=
  c == ' ' || isBreakOrEnd c

def isGap (c : Char) : Bool :=
  c == '\t' || isSpaceOrEnd c

def byteOrderMark : Char := Char.ofNat 0xfeff

namespace Source

def peek (s : Source) (n : Nat) : Char :=
  s.rest.getD n endMark

def head (s : Source) : Char :=
  s.rest.headD endMark

def forward : Nat → Source → Source
  | 0, s => s
  | n + 1, s =>
    match s.rest with
    | [] => s
    | c :: rest =>
      forward n (if (isBreak c && c != '\r') || (c == '\r' && rest.head? != some '\n') then
          ⟨rest, s.index + 1, s.line + 1, 0⟩
        else ⟨rest, s.index + 1, s.line, if c == byteOrderMark then s.column else s.column + 1⟩)

def takeWhile (s : Source) (p : Char → Bool) : Text :=
  s.rest.takeWhile p

def dropWhile (s : Source) (p : Char → Bool) : Source :=
  s.forward (s.takeWhile p).length

def skipSpaces (s : Source) : Source :=
  s.dropWhile (· == ' ')

def skipComment (s : Source) : Source :=
  if s.head == '#' then s.dropWhile fun c => !isBreakOrEnd c else s

def lineBreak? (s : Source) : Option (Char × Source) :=
  match s.rest with
  | '\r' :: '\n' :: _ => some ('\n', s.forward 2)
  | c :: _ =>
    if c == '\n' || c == '\r' || c.toNat == 0x85 then some ('\n', s.forward 1)
    else if isBreak c then some (c, s.forward 1)
    else none
  | [] => none

def skipBreak (s : Source) : Source :=
  match s.lineBreak? with
  | some (_, s) => s
  | none => s

def atDocumentMark (s : Source) : Bool :=
  (s.rest.take 3 == ['-', '-', '-'] || s.rest.take 3 == ['.', '.', '.']) && isGap (s.peek 3)

end Source

end AssetAudit.Yaml
