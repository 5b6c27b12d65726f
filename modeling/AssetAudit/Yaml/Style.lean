import AssetAudit.Yaml.Source

/-!
# How a text can be written

Which styles a scalar can take is read off its characters: where indicators and blanks stand, and
whether it holds characters that need an escape.
-/
namespace AssetAudit.Yaml

def isPlainAscii (c : Char) : Bool :=
  32 ≤ c.toNat && c.toNat ≤ 126

/-- Line breaks that count as such inside a scalar. -/
def isTextBreak (c : Char) : Bool :=
  c == '\n' || c.toNat == 0x85 || c.toNat == 0x2028 || c.toNat == 0x2029

/-- An indicator at the front that rules out a plain scalar. -/
def leadingIndicators : List Char :=
  "#,[]\x7b\x7d&*!|>'\"%@".toList ++ [Char.ofNat 96]

def startsLikeStructure (t : Text) : Bool :=
  t.startsWith ['-', '-', '-'] || t.startsWith ['.', '.', '.'] ||
    match t with
    | [] => false
    | c :: rest =>
      leadingIndicators.contains c ||
        ((c == '?' || c == ':' || c == '-') && isGap (rest.headD endMark))

/-- Does a colon before a gap or a number sign behind one stand in the text behind its front? -/
def holdsStructure (gapBefore : Bool) : Text → Bool
  | [] => false
  | c :: rest =>
    (c == ':' && isGap (rest.headD endMark)) || (c == '#' && gapBefore) ||
      holdsStructure (isGap c) rest

def hasStructure (t : Text) : Bool :=
  startsLikeStructure t || match t with
    | [] => false
    | c :: rest => holdsStructure (isGap c) rest

def hasPair (p q : Char → Bool) : Text → Bool
  | a :: b :: rest => (p a && q b) || hasPair p q (b :: rest)
  | _ => false

def isSpace (c : Char) : Bool := c == ' '

def isSpaceOrTextBreak (c : Char) : Bool := isSpace c || isTextBreak c

def needsEscape (c : Char) : Bool :=
  c != '\n' && !isPlainAscii c

structure Shape where
  isEmpty : Bool
  isMultiline : Bool
  allowsPlain : Bool
  allowsSingle : Bool
  allowsBlock : Bool

def Shape.of (t : Text) : Shape :=
  if t.isEmpty then
    { isEmpty := true, isMultiline := false, allowsPlain := true, allowsSingle := true
      allowsBlock := false }
  else
    let blankEnds := (t.head?.any isSpaceOrTextBreak) || (t.getLast?.any isSpaceOrTextBreak)
    let breakThenSpace := hasPair isTextBreak isSpace t
    let onlyDouble := hasPair isSpace isTextBreak t || t.any needsEscape
    let isMultiline := t.any isTextBreak
    { isEmpty := false, isMultiline
      allowsPlain := !(blankEnds || breakThenSpace || onlyDouble || isMultiline || hasStructure t)
      allowsSingle := !(breakThenSpace || onlyDouble)
      allowsBlock := !(t.getLast? == some ' ' || onlyDouble) }

inductive Style where
  | plain
  | single
  | double
  | literal
  deriving DecidableEq, Repr

/-- The style of a scalar. `plainIsRight` tells whether a plain scalar means what is meant. -/
def Style.choose (shape : Shape) (isKey plainIsRight asksLiteral : Bool) : Style :=
  if !asksLiteral && plainIsRight && !(isKey && (shape.isEmpty || shape.isMultiline)) &&
      shape.allowsPlain then .plain
  else if asksLiteral && !isKey && shape.allowsBlock then .literal
  else if !asksLiteral && shape.allowsSingle && !(isKey && shape.isMultiline) then .single
  else .double

end AssetAudit.Yaml
