import AssetAudit.Text.Utf8
import AssetAudit.Yaml.Error
import AssetAudit.Yaml.Token.Scalar

/-!
# Tokens of YAML documents

Indentation is turned into tokens that begin and end collections. Whether something is a key shows
only at its colon, so the places where a key may have begun are kept, and the tokens in front of a
key are put in afterwards.
-/
namespace AssetAudit.Yaml

/-- A tag as it is written: a handle, unless it is spelled out, and the rest. -/
structure WrittenTag where
  handle : Option Text
  rest : Text
  deriving DecidableEq, Repr

inductive Directive where
  | version (major minor : Nat)
  | handle (handle address : Text)
  | other
  deriving DecidableEq, Repr

inductive Token where
  | streamEnd
  | directive (d : Directive)
  | documentStart
  | documentEnd
  | blockSequenceStart
  | blockMappingStart
  | blockEnd
  | flowSequenceStart
  | flowSequenceEnd
  | flowMappingStart
  | flowMappingEnd
  | blockEntry
  | flowEntry
  | key
  | value
  | alias (name : Text)
  | anchor (name : Text)
  | tag (t : WrittenTag)
  | scalar (text : Text) (isPlain : Bool)
  deriving DecidableEq, Repr

/-- A place where a key without a mark may have begun. -/
structure KeyPlace where
  /-- How many tokens came before it. -/
  tokens : Nat
  required : Bool
  index : Nat
  line : Nat
  column : Nat

def longestKey : Nat := 1024

structure Lexer where
  source : Source
  flowLevel : Nat := 0
  indent : Int := -1
  indents : List Int := []
  keyAllowed : Bool := true
  /-- Places by flow level. -/
  places : List (Nat × KeyPlace) := []
  /-- The tokens so far, the last one first. -/
  tokens : List Token := []
  count : Nat := 0

namespace Lexer

def add (l : Lexer) (t : Token) : Lexer :=
  { l with tokens := t :: l.tokens, count := l.count + 1 }

def insert (l : Lexer) (n : Nat) (t : Token) : Lexer :=
  let behind := l.count - n
  { l with tokens := l.tokens.take behind ++ t :: l.tokens.drop behind, count := l.count + 1 }

def forward (l : Lexer) (n : Nat) : Lexer :=
  { l with source := l.source.forward n }

def inFlow (l : Lexer) : Bool :=
  l.flowLevel != 0

def place? (l : Lexer) : Option KeyPlace :=
  (l.places.find? (·.1 == l.flowLevel)).map (·.2)

def dropPlace (l : Lexer) : Lexer :=
  { l with places := l.places.filter (·.1 != l.flowLevel) }

def forgetPlace (l : Lexer) : Outcome Lexer :=
  match l.place? with
  | some place => if place.required then fault .keyWithoutColon else .ok l.dropPlace
  | none => .ok l

def savePlace (l : Lexer) : Outcome Lexer :=
  if l.keyAllowed then do
    let l ← l.forgetPlace
    let s := l.source
    let place : KeyPlace :=
      { tokens := l.count, required := !l.inFlow && l.indent == Int.ofNat s.column
        index := s.index, line := s.line, column := s.column }
    return { l with places := (l.flowLevel, place) :: l.places }
  else .ok l

def isStale (l : Lexer) (place : KeyPlace) : Bool :=
  place.line != l.source.line || longestKey < l.source.index - place.index

/-- Give up the places that a colon can no longer reach. -/
def dropStale (l : Lexer) : Outcome Lexer :=
  if l.places.any fun p => l.isStale p.2 && p.2.required then fault .keyWithoutColon
  else .ok { l with places := l.places.filter fun p => !l.isStale p.2 }

def unwind (l : Lexer) (column : Int) : List Int → Lexer
  | [] => l
  | outer :: rest =>
    if !l.inFlow && column < l.indent then
      unwind ({ l with indent := outer, indents := rest }.add .blockEnd) column rest
    else l

def unwindTo (l : Lexer) (column : Int) : Lexer :=
  l.unwind column l.indents

/-- Begin a block collection, if the column is indented deeper. -/
def deepen? (l : Lexer) (column : Nat) : Option Lexer :=
  if l.indent < Int.ofNat column then
    some { l with indents := l.indent :: l.indents, indent := Int.ofNat column }
  else none

def deepenWith (l : Lexer) (start : Token) : Lexer :=
  match l.deepen? l.source.column with
  | some l => l.add start
  | none => l

def skipToToken : Nat → Lexer → Lexer
  | 0, l => l
  | fuel + 1, l =>
    let s := l.source.skipSpaces.skipComment
    match s.lineBreak? with
    | some (_, next) =>
      skipToToken fuel { l with source := next, keyAllowed := l.keyAllowed || !l.inFlow }
    | none => { l with source := s }

/-! ## Tokens with a text of their own -/

def isNameChar (c : Char) : Bool :=
  c.isAlphanum || c == '-' || c == '_'

def afterName : List Char :=
  ['?', ':', ',', ']', '\x7d', '%', '@', Char.ofNat 96]

def readName (l : Lexer) : Outcome (Text × Lexer) :=
  let name := (l.source.forward 1).takeWhile isNameChar
  let l := l.forward (name.length + 1)
  if name.isEmpty || !(isGap l.source.head || afterName.contains l.source.head) then fault .anchor
  else .ok (name, l)

def isUriChar (c : Char) : Bool :=
  c.isAlphanum || "-;/?:@&=+$,_.!~*'()[]%".toList.contains c

def uriBytes : Nat → Source → Outcome (List UInt8 × Source)
  | 0, s => .ok ([], s)
  | fuel + 1, s =>
    if s.head == '%' then
      match hexNumber? ((s.forward 1).rest.take 2) with
      | some n =>
        if (s.forward 1).rest.length < 2 then fault .tag
        else do
          let (more, s) ← uriBytes fuel (s.forward 3)
          return (n.toUInt8 :: more, s)
      | none => fault .tag
    else .ok ([], s)

def uriText : Nat → Source → Outcome (Text × Source)
  | 0, s => .ok ([], s)
  | fuel + 1, s =>
    if s.head == '%' then do
      let (bytes, s) ← uriBytes (s.rest.length + 1) s
      match Text.ofUtf8 bytes with
      | .error _ => fault .tag
      | .ok t =>
        let (more, s) ← uriText fuel s
        return (t ++ more, s)
    else
      let run := s.takeWhile fun c => isUriChar c && c != '%'
      if run.isEmpty then .ok ([], s)
      else do
        let (more, s) ← uriText fuel (s.forward run.length)
        return (run ++ more, s)

def readUri (s : Source) : Outcome (Text × Source) := do
  if !isUriChar s.head then fault .tag else uriText (s.rest.length + 1) s

/-- A handle such as `!`, `!!` or `!name!`. -/
def readHandle (s : Source) : Outcome (Text × Source) :=
  if s.head != '!' then fault .tag
  else if s.peek 1 == ' ' then .ok (['!'], s.forward 1)
  else
    let name := (s.forward 1).takeWhile isNameChar
    if s.peek (name.length + 1) == '!' then .ok (s.rest.take (name.length + 2), s.forward (name.length + 2))
    else fault .tag

def usesHandle (s : Source) : Bool :=
  let word := (s.forward 1).takeWhile fun c => !isSpaceOrEnd c
  word.contains '!'

def readTag (l : Lexer) : Outcome (WrittenTag × Lexer) := do
  let s := l.source
  let (tag, s) ←
    if s.peek 1 == '<' then do
      let (uri, s) ← readUri (s.forward 2)
      if s.head == '>' then pure ((⟨none, uri⟩ : WrittenTag), s.forward 1) else fault .tag
    else if isGap (s.peek 1) then pure (⟨none, ['!']⟩, s.forward 1)
    else do
      let (handle, s) ← if usesHandle s then readHandle s else pure (['!'], s.forward 1)
      let (uri, s) ← readUri s
      pure (⟨some handle, uri⟩, s)
  if isSpaceOrEnd s.head then return (tag, { l with source := s }) else fault .tag

def readNumber (s : Source) : Outcome (Nat × Source) :=
  let ds := s.takeWhile Char.isDigit
  if ds.isEmpty then fault .directive else .ok ((Decimal.readDigits ds).1, s.forward ds.length)

def readDirective (l : Lexer) : Outcome (Directive × Lexer) := do
  let s := l.source.forward 1
  let name := s.takeWhile isNameChar
  let s := s.forward name.length
  if name.isEmpty || !isSpaceOrEnd s.head then fault .directive
  else
    let (d, s) ←
      if name == "YAML".toList then do
        let (major, s) ← readNumber s.skipSpaces
        if s.head != '.' then fault .directive
        else
          let (minor, s) ← readNumber (s.forward 1)
          if isSpaceOrEnd s.head then pure (Directive.version major minor, s) else fault .directive
      else if name == "TAG".toList then do
        let (handle, s) ← readHandle s.skipSpaces
        if s.head != ' ' then fault .directive
        else
          let (address, s) ← readUri s.skipSpaces
          if isSpaceOrEnd s.head then pure (.handle handle address, s) else fault .directive
      else pure (.other, s.dropWhile fun c => !isBreakOrEnd c)
    let s := s.skipSpaces.skipComment
    if isBreakOrEnd s.head then return (d, { l with source := s.skipBreak }) else fault .directive

/-! ## One token at a time -/

def fetchMark (l : Lexer) (t : Token) : Outcome Lexer := do
  let l ← (l.unwindTo (-1)).forgetPlace
  return ({ l with keyAllowed := false }.forward 3).add t

def fetchStreamEnd (l : Lexer) : Outcome Lexer := do
  let l ← (l.unwindTo (-1)).forgetPlace
  return { l with keyAllowed := false, places := [] }.add .streamEnd

def fetchDirective (l : Lexer) : Outcome Lexer := do
  let l ← (l.unwindTo (-1)).forgetPlace
  let (d, l) ← { l with keyAllowed := false }.readDirective
  return l.add (.directive d)

def fetchFlowStart (l : Lexer) (t : Token) : Outcome Lexer := do
  let l ← l.savePlace
  return ({ l with flowLevel := l.flowLevel + 1, keyAllowed := true }.forward 1).add t

/-- A closing sign without an opening one is left to be found out of place. -/
def fetchFlowEnd (l : Lexer) (t : Token) : Outcome Lexer := do
  let l ← l.forgetPlace
  if l.flowLevel = 0 then fault .unexpectedToken
  else return ({ l with flowLevel := l.flowLevel - 1, keyAllowed := false }.forward 1).add t

def fetchFlowEntry (l : Lexer) : Outcome Lexer := do
  let l ← { l with keyAllowed := true }.forgetPlace
  return (l.forward 1).add .flowEntry

def fetchBlockEntry (l : Lexer) : Outcome Lexer := do
  if !l.inFlow && !l.keyAllowed then fault .entryNotAllowed
  else
    let l := if l.inFlow then l else l.deepenWith .blockSequenceStart
    let l ← { l with keyAllowed := true }.forgetPlace
    return (l.forward 1).add .blockEntry

def fetchKey (l : Lexer) : Outcome Lexer := do
  if !l.inFlow && !l.keyAllowed then fault .keyNotAllowed
  else
    let l := if l.inFlow then l else l.deepenWith .blockMappingStart
    let l ← { l with keyAllowed := !l.inFlow }.forgetPlace
    return (l.forward 1).add .key

def fetchValue (l : Lexer) : Outcome Lexer := do
  match l.place? with
  | some place =>
    let l := l.dropPlace.insert place.tokens .key
    let l := if l.inFlow then l else
      match l.deepen? place.column with
      | some l => l.insert place.tokens .blockMappingStart
      | none => l
    return ({ l with keyAllowed := false }.forward 1).add .value
  | none =>
    if !l.inFlow && !l.keyAllowed then fault .valueNotAllowed
    else
      let l := if l.inFlow then l else l.deepenWith .blockMappingStart
      let l ← { l with keyAllowed := !l.inFlow }.forgetPlace
      return (l.forward 1).add .value

def fetchAlias (l : Lexer) : Outcome Lexer := do
  let l ← l.savePlace
  let (name, l) ← { l with keyAllowed := false }.readName
  return l.add (.alias name)

def fetchAnchor (l : Lexer) : Outcome Lexer := do
  let l ← l.savePlace
  let (name, l) ← { l with keyAllowed := false }.readName
  return l.add (.anchor name)

def fetchTag (l : Lexer) : Outcome Lexer := do
  let l ← l.savePlace
  let (tag, l) ← { l with keyAllowed := false }.readTag
  return l.add (.tag tag)

def fetchBlockScalar (l : Lexer) : Outcome Lexer := do
  let l ← { l with keyAllowed := true }.forgetPlace
  let (text, s) ← blockScalar l.indent l.source
  return { l with source := s }.add (.scalar text false)

def fetchQuoted (l : Lexer) : Outcome Lexer := do
  let l ← l.savePlace
  let (text, s) ← quotedScalar l.source
  return { l with source := s, keyAllowed := false }.add (.scalar text false)

/-- Behind a plain scalar that ends with a line a key may begin. -/
def fetchPlain (l : Lexer) : Outcome Lexer := do
  let l ← l.savePlace
  let (text, s, broken) := plainScalar l.inFlow (l.indent + 1) l.source
  return { l with source := s, keyAllowed := broken }.add (.scalar text true)

def plainIndicators : List Char :=
  "-?:,[]\x7b\x7d#&*!|>'\"%@".toList ++ [Char.ofNat 96]

def startsPlain (l : Lexer) : Bool :=
  let c := l.source.head
  !(isGap c || plainIndicators.contains c) ||
    (!isGap (l.source.peek 1) && (c == '-' || (!l.inFlow && (c == '?' || c == ':'))))

/-- The next token, with the tokens that indentation puts before it. -/
def fetch (l : Lexer) : Outcome Lexer := do
  let l ← (skipToToken (l.source.rest.length + 1) l).dropStale
  let l := l.unwindTo (Int.ofNat l.source.column)
  let s := l.source
  let lone := isGap (s.peek 1)
  match s.rest with
  | [] => l.fetchStreamEnd
  | c :: _ =>
    if c == '%' && s.column == 0 then l.fetchDirective
    else if s.column == 0 && s.atDocumentMark then
      l.fetchMark (if c == '-' then .documentStart else .documentEnd)
    else match c with
      | '[' => l.fetchFlowStart .flowSequenceStart
      | '\x7b' => l.fetchFlowStart .flowMappingStart
      | ']' => l.fetchFlowEnd .flowSequenceEnd
      | '\x7d' => l.fetchFlowEnd .flowMappingEnd
      | ',' => l.fetchFlowEntry
      | '*' => l.fetchAlias
      | '&' => l.fetchAnchor
      | '!' => l.fetchTag
      | '\'' | '"' => l.fetchQuoted
      | _ =>
        if c == '-' && lone then l.fetchBlockEntry
        else if c == '?' && (l.inFlow || lone) then l.fetchKey
        else if c == ':' && (l.inFlow || lone) then l.fetchValue
        else if (c == '|' || c == '>') && !l.inFlow then l.fetchBlockScalar
        else if l.startsPlain then l.fetchPlain
        else fault .character

/-- Every token takes at least one character, except for the end. -/
def fetchAll : Nat → Lexer → Outcome Lexer
  | 0, l => .ok l
  | fuel + 1, l =>
    match l.tokens with
    | .streamEnd :: _ => .ok l
    | _ => do
      let l ← l.fetch
      fetchAll fuel l

end Lexer

def isDocumentChar (c : Char) : Bool :=
  let n := c.toNat
  n == 9 || n == 10 || n == 13 || (32 ≤ n && n ≤ 126) || n == 0x85 || (0xa0 ≤ n && n ≤ 0xd7ff) ||
    (0xe000 ≤ n && n ≤ 0xfffd) || 0x10000 ≤ n

def tokensOf (document : Text) : Outcome (List Token) :=
  if !document.all isDocumentChar then fault .character
  else
    let start : Source := ⟨document, 0, 0, 0⟩
    let start := if start.head == byteOrderMark then start.forward 1 else start
    (Lexer.fetchAll (document.length + 2) { source := start }).map fun l => l.tokens.reverse

end AssetAudit.Yaml
