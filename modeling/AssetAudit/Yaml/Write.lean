import AssetAudit.Decimal.Shortest
import AssetAudit.Value.Show
import AssetAudit.Yaml.Resolve
import AssetAudit.Yaml.Style

/-!
# Writing YAML

Values in block style with an indentation of two. Long scalars are broken behind the eightieth
column; characters beyond ASCII are written by their codes.
-/
namespace AssetAudit.Yaml

/-- What is written so far, backwards, and where the next character would stand. -/
structure Printer where
  out : Text := []
  column : Nat := 0
  /-- Was the last thing written blank? -/
  blank : Bool := true
  /-- Has only indentation and its signs been written on this line? -/
  fresh : Bool := true

namespace Printer

def step : Nat := 2

def width : Nat := 80

def text (p : Printer) : Text :=
  p.out.reverse

/-- Write without regard to blanks. -/
def write (p : Printer) (t : Text) : Printer :=
  { p with out := t.reverse ++ p.out, column := p.column + t.length }

def indicator (p : Printer) (sign : Text) (needsBlank blank fresh : Bool) : Printer :=
  { p.write (if p.blank || !needsBlank then sign else ' ' :: sign) with
    blank := blank, fresh := p.fresh && fresh }

def newline (p : Printer) (c : Char) : Printer :=
  { out := c :: p.out, column := 0, blank := true, fresh := true }

/-- Go to an indentation, on a new line where the current one is used. -/
def indentTo (p : Printer) (indent : Nat) : Printer :=
  let p := if !p.fresh || indent < p.column || (p.column = indent && !p.blank) then p.newline '\n'
    else p
  if p.column < indent then
    { p.write (List.replicate (indent - p.column) ' ') with blank := true }
  else p

def inText (p : Printer) : Printer :=
  { p with blank := false, fresh := false }

def spanBy (p : Char → Bool) (t : Text) : Text × Text :=
  (t.takeWhile p, t.dropWhile p)

/-- A plain scalar, broken at single blanks. -/
def plainFrom (split : Bool) (indent : Nat) : Nat → Text → Printer → Printer
  | 0, _, p => p
  | _ + 1, [], p => p
  | fuel + 1, t, p =>
    if t.head? = some ' ' then
      let (spaces, rest) := spanBy isSpace t
      let p := if spaces.length = 1 && width < p.column && split then (p.indentTo indent).inText
        else p.write spaces
      plainFrom split indent fuel rest p
    else
      let (run, rest) := spanBy (!isSpace ·) t
      plainFrom split indent fuel rest (p.write run)

def plain (p : Printer) (split : Bool) (indent : Nat) (t : Text) : Printer :=
  if t.isEmpty then p
  else
    let p := if p.blank then p else p.write [' ']
    plainFrom split indent (t.length + 1) t p.inText

/-- The line breaks of a single-quoted scalar; the first line feed is written twice. -/
def breaks (p : Printer) (t : Text) : Printer :=
  let p := if t.head? = some '\n' then p.newline '\n' else p
  t.foldl (fun p c => p.newline c) p

def isSingleRun (c : Char) : Bool :=
  !isSpace c && !isTextBreak c && c != '\''

def singleFrom (split first : Bool) (indent : Nat) : Nat → Text → Printer → Printer
  | 0, _, p => p
  | _ + 1, [], p => p
  | fuel + 1, c :: rest, p =>
    if isSpace c then
      let (spaces, after) := spanBy isSpace (c :: rest)
      let p :=
        if spaces.length = 1 && width < p.column && split && !first && !after.isEmpty then
          p.indentTo indent
        else p.write spaces
      singleFrom split false indent fuel after p
    else if isTextBreak c then
      let (run, after) := spanBy isTextBreak (c :: rest)
      singleFrom split false indent fuel after ((p.breaks run).indentTo indent)
    else if c == '\'' then singleFrom split false indent fuel rest (p.write ['\'', '\''])
    else
      let (run, after) := spanBy isSingleRun (c :: rest)
      singleFrom split false indent fuel after (p.write run)

def single (p : Printer) (split : Bool) (indent : Nat) (t : Text) : Printer :=
  let p := p.indicator ['\''] true false false
  (singleFrom split true indent (t.length + 1) t p).indicator ['\''] false false false

def hexUpper (digits n : Nat) : Text :=
  (Text.hex digits n).map Char.toUpper

def escapeLetter? (c : Char) : Option Char :=
  match c.toNat with
  | 0 => some '0'
  | 7 => some 'a'
  | 8 => some 'b'
  | 9 => some 't'
  | 10 => some 'n'
  | 11 => some 'v'
  | 12 => some 'f'
  | 13 => some 'r'
  | 27 => some 'e'
  | 34 => some '"'
  | 92 => some '\\'
  | 0x85 => some 'N'
  | 0xa0 => some '_'
  | 0x2028 => some 'L'
  | 0x2029 => some 'P'
  | _ => none

def escaped (c : Char) : Text :=
  match escapeLetter? c with
  | some e => ['\\', e]
  | none =>
    if c.toNat ≤ 0xff then '\\' :: 'x' :: hexUpper 2 c.toNat
    else if c.toNat ≤ 0xffff then '\\' :: 'u' :: hexUpper 4 c.toNat
    else '\\' :: 'U' :: hexUpper 8 c.toNat

def isDoubleSafe (c : Char) : Bool :=
  isPlainAscii c && c != '"' && c != '\\'

/-- A double-quoted scalar. `pending` holds the characters that are not written yet, backwards;
`place` counts those before the current one. A break is marked by a backslash, and a blank behind
it by another. -/
def doubleFrom (split : Bool) (indent last : Nat) (place : Nat) (pending : Text) :
    Text → Printer → Printer
  | [], p => p.write pending.reverse
  | c :: rest, p =>
    let (p, pending, written) :=
      if isDoubleSafe c then (p, pending, false)
      else ((p.write pending.reverse).write (escaped c), [], true)
    let reached := if written then p.column - 1 else p.column + pending.length
    if 0 < place && place < last && (c == ' ' || written || pending.isEmpty) &&
        width < reached && split then
      let p := ((p.write (pending.reverse ++ ['\\'])).indentTo indent).inText
      let next := if written then rest.head? else some c
      let p := if next == some ' ' then p.write ['\\'] else p
      doubleFrom split indent last (place + 1) (if written then [] else [c]) rest p
    else
      doubleFrom split indent last (place + 1) (if written then [] else c :: pending) rest p

def double (p : Printer) (split : Bool) (indent : Nat) (t : Text) : Printer :=
  let p := p.indicator ['"'] true false false
  (doubleFrom split indent (t.length - 1) 0 [] t p).indicator ['"'] false false false

def hints (t : Text) : Text :=
  (if t.head?.any isSpaceOrTextBreak then Text.ofNat step else []) ++
    match t.reverse with
    | [] => []
    | c :: rest =>
      if !isTextBreak c then ['-']
      else match rest with
        | [] => ['+']
        | d :: _ => if isTextBreak d then ['+'] else []

def literalLines (indent : Nat) : List Text → Printer → Printer
  | [], p => p
  | [[]], p => p
  | line :: rest, p =>
    let p := if line.isEmpty then p else (p.indentTo indent).write line
    literalLines indent rest (p.newline '\n')

def literal (p : Printer) (indent : Nat) (t : Text) : Printer :=
  let p := (p.indicator ('|' :: hints t) true false false).newline '\n'
  literalLines indent (Text.splitOn '\n' t) p

end Printer

def base64Letter (n : Nat) : Char :=
  ("ABCDEFGHIJKLMNOPQRSTUVWXYZabcdefghijklmnopqrstuvwxyz0123456789+/".toList).getD n '='

def base64 : List UInt8 → Text
  | [] => []
  | [a] => [base64Letter (a.toNat / 4), base64Letter (a.toNat % 4 * 16), '=', '=']
  | [a, b] =>
    [base64Letter (a.toNat / 4), base64Letter (a.toNat % 4 * 16 + b.toNat / 16),
      base64Letter (b.toNat % 16 * 4), '=']
  | a :: b :: c :: rest =>
    [base64Letter (a.toNat / 4), base64Letter (a.toNat % 4 * 16 + b.toNat / 16),
      base64Letter (b.toNat % 16 * 4 + c.toNat / 64), base64Letter (c.toNat % 64)] ++ base64 rest

def base64Lines : Nat → List UInt8 → Text
  | 0, _ => []
  | fuel + 1, data =>
    if data.isEmpty then []
    else base64 (data.take 57) ++ '\n' :: base64Lines fuel (data.drop 57)

structure WrittenScalar where
  tag : Tag
  text : Text
  isLiteral : Bool := false

def floatText (bits : UInt64) : Text :=
  match Decimal.Parts.ofBits bits with
  | .nan => ".nan".toList
  | .infinite false => ".inf".toList
  | .infinite true => "-.inf".toList
  | .finite _ _ _ =>
    let t := Decimal.shortestText bits
    if t.contains '.' || !t.contains 'e' then t
    else t.flatMap fun c => if c == 'e' then ".0e".toList else [c]

def WrittenScalar.of : Scalar → WrittenScalar
  | .null => ⟨.null, "null".toList, false⟩
  | .bool true => ⟨.bool, "true".toList, false⟩
  | .bool false => ⟨.bool, "false".toList, false⟩
  | .int n => ⟨.int, Text.ofInt n, false⟩
  | .float bits => ⟨.float, floatText bits, false⟩
  | .text s => ⟨.str, s, false⟩
  | .bytes data => ⟨.binary, base64Lines (data.length + 1) data, true⟩
  | .date y m d => ⟨.timestamp, Moment.dateText y m d, false⟩
  | .moment m => ⟨.timestamp, m.text ' ', false⟩

def Tag.written (tag : Tag) : Text :=
  match Tag.words.find? (·.2 == tag) with
  | some (word, _) => '!' :: '!' :: word.toList
  | none => []

structure Place where
  /-- The indentation of the collection around it, if there is one. -/
  indent : Option Nat := none
  isEntry : Bool := false
  isKey : Bool := false

namespace Place

def deeper (place : Place) : Nat :=
  match place.indent with
  | none => 0
  | some n => n + Printer.step

def scalarIndent (place : Place) : Nat :=
  match place.indent with
  | none => Printer.step
  | some n => n + Printer.step

end Place

def putScalar (place : Place) (s : Scalar) (p : Printer) : Printer :=
  let w := WrittenScalar.of s
  let style := Style.choose (Shape.of w.text) place.isKey (plainTag w.text == w.tag) w.isLiteral
  let tagged := if style = .plain then plainTag w.text != w.tag else w.tag != .str
  let p := if tagged then p.indicator w.tag.written true false false else p
  let split := !place.isKey
  match style with
  | .plain => p.plain split place.scalarIndent w.text
  | .single => p.single split place.scalarIndent w.text
  | .double => p.double split place.scalarIndent w.text
  | .literal => p.literal place.scalarIndent w.text

def longestSimpleKey : Nat := 128

def isSimpleKey (s : Scalar) : Bool :=
  let w := WrittenScalar.of s
  let shape := Shape.of w.text
  w.tag.written.length + w.text.length < longestSimpleKey && !shape.isEmpty && !shape.isMultiline

def putKey (indent : Nat) (key : Scalar) (p : Printer) : Printer :=
  let p := p.indentTo indent
  if isSimpleKey key then
    (putScalar { indent := some indent, isEntry := true, isKey := true } key p).indicator
      [':'] false false false
  else
    let p := p.indicator ['?'] true false true
    let p := putScalar { indent := some indent, isEntry := true } key p
    (p.indentTo indent).indicator [':'] true false true

def tupleTag : Text := "!!python/tuple".toList

/-- A sequence in an entry begins on the level of its key. -/
def itemIndent (place : Place) (p : Printer) : Nat :=
  if place.isEntry && !p.fresh then place.indent.getD 0 else place.deeper

/-- The entries of a set: its items, each with nothing as its value. -/
def putSetEntries (indent : Nat) : List Scalar → Printer → Printer
  | [], p => p
  | item :: rest, p =>
    putSetEntries indent rest
      (putScalar { indent := some indent, isEntry := true } .null (putKey indent item p))

mutual

def put (place : Place) : Value → Printer → Printer
  | .scalar s, p => putScalar place s p
  | .list [], p => p.indicator ['[', ']'] true false false
  | .list items, p => putItems (itemIndent place p) items p
  | .tuple items, p =>
    let p := p.indicator tupleTag true false false
    if items.isEmpty then p.indicator ['[', ']'] true false false
    else putItems (itemIndent place p) items p
  | .set items, p =>
    let p := p.indicator Tag.set.written true false false
    if items.isEmpty then p.indicator ['\x7b', '\x7d'] true false false
    else putSetEntries place.deeper items p
  | .map [], p => p.indicator ['\x7b', '\x7d'] true false false
  | .map entries, p => putEntries place.deeper entries p

def putItems (indent : Nat) : List Value → Printer → Printer
  | [], p => p
  | item :: rest, p =>
    let p := (p.indentTo indent).indicator ['-'] true false true
    putItems indent rest (put { indent := some indent } item p)

def putEntries (indent : Nat) : List (Scalar × Value) → Printer → Printer
  | [], p => p
  | (key, value) :: rest, p =>
    putEntries indent rest (put { indent := some indent, isEntry := true } value (putKey indent key p))

end

def write (v : Value) : Text :=
  ((put {} v {}).indentTo 0).text

end AssetAudit.Yaml
