import AssetAudit.Json.Read
import AssetAudit.Yaml.Source

/-!
# Scalars of YAML documents

Plain, quoted and block scalars. Line breaks inside a scalar are folded: a single one becomes a
blank, of several the first is left out.
-/
namespace AssetAudit.Yaml

def breaksWhile (skip : Source → Source) : Nat → Source → Text × Source
  | 0, s => ([], s)
  | fuel + 1, s =>
    match (skip s).lineBreak? with
    | some (c, next) =>
      let (more, last) := breaksWhile skip fuel next
      (c :: more, last)
    | none => ([], skip s)

def folded (first : Char) (breaks : Text) : Text :=
  if first ≠ '\n' then first :: breaks else if breaks.isEmpty then [' '] else breaks

/-! ## Quoted scalars -/

def escapeChar? : Char → Option Char
  | '0' => some (Char.ofNat 0)
  | 'a' => some (Char.ofNat 7)
  | 'b' => some (Char.ofNat 8)
  | 't' | '\t' => some '\t'
  | 'n' => some '\n'
  | 'v' => some (Char.ofNat 11)
  | 'f' => some (Char.ofNat 12)
  | 'r' => some '\r'
  | 'e' => some (Char.ofNat 27)
  | ' ' => some ' '
  | '"' => some '"'
  | '\\' => some '\\'
  | '/' => some '/'
  | 'N' => some (Char.ofNat 0x85)
  | '_' => some (Char.ofNat 0xa0)
  | 'L' => some (Char.ofNat 0x2028)
  | 'P' => some (Char.ofNat 0x2029)
  | _ => none

def escapeWidth? : Char → Option Nat
  | 'x' => some 2
  | 'u' => some 4
  | 'U' => some 8
  | _ => none

def hexNumber? (digits : Text) : Option Nat :=
  digits.foldlM (fun n c => (Json.hexDigit? c).map (n * 16 + ·)) 0

/-- The breaks inside a quoted scalar; a document mark may not follow one. -/
def quotedBreaks : Nat → Source → Outcome (Text × Source)
  | 0, s => .ok ([], s)
  | fuel + 1, s =>
    if s.atDocumentMark then fault .unterminated
    else
      let s := s.dropWhile fun c => c == ' ' || c == '\t'
      match s.lineBreak? with
      | some (c, next) => do
        let (more, last) ← quotedBreaks fuel next
        return (c :: more, last)
      | none => return ([], s)

def quotedText (quote : Char) : Nat → Source → Outcome (Text × Source)
  | 0, _ => fault .unterminated
  | fuel + 1, s =>
    match s.rest with
    | [] => fault .unterminated
    | c :: _ =>
      if c == quote then
        if quote == '\'' && s.peek 1 == '\'' then prepend ['\''] (quotedText quote fuel (s.forward 2))
        else .ok ([], s.forward 1)
      else if c == ' ' || c == '\t' || isBreak c then
        let blanks := s.takeWhile fun c => c == ' ' || c == '\t'
        let s := s.forward blanks.length
        match s.lineBreak? with
        | some (first, next) => do
          let (breaks, next) ← quotedBreaks (next.rest.length + 1) next
          prepend (folded first breaks) (quotedText quote fuel next)
        | none => prepend blanks (quotedText quote fuel s)
      else if c == '\\' && quote == '"' then
        let s := s.forward 1
        match escapeChar? s.head, escapeWidth? s.head with
        | some e, _ => prepend [e] (quotedText quote fuel (s.forward 1))
        | none, some width =>
          let digits := (s.forward 1).rest.take width
          match hexNumber? digits with
          | some code =>
            if digits.length < width then fault .escape
            else if 0x7fffffff < code then .error (.value .largeNumber)
            else if 0x10ffff < code then .error (.value .character)
            else prepend [Char.ofNat code] (quotedText quote fuel (s.forward (width + 1)))
          | none => fault .escape
        | none, none =>
          match s.lineBreak? with
          | some (_, next) => do
            let (breaks, next) ← quotedBreaks (next.rest.length + 1) next
            prepend breaks (quotedText quote fuel next)
          | none => fault .escape
      else prepend [c] (quotedText quote fuel (s.forward 1))
where
  prepend (t : Text) (more : Outcome (Text × Source)) : Outcome (Text × Source) :=
    more.map fun (rest, s) => (t ++ rest, s)

def quotedScalar (s : Source) : Outcome (Text × Source) :=
  quotedText s.head (s.rest.length + 1) (s.forward 1)

/-! ## Plain scalars -/

def isFlowSign (c : Char) : Bool :=
  c == ',' || c == '[' || c == ']' || c == '\x7b' || c == '\x7d'

/-- The part of a plain scalar before the next gap or sign. -/
def plainRun (inFlow : Bool) : Text → Text
  | [] => []
  | c :: rest =>
    let next := rest.headD endMark
    if isGap c || (c == ':' && (isGap next || (inFlow && isFlowSign next))) ||
        (inFlow && (isFlowSign c || c == '?')) then []
    else c :: plainRun inFlow rest

/-- Breaks and blanks behind a break in a plain scalar; none at a document mark. -/
def plainBreaks : Nat → Source → Option Text × Source
  | 0, s => (some [], s)
  | fuel + 1, s =>
    if s.head == ' ' then plainBreaks fuel (s.forward 1)
    else match s.lineBreak? with
      | some (c, next) =>
        if next.atDocumentMark then (none, next)
        else
          let (more, last) := plainBreaks fuel next
          (more.map (c :: ·), last)
      | none => (some [], s)

/-- What lies between two runs of a plain scalar, and whether a line ended. Nothing ends it. -/
def plainSpaces (s : Source) : Text × Source × Bool :=
  let blanks := s.takeWhile (· == ' ')
  let s := s.forward blanks.length
  match s.lineBreak? with
  | some (first, next) =>
    if next.atDocumentMark then ([], next, true)
    else match plainBreaks (next.rest.length + 1) next with
      | (some breaks, last) => (folded first breaks, last, true)
      | (none, last) => ([], last, true)
  | none => (blanks, s, false)

/-- A plain scalar; the third part tells whether it ended behind a line break. -/
def plainText (inFlow : Bool) (indent : Int) (spaces : Text) (broken : Bool) :
    Nat → Source → Text × Source × Bool
  | 0, s => ([], s, broken)
  | fuel + 1, s =>
    let run := if s.head == '#' then [] else plainRun inFlow s.rest
    if run.isEmpty then ([], s, broken)
    else
      let (between, next, newline) := plainSpaces (s.forward run.length)
      if between.isEmpty || next.head == '#' || (!inFlow && Int.ofNat next.column < indent) then
        (spaces ++ run, next, newline)
      else
        let (more, last, atBreak) := plainText inFlow indent between newline fuel next
        (spaces ++ run ++ more, last, atBreak)

def plainScalar (inFlow : Bool) (indent : Int) (s : Source) : Text × Source × Bool :=
  plainText inFlow indent [] false (s.rest.length + 1) s

/-! ## Block scalars -/

inductive Chomping where
  | strip
  | clip
  | keep
  deriving DecidableEq, Repr

def chomping? : Char → Option Chomping
  | '+' => some .keep
  | '-' => some .strip
  | _ => none

def increment? (c : Char) : Option Nat :=
  if c.isDigit then some (c.toNat - 48) else none

def blockHeader (s : Source) : Outcome (Chomping × Option Nat × Source) := do
  let (chomping, increment, s) := match chomping? s.head with
    | some chomping =>
      let s := s.forward 1
      match increment? s.head with
      | some n => (chomping, some n, s.forward 1)
      | none => (chomping, none, s)
    | none =>
      match increment? s.head with
      | some n =>
        let s := s.forward 1
        match chomping? s.head with
        | some chomping => (chomping, some n, s.forward 1)
        | none => (.clip, some n, s)
      | none => (.clip, none, s)
  if increment = some 0 || !isSpaceOrEnd s.head then fault .blockHeader
  else
    let s := s.skipSpaces.skipComment
    if isBreakOrEnd s.head then return (chomping, increment, s.skipBreak) else fault .blockHeader

/-- The breaks before the first line, the deepest indentation seen, and what follows. -/
def leadingBreaks (deepest : Nat) : Nat → Source → Text × Nat × Source
  | 0, s => ([], deepest, s)
  | fuel + 1, s =>
    if s.head == ' ' then
      let s := s.forward 1
      leadingBreaks (max deepest s.column) fuel s
    else match s.lineBreak? with
      | some (c, next) =>
        let (more, deepest, last) := leadingBreaks deepest fuel next
        (c :: more, deepest, last)
      | none => ([], deepest, s)

def skipIndent (indent : Nat) (s : Source) : Source :=
  s.forward (min (s.takeWhile (· == ' ')).length (indent - s.column))

def blockBreaks (indent : Nat) (s : Source) : Text × Source :=
  breaksWhile (skipIndent indent) (s.rest.length + 1) s

/-- The lines of a block scalar. `breaks` are the empty lines before the current one. -/
def blockLines (isFolded : Bool) (indent : Nat) (chomping : Chomping) (breaks : Text)
    (lastBreak : Text) : Nat → Source → Text × Source
  | 0, s => ([], s)
  | fuel + 1, s =>
    if s.column = indent && s.head != endMark then
      let line := s.takeWhile fun c => !isBreakOrEnd c
      let startsText := !(s.head == ' ' || s.head == '\t')
      let s := s.forward line.length
      let (lineBreak, s) := match s.lineBreak? with
        | some (c, next) => ([c], next)
        | none => ([], s)
      let (nextBreaks, s) := blockBreaks indent s
      let goesOn := s.column = indent && s.head != endMark
      let joint :=
        if !goesOn then []
        else if isFolded && lineBreak == ['\n'] && startsText &&
            !(s.head == ' ' || s.head == '\t') then
          if nextBreaks.isEmpty then [' '] else []
        else lineBreak
      let (more, last) :=
        if goesOn then blockLines isFolded indent chomping nextBreaks lineBreak fuel s
        else (tail lineBreak nextBreaks, s)
      (breaks ++ line ++ joint ++ more, last)
    else (tail lastBreak breaks, s)
where
  tail (lineBreak breaks : Text) : Text :=
    match chomping with
    | .strip => []
    | .clip => lineBreak
    | .keep => lineBreak ++ breaks

def blockScalar (parent : Int) (s : Source) : Outcome (Text × Source) := do
  let isFolded := s.head == '>'
  let (chomping, increment, s) ← blockHeader (s.forward 1)
  let least := (max (parent + 1) 1).toNat
  let (breaks, indent, s) := match increment with
    | some n =>
      let indent := least + n - 1
      let (breaks, s) := blockBreaks indent s
      (breaks, indent, s)
    | none =>
      let (breaks, deepest, s) := leadingBreaks 0 (s.rest.length + 1) s
      (breaks, max least deepest, s)
  return blockLines isFolded indent chomping breaks [] (s.rest.length + 1) s

end AssetAudit.Yaml
