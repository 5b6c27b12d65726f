import AssetAudit.Regex.Escape
import AssetAudit.Unicode.Identifiers
import AssetAudit.Unicode.Words

/-!
# From text to expression

A recursive reader. Its fuel is computed from the length of the text: every call either reads a
token or is followed by one that does.
-/
namespace AssetAudit.Regex

/-- Blanks that verbose expressions may contain anywhere between tokens. -/
def isLayout (c : Char) : Bool :=
  " \t\n\r\x0b\x0c".toList.contains c

def flagOf? : Char → Option Flags
  | 'i' => some { ignoreCase := true }
  | 'L' => some {}
  | 'm' => some { multiline := true }
  | 's' => some { dotAll := true }
  | 'x' => some { verbose := true }
  | 'a' => some { ascii := true }
  | 't' => some { template := true }
  | 'u' => some { unicode := true }
  | _ => none

def flagToken? : Token → Option (Char × Flags)
  | .plain c => (flagOf? c).map (c, ·)
  | .escaped _ => none

def notAFlag (t : Token) (missing : Text) : Fault :=
  match t with
  | .plain c => if Unicode.isLetter c.toNat then .unknownFlag else .missing missing
  | .escaped _ => .missing missing

def flagsOn (c : Char) (flag on : Flags) : Nat → Reading → Outcome ((Flags × Char) × Reading)
  | 0, r => .ok ((on, ')'), r)
  | fuel + 1, r =>
    let on := on.union flag
    if c = 'L' then r.fault .localeFlag 0
    else if flag.choosesAlphabet && on.ascii && on.unicode then r.fault .clashingFlags 0
    else do
      let (token, r) ← r.take
      match token with
      | none => r.fault (.missing "-, : or )".toList) 0
      | some t =>
        if t = .plain ')' then return ((on, ')'), r)
        else if t = .plain '-' then return ((on, '-'), r)
        else if t = .plain ':' then return ((on, ':'), r)
        else match flagToken? t with
          | some (c, flag) => flagsOn c flag on fuel r
          | none => r.fault (notAFlag t "-, : or )".toList) t.text.length

def flagsOff (c : Char) (flag off : Flags) : Nat → Reading → Outcome (Flags × Reading)
  | 0, r => .ok (off, r)
  | fuel + 1, r =>
    if c = 'L' || flag.choosesAlphabet then r.fault .alphabetFlagOff 0
    else do
      let off := off.union flag
      let (token, r) ← r.take
      match token with
      | none => r.fault (.missing [':']) 0
      | some t =>
        if t = .plain ':' then return (off, r)
        else match flagToken? t with
          | some (c, flag) => flagsOff c flag off fuel r
          | none => r.fault (notAFlag t [':']) t.text.length

/-- Flags behind an opening parenthesis and question mark. Without a result they hold for the
whole expression, and the reading has learned them. -/
def inlineFlags (first : Char) (r : Reading) : Outcome (Option (Flags × Flags) × Reading) := do
  let fuel := r.rest.length + 1
  let ((on, stop), r) ←
    match flagOf? first with
    | some flag => flagsOn first flag {} fuel r
    | none => .ok (({}, '-'), r)
  if stop = ')' then return (none, { r with flags := r.flags.union on })
  else if on.template then r.fault .globalFlagOn 1
  else
    let (off, r) ←
      if stop = '-' then do
        let (token, r) ← r.take
        match token with
        | none => r.fault (.missing "flag".toList) 0
        | some t =>
          match flagToken? t with
          | some (c, flag) => flagsOff c flag {} fuel r
          | none => r.fault (notAFlag t "flag".toList) t.text.length
      else .ok ({}, r)
    if off.template then r.fault .globalFlagOff 1
    else if on.inter off ≠ {} then r.fault .flagOnAndOff 1
    else return (some (on, off), r)

def setToken (t : Token) (r : Reading) : Outcome (SetItem × Reading) :=
  match t with
  | .escaped c => setEscape c r
  | .plain c => .ok (.code c.toNat, r)

def setItems (start : Nat) : Nat → List SetItem → Reading → Outcome (List SetItem × Reading)
  | 0, items, r => .ok (items, r)
  | fuel + 1, items, r => do
    let (token, r) ← r.take
    match token with
    | none => r.fault .unterminatedSet (r.position - start)
    | some low =>
      if low = .plain ']' && !items.isEmpty then return (items, r)
      else
        let (item, r) ← setToken low r
        let (dash, r) ← r.takeIf '-'
        if !dash then setItems start fuel (items ++ [item]) r
        else
          let (token, r) ← r.take
          match token with
          | none => r.fault .unterminatedSet (r.position - start)
          | some high =>
            if high = .plain ']' then return (items ++ [item, .code 45], r)
            else
              let (last, r) ← setToken high r
              let bad := r.fault (.badRange low.text high.text)
                (low.text.length + 1 + high.text.length)
              match item, last with
              | .code lo, .code hi =>
                if hi < lo then bad else setItems start fuel (items ++ [.range lo hi]) r
              | _, _ => bad

def charSet (r : Reading) : Outcome (Expr × Reading) := do
  let start := r.position - 1
  let (negated, r) ← r.takeIf '^'
  let (items, r) ← setItems start (r.rest.length + 1) [] r
  return (.set negated items, r)

/-- The bounds of a repetition; none if the brace opens no repetition. -/
def braces (r : Reading) : Outcome (Option (Nat × Option Nat) × Reading) := do
  let here := r
  if r.next? = some (.plain '\x7d') then return (none, here)
  else
    let (low, r) ← r.takeWhile isDecimal r.rest.length
    let (comma, r) ← r.takeIf ','
    let (high, r) ← if comma then r.takeWhile isDecimal r.rest.length else .ok (low, r)
    let (closed, r) ← r.takeIf '\x7d'
    if !closed then return (none, here)
    else
      let least := readBase 10 low
      let most := if high.isEmpty then none else some (readBase 10 high)
      if !low.isEmpty && 4294967295 ≤ least then .error .repeatTooLarge
      else match most with
        | none => return (some (least, none), r)
        | some m =>
          if 4294967295 ≤ m then .error .repeatTooLarge
          else if m < least then r.fault .repeatOrder (r.position - here.position)
          else return (some (least, some m), r)

def quantifier (c : Char) (r : Reading) : Outcome (Option (Nat × Option Nat) × Reading) :=
  if c = '?' then .ok (some (0, some 1), r)
  else if c = '*' then .ok (some (0, none), r)
  else if c = '+' then .ok (some (1, none), r)
  else braces r

def repeatLast (here : Reading) (bounds : Nat × Option Nat) (items : List Expr) (r : Reading) :
    Outcome (List Expr × Reading) :=
  let back := r.position - here.position + 1
  match items with
  | [] | .anchor _ :: _ => r.fault .nothingToRepeat back
  | .many _ _ _ _ :: _ => r.fault .multipleRepeat back
  | item :: before => do
    let (reluctant, r) ← r.takeIf '?'
    let (possessive, r) ← if reluctant then .ok (false, r) else r.takeIf '+'
    let greed := if reluctant then Greed.reluctant else if possessive then .possessive else .greedy
    return (.many greed bounds.1 bounds.2 item :: before, r)

def skipLine : Nat → Reading → Outcome Reading
  | 0, r => .ok r
  | fuel + 1, r => do
    let (token, r) ← r.take
    if token = none || token = some (.plain '\n') then return r else skipLine fuel r

def skipComment (start : Nat) : Nat → Reading → Outcome Reading
  | 0, r => .ok r
  | fuel + 1, r => do
    let (token, r) ← r.take
    match token with
    | none => r.fault .unterminatedComment (r.position - start)
    | some t => if t = .plain ')' then return r else skipComment start fuel r

/-- A number as people write it: blanks around it, a sign, digits of any script with single low
lines between them. -/
def readInteger? (s : Text) : Option Int :=
  let s := s.trim
  let (negative, digits) := match s with
    | '-' :: rest => (true, rest)
    | '+' :: rest => (false, rest)
    | _ => (false, s)
  (natural? none digits).map fun n => if negative then -Int.ofNat n else Int.ofNat n
where
  natural? (soFar : Option Nat) : Text → Option Nat
    | [] => soFar
    | '_' :: c :: rest =>
      match soFar, Unicode.digitValue? c.toNat with
      | some n, some d => natural? (some (n * 10 + d)) rest
      | _, _ => none
    | c :: rest =>
      match Unicode.digitValue? c.toNat with
      | some d => natural? (some (soFar.getD 0 * 10 + d)) rest
      | none => none

def checkGroupName (name : Text) (r : Reading) : Outcome Unit :=
  if Unicode.isIdentifier name then .ok () else r.fault (.badGroupName name) (name.length + 1)

def namedGroup? (r : Reading) (name : Text) : Option Nat :=
  (r.names.find? (·.1 == name)).map (·.2)

def conditionGroup (r : Reading) : Outcome (Nat × Reading) := do
  let (name, r) ← r.name ')' "group name".toList
  let back := name.length + 1
  if Unicode.isIdentifier name then
    match namedGroup? r name with
    | some n => return (n, r)
    | none => r.fault (.unknownGroupName name) back
  else
    match readInteger? name with
    | some (.ofNat 0) => r.fault .badGroupNumber back
    | some (.ofNat n) =>
      if 1073741823 ≤ n then r.fault (.invalidGroup n) back
      else if r.conditions.any (·.1 == n) then return (n, r)
      else return (n, { r with conditions := r.conditions ++ [(n, r.position - back)] })
    | _ => r.fault (.badGroupName name) back

def namedReference (r : Reading) : Outcome (Expr × Reading) := do
  let (name, r) ← r.name ')' "group name".toList
  checkGroupName name r
  match namedGroup? r name with
  | none => r.fault (.unknownGroupName name) (name.length + 1)
  | some n =>
    if !r.isClosed n then r.fault .openGroup (name.length + 1)
    else
      r.checkLookbehind n
      return (.backref n, r)

def openGroup (name : Option Text) (r : Reading) : Outcome (Nat × Reading) :=
  let index := r.groupCount + 1
  match name with
  | none => .ok (index, { r with groupCount := index })
  | some n =>
    match namedGroup? r n with
    | some before => r.fault (.redefinedGroup n index before) (n.length + 1)
    | none => .ok (index, { r with groupCount := index, names := r.names ++ [(n, index)] })

def closeGroup (index : Nat) (body : Expr) (r : Reading) : Reading :=
  let widths n := ((r.closed.find? (·.1 == n)).map (·.2)).getD (0, some 0)
  { r with closed := r.closed ++ [(index, body.width widths)] }

def closeParenthesis (start : Nat) (r : Reading) : Outcome Reading := do
  let (closed, r) ← r.takeIf ')'
  if closed then return r else r.fault .unterminatedGroup (r.position - start)

inductive Opening where
  | capture (name : Option Text)
  | plain (on off : Flags)
  | atomic
  | look (behind negated : Bool)
  | condition (group : Nat)
  | done (item : Option Expr)
  | globalFlags

def opening (start : Nat) (r : Reading) : Outcome (Opening × Reading) := do
  let (extended, r) ← r.takeIf '?'
  if !extended then return (.capture none, r)
  else
    let (token, r) ← r.take
    match token with
    | none => r.fault .unexpectedEnd 0
    | some (.escaped c) => r.fault (.unknownExtension ['\\', c]) 3
    | some (.plain 'P') =>
      let (named, r) ← r.takeIf '<'
      if named then
        let (name, r) ← r.name '>' "group name".toList
        checkGroupName name r
        return (.capture (some name), r)
      else
        let (reference, r) ← r.takeIf '='
        if reference then
          let (item, r) ← namedReference r
          return (.done (some item), r)
        else
          let (token, r) ← r.take
          match token with
          | none => r.fault .unexpectedEnd 0
          | some t => r.fault (.unknownExtension ('P' :: t.text)) (t.text.length + 2)
    | some (.plain ':') => return (.plain {} {}, r)
    | some (.plain '#') =>
      let r ← skipComment start (r.rest.length + 1) r
      return (.done none, r)
    | some (.plain '=') => return (.look false false, r)
    | some (.plain '!') => return (.look false true, r)
    | some (.plain '<') =>
      let (token, r) ← r.take
      match token with
      | none => r.fault .unexpectedEnd 0
      | some t =>
        if t = .plain '=' then return (.look true false, r)
        else if t = .plain '!' then return (.look true true, r)
        else r.fault (.unknownExtension ('<' :: t.text)) (t.text.length + 2)
    | some (.plain '(') =>
      let (group, r) ← conditionGroup r
      r.checkLookbehind group
      return (.condition group, r)
    | some (.plain '>') => return (.atomic, r)
    | some (.plain c) =>
      if c = '-' || (flagOf? c).isSome then
        let (flags, r) ← inlineFlags c r
        match flags with
        | none => return (.globalFlags, r)
        | some (on, off) => return (.plain on off, r)
      else r.fault (.unknownExtension [c]) 2

mutual

def alternatives (top verbose : Bool) (before : List Expr) :
    Nat → Reading → Outcome (Expr × Reading)
  | 0, r => .ok (Expr.choice before, r)
  | fuel + 1, r => do
    let (items, r) ← sequenceItems (top && before.isEmpty) verbose [] fuel r
    let read := before ++ [Expr.sequence items.reverse]
    let (more, r) ← r.takeIf '|'
    if more then alternatives top (if top then r.flags.verbose else verbose) read fuel r
    else return (Expr.choice read, r)

/-- The items of one alternative, the last one first. Flags for the whole expression may come
only where `first` holds and no item has been read. -/
def sequenceItems (first verbose : Bool) (items : List Expr) :
    Nat → Reading → Outcome (List Expr × Reading)
  | 0, r => .ok (items, r)
  | fuel + 1, r =>
    match r.next? with
    | none => .ok (items, r)
    | some (.escaped c) => do
      let r ← r.skip
      let (item, r) ← exprEscape c r
      sequenceItems first verbose (item :: items) fuel r
    | some (.plain c) =>
      if c = '|' || c = ')' then .ok (items, r)
      else do
        let r ← r.skip
        if verbose && isLayout c then sequenceItems first verbose items fuel r
        else if verbose && c = '#' then
          let r ← skipLine (r.rest.length + 1) r
          sequenceItems first verbose items fuel r
        else if c = '[' then
          let (item, r) ← charSet r
          sequenceItems first verbose (item :: items) fuel r
        else if c = '*' || c = '+' || c = '?' || c = '\x7b' then
          let here := r
          let (bounds, r) ← quantifier c r
          match bounds with
          | none => sequenceItems first verbose (.code c.toNat :: items) fuel r
          | some bounds =>
            let (items, r) ← repeatLast here bounds items r
            sequenceItems first verbose items fuel r
        else if c = '.' then sequenceItems first verbose (.anyChar :: items) fuel r
        else if c = '^' then sequenceItems first verbose (.anchor .lineStart :: items) fuel r
        else if c = '$' then sequenceItems first verbose (.anchor .lineEnd :: items) fuel r
        else if c = '(' then
          let start := r.position - 1
          let (opened, r) ← opening start r
          match opened with
          | .done none => sequenceItems first verbose items fuel r
          | .done (some item) => sequenceItems first verbose (item :: items) fuel r
          | .globalFlags =>
            if !first || !items.isEmpty then r.fault .flagsNotAtStart (r.position - start)
            else sequenceItems first r.flags.verbose items fuel r
          | .capture name =>
            let (index, r) ← openGroup name r
            let (body, r) ← alternatives false verbose [] fuel r
            let r ← closeParenthesis start r
            sequenceItems first verbose (.group (some index) {} {} body :: items) fuel
              (closeGroup index body r)
          | .plain on off =>
            let inner := (verbose || on.verbose) && !off.verbose
            let (body, r) ← alternatives false inner [] fuel r
            let r ← closeParenthesis start r
            sequenceItems first verbose (.group none on off body :: items) fuel r
          | .atomic =>
            let (body, r) ← alternatives false verbose [] fuel r
            let r ← closeParenthesis start r
            sequenceItems first verbose (.atomic body :: items) fuel r
          | .look behind negated =>
            let outer := r.lookbehindGroups
            let limit := if behind && outer.isNone then some (r.groupCount + 1) else outer
            let (body, r) ← alternatives false verbose [] fuel { r with lookbehindGroups := limit }
            let r := { r with lookbehindGroups := outer }
            let r ← closeParenthesis start r
            sequenceItems first verbose (.look behind negated body :: items) fuel r
          | .condition group =>
            let (yes, r) ← sequenceItems false verbose [] fuel r
            let (other, r) ← r.takeIf '|'
            let (no, r) ← if other then sequenceItems false verbose [] fuel r else .ok ([], r)
            if other && r.next? = some (.plain '|') then r.fault .tooManyBranches 0
            else
              let r ← closeParenthesis start r
              let item :=
                .ifGroup group (Expr.sequence yes.reverse) (Expr.sequence no.reverse)
              sequenceItems first verbose (item :: items) fuel r
        else sequenceItems first verbose (.code c.toNat :: items) fuel r

end

structure Parsed where
  expr : Expr
  flags : Flags
  closed : List (Nat × Nat × Option Nat)

def parse (pattern : Text) (flags : Flags) : Outcome Parsed := do
  let r ← Reading.begin pattern flags
  let (expr, r) ← alternatives true flags.verbose [] (3 * pattern.length + 3) r
  if r.flags.ascii && r.flags.unicode then .error .alphabetClash
  else if r.next?.isSome then r.fault .unbalancedParenthesis 0
  else match r.conditions.find? (r.groupCount < ·.1) with
    | some (group, place) => .error (.malformed (.invalidGroup group) place)
    | none =>
      return {
        expr
        flags := if r.flags.ascii then r.flags else { r.flags with unicode := true }
        closed := r.closed }

end AssetAudit.Regex
