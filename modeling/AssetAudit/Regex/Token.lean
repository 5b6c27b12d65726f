import AssetAudit.Regex.Error

/-!
# Reading an expression

An expression is read token by token: a character, or a backslash with the character behind it. A
backslash at the very end is refused as soon as it comes next.
-/
namespace AssetAudit.Regex

inductive Token where
  | plain (c : Char)
  | escaped (c : Char)
  deriving DecidableEq, Repr

def Token.text : Token → Text
  | .plain c => [c]
  | .escaped c => ['\\', c]

structure Reading where
  rest : Text
  position : Nat
  flags : Flags
  groupCount : Nat := 0
  names : List (Text × Nat) := []
  /-- Groups whose closing parenthesis has been read, with their widths. -/
  closed : List (Nat × Nat × Option Nat) := []
  /-- How many groups there were when the outermost look-behind began. -/
  lookbehindGroups : Option Nat := none
  /-- Groups that a condition names, with the places where it does so first. -/
  conditions : List (Nat × Nat) := []

abbrev Outcome := Except CompileError

namespace Reading

def next? (r : Reading) : Option Token :=
  match r.rest with
  | [] => none
  | '\\' :: c :: _ => some (.escaped c)
  | c :: _ => some (.plain c)

/-- A fault that lies `back` characters before the next token. -/
def fault {α : Type} (r : Reading) (f : Fault) (back : Nat) : Outcome α :=
  .error (.malformed f (r.position - back))

def move (r : Reading) (n : Nat) : Outcome Reading :=
  let rest := r.rest.drop n
  if rest = ['\\'] then .error (.malformed .trailingBackslash (r.position + n))
  else .ok { r with rest, position := r.position + n }

def skip (r : Reading) : Outcome Reading :=
  match r.next? with
  | none => .ok r
  | some t => r.move t.text.length

def take (r : Reading) : Outcome (Option Token × Reading) :=
  r.skip.map (r.next?, ·)

def takeIf (r : Reading) (c : Char) : Outcome (Bool × Reading) :=
  if r.next? = some (.plain c) then r.skip.map (true, ·) else .ok (false, r)

def takeWhile (p : Char → Bool) : Nat → Reading → Outcome (Text × Reading)
  | 0, r => .ok ([], r)
  | n + 1, r =>
    match r.next? with
    | some (.plain c) =>
      if p c then do
        let r ← r.skip
        let (more, r) ← takeWhile p n r
        return (c :: more, r)
      else .ok ([], r)
    | _ => .ok ([], r)

def takeUntil (terminator : Char) (what : Text) : Nat → Text → Reading → Outcome (Text × Reading)
  | 0, got, r => .ok (got, r)
  | fuel + 1, got, r =>
    match r.next? with
    | none =>
      if got.isEmpty then r.fault (.missing what) 0
      else r.fault (.unterminatedName terminator) got.length
    | some t => do
      let r ← r.skip
      if t = .plain terminator then
        if got.isEmpty then r.fault (.missing what) 1 else return (got, r)
      else takeUntil terminator what fuel (got ++ t.text) r

def name (terminator : Char) (what : Text) (r : Reading) : Outcome (Text × Reading) :=
  takeUntil terminator what (r.rest.length + 1) [] r

def isClosed (r : Reading) (group : Nat) : Bool :=
  r.closed.any (·.1 == group)

/-- Inside a look-behind only groups that were closed before it may be looked up. -/
def checkLookbehind (r : Reading) (group : Nat) : Outcome Unit :=
  match r.lookbehindGroups with
  | none => .ok ()
  | some limit =>
    if !r.isClosed group then r.fault .openGroup 0
    else if limit ≤ group then r.fault .sameLookbehind 0
    else .ok ()

def begin (pattern : Text) (flags : Flags) : Outcome Reading :=
  if pattern = ['\\'] then .error (.malformed .trailingBackslash 0)
  else .ok { rest := pattern, position := 0, flags }

end Reading

end AssetAudit.Regex
