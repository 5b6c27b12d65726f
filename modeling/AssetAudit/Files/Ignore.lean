import AssetAudit.Regex.Compile
import AssetAudit.Regex.Escape

/-!
# Ignore patterns

Directories are left out by patterns in the manner of an ignore file: a plain name counts at any
depth, a name with a slash counts from the root, `!` takes back, and of the patterns that fit a
path the last one decides. A pattern is read segment by segment and written as an expression.
-/
namespace AssetAudit.Files

inductive IgnoreError where
  /-- The pattern breaks the rules of ignore patterns. -/
  | invalid (pattern : Text)
  /-- A bracket of the pattern is no set of characters. -/
  | malformed (e : Regex.CompileError)
  deriving DecidableEq, Repr

namespace Ignore

/-- A bracket behind its opening: is it negated, what does it hold, and how long is it? -/
def bracket? (rest : Text) : Option (Bool × Text × Nat) :=
  let (negated, body) := match rest with
    | '!' :: r | '^' :: r => (true, r)
    | r => (false, r)
  let (first, more) := match body with
    | ']' :: r => ([']'], r)
    | r => ([], r)
  let inside := more.takeWhile (· != ']')
  if inside.length < more.length then
    some (negated, first ++ inside, (if negated then 1 else 0) + first.length + inside.length + 1)
  else none

def doubleBackslash (c : Char) : Text :=
  if c == '\\' then ['\\', '\\'] else [c]

/-- The expression for the names that fit a segment; `skip` characters are read already. -/
def segmentFrom (skip : Nat) : Text → Option Text
  | [] => some []
  | c :: rest =>
    match skip with
    | n + 1 => segmentFrom n rest
    | 0 =>
      match c with
      | '\\' =>
        match rest with
        | [] => none
        | d :: _ => (segmentFrom 1 rest).map (Regex.escapeChar d ++ ·)
      | '*' => (segmentFrom 0 rest).map ("[^/]*".toList ++ ·)
      | '?' => (segmentFrom 0 rest).map ("[^/]".toList ++ ·)
      | '[' =>
        match bracket? rest with
        | some (negated, inside, length) =>
          (segmentFrom length rest).map fun more =>
            '[' :: (if negated then ['^'] else []) ++ inside.flatMap doubleBackslash ++ ']' :: more
        | none => (segmentFrom 0 rest).map ("\\[".toList ++ ·)
      | c => (segmentFrom 0 rest).map (Regex.escapeChar c ++ ·)

inductive Segment where
  /-- Any number of directories, written `**`. -/
  | anyDepth
  /-- Any name, written `*`. -/
  | anyName
  | named (expression : Text)
  deriving DecidableEq, Repr

def anyDepthText : Text := ['*', '*']

/-- Of several `**` in a row one is kept. -/
def mergeDepths : List Text → List Text
  | a :: b :: rest =>
    if a = anyDepthText ∧ b = anyDepthText then mergeDepths (b :: rest)
    else a :: mergeDepths (b :: rest)
  | short => short

/-- A name alone counts at any depth; a slash in front ties the pattern to the root. -/
def anchorSegments : List Text → List Text
  | [] :: rest => rest
  | [name] => if name = anyDepthText then [name] else [anyDepthText, name]
  | [name, []] => if name = anyDepthText then [name, []] else [anyDepthText, name, []]
  | segments => segments

/-- A slash at the end stands for everything below. -/
def openEnd (segments : List Text) : List Text :=
  if 1 < segments.length ∧ segments.getLast? = some [] then segments.dropLast ++ [anyDepthText]
  else segments

def segment? (text : Text) : Option Segment :=
  if text = anyDepthText then some .anyDepth
  else if text = ['*'] then some .anyName
  else (segmentFrom 0 text).map .named

def belowExpression : Text := "(?:(?P<ps_d>/).*)?".toList

/-- The expression for the segments behind the first; `slash` tells whether one is due. -/
def laterExpression (directory slash : Bool) : List Segment → Text
  | [] => []
  | [.anyDepth] => if directory then "(?P<ps_d>/).*".toList else "/.*".toList
  | .anyDepth :: rest => "(?:/.+)?".toList ++ laterExpression directory true rest
  | segment :: rest =>
    (if slash then ['/'] else []) ++
      (match segment with
        | .named e => e
        | _ => "[^/]+".toList) ++
      (if rest.isEmpty then belowExpression else []) ++ laterExpression directory true rest

def expression (directory : Bool) : List Segment → Text
  | [.anyDepth] => "[^/]+(?:/.*)?".toList
  | .anyDepth :: rest => "(?:.+/)?".toList ++ laterExpression directory false rest
  | segments => laterExpression directory false segments

structure Rule where
  excludes : Bool
  program : Regex.Program

def bodyExpression? (body : Text) : Option Text :=
  let segments := mergeDepths (Text.splitOn '/' body)
  if segments = [anyDepthText, []] then some "^.+(?P<ps_d>/).*$".toList
  else
    let directory := (Text.splitOn '/' body).getLast? = some []
    match openEnd (anchorSegments segments) with
    | [] => none
    | segments => ((segments.mapM segment?).map (expression directory)).map fun e => '^' :: e ++ ['$']

/-- A pattern; comments and blank patterns rule nothing. -/
def Rule.read (line : Text) : Except IgnoreError (Option Rule) :=
  let pattern := if line.endsWith ['\\', ' '] then Text.trimLeftBy Text.isBlank line else line.trim
  match pattern with
  | [] | '#' :: _ | ['/'] => .ok none
  | c :: rest =>
    let body := if c = '!' then rest else pattern
    match bodyExpression? body with
    | none => .error (.invalid line)
    | some e =>
      match Regex.compile e {} with
      | .ok program => .ok (some { excludes := c ≠ '!', program })
      | .error e => .error (.malformed e)

def readAll (lines : List Text) : Except IgnoreError (List Rule) :=
  (lines.mapM Rule.read).map fun rules => rules.filterMap id

def fromRoot : Text → Text
  | '/' :: rest => rest
  | '.' :: '/' :: rest => rest
  | p => p

/-- Does the last rule that fits the path exclude it? -/
def excludesPath (rules : List Rule) (path : Text) : Bool :=
  rules.foldl
    (fun excluded rule =>
      if rule.program.occursIn (fromRoot path) then rule.excludes else excluded) false

end Ignore

end AssetAudit.Files
