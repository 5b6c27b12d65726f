import AssetAudit.Path.Lexical
import AssetAudit.Regex.Compile
import AssetAudit.Regex.Escape
import AssetAudit.Value.Show
import AssetAudit.Whitelist.Gate

/-!
# Whitelist patterns

A pattern is an expression (`regex:…` or `/…/flags`), a glob, or the literal path or name of a
file. Which one it is shows in its text. A glob is written as an expression: `**` reads anything, `*`
and `?` stay inside one directory, and a `/**` at the end also stands for the directory itself.
-/
namespace AssetAudit.Whitelist

inductive GlobPart where
  | anything
  | withinDirectory
  | oneCharacter
  | slash
  | directoryAndBelow
  | literal (c : Char)
  deriving DecidableEq, Repr

namespace GlobPart

def expression : GlobPart → Text
  | .anything => ".*".toList
  | .withinDirectory => "[^/]*".toList
  | .oneCharacter => "[^/]".toList
  | .slash => "/".toList
  | .directoryAndBelow => "(?:/.*)?".toList
  | .literal c => Regex.escapeChar c

end GlobPart

def globParts : Text → List GlobPart
  | ['/', '*', '*'] => [.directoryAndBelow]
  | '*' :: '*' :: rest => .anything :: globParts rest
  | '*' :: rest => .withinDirectory :: globParts rest
  | '?' :: rest => .oneCharacter :: globParts rest
  | '/' :: rest => .slash :: globParts rest
  | c :: rest => .literal c :: globParts rest
  | [] => []

def globExpression (glob : Text) : Text :=
  (globParts glob).flatMap GlobPart.expression

inductive Pattern where
  | path (p : Text)
  | name (n : Text)
  | expression (source : Text) (program : Regex.Program)

inductive PatternError where
  | empty
  | gate (e : GateError)
  | malformed (body : Text) (e : Regex.CompileError)
  /-- Limits of the expression language, which are no fault of the pattern. -/
  | limit (e : Regex.CompileError)
  deriving DecidableEq, Repr

namespace PatternError

def isRejection : PatternError → Bool
  | .gate _ | .malformed _ _ => true
  | .empty | .limit _ => false

def message : PatternError → Text
  | .empty => "Empty whitelist pattern".toList
  | .gate e => e.message
  | .malformed body e => "Invalid regular expression: ".toList ++ e.message body
  | .limit e => e.message []

end PatternError

def expressionMark : Text :=
  "regex:".toList

def isFlagLetter (c : Char) : Bool :=
  "dgimsuvy".toList.contains c

/-- Body and flags of a pattern between slashes. One line feed may follow the flags. -/
def splitLiteral? (pattern : Text) : Option (Text × Text) :=
  match pattern with
  | '/' :: rest =>
    let backwards := match rest.reverse with
      | '\n' :: r => r
      | r => r
    match backwards.dropWhile isFlagLetter with
    | '/' :: body => some (body.reverse, (backwards.takeWhile isFlagLetter).reverse)
    | _ => none
  | _ => none

def isExpression (pattern : Text) : Bool :=
  pattern.startsWith expressionMark || (splitLiteral? pattern).isSome

/-- Trim a pattern. Globs and literals get forward slashes; expressions keep their escapes. -/
def normalizeText (raw : Text) : Text :=
  let pattern := raw.trim
  if isExpression pattern then pattern else Path.toPosix pattern

def normalize (raw : Value) : Text :=
  normalizeText raw.plain

def isCommentText (raw : Text) : Bool :=
  raw.trim.startsWith ['/', '/']

def isComment : Value → Bool
  | .text s => isCommentText s
  | _ => false

def flagOf : Char → Regex.Flags
  | 'i' => { ignoreCase := true }
  | 'm' => { multiline := true }
  | 's' => { dotAll := true }
  | _ => {}

def flagsOf (letters : Text) : Regex.Flags :=
  letters.foldl (fun flags c => flags.union (flagOf c)) {}

def compileExpression (source body : Text) (flags : Regex.Flags) : Except PatternError Pattern :=
  match gate body with
  | .error e => .error (.gate e)
  | .ok () =>
    match Regex.compile body flags with
    | .ok program => .ok (.expression source program)
    | .error e => if e.isFault then .error (.malformed body e) else .error (.limit e)

def isGlob (pattern : Text) : Bool :=
  pattern.contains '*' || pattern.contains '?' || pattern.endsWith ['/']

/-- A glob with `**` added behind a slash at its end. -/
def wholeGlob (pattern : Text) : Text :=
  if pattern.endsWith ['/'] then pattern ++ ['*', '*'] else pattern

def compileGlob (pattern : Text) : Except PatternError Pattern :=
  match Regex.compile ('^' :: globExpression (wholeGlob pattern) ++ ['$']) {} with
  | .ok program => .ok (.expression pattern program)
  | .error e => .error (.limit e)

def classify (pattern : Text) : Except PatternError Pattern :=
  if pattern.isEmpty then .error .empty
  else if pattern.startsWith expressionMark then
    compileExpression pattern (pattern.drop expressionMark.length) {}
  else match splitLiteral? pattern with
    | some (body, letters) => compileExpression pattern body (flagsOf letters)
    | none =>
      if isGlob pattern then compileGlob pattern
      else if pattern.contains '/' then .ok (.path pattern)
      else .ok (.name pattern)

end AssetAudit.Whitelist
