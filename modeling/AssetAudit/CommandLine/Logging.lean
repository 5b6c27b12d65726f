import AssetAudit.Notice
import AssetAudit.Regex.Compile
import AssetAudit.Settings.Basic
import AssetAudit.Text.Quoted
import AssetAudit.Unicode.Case

/-!
# Which notices are let through

The settings name the least level of the notices that are told and the form of their lines. A form
has to name at least one field of a notice.
-/
namespace AssetAudit.CommandLine

inductive LoggingError where
  /-- The form of a line is no text. -/
  | formKind
  | form (t : Text)
  | levelKind
  /-- The level is given as bytes. -/
  | levelBytes
  | level (t : Text)
  | field (name : Text)
  deriving DecidableEq, Repr

def LoggingError.message : LoggingError → Text
  | .form t => "Invalid format '".toList ++ t ++ "' for '%' style".toList
  | .level t => "Unknown level: ".toList ++ t.quoted
  | .field name => "Formatting field not found in record: ".toList ++ name.quoted
  | .formKind | .levelKind | .levelBytes => []

def gravity : Level → Nat
  | .warning => 30
  | .error => 40

def levelNames : List (String × Nat) :=
  [("CRITICAL", 50), ("FATAL", 50), ("ERROR", 40), ("WARN", 30), ("WARNING", 30), ("INFO", 20),
    ("DEBUG", 10), ("NOTSET", 0)]

/-- A place for a field: its name, how it is aligned, its width, its precision and its kind. -/
def fieldExpression : Text :=
  "%\\(\\w+\\)[#0+ -]*(\\*|\\d+)?(\\.(\\*|\\d+))?[diouxefgcrsa%]".toList

def namesField (form : Text) : Bool :=
  match Regex.compile fieldExpression { ignoreCase := true } with
  | .ok p => p.occursIn form
  | .error _ => false

def fieldNames : List String :=
  ["name", "msg", "args", "levelname", "levelno", "pathname", "filename", "module", "exc_info",
    "exc_text", "stack_info", "lineno", "funcName", "created", "msecs", "relativeCreated",
    "thread", "threadName", "processName", "process", "message"]

def fieldsOf : Text → List Text
  | '%' :: '%' :: rest => fieldsOf rest
  | '%' :: '(' :: rest => rest.takeWhile (· != ')') :: fieldsOf rest
  | _ :: rest => fieldsOf rest
  | [] => []

/-- The time of a notice is a field of it if the form asks for it. -/
def isField (name : Text) : Bool :=
  name == "asctime".toList || fieldNames.any fun n => n.toList == name

structure Logging where
  /-- How grave a notice has to be. -/
  least : Nat
  /-- The first field of the form that no notice has. -/
  missing : Option Text := none
  deriving DecidableEq, Repr

namespace Logging

def usualForm : Text := "%(message)s".toList

/-- The form of a line; an empty one is the usual one. -/
def formOf (s : LoggingSettings) : Except LoggingError Text :=
  if !s.format.isTruthy then .ok usualForm
  else match s.format with
    | .text t => if namesField t then .ok t else .error (.form t)
    | _ => .error .formKind

/-- How grave a notice has to be; only errors are told beside a document. -/
def leastOf (s : LoggingSettings) (quiet : Bool) : Except LoggingError Nat :=
  if quiet then .ok (gravity .error)
  else match s.level with
    | .text t =>
      let name := Unicode.upper t
      match levelNames.find? (·.1.toList == name) with
      | some (_, least) => .ok least
      | none => .error (.level name)
    | .scalar (.bytes _) => .error .levelBytes
    | _ => .error .levelKind

def ofSettings (s : LoggingSettings) (quiet : Bool) : Except LoggingError Logging := do
  let form ← formOf s
  let least ← leastOf s quiet
  return { least, missing := (fieldsOf form).find? (!isField ·) }

def lets (l : Logging) (n : Notice) : Bool :=
  l.least ≤ gravity n.level

end Logging

end AssetAudit.CommandLine
