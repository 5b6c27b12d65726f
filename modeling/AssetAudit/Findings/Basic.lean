import AssetAudit.Json.Read
import AssetAudit.Path.Lexical
import AssetAudit.Value.Show

/-!
# Findings of an analyzer

An analyzer names unused files, packages, exports and types. An item is a text or a record. The report
is a JSON object behind lines of other output. Of the path-like categories only what lies under a
`src` directory is kept.
-/
namespace AssetAudit

structure Findings where
  files : List Value := []
  dependencies : List Value := []
  devDependencies : List Value := []
  exports : List Value := []
  types : List Value := []
  error : Option Text := none

namespace Findings

def failed (error : Text) : Findings :=
  { error := some error }

/-- An empty error is none. -/
def failure? (f : Findings) : Option Text :=
  f.error.filter (!·.isEmpty)

def total (f : Findings) : Nat :=
  f.files.length + f.dependencies.length + f.devDependencies.length + f.exports.length +
    f.types.length

def categories (f : Findings) : List (Text × List Value) :=
  [("files".toList, f.files), ("dependencies".toList, f.dependencies),
    ("devDependencies".toList, f.devDependencies), ("exports".toList, f.exports),
    ("types".toList, f.types)]

/-- What a record tells under a name, unless it is empty. -/
def given? (item : Value) (name : String) : Option Value :=
  (item.field? name.toList).filter Value.isTruthy

def label (item : Value) : Text :=
  match (given? item "file").or (given? item "name") with
  | some v => v.plain
  | none => item.plain

def path? (item : Value) : Option Text :=
  match item with
  | .text s => some s
  | _ => (given? item "file").map Value.plain

end Findings

end AssetAudit

namespace AssetAudit.Findings

def inSources (path : Text) : Bool :=
  let p := Path.toPosix path
  p.startsWith "src/".toList || Text.occursIn "/src/".toList p

/-- Items with a path stay if it lies in the sources; items without one stay. -/
def keepsSource (item : Value) : Bool :=
  match path? item with
  | some p => inSources p
  | none => true

def sourceItems (items : Value) : List Value :=
  match items with
  | .list items => items.filter keepsSource
  | _ => []

def startsDocument (line : Text) : Bool :=
  match line.trim with
  | c :: _ => c == '\x7b' || c == '['
  | [] => false

/-- The lines from the first that looks like JSON. -/
def documentLines (output : Text) : List Text :=
  output.lines.dropWhile fun line => !startsDocument line

def document? (output : Text) : Option Value :=
  match documentLines output with
  | [] => none
  | lines => (Json.read (Text.join ['\n'] lines).trim).toOption

inductive ReadError where
  | notIterable
  deriving DecidableEq, Repr

/-- A category of a report; nothing stands for an empty list. -/
def category (report : Entries Value) (name : String) : Value :=
  match (report.getText? name.toList).filter Value.isTruthy with
  | some v => v
  | none => .list []

def packages (report : Entries Value) (name : String) : Except ReadError (List Value) :=
  match (category report name).items? with
  | some items => .ok items
  | none => .error .notIterable

def ofReport (report : Entries Value) : Except ReadError Findings := do
  let dependencies ← packages report "dependencies"
  let devDependencies ← packages report "devDependencies"
  return {
    files := sourceItems (category report "files")
    dependencies, devDependencies
    exports := sourceItems (category report "exports")
    types := sourceItems (category report "types") }

/-- The findings in an output, or none if it holds no JSON object. -/
def read? (output : Text) : Except ReadError (Option Findings) :=
  match document? output with
  | some (.map report) => (ofReport report).map some
  | _ => .ok none

end AssetAudit.Findings
