import AssetAudit.Notice
import AssetAudit.Settings.Defaults
import AssetAudit.Unicode.Case
import AssetAudit.Value.Show

/-!
# Settings from a mapping

The entries of a mapping replace the defaults. A name may be written in snake case or in camel case;
the first is the one that is meant. Entries that no setting has are named in a notice; sections that
are no mappings count as not given.
-/
namespace AssetAudit.Settings

def isLowOrDigit (c : Char) : Bool :=
  c.isLower || c.isDigit

/-- Put a low line before each capital that follows a small letter or a digit. -/
def separated (last : Option Char) : Text → Text
  | [] => []
  | c :: rest =>
    if c.isUpper && last.any isLowOrDigit then '_' :: c :: separated (some c) rest
    else c :: separated (some c) rest

def snakeCase (key : Text) : Text :=
  Unicode.lower (separated none key)

/-- A mapping under the meant names; of two spellings of one name the later value counts. -/
def snakeKeys (entries : Entries Value) : Entries Value :=
  Entries.ofList (entries.map fun e => (.text (snakeCase e.1.plain), e.2))

abbrev Given := Entries Value

def Given.getD (given : Given) (name : String) (usual : Value) : Value :=
  (Entries.getText? given name.toList).getD usual

def projectNames : List String :=
  ["root_dir", "apps_dir", "assets_dir", "src_dir", "scan_dir", "asset_extensions",
    "source_extensions", "exclude_dirs"]

def sectionNames : List String :=
  ["whitelist", "knip", "report", "logging"]

def analyzerNames : List String :=
  ["enabled", "cwd", "timeout", "commands"]

def reportNames : List String :=
  ["json_output", "save_report"]

def loggingNames : List String :=
  ["level", "format"]

def Given.names (given : Given) : List Text :=
  given.map fun e => e.1.plain

def Given.noteUnknown (given : Given) (part : String) (known : List String) : Noted Unit :=
  let unknown := given.names.filter fun name => !known.any fun k => k.toList == name
  ⟨(), (Text.sort unknown).map fun name => .unknownKey part.toList name⟩

/-- The texts that a value stands for when it is gone through; nulls are left out. -/
def textsOf (v : Value) : Except Error (List Text) :=
  match v.items? with
  | some items => .ok ((items.filter fun item => !item.isNull).map Value.plain)
  | none => .error .notIterable

def orElse (v? : Option Value) (usual : Value) : Value :=
  (v?.filter Value.isTruthy).getD usual

def setProduct (app : Text) (patterns : List Text) :
    List (Text × List Text) → List (Text × List Text)
  | [] => [(app, patterns)]
  | (a, ps) :: rest =>
    if a = app then (a, patterns) :: rest else (a, ps) :: setProduct app patterns rest

def productsOf (got : List (Text × List Text)) :
    Entries Value → Except Error (List (Text × List Text))
  | [] => .ok got
  | (app, patterns) :: rest => do
    let patterns ← textsOf (orElse (some patterns) (.list []))
    productsOf (setProduct app.plain patterns got) rest

/-- A list holds patterns for all apps; a mapping may hold patterns and, by app, more of them. -/
def whitelistOf (v : Value) : Attempt Error WhitelistSettings :=
  match v with
  | .list _ => do
    let patterns ← Attempt.ofExcept (textsOf v)
    return { patterns }
  | .map entries => do
    let patterns ← Attempt.ofExcept
      (textsOf (orElse (Entries.getText? entries "patterns".toList) (.list [])))
    match orElse (Entries.getText? entries "products".toList) (.map []) with
    | .map products => return { patterns, products := ← Attempt.ofExcept (productsOf [] products) }
    | _ => throw .noMapping
  | _ => do
    Attempt.note (.whitelistKind v.kindName)
    return {}

def Given.section? (given : Given) (name : String) : Option Given :=
  match Entries.getText? given name.toList with
  | some (.map entries) => some (snakeKeys entries)
  | _ => none

def overrideAnalyzer (usual : AnalyzerSettings) (given : Given) : AnalyzerSettings where
  enabled := given.getD "enabled" usual.enabled
  cwd := given.getD "cwd" usual.cwd
  timeout := given.getD "timeout" usual.timeout
  commands := given.getD "commands" usual.commands

def overrideReport (usual : ReportSettings) (given : Given) : ReportSettings where
  jsonOutput := given.getD "json_output" usual.jsonOutput
  saveReport := given.getD "save_report" usual.saveReport

def overrideLogging (usual : LoggingSettings) (given : Given) : LoggingSettings where
  level := given.getD "level" usual.level
  format := given.getD "format" usual.format

def overrideProject (usual : Settings) (given : Given) : Settings :=
  { usual with
    rootDir := given.getD "root_dir" usual.rootDir
    appsDir := given.getD "apps_dir" usual.appsDir
    assetsDir := given.getD "assets_dir" usual.assetsDir
    srcDir := given.getD "src_dir" usual.srcDir
    scanDir := given.getD "scan_dir" usual.scanDir
    assetExtensions := given.getD "asset_extensions" usual.assetExtensions
    sourceExtensions := given.getD "source_extensions" usual.sourceExtensions
    excludeDirs := given.getD "exclude_dirs" usual.excludeDirs }

def overrideSection {α : Type} (given : Given) (name : String) (known : List String)
    (override : α → Given → α) (usual : α) : Noted α :=
  match given.section? name with
  | some fields => do
    fields.noteUnknown name known
    return override usual fields
  | none => pure usual

/-- The mapping that a value stands for; what is empty stands for an empty one. -/
def entriesOf (data : Value) : Except Error (Entries Value) :=
  if data.isTruthy then
    match data with
    | .map entries => .ok entries
    | _ => .error .noMapping
  else .ok []

def ofGiven (sections : Attempt Error Value) (given : Given) : Attempt Error Settings := do
  Attempt.ofNoted (given.noteUnknown "root" (projectNames ++ sectionNames))
  let usual ← Attempt.ofExcept (defaults (← sections))
  let settings := overrideProject usual given
  let whitelist ← match Entries.getText? given "whitelist".toList with
    | some v => whitelistOf v
    | none => pure {}
  let knip ← Attempt.ofNoted
    (overrideSection given "knip" analyzerNames overrideAnalyzer usual.knip)
  let report ← Attempt.ofNoted
    (overrideSection given "report" reportNames overrideReport usual.report)
  let logging ← Attempt.ofNoted
    (overrideSection given "logging" loggingNames overrideLogging usual.logging)
  return { settings with whitelist, knip, report, logging }

def ofValue (sections : Attempt Error Value) (data : Value) : Attempt Error Settings := do
  let entries ← Attempt.ofExcept (entriesOf data)
  ofGiven sections (snakeKeys entries)

end AssetAudit.Settings
