import AssetAudit.Decimal.Read
import AssetAudit.Settings.Basic
import AssetAudit.Settings.Error
import AssetAudit.Unicode.Case

/-!
# Settings from the environment

Variables of the environment win over all other layers. Their texts are read as the setting needs
it: as they are, as a list, as a truth value or as a number.
-/
namespace AssetAudit.Settings

abbrev Environment := List (Text × Text)

def Environment.get? (env : Environment) (name : String) : Option Text :=
  (env.find? fun e => e.1 == name.toList).map (·.2)

def parseBool (t : Text) : Bool :=
  ["true", "1", "yes", "on"].any fun w => w.toList == Unicode.lower t

/-- The items between commas, trimmed; empty ones are left out. -/
def parseList (t : Text) : List Text :=
  ((Text.splitOn ',' t).map Text.trim).filter (!·.isEmpty)

def parseFloat (t : Text) : Except Error Value :=
  match Decimal.readFloat? t with
  | some bits => .ok (.float bits)
  | none => .error (.notANumber t)

def asText (t : Text) : Except Error Value := .ok (.text t)

def asBool (t : Text) : Except Error Value := .ok (.bool (parseBool t))

def asList (t : Text) : Except Error Value := .ok (textList (parseList t))

structure Variable where
  name : String
  read : Text → Except Error Value
  set : Settings → Value → Settings

def knownVariables : List Variable := [
  ⟨"SWEEP_ROOT_DIR", asText, fun s v => { s with rootDir := v }⟩,
  ⟨"SWEEP_APPS_DIR", asText, fun s v => { s with appsDir := v }⟩,
  ⟨"SWEEP_ASSETS_DIR", asText, fun s v => { s with assetsDir := v }⟩,
  ⟨"SWEEP_SRC_DIR", asText, fun s v => { s with srcDir := v }⟩,
  ⟨"SWEEP_SCAN_DIR", asText, fun s v => { s with scanDir := v }⟩,
  ⟨"SWEEP_ASSET_EXTENSIONS", asList, fun s v => { s with assetExtensions := v }⟩,
  ⟨"SWEEP_SOURCE_EXTENSIONS", asList, fun s v => { s with sourceExtensions := v }⟩,
  ⟨"SWEEP_EXCLUDE_DIRS", asList, fun s v => { s with excludeDirs := v }⟩,
  ⟨"SWEEP_KNIP_ENABLED", asBool, fun s v => { s with knip := { s.knip with enabled := v } }⟩,
  ⟨"SWEEP_KNIP_CWD", asText, fun s v => { s with knip := { s.knip with cwd := v } }⟩,
  ⟨"SWEEP_KNIP_TIMEOUT", parseFloat, fun s v => { s with knip := { s.knip with timeout := v } }⟩,
  ⟨"SWEEP_REPORT_JSON_OUTPUT", asText,
    fun s v => { s with report := { s.report with jsonOutput := v } }⟩,
  ⟨"SWEEP_REPORT_SAVE_REPORT", asBool,
    fun s v => { s with report := { s.report with saveReport := v } }⟩,
  ⟨"SWEEP_LOGGING_LEVEL", asText, fun s v => { s with logging := { s.logging with level := v } }⟩]

def applyVariable (env : Environment) (s : Settings) (v : Variable) : Except Error Settings :=
  match env.get? v.name with
  | some t => (v.read t).map (v.set s)
  | none => .ok s

def applyEnvironment (env : Environment) (s : Settings) : Except Error Settings :=
  knownVariables.foldlM (applyVariable env) s

end AssetAudit.Settings
