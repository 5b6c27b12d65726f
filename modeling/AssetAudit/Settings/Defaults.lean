import AssetAudit.Settings.Basic
import AssetAudit.Settings.Error

/-!
# Default settings

The values of settings that are not given. They are read from a mapping of sections; what even
that lacks has a last value here.
-/
namespace AssetAudit.Settings

def strings (ts : List String) : Value :=
  .list (ts.map fun t => .text t.toList)

def word (t : String) : Value :=
  .text t.toList

def oneMinute : Value :=
  .float 0x404e000000000000

def standard : Value :=
  Value.record [
    ("project", Value.record [
      ("apps_dir", word "apps"),
      ("assets_dir", word "src/assets"),
      ("src_dir", word "src"),
      ("scan_dir", .null),
      ("asset_extensions", strings [".jpg", ".jpeg", ".png", ".gif", ".svg", ".webp", ".ico", ".bmp",
        ".mp4", ".webm", ".mov", ".avi", ".mp3", ".wav", ".ogg", ".pdf", ".doc", ".docx", ".json",
        ".xml", ".csv"]),
      ("source_extensions", strings [".js", ".jsx", ".ts", ".tsx"]),
      ("exclude_dirs", strings ["node_modules", ".git", "dist", "build", "coverage"])]),
    ("knip", Value.record [
      ("enabled", .bool false),
      ("cwd", .null),
      ("timeout", oneMinute),
      ("commands", strings ["pnpm dlx knip --reporter json --no-exit-code",
        "npx knip --reporter json --no-exit-code", "pnpm dlx knip --reporter json",
        "npx knip --reporter json"])]),
    ("report", Value.record [
      ("json_output", word "unused-assets-report.json"),
      ("save_report", .bool true)]),
    ("logging", Value.record [
      ("level", word "INFO"),
      ("format", word "%(message)s")])]

def defaultOf (sections : Value) (name field : String) (last : Value) : Except Error Value :=
  match sections with
  | .map entries =>
    match (Entries.getText? entries name.toList).getD (Value.map []) with
    | .map fields => .ok ((Entries.getText? fields field.toList).getD last)
    | _ => .error .noMapping
  | _ => .error .noMapping

def defaultAnalyzer (sections : Value) : Except Error AnalyzerSettings := do
  return {
    enabled := ← defaultOf sections "knip" "enabled" (.bool false)
    cwd := ← defaultOf sections "knip" "cwd" .null
    timeout := ← defaultOf sections "knip" "timeout" oneMinute
    commands := ← defaultOf sections "knip" "commands"
      (strings ["npx knip --reporter json --no-exit-code"]) }

def defaultReport (sections : Value) : Except Error ReportSettings := do
  return {
    jsonOutput := ← defaultOf sections "report" "json_output" (word "unused-assets-report.json")
    saveReport := ← defaultOf sections "report" "save_report" (.bool true) }

def defaultLogging (sections : Value) : Except Error LoggingSettings := do
  return {
    level := ← defaultOf sections "logging" "level" (word "INFO")
    format := ← defaultOf sections "logging" "format" (word "%(message)s") }

def defaults (sections : Value) : Except Error Settings := do
  return {
    rootDir := .null
    appsDir := ← defaultOf sections "project" "apps_dir" (word "apps")
    assetsDir := ← defaultOf sections "project" "assets_dir" (word "src/assets")
    srcDir := ← defaultOf sections "project" "src_dir" (word "src")
    scanDir := ← defaultOf sections "project" "scan_dir" .null
    assetExtensions := ← defaultOf sections "project" "asset_extensions" (strings [".png", ".svg"])
    sourceExtensions := ← defaultOf sections "project" "source_extensions"
      (strings [".js", ".jsx", ".ts", ".tsx"])
    excludeDirs := ← defaultOf sections "project" "exclude_dirs"
      (strings ["node_modules", ".git", "dist", "build", "coverage"])
    whitelist := {}
    knip := ← defaultAnalyzer sections
    report := ← defaultReport sections
    logging := ← defaultLogging sections }

end AssetAudit.Settings
