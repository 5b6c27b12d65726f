import AssetAudit.Value.Show

/-!
# Settings of a project

Settings keep the values that were given for them, of whatever kind; who uses a value says what it
has to be. Only the whitelist is brought into a form of its own.
-/
namespace AssetAudit

structure WhitelistSettings where
  patterns : List Text := []
  products : List (Text × List Text) := []
  deriving DecidableEq, Repr

/-- The patterns that hold for an app: those of all apps first. -/
def WhitelistSettings.patternsFor (w : WhitelistSettings) (app : Text) : List Text :=
  w.patterns ++ ((w.products.find? (·.1 == app)).map (·.2)).getD []

structure AnalyzerSettings where
  enabled : Value
  cwd : Value
  timeout : Value
  commands : Value

structure ReportSettings where
  jsonOutput : Value
  saveReport : Value

structure LoggingSettings where
  level : Value
  format : Value

structure Settings where
  rootDir : Value
  appsDir : Value
  assetsDir : Value
  srcDir : Value
  scanDir : Value
  assetExtensions : Value
  sourceExtensions : Value
  excludeDirs : Value
  whitelist : WhitelistSettings
  knip : AnalyzerSettings
  report : ReportSettings
  logging : LoggingSettings

namespace Settings

/-- Where assets are looked for: the sources, unless another directory is given. -/
def effectiveScanDir (s : Settings) : Value :=
  if s.scanDir.isTruthy then s.scanDir else s.srcDir

def textList (ts : List Text) : Value :=
  .list (ts.map .text)

end Settings

def WhitelistSettings.toValue (w : WhitelistSettings) : Value :=
  Value.record [("patterns", Settings.textList w.patterns),
    ("products", .map (w.products.map fun p => (.text p.1, Settings.textList p.2)))]

def AnalyzerSettings.toValue (a : AnalyzerSettings) : Value :=
  Value.record [("enabled", a.enabled), ("cwd", a.cwd), ("timeout", a.timeout),
    ("commands", a.commands)]

def ReportSettings.toValue (r : ReportSettings) : Value :=
  Value.record [("json_output", r.jsonOutput), ("save_report", r.saveReport)]

def LoggingSettings.toValue (l : LoggingSettings) : Value :=
  Value.record [("level", l.level), ("format", l.format)]

def Settings.toValue (s : Settings) : Value :=
  Value.record [("root_dir", s.rootDir), ("apps_dir", s.appsDir), ("assets_dir", s.assetsDir),
    ("src_dir", s.srcDir), ("scan_dir", s.scanDir), ("asset_extensions", s.assetExtensions),
    ("source_extensions", s.sourceExtensions), ("exclude_dirs", s.excludeDirs),
    ("whitelist", s.whitelist.toValue), ("knip", s.knip.toValue), ("report", s.report.toValue),
    ("logging", s.logging.toValue)]

end AssetAudit
