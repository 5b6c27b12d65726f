import AssetAudit.FileSize
import AssetAudit.Findings.Basic
import AssetAudit.Json.Write
import AssetAudit.Path.FilePath
import AssetAudit.Settings.Basic

/-!
# Reports

What the analysis of one app gives: the unused assets, the findings of the analyzer and the assets
that the whitelist let pass. The store has the last report of each app.
-/
namespace AssetAudit

structure UnusedAsset where
  /-- The path from the project, or the whole path if the asset lies elsewhere. -/
  shown : Text
  path : FilePath
  size : Int
  sizeText : Text
  deriving DecidableEq, Repr

/-- The path from a directory, or another text if it does not lead there. -/
def FilePath.relativeText (path base : FilePath) (otherwise : Text) : Text :=
  match path.relativeTo? base with
  | some way => way.text
  | none => otherwise

/-- An unused asset of a project; none if its size has no text. -/
def UnusedAsset.of? (root path : FilePath) (size : Int) : Option UnusedAsset :=
  (FileSize.format? size).map fun sizeText =>
    { shown := path.relativeText root path.text, path, size, sizeText }

namespace Status

def success : Text := "success".toList
def failed : Text := "failed".toList
def skipped : Text := "skipped".toList

end Status

structure Report where
  app : Text
  directory : FilePath
  assets : List UnusedAsset := []
  findings : Findings := {}
  status : Text := Status.skipped
  whitelisted : List Text := []
  /-- When the report was made. -/
  time : Text

namespace Report

def count {α : Type} (items : List α) : Value :=
  .int items.length

def assetBytes (r : Report) : Int :=
  (r.assets.map (·.size)).foldl (· + ·) 0

/-- The size of all assets; none if it is too large to have a text. -/
def assetSize? (r : Report) : Option Text :=
  FileSize.format? r.assetBytes

def total (r : Report) : Nat :=
  r.assets.length + r.findings.total

/-- The assets from the largest to the smallest; equal ones keep their order. -/
def bySize (r : Report) : List UnusedAsset :=
  r.assets.mergeSort fun a b => b.size ≤ a.size

def assetPath (r : Report) (a : UnusedAsset) : Text :=
  a.path.relativeText r.directory a.shown

def assetValue (r : Report) (a : UnusedAsset) : Value :=
  Value.record [("path", .text (r.assetPath a)), ("size_bytes", .int a.size),
    ("size_formatted", .text a.sizeText)]

def dependencyCount (r : Report) : Nat :=
  r.findings.dependencies.length + r.findings.devDependencies.length

def exportCount (r : Report) : Nat :=
  r.findings.exports.length + r.findings.types.length

def optionalText : Option Text → Value
  | some t => .text t
  | none => .null

/-- The report as one mapping; none if the size of its assets has no text. -/
def toValue? (r : Report) : Option Value :=
  r.assetSize?.map fun size =>
    Value.record [
      ("timestamp", .text r.time),
      ("unused_assets", Value.record [
        ("count", count r.assets),
        ("total_size_bytes", .int r.assetBytes),
        ("total_size_formatted", .text size),
        ("files", .list (r.assets.map r.assetValue))]),
      ("unused_files", Value.record [
        ("count", count r.findings.files),
        ("files", .list r.findings.files)]),
      ("unused_dependencies", Value.record [
        ("count", .int r.dependencyCount),
        ("dependencies", .list r.findings.dependencies),
        ("devDependencies", .list r.findings.devDependencies)]),
      ("unused_exports", Value.record [
        ("count", .int r.exportCount),
        ("exports", .list r.findings.exports),
        ("types", .list r.findings.types)]),
      ("knip_analysis_status", .text r.status),
      ("knip_error", optionalText r.findings.error)]

end Report

structure Reports where
  entries : List Report := []

namespace Reports

def put (report : Report) : List Report → List Report
  | [] => [report]
  | r :: rest => if r.app = report.app then report :: rest else r :: put report rest

def store (reports : Reports) (report : Report) : Reports :=
  ⟨put report reports.entries⟩

def get? (reports : Reports) (app : Text) : Option Report :=
  reports.entries.find? (·.app == app)

def size (reports : Reports) : Nat :=
  reports.entries.length

structure Totals where
  assets : Nat := 0
  files : Nat := 0
  dependencies : Nat := 0
  exports : Nat := 0
  bytes : Int := 0
  deriving DecidableEq, Repr

def Totals.add (t : Totals) (r : Report) : Totals where
  assets := t.assets + r.assets.length
  files := t.files + r.findings.files.length
  dependencies := t.dependencies + r.dependencyCount
  exports := t.exports + r.exportCount
  bytes := t.bytes + r.assetBytes

def totals (reports : Reports) : Totals :=
  reports.entries.foldl Totals.add {}

def entryValue? (r : Report) : Option (Scalar × Value) :=
  r.toValue?.map fun v => (.text r.app, v)

/-- All reports as one mapping; none if one of them has no mapping. -/
def toValue? (reports : Reports) (time : Text) : Option Value :=
  (reports.entries.mapM entryValue?).map fun entries =>
    Value.record [("timestamp", .text time), ("total_apps_analyzed", .int reports.size),
      ("apps_data", .map entries)]

def document? (reports : Reports) (time : Text) : Option Text :=
  (reports.toValue? time).bind fun v => (Json.pretty v).toOption

end Reports

end AssetAudit
