import AssetAudit.Analyzer.Run
import AssetAudit.App.Session
import AssetAudit.Files.Collect
import AssetAudit.Files.Write
import AssetAudit.Findings.Filter
import AssetAudit.Report.Basic
import AssetAudit.Usage.Sources

/-!
# Analyzing a project

An app is analyzed in four steps: its session is checked, the analyzer is run if it is enabled,
assets and sources are collected, and every asset is looked up on the whitelist and in the
sources. The reports of a project are kept together.
-/
namespace AssetAudit

structure Project where
  settings : Settings
  collector : Files.Collector
  reports : Reports := {}

structure Surroundings where
  tree : Files.Tree
  execute : Analyzer.Executor
  time : Text

namespace Project

inductive Error where
  | session (e : App.SessionError)
  | collect (e : Files.CollectError)
  | run (e : Analyzer.RunError)
  | system (e : Files.Error)
  /-- A size has no text. -/
  | noText

def ofSettings (settings : Settings) : Except Error Project :=
  (Files.Collector.create settings.excludeDirs).mapError .collect |>.map fun collector =>
    { settings, collector }

def session (p : Project) (tree : Files.Tree) (app : Text) (directory : Option FilePath) :
    Except Error App.Session := do
  let session ← (App.Session.create p.settings tree.cwd app directory).mapError .session
  (session.check tree).mapError .session
  return session

/-- The findings of the analyzer, without what is on the whitelist, and how it went. -/
def findings (p : Project) (around : Surroundings) (session : App.Session) :
    Attempt Error (Findings × Text × Whitelist.Matcher) := do
  if Analyzer.isEnabled p.settings.knip then
    let run := Analyzer.run around.execute p.settings.knip around.tree session.directory
    let found ← ExceptT.adapt Error.run run
    let (kept, matcher) ← Attempt.ofNoted (found.filter session.matcher)
    return (kept, if kept.failure?.isSome then Status.failed else Status.success, matcher)
  else return ({}, Status.skipped, session.matcher)

structure Sorted where
  unused : List UnusedAsset := []
  whitelisted : List Text := []

/-- Look up assets one after another. The sources are read when the first asset needs them. -/
def sortAssets (tree : Files.Tree) (session : App.Session) (paths : List FilePath)
    (sources : Option Usage.Sources) (matcher : Whitelist.Matcher) :
    List Files.Asset → Attempt Error Sorted
  | [] => pure {}
  | asset :: rest => do
    let (listed, matcher) ← Attempt.ofNoted (matcher.check asset.path.text)
    if listed then
      let sorted ← sortAssets tree session paths sources matcher rest
      return { sorted with whitelisted := asset.relative :: sorted.whitelisted }
    else
      let read ← match sources with
        | some read => pure read
        | none => Attempt.ofNoted (Usage.Sources.read tree paths)
      if (read.reference? (.of tree.cwd asset.path session.sources)).isSome then
        sortAssets tree session paths (some read) matcher rest
      else
        match UnusedAsset.of? session.root asset.path asset.size with
        | none => throw .noText
        | some unused =>
          let sorted ← sortAssets tree session paths (some read) matcher rest
          return { sorted with unused := unused :: sorted.unused }

def analyze (p : Project) (around : Surroundings) (app : Text) (directory : Option FilePath) :
    Attempt Error Report := do
  let tree := around.tree
  let session ← Attempt.ofExcept (p.session tree app directory)
  let (findings, status, matcher) ← p.findings around session
  let assets ← ExceptT.adapt Error.collect (Files.collectAssets tree p.collector session.scan
    session.directory p.settings.assetExtensions)
  let paths ← ExceptT.adapt Error.collect
    (Files.collectSources tree p.collector session.sources p.settings.sourceExtensions)
  let sorted ← sortAssets tree session paths none matcher assets
  return {
    app, directory := session.directory, assets := sorted.unused, findings, status
    whitelisted := sorted.whitelisted, time := around.time }

def store (p : Project) (report : Report) : Project :=
  { p with reports := p.reports.store report }

structure Batch where
  analyzed : List Text := []
  failed : List (Text × App.Fault) := []

def Batch.succeeded (b : Batch) : Bool :=
  !b.analyzed.isEmpty && b.failed.isEmpty

/-- Analyze apps one after another. An app that cannot be analyzed is passed over; any other
error ends the batch, and the reports made before it stay. -/
def analyzeEach (around : Surroundings) (p : Project) (batch : Batch) :
    List Text → Noted (Project × Except Error Batch)
  | [] => pure (p, .ok batch)
  | app :: rest => do
    match ← (p.analyze around app none).run with
    | .ok report =>
      analyzeEach around (p.store report) { batch with analyzed := batch.analyzed ++ [app] } rest
    | .error (.session (.fault fault)) =>
      Noted.note (.appFailed fault.message)
      analyzeEach around p { batch with failed := batch.failed ++ [(app, fault)] } rest
    | .error e => return (p, .error e)

def analyzeAll (p : Project) (around : Surroundings) : Noted (Project × Except Error Batch) :=
  match App.list around.tree p.settings with
  | .error e => pure (p, .error (.session e))
  | .ok [] => do
    Noted.note (.noApps p.settings.appsDir.plain)
    return (p, .ok {})
  | .ok apps => analyzeEach around p {} apps

def reportPath? (s : Settings) (cwd : FilePath) : Except Error (Option FilePath) := do
  if s.report.saveReport.isTruthy then
    let root ← (App.givenRoot s cwd).mapError .session
    return some (root.join (← (App.pathOf s.report.jsonOutput).mapError .session))
  else return none

def save (p : Project) (around : Surroundings) :
    Except Error (Option FilePath × Files.Tree) := do
  match ← reportPath? p.settings around.tree.cwd with
  | none => return (none, around.tree)
  | some path =>
    let tree ← (around.tree.makeDirectories path.parent).mapError .system
    match p.reports.document? around.time with
    | none => .error .noText
    | some document =>
      return (some path, ← (tree.write path (Text.utf8 (document ++ ['\n']))).mapError .system)

end Project

end AssetAudit
