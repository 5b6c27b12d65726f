import AssetAudit.Analyzer.Shell
import AssetAudit.App.Target
import AssetAudit.CommandLine.Logging
import AssetAudit.CommandLine.Options
import AssetAudit.Project
import AssetAudit.Report.View
import AssetAudit.Settings.Definitions
import AssetAudit.Settings.Load

/-!
# Runs of the program

A run reads its arguments, loads the settings of the project that its target names, analyzes one
app or all of them and prints what it found, either as a document or as views. It ends with 0 when
all went well, with 2 when the arguments cannot be read, else with 1.
-/
namespace AssetAudit.CommandLine

open Console (Block)

structure Host where
  tree : Files.Tree
  environment : Settings.Environment
  time : Text
  /-- How the commands of an analyzer are run on a tree under a time limit. -/
  execute : Files.Tree → Value → Analyzer.Executor := Analyzer.Shell.execute

/-- An error that ends a run without a message. -/
inductive Failure where
  | system (e : Files.Error)
  | variable (f : Settings.VariableFault)
  | settings (e : Settings.Error)
  | logging (e : LoggingError)
  | project (e : Project.Error)
  | markup (f : Console.MarkupFault)

structure Ending where
  code : Nat
  output : Text := []
  failure : Option Failure := none
  tree : Files.Tree

namespace Ending

def screenWidth : Nat := 100

def failed (tree : Files.Tree) (failure : Failure) : Ending :=
  { code := 1, failure := some failure, tree }

/-- Print a view, unless the run has failed. -/
def print (e : Ending) (blocks : List Block) : Ending :=
  match e.failure with
  | some _ => e
  | none =>
    let printed := Console.print screenWidth blocks
    let output := e.output ++ Console.textOf printed.lines
    match printed.fault with
    | some fault => { e with code := 1, output, failure := some (.markup fault) }
    | none => { e with output }

/-- Go on with a step that may fail, unless the run has failed. -/
def step (e : Ending) {ε α : Type} (failure : ε → Failure) (x : Except ε α)
    (next : Ending → α → Ending) : Ending :=
  match e.failure, x with
  | some _, _ => e
  | none, .error error => { e with code := 1, failure := some (failure error) }
  | none, .ok a => next e a

def told (tree : Files.Tree) (blocks : List Block) : Ending :=
  ({ code := 1, tree } : Ending).print blocks

end Ending

inductive Stop where
  | told (blocks : List Block)
  | failed (f : Failure)

def Stop.ending (tree : Files.Tree) : Stop → Ending
  | .told blocks => .told tree blocks
  | .failed f => .failed tree f

structure Prepared where
  target : App.Target
  project : Project
  logging : Logging

namespace Prepared

def base (host : Host) (o : Options) : Except Stop FilePath :=
  let path := ((o.directory.map FilePath.ofText).getD host.tree.cwd).absolute host.tree.cwd
  match host.tree.isDirectory path with
  | .error e => .error (.failed (.system e))
  | .ok false => .error (.told (View.error ("Directory not found: ".toList ++ path.text)))
  | .ok true => .ok path

def definitionsName : Text := ".env".toList

def environment (host : Host) (base : FilePath) : Except Stop Settings.Environment :=
  let path := base.child definitionsName
  match host.tree.isFile path with
  | .ok true =>
    match Settings.fileText host.tree path with
    | .ok document => (host.environment.extend document).mapError fun f => .failed (.variable f)
    | .error e => .error (.failed (.settings e))
  | _ => .ok host.environment

/-- Faulty settings are told; only what has no message ends the run without one. -/
def settingsStop (e : Settings.Error) : Stop :=
  if e.isExplained then
    .told (View.error ("Failed to load configuration: ".toList ++ e.message))
  else .failed (.settings e)

def settings (host : Host) (environment : Settings.Environment) (root : FilePath) :
    Attempt Stop Settings :=
  ExceptT.adapt settingsStop
    (Settings.load host.tree (pure Settings.standard) environment { root := some root.text })

def withAnalyzer (s : Settings) (wanted : Bool) : Settings :=
  if wanted then { s with knip := { s.knip with enabled := .bool true } } else s

def prepare (host : Host) (o : Options) : Attempt Stop Prepared := do
  let base ← Attempt.ofExcept (base host o)
  let environment ← Attempt.ofExcept (environment host base)
  let target ← Attempt.ofExcept
    ((App.Target.resolve host.tree base o.target).mapError fun e => .failed (.system e))
  let settings := withAnalyzer (← settings host environment target.root) o.analyzer
  let logging ← Attempt.ofExcept
    ((Logging.ofSettings settings.logging o.json).mapError fun e => .failed (.logging e))
  let project ← Attempt.ofExcept
    ((Project.ofSettings settings).mapError fun e => .failed (.project e))
  return { target, project, logging }

end Prepared

def surroundings (host : Host) (s : Settings) : Surroundings where
  tree := host.tree
  execute := host.execute host.tree s.knip.timeout
  time := host.time

def orNoText {α : Type} (x : Option α) : Except Project.Error α :=
  match x with
  | some a => .ok a
  | none => .error .noText

def documentEnding (around : Surroundings) (project : Project) (code : Nat) : Ending :=
  ({ code, tree := around.tree } : Ending).step .project
    (orNoText (project.reports.document? around.time)) fun e document =>
      { e with output := e.output ++ document ++ ['\n'] }

def batchView? (reports : Reports) (apps : List Text) : Option (List Block) := do
  let views ← (apps.filterMap reports.get?).mapM Report.view?
  return views.flatten ++ (← reports.view?)

def Ending.save (e : Ending) (around : Surroundings) (project : Project) : Ending :=
  e.step .project (project.save around) fun e (saved, tree) =>
    match saved with
    | some path => { e with tree }.print (View.success ("Report saved to ".toList ++ path.text))
    | none => { e with tree }

def batchEnding (around : Surroundings) (project : Project) (batch : Project.Batch)
    (json : Bool) : Ending :=
  let code := if batch.succeeded then 0 else 1
  if batch.analyzed.isEmpty && batch.failed.isEmpty then
    ({ code := 1, tree := around.tree } : Ending).step (fun e => .project (.session e))
      (App.appsDirectory project.settings around.tree.cwd) fun e directory =>
        e.print (View.error ("No valid apps found in ".toList ++ directory.text))
  else if json then documentEnding around project code
  else
    (({ code, tree := around.tree } : Ending).step .project
      (orNoText (batchView? project.reports batch.analyzed)) Ending.print).save around project

def analyzeAll (around : Surroundings) (project : Project) (json : Bool) : Noted Ending := do
  let (project, batch) ← project.analyzeAll around
  match batch with
  | .error e => return .failed around.tree (.project e)
  | .ok batch => return batchEnding around project batch json

/-- What is told of an app that cannot be analyzed. The usage follows if the target only names the
app. -/
def faultEnding (around : Surroundings) (s : Settings) (target : App.Target) (fault : App.Fault) :
    Ending :=
  match fault with
  | .whitelist _ rejected => .told around.tree (View.rejected rejected)
  | fault =>
    let told := Ending.told around.tree (View.error fault.message)
    if target.directory.isSome then told
    else
      let usage : Except App.SessionError (List Block) := do
        return View.usage (← App.pathOf s.appsDir) (← App.list around.tree s)
      told.step (fun e => .project (.session e)) usage Ending.print

def analyzeOne (around : Surroundings) (project : Project) (target : App.Target) (json : Bool) :
    Noted Ending := do
  match ← (project.analyze around target.name target.directory).run with
  | .error (.session (.fault fault)) =>
    return faultEnding around project.settings target fault
  | .error e => return .failed around.tree (.project e)
  | .ok report =>
    if json then return documentEnding around (project.store report) 0
    else
      return ({ code := 0, tree := around.tree } : Ending).step .project
        (orNoText report.view?) Ending.print

/-- Leave out the notices that are not let through. The first that is let through ends the run if
its line cannot be formed. -/
def Logging.pass (l : Logging) (tree : Files.Tree) (run : Noted Ending) : Noted Ending :=
  match run.notices.filter l.lets, l.missing with
  | _ :: _, some field => ⟨.failed tree (.logging (.field field)), []⟩
  | notices, _ => ⟨run.value, notices⟩

def analysis (host : Host) (o : Options) : Noted Ending := do
  match ← (Prepared.prepare host o).run with
  | .error stop => return stop.ending host.tree
  | .ok ⟨target, project, logging⟩ =>
    let around := surroundings host project.settings
    logging.pass host.tree
      (if target.isAll then analyzeAll around project o.json
        else analyzeOne around project target o.json)

def versionText : Text := "sweep 0.1.0\n".toList

def run (host : Host) (arguments : List Text) : Noted Ending :=
  match Request.ofArguments arguments with
  | .error (.nullCharacter path) => pure (.failed host.tree (.system ⟨.nullCharacter, path⟩))
  | .error _ => pure { code := 2, tree := host.tree }
  | .ok .help => pure { code := 0, tree := host.tree }
  | .ok .version => pure { code := 0, output := versionText, tree := host.tree }
  | .ok (.analysis o) => analysis host o

end AssetAudit.CommandLine
