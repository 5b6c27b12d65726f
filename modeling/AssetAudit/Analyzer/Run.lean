import AssetAudit.Files.Tree
import AssetAudit.Findings.Basic
import AssetAudit.Notice
import AssetAudit.Settings.Basic

/-!
# Running the analyzer

A command that ran left an exit code and two texts. It fails when it cannot run to its end, when its
exit code is not zero, and when its output is no report. The commands of the settings are tried in
order. The first that gives a report decides; when none does, the run goes on without findings.
-/
namespace AssetAudit.Analyzer

structure Output where
  code : Int := 0
  stdout : Text := []
  stderr : Text := []
  deriving DecidableEq, Repr

inductive Execution where
  /-- The command did not come to an end of its own. -/
  | failed (reason : Text)
  | finished (output : Output)
  deriving DecidableEq, Repr

inductive CommandFailure where
  | noResult (reason : Text)
  | exitCode (code : Int)
  | noReport
  deriving DecidableEq, Repr

def CommandFailure.message : CommandFailure → Text
  | .noResult reason => reason
  | .exitCode code => "exited with code ".toList ++ Text.ofInt code
  | .noReport => "output is not valid Knip JSON".toList

/-- What a command gives: findings, or a reason to try the next command. A report with a category
that cannot be gone through ends the run. -/
def interpret (output : Output) : Except Findings.ReadError (Except CommandFailure Findings) :=
  if output.code ≠ 0 then .ok (.error (.exitCode output.code))
  else if output.stdout.trim.isEmpty then .ok (.ok {})
  else (Findings.read? output.stdout).map fun
    | some findings => .ok findings
    | none => .error .noReport

def Execution.outcome : Execution → Except Findings.ReadError (Except CommandFailure Findings)
  | .failed reason => .ok (.error (.noResult reason))
  | .finished output => interpret output

inductive RunError where
  | report (e : Findings.ReadError)
  | system (e : Files.Error)
  /-- The commands are no list. -/
  | noCommands
  | noCommand
  /-- The time limit is no number. -/
  | timeout
  /-- The directory to run in is no path. -/
  | directory
  deriving DecidableEq, Repr

/-- How a command is run in a directory. -/
abbrev Executor := FilePath → Value → Except RunError Execution

def noPackage : Text := "No package.json found".toList

def allFailed : Text := "All Knip execution attempts failed".toList

def isEnabled (s : AnalyzerSettings) : Bool :=
  s.enabled.isTruthy

/-- The directory to run in, seen from the working directory of all. -/
def directory (s : AnalyzerSettings) (cwd app : FilePath) : Except RunError FilePath :=
  if s.cwd.isTruthy then
    match s.cwd with
    | .text p => .ok ((app.join (.ofText p)).absolute cwd)
    | _ => .error .directory
  else .ok app

def tryCommands (execute : Value → Except RunError Execution) :
    List Value → Attempt RunError Findings
  | [] => do
    Attempt.note (.analyzerFailed allFailed)
    return .failed allFailed
  | command :: rest => do
    let execution ← Attempt.ofExcept (execute command)
    match execution.outcome with
    | .error e => throw (.report e)
    | .ok (.ok findings) => return findings
    | .ok (.error failure) =>
      Attempt.note (.commandFailed command.plain failure.message)
      tryCommands execute rest

def run (execute : Executor) (s : AnalyzerSettings) (tree : Files.Tree) (app : FilePath) :
    Attempt RunError Findings := do
  let packaged ← match tree.isFile (app.child "package.json".toList) with
    | .ok found => pure found
    | .error e => throw (.system e)
  if !packaged then
    Attempt.note (.analyzerSkipped app.text noPackage)
    return .failed noPackage
  else
    let place ← Attempt.ofExcept (directory s tree.cwd app)
    match s.commands.items? with
    | none => throw .noCommands
    | some commands => tryCommands (execute place) commands

end AssetAudit.Analyzer
