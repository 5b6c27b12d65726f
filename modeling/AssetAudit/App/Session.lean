import AssetAudit.Files.Tree
import AssetAudit.Settings.Basic
import AssetAudit.Whitelist.Compiled
import AssetAudit.Whitelist.Matcher

/-!
# Sessions

Where the parts of one app are, and the whitelist that holds for it. A session is made anew for
every analysis; its check finds what keeps the app from being analyzed.
-/
namespace AssetAudit.App

inductive Fault where
  | missing (app : Text)
  | noSources (app : Text)
  | badPath (path reason : Text)
  | whitelist (app : Text) (rejected : List Whitelist.Rejected)
  deriving DecidableEq, Repr

def rejectedText (r : Whitelist.Rejected) : Text :=
  r.pattern ++ " (".toList ++ r.reason ++ [')']

def Fault.message : Fault → Text
  | .missing app => "App '".toList ++ app ++ "' not found".toList
  | .noSources app => "src directory not found for '".toList ++ app ++ ['\'']
  | .badPath path reason => "Invalid path '".toList ++ path ++ "': ".toList ++ reason
  | .whitelist app rejected =>
    "Invalid whitelist pattern(s) for '".toList ++ app ++ "': ".toList ++
      Text.join "; ".toList (rejected.map rejectedText)

def directoryFault? (tree : Files.Tree) (app sources : FilePath) (name : Text) : Option Fault :=
  match tree.isDirectory app with
  | .error e => some (.badPath app.text e.message)
  | .ok false => some (.missing name)
  | .ok true =>
    match tree.isDirectory sources with
    | .error e => some (.badPath app.text e.message)
    | .ok false => some (.noSources name)
    | .ok true => none

structure Session where
  app : Text
  /-- The project; assets are shown as seen from here. -/
  root : FilePath
  directory : FilePath
  sources : FilePath
  assets : FilePath
  scan : FilePath
  matcher : Whitelist.Matcher

inductive SessionError where
  | fault (f : Fault)
  /-- A setting that should be a path is none. -/
  | notAPath
  | pattern (e : Whitelist.PatternError)
  | system (e : Files.Error)

def pathOf : Value → Except SessionError FilePath
  | .text t => .ok (.ofText t)
  | _ => .error .notAPath

def givenRoot (s : Settings) (cwd : FilePath) : Except SessionError FilePath :=
  if s.rootDir.isTruthy then pathOf s.rootDir else .ok cwd

def appsDirectory (s : Settings) (cwd : FilePath) : Except SessionError FilePath := do
  return (← givenRoot s cwd).join (← pathOf s.appsDir)

namespace Session

def create (s : Settings) (cwd : FilePath) (app : Text) (directory : Option FilePath) :
    Except SessionError Session := do
  let root := (← givenRoot s cwd).absolute cwd
  let directory ← match directory with
    | some d => .ok (d.absolute cwd)
    | none => (pathOf s.appsDir).map fun apps => (root.join apps).join (.ofText app)
  let sources := directory.join (← pathOf s.srcDir)
  let assets := directory.join (← pathOf s.assetsDir)
  let scan := directory.join (← pathOf s.effectiveScanDir)
  let patterns := (s.whitelist.patternsFor app).map Value.text
  let matcher ← (Whitelist.Matcher.create cwd.text directory.text patterns).mapError .pattern
  return { app, root, directory, sources, assets, scan, matcher }

/-- Can the app be analyzed? Its directories have to be there and its whitelist to be well
formed. -/
def check (session : Session) (tree : Files.Tree) : Except SessionError Unit := do
  match directoryFault? tree session.directory session.sources session.app with
  | some fault => .error (.fault fault)
  | none =>
    let rejected := session.matcher.compiled.rejected
    if !rejected.isEmpty then .error (.fault (.whitelist session.app rejected))
    else
      let _ ← (tree.isDirectory session.assets).mapError .system

end Session

/-- Names with a directory of sources below them; hidden ones are left out. -/
def withSources (tree : Files.Tree) (s : Settings) (directory : FilePath) :
    List Text → Except SessionError (List Text)
  | [] => .ok []
  | name :: rest => do
    let app := directory.child name
    let isApp ←
      if !(← (tree.isDirectory app).mapError .system) || name.startsWith ['.'] then .ok false
      else (tree.isDirectory (app.join (← pathOf s.srcDir))).mapError .system
    let others ← withSources tree s directory rest
    return if isApp then name :: others else others

def list (tree : Files.Tree) (s : Settings) : Except SessionError (List Text) := do
  let directory ← appsDirectory s tree.cwd
  match tree.names directory with
  | .ok names => withSources tree s directory names
  | .error e => if e.fault = .nullCharacter then .error (.system e) else .ok []

end AssetAudit.App
