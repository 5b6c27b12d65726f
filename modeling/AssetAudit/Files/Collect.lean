import AssetAudit.Files.Ignore
import AssetAudit.Files.Tree
import AssetAudit.Notice
import AssetAudit.Value.Show

/-!
# Collecting files

A directory is walked with its directories first, each in the order of names. Excluded directories
are passed over with all below them, and only files with a wanted extension are given.
-/
namespace AssetAudit.Files

structure Asset where
  path : FilePath
  size : Nat
  /-- The path from the app directory, or the whole path if it lies elsewhere. -/
  relative : Text
  deriving DecidableEq, Repr

inductive CollectError where
  | notIterable
  /-- Something that should be a text is none. -/
  | notAText
  | ignore (e : IgnoreError)
  | system (e : Error)
  deriving DecidableEq, Repr

structure Collector where
  patterns : List Text
  rules : List Ignore.Rule

namespace Collector

def usualExclusions : List Text :=
  ["node_modules".toList, ".git".toList, "dist".toList, "build".toList, "coverage".toList]

/-- The trimmed texts of a list; empty items are left out, other items than texts are refused. -/
def trimmedTexts : List Value → Except CollectError (List Text)
  | [] => .ok []
  | .text s :: rest =>
    (trimmedTexts rest).map fun kept => if s.trim.isEmpty then kept else s.trim :: kept
  | item :: rest => if item.isTruthy then .error .notAText else trimmedTexts rest

/-- A collector for a list of patterns; for null the usual directories are passed over. -/
def create (exclude : Value) : Except CollectError Collector := do
  let patterns ← match exclude with
    | .null => .ok usualExclusions
    | given =>
      match given.items? with
      | some items => trimmedTexts items
      | none => .error .notIterable
  match Ignore.readAll patterns with
  | .ok rules => return { patterns, rules }
  | .error e => .error (.ignore e)

def isExcluded (c : Collector) (directory : Text) : Bool :=
  Ignore.excludesPath c.rules (directory ++ ['/'])

end Collector

/-- An extension in small letters with its dot. -/
def wantedExtension (extension : Text) : List Text :=
  match Unicode.lower extension.trim with
  | [] => []
  | '.' :: rest => ['.' :: rest]
  | bare => ['.' :: bare]

def wantedFrom : List Value → Except CollectError (List Text)
  | [] => .ok []
  | .text s :: rest => (wantedFrom rest).map (wantedExtension s ++ ·)
  | _ :: _ => .error .notAText

def wantedExtensions (extensions : Value) : Except CollectError (List Text) :=
  match extensions.items? with
  | some items => wantedFrom items
  | none => .error .notIterable

def isWanted (wanted : List Text) (path : FilePath) : Bool :=
  wanted.contains (Unicode.lower path.suffix)

inductive Visit where
  | file (path : FilePath)
  | unreadable (directory : FilePath) (reason : Text)
  deriving DecidableEq, Repr

def listing (tree : Tree) (directory : FilePath) :
    Except Error (List FilePath × List FilePath) := do
  let entries := (← tree.names directory).map directory.child
  let kinds ← entries.mapM fun path => (tree.isDirectory path).map (path, ·)
  return ((kinds.filter (·.2)).map (·.1), (kinds.filter (!·.2)).map (·.1))

def below (root directory : FilePath) : Text :=
  ((directory.relativeTo? root).getD directory).text

def walkFrom (tree : Tree) (c : Collector) (wanted : List Text) (root : FilePath) :
    Nat → FilePath → List Visit
  | 0, _ => []
  | fuel + 1, directory =>
    match listing tree directory with
    | .error e => [.unreadable directory e.message]
    | .ok (directories, others) =>
      (directories.filter fun d => !c.isExcluded (below root d)).flatMap
          (walkFrom tree c wanted root fuel) ++
        (others.filter (isWanted wanted)).map .file

/-- Walk a directory. No path is longer than the longest, so no walk goes deeper. -/
def walk (tree : Tree) (c : Collector) (root : FilePath) (extensions : Value) :
    Except CollectError (List Visit) :=
  match tree.isDirectory root with
  | .error e => .error (.system e)
  | .ok false => .ok [.unreadable root "not a directory".toList]
  | .ok true => do
    let wanted ← wantedExtensions extensions
    return walkFrom tree c wanted root Tree.longestPath root

def assetOf (tree : Tree) (app : FilePath) : Visit → Noted (Option Asset)
  | .unreadable directory reason => do
    Noted.note (.unreadableDirectory directory.text reason)
    return none
  | .file path =>
    match tree.size path with
    | .error e => do
      Noted.note (.skippedAsset path.text e.message)
      return none
    | .ok size =>
      return some { path, size, relative := ((path.relativeTo? app).getD path).text }

def assetsOf (tree : Tree) (app : FilePath) : List Visit → Noted (List Asset)
  | [] => pure []
  | visit :: rest => do
    let asset? ← assetOf tree app visit
    let assets ← assetsOf tree app rest
    return asset?.toList ++ assets

def sourcesOf : List Visit → Noted (List FilePath)
  | [] => pure []
  | .file path :: rest => do
    let paths ← sourcesOf rest
    return path :: paths
  | .unreadable directory reason :: rest => do
    Noted.note (.unreadableDirectory directory.text reason)
    sourcesOf rest

def collectAssets (tree : Tree) (c : Collector) (directory app : FilePath) (extensions : Value) :
    Attempt CollectError (List Asset) := do
  let visits ← Attempt.ofExcept (walk tree c directory extensions)
  Attempt.ofNoted (assetsOf tree app visits)

def collectSources (tree : Tree) (c : Collector) (directory : FilePath) (extensions : Value) :
    Attempt CollectError (List FilePath) := do
  let visits ← Attempt.ofExcept (walk tree c directory extensions)
  Attempt.ofNoted (sourcesOf visits)

end AssetAudit.Files
