import AssetAudit.CommandLine.Run
import AssetAudit.Json.Read

/-!
# Snapshots of a computer

A run sees the computer as a snapshot, which is given as a JSON object: `directory` is the working
directory, `files` maps paths to what lies there, `environment` maps variables to their values, and
`time` is the time of the run. At a path lies the text of a file, a mapping whose `link` says where
a link leads, or a directory.
-/
namespace AssetAudit.CommandLine.Snapshot

def textAt (v : Value) (name : String) : Text :=
  match v.field? name.toList with
  | some (.text t) => t
  | _ => []

def entriesAt (v : Value) (name : String) : Entries Value :=
  match v.field? name.toList with
  | some (.map entries) => entries
  | _ => []

def node (v : Value) : Files.Node :=
  match v with
  | .text t => .file (Text.utf8 t)
  | _ =>
    match v.field? "link".toList with
    | some (.text target) => .link target
    | _ => .directory []

def place (tree : Files.Tree) (path : FilePath) (v : Value) : Except Files.Error Files.Tree :=
  match node v with
  | .directory _ => tree.makeDirectories path
  | found => tree.place path found

def tree (v : Value) : Except Files.Error Files.Tree := do
  let directory := FilePath.ofText (textAt v "directory")
  let empty ← ({ root := .directory [], cwd := directory } : Files.Tree).makeDirectories directory
  (entriesAt v "files").foldlM
    (fun tree e => place tree (directory.join (.ofText e.1.plain)) e.2) empty

def environment (v : Value) : Settings.Environment :=
  (entriesAt v "environment").filterMap fun e =>
    match e.2 with
    | .text t => some (e.1.plain, t)
    | _ => none

def host (v : Value) : Except Files.Error Host := do
  return { tree := ← tree v, environment := environment v, time := textAt v "time" }

def read (document : Text) : Except Text Host :=
  match Json.read document with
  | .error e => .error (e.message document)
  | .ok v => (host v).mapError Files.Error.message

end AssetAudit.CommandLine.Snapshot
