import AssetAudit.Files.Write
import AssetAudit.Json.Read
import AssetAudit.Json.Write
import AssetAudit.Settings.Read
import AssetAudit.Yaml.Read
import AssetAudit.Yaml.Write

/-!
# Settings in files

Settings are read from and written to YAML and JSON files; the suffix of the path tells which it
is. A package file may hold settings in a field of its own.
-/
namespace AssetAudit.Settings

inductive Format where
  | yaml
  | json
  deriving DecidableEq, Repr

def Format.ofPath? (path : FilePath) : Except Error Format :=
  let suffix := path.suffix
  if suffix = ".yaml".toList ∨ suffix = ".yml".toList then .ok .yaml
  else if suffix = ".json".toList then .ok .json
  else .error (.unsupportedFormat suffix)

def fileText (tree : Files.Tree) (path : FilePath) : Except Error Text :=
  match tree.read path with
  | .error e => .error (.system e)
  | .ok data =>
    match Text.ofUtf8 data with
    | .ok t => .ok (Text.unifyLineEnds t)
    | .error e => .error (.undecodable e)

/-- The value of a document; a blank one is an empty mapping. -/
def Format.parse (format : Format) (document : Text) : Except Error Value :=
  match format with
  | .yaml => ((Yaml.read document).mapError Error.yaml).map fun v =>
      if v.isTruthy then v else .map []
  | .json =>
    if document.trim.isEmpty then .ok (.map [])
    else (Json.read document).mapError (Error.json document)

def Format.write (format : Format) (v : Value) : Except Error Text :=
  match format with
  | .yaml => .ok (Yaml.write v)
  | .json => (Json.pretty v).mapError fun _ => .noForm

def isPresent (tree : Files.Tree) (path : FilePath) : Except Error Bool :=
  (tree.pathExists path).mapError .system

def readEntries (tree : Files.Tree) (path : FilePath) : Except Error (Entries Value) := do
  if !(← isPresent tree path) then .error (.missingFile path.text)
  else
    let document ← fileText tree path
    let format ← Format.ofPath? path
    match ← format.parse document with
    | .map entries => return entries
    | _ => .error (.noMappingInFile path.text)

def ofFile (sections : Attempt Error Value) (tree : Files.Tree) (path : FilePath) :
    Attempt Error Settings := do
  let entries ← Attempt.ofExcept (readEntries tree path)
  ofValue sections (.map entries)

/-- Names of settings files, in the order in which they are looked for. -/
def fileNames : List String :=
  ["sweep.config.yaml", "sweep.config.yml", "sweep.config.json", ".sweep.yaml", ".sweep.yml",
    ".sweep.json"]

def findFile? (tree : Files.Tree) (root : FilePath) : List String → Except Error (Option FilePath)
  | [] => .ok none
  | name :: rest => do
    let candidate := root.child name.toList
    if ← (tree.isFile candidate).mapError Error.system then return some candidate
    else findFile? tree root rest

def packageFields : List String :=
  ["sweep", "find-unused-assets", "findUnusedAssets"]

def asMapping? : Value → Option (Entries Value)
  | .map entries => some entries
  | _ => none

def packageSettings (package : Value) : Entries Value :=
  (packageFields.findSome? fun name => (package.field? name.toList).bind asMapping?).getD []

def packageName : Text := "package.json".toList

/-- The settings in the package file of a directory. A file that cannot be read is passed over. -/
def readPackage (tree : Files.Tree) (root : FilePath) : Attempt Error (Entries Value) := do
  let path := root.child packageName
  let present ← Attempt.ofExcept ((tree.isFile path).mapError Error.system)
  if !present then return []
  else match (fileText tree path).bind fun t => (Json.read t).mapError (Error.json t) with
    | .ok package => return packageSettings package
    | .error e =>
      Attempt.note (.unreadableSettings path.text e.message)
      return []

def save (tree : Files.Tree) (path : FilePath) (s : Settings) : Except Error Files.Tree := do
  let format ← Format.ofPath? path
  let document ← format.write s.toValue
  (tree.save path (Text.utf8 document)).mapError .system

/-- The sections in a file of defaults. A file that is missing or malformed holds none. -/
def readSections (tree : Files.Tree) (path : FilePath) : Attempt Error Value := do
  let present ← Attempt.ofExcept (isPresent tree path)
  if !present then
    Attempt.note (.defaultsMissing path.text)
    return .map []
  else
    let document ← Attempt.ofExcept (fileText tree path)
    match Format.parse .yaml document with
    | .ok v => return v
    | .error (.yaml (.malformed _)) =>
      Attempt.note .defaultsMalformed
      return .map []
    | .error e => throw e

end AssetAudit.Settings
