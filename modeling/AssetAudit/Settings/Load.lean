import AssetAudit.Settings.Environment
import AssetAudit.Settings.Error
import AssetAudit.Settings.File
import AssetAudit.Value.Basic

/-!
# Loading the settings of a project

A layer of settings lies over another: its values win, mappings are merged entry by entry, and a
null changes nothing. The layers from the lowest to the highest: defaults, the package file, the
settings file, the environment. The root directory is made absolute in the end.
-/
namespace AssetAudit.Settings

mutual

def merge (base : Entries Value) : Entries Value → Entries Value
  | [] => base
  | (key, value) :: rest => merge (mergeEntry base key value) rest

def mergeEntry (base : Entries Value) (key : Scalar) : Value → Entries Value
  | .null => base
  | .map inner =>
    match base.get? key with
    | some (.map below) => base.insert key (.map (merge below inner))
    | _ => base.insert key (.map inner)
  | value => base.insert key value

end

def pairOf (index : Nat) (v : Value) : Except Error (Scalar × Value) :=
  match v.items? with
  | none => .error .notIterable
  | some [.scalar key, value] => .ok (key, value)
  | some [_, _] => .error .notAKey
  | some items => .error (.notAPair index items.length)

/-- The mapping that a value makes: a mapping itself, or anything that gives pairs. -/
def mappingFrom (v : Value) : Except Error (Entries Value) :=
  match v with
  | .map entries => .ok entries
  | _ =>
    match v.items? with
    | none => .error .notIterable
    | some items => do
      return Entries.ofList (← items.zipIdx.mapM fun item => pairOf item.2 item.1)

/-- Lay a value over another, where both have to make mappings. -/
def mergeValues (base value : Value) : Except Error (Entries Value) := do
  let below ← mappingFrom base
  match value with
  | .map entries => return merge below entries
  | _ => .error .noMapping

structure Request where
  /-- The project; the working directory if it is not given. -/
  root : Option Text := none
  /-- A settings file to read in place of those of the project. -/
  file : Option Text := none
  useEnvironment : Bool := true
  deriving Repr

def givenText? (t : Option Text) : Option Text :=
  t.filter (!·.isEmpty)

def rootOf (tree : Files.Tree) (request : Request) : FilePath :=
  match givenText? request.root with
  | some t => (FilePath.ofText t).absolute tree.cwd
  | none => tree.cwd

def fileOf (tree : Files.Tree) (request : Request) (root : FilePath) :
    Except Error (Option FilePath) :=
  match givenText? request.file with
  | some t => .ok (some (.ofText t))
  | none => findFile? tree root fileNames

def readLayers (tree : Files.Tree) (request : Request) (root : FilePath) :
    Attempt Error (Entries Value) := do
  let below := merge [] (← readPackage tree root)
  match ← Attempt.ofExcept (fileOf tree request root) with
  | some path => return merge below (← Attempt.ofExcept (readEntries tree path))
  | none => return below

def placeRoot (root : FilePath) (given : Value) : Except Error Value :=
  if given.isTruthy then
    match given with
    | .text t => .ok (.text (if Path.isAbsolute t then t else (root.join (.ofText t)).text))
    | _ => .error .notAPath
  else .ok (.text root.text)

def load (tree : Files.Tree) (sections : Attempt Error Value) (env : Environment)
    (request : Request) : Attempt Error Settings := do
  let root := rootOf tree request
  let data ← readLayers tree request root
  let settings ← ofValue sections (.map data)
  let settings ← if request.useEnvironment then Attempt.ofExcept (applyEnvironment env settings)
    else pure settings
  let rootDir ← Attempt.ofExcept (placeRoot root settings.rootDir)
  return { settings with rootDir }

end AssetAudit.Settings
