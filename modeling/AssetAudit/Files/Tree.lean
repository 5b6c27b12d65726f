import AssetAudit.Files.Error
import AssetAudit.Path.FilePath
import AssetAudit.Text.Utf8

/-!
# Trees of files

A tree is a directory with files, links and directories below it. A path is followed from the
root one component at a time; links are followed too, at most forty of them.
-/
namespace AssetAudit.Files

inductive Node where
  | file (data : List UInt8)
  | link (target : Text)
  | directory (entries : List (Text × Node))

instance : Inhabited Node := ⟨.directory []⟩

namespace Node

def entries : Node → List (Text × Node)
  | .directory entries => entries
  | .file _ | .link _ => []

def child? (node : Node) (name : Text) : Option Node :=
  (node.entries.find? (·.1 == name)).map (·.2)

/-- What lies at the end of a list of names, without following links. -/
def at? (node : Node) : List Text → Option Node
  | [] => some node
  | name :: rest =>
    match node.child? name with
    | some next => next.at? rest
    | none => none

def setEntry (name : Text) (node : Node) : List (Text × Node) → List (Text × Node)
  | [] => [(name, node)]
  | (n, old) :: rest =>
    if n = name then (n, node) :: rest else (n, old) :: setEntry name node rest

/-- Put a node at the end of a list of names, with directories on the way. -/
def put (node new : Node) : List Text → Node
  | [] => new
  | name :: rest =>
    .directory (setEntry name (((node.child? name).getD (.directory [])).put new rest) node.entries)

def erase (node : Node) : List Text → Node
  | [] => .directory []
  | [name] => .directory (node.entries.filter (·.1 != name))
  | name :: rest =>
    match node.child? name with
    | some next => .directory (setEntry name (next.erase rest) node.entries)
    | none => node

end Node

structure Tree where
  root : Node
  cwd : FilePath

namespace Tree

/-- The longest name and the longest path, in bytes. -/
def longestName : Nat := 255

def longestPath : Nat := 4095

def mostLinks : Nat := 40

def isLongName (name : Text) : Bool :=
  longestName < (Text.utf8 name).length

/-- Follow the components from a place as far as there is no link; from there on, `onLink` is asked
for the place to go on from and the components to go on with. -/
def followUntil (root : Node) (onLink : List Text → List Text → Except Fault (List Text))
    (place : List Text) : List Text → Except Fault (List Text)
  | [] => .ok place
  | component :: rest =>
    match root.at? place with
    | some (.directory entries) =>
      if component = [] ∨ component = ['.'] then followUntil root onLink place rest
      else if component = ['.', '.'] then followUntil root onLink place.dropLast rest
      else if isLongName component then .error .nameTooLong
      else match (Node.directory entries).child? component with
        | none => .error .missing
        | some (.link target) =>
          onLink (if Path.isAbsolute target then [] else place) (Text.splitOn '/' target ++ rest)
        | some (.file _) | some (.directory _) =>
          followUntil root onLink (place ++ [component]) rest
    | _ => .error .notADirectory

def follow (root : Node) : Nat → List Text → List Text → Except Fault (List Text)
  | 0 => followUntil root fun _ _ => .error .linkLoop
  | links + 1 => followUntil root (follow root links)

def locate (tree : Tree) (path : FilePath) : Except Fault (List Text) :=
  if path.text.contains (Char.ofNat 0) then .error .nullCharacter
  else if longestPath < (Text.utf8 path.text).length then .error .nameTooLong
  else follow tree.root mostLinks [] (tree.cwd.join path).parts

def node (tree : Tree) (path : FilePath) : Except Fault Node := do
  let place ← tree.locate path
  match tree.root.at? place with
  | some found => return found
  | none => .error .missing

/-- A question about a path whose answer is no when there is nothing. -/
def holds (tree : Tree) (path : FilePath) (p : Node → Bool) : Except Error Bool :=
  match tree.node path with
  | .ok found => .ok (p found)
  | .error fault => if fault.meansAbsent then .ok false else .error ⟨fault, path.text⟩

def isDirectory (tree : Tree) (path : FilePath) : Except Error Bool :=
  tree.holds path fun
    | .directory _ => true
    | _ => false

def isFile (tree : Tree) (path : FilePath) : Except Error Bool :=
  tree.holds path fun
    | .file _ => true
    | _ => false

def pathExists (tree : Tree) (path : FilePath) : Except Error Bool :=
  tree.holds path fun _ => true

def names (tree : Tree) (path : FilePath) : Except Error (List Text) :=
  match tree.node path with
  | .ok (.directory entries) => .ok (Text.sort (entries.map (·.1)))
  | .ok _ => .error ⟨.notADirectory, path.text⟩
  | .error fault => .error ⟨fault, path.text⟩

def read (tree : Tree) (path : FilePath) : Except Error (List UInt8) :=
  match tree.node path with
  | .ok (.file data) => .ok data
  | .ok _ => .error ⟨.isADirectory, path.text⟩
  | .error fault => .error ⟨fault, path.text⟩

def directorySize : Nat := 4096

def size (tree : Tree) (path : FilePath) : Except Error Nat :=
  match tree.node path with
  | .ok (.file data) => .ok data.length
  | .ok _ => .ok directorySize
  | .error fault => .error ⟨fault, path.text⟩

end Tree

end AssetAudit.Files
