import AssetAudit.Files.Tree

/-!
# Changing a tree

Files are written and directories made at paths; a link that leads nowhere is written through.
-/
namespace AssetAudit.Files.Tree

def withNode (tree : Tree) (place : List Text) (node : Node) : Tree :=
  { tree with root := tree.root.put node place }

def holder (tree : Tree) (path : FilePath) : Except Fault (List Text × List (Text × Node)) := do
  let place ← tree.locate path.parent
  match tree.root.at? place with
  | some (.directory entries) => return (place, entries)
  | _ => .error .notADirectory

/-- Why no file can be made where a link leads nowhere, if the end of its target rules that out: a dot
stands for a directory that is missing, and a slash asks for one. -/
def targetFault? (target : Text) : Option Fault :=
  let pieces := Text.splitOn '/' target
  if (pieces.filter (· != [])).getLastD [] = ['.'] then some .missing
  else if pieces.getLastD [] = [] then some .isADirectory
  else none

/-- Write a file, through at most so many links that lead nowhere. -/
def writeThrough (tree : Tree) (data : List UInt8) : Nat → FilePath → Except Fault Tree
  | 0, _ => .error .linkLoop
  | links + 1, path =>
    match tree.locate path with
    | .ok place =>
      match tree.root.at? place with
      | some (.directory _) => .error .isADirectory
      | _ => .ok (tree.withNode place (.file data))
    | .error .missing => do
      let (place, entries) ← tree.holder path
      match (Node.directory entries).child? path.name with
      | some (.link target) =>
        let next := path.parent.join (.ofText target)
        match targetFault? target with
        | none => writeThrough tree data links next
        | some fault => do
          let _ ← tree.holder next
          .error fault
      | _ => return tree.withNode (place ++ [path.name]) (.file data)
    | .error fault => .error fault

def write (tree : Tree) (path : FilePath) (data : List UInt8) : Except Error Tree :=
  match tree.writeThrough data mostLinks path with
  | .ok tree => .ok tree
  | .error fault => .error ⟨fault, path.text⟩

def makeOne (tree : Tree) (path : FilePath) : Except Fault Tree := do
  if path.parts.isEmpty || path.name == ['.', '.'] then
    let _ ← tree.locate path
    .error .alreadyExists
  else
    let (place, entries) ← tree.holder path
    if isLongName path.name then .error .nameTooLong
    else match (Node.directory entries).child? path.name with
      | some _ => .error .alreadyExists
      | none => return tree.withNode (place ++ [path.name]) (.directory [])

/-- A fault is none when the directory is there after all. -/
def toleratePresent (tree : Tree) (path : FilePath) (fault : Fault) : Except Error Tree :=
  match tree.isDirectory path with
  | .ok true => .ok tree
  | _ => .error ⟨fault, path.text⟩

/-- Make a directory and what is missing above it; `height` bounds how far above. -/
def makeUpTo (tree : Tree) (path : FilePath) : Nat → Except Error Tree
  | 0 => .error ⟨.missing, path.text⟩
  | height + 1 =>
    match tree.makeOne path with
    | .ok tree => .ok tree
    | .error .missing => do
      if path.parts.isEmpty then .error ⟨.missing, path.text⟩
      else
        let tree ← makeUpTo tree path.parent height
        match tree.makeOne path with
        | .ok tree => return tree
        | .error fault => tree.toleratePresent path fault
    | .error fault => tree.toleratePresent path fault

def makeDirectories (tree : Tree) (path : FilePath) : Except Error Tree :=
  tree.makeUpTo path (path.parts.length + 1)

def save (tree : Tree) (path : FilePath) (data : List UInt8) : Except Error Tree := do
  let tree ← tree.makeDirectories path.parent
  tree.write path data

def place (tree : Tree) (path : FilePath) (node : Node) : Except Error Tree := do
  let tree ← tree.makeDirectories path.parent
  match tree.holder path with
  | .ok (place, _) => return tree.withNode (place ++ [path.name]) node
  | .error fault => .error ⟨fault, path.text⟩

def remove (tree : Tree) (path : FilePath) : Tree :=
  match tree.holder path with
  | .ok (place, _) => { tree with root := tree.root.erase (place ++ [path.name]) }
  | .error _ => tree

end AssetAudit.Files.Tree
