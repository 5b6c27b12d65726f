import AssetAudit.Path.Lexical

/-!
# Paths as components

A path is its leading slashes and its components. Empty components and `.` are left out when a
text is read; `..` stays, because it may lead through a link.
-/
namespace AssetAudit

structure FilePath where
  /-- Empty for a relative path, else one slash or exactly two. -/
  root : Text
  parts : List Text
  deriving DecidableEq, Repr

namespace FilePath

def isPart (component : Text) : Bool :=
  component != [] && component != ['.']

def ofText (p : Text) : FilePath where
  root := if Path.isAbsolute p then Path.leadingSlashes p else []
  parts := (Text.splitOn '/' p).filter isPart

def isAbsolute (p : FilePath) : Bool :=
  !p.root.isEmpty

/-- The path as text; a path without components is `.` or its slashes. -/
def text (p : FilePath) : Text :=
  if p.root.isEmpty && p.parts.isEmpty then ['.'] else p.root ++ Text.join ['/'] p.parts

/-- The second path seen from the first; an absolute path stays what it is. -/
def join (p q : FilePath) : FilePath :=
  if q.isAbsolute then q else ⟨p.root, p.parts ++ q.parts⟩

def absolute (p cwd : FilePath) : FilePath :=
  cwd.join p

def name (p : FilePath) : Text :=
  p.parts.getLastD []

def parent (p : FilePath) : FilePath :=
  ⟨p.root, p.parts.dropLast⟩

/-- The last extension of a name with its dot. A dot in front or at the end makes none. -/
def nameSuffix (name : Text) : Text :=
  let extension := (name.reverse.takeWhile (· != '.')).reverse
  if extension.isEmpty || name.length < extension.length + 2 then [] else '.' :: extension

def suffix (p : FilePath) : Text :=
  nameSuffix p.name

def dropFront? : List Text → List Text → Option (List Text)
  | [], rest => some rest
  | a :: as, b :: bs => if a = b then dropFront? as bs else none
  | _ :: _, [] => none

def relativeTo? (p base : FilePath) : Option FilePath :=
  if p.root = base.root then (dropFront? base.parts p.parts).map (⟨[], ·⟩) else none

def child (p : FilePath) (name : Text) : FilePath :=
  ⟨p.root, p.parts ++ [name]⟩

end FilePath

end AssetAudit
