import AssetAudit.Files.Tree
import AssetAudit.Unicode.Case

/-!
# Targets

A target says what to analyze: the working directory, a directory elsewhere, an app under its
name, or all apps.
-/
namespace AssetAudit.App

structure Target where
  name : Text
  /-- The project; its settings are read from here. -/
  root : FilePath
  /-- Where the app is, if not under the directory of apps. -/
  directory : Option FilePath
  deriving DecidableEq, Repr

namespace Target

def everything : Text := "all".toList

def isAll (t : Target) : Bool :=
  Unicode.lower t.name == everything

def nameless : Text := "current".toList

def ofDirectory (path : FilePath) : Target where
  name := if path.name.isEmpty then nameless else path.name
  root := path
  directory := some path

/-- The given text without blanks around it; nothing given means the directory itself. -/
def trimmed (given : Option Text) : Text :=
  let name := Text.trim (given.getD [])
  if name.isEmpty then ['.'] else name

/-- A directory is its own project; any other name is that of an app. -/
def resolve (tree : Files.Tree) (cwd : FilePath) (given : Option Text) :
    Except Files.Error Target := do
  let base := cwd.absolute tree.cwd
  let name := trimmed given
  if Unicode.lower name = everything then return ⟨everything, base, none⟩
  else if name = ['.'] ∨ name = ['.', '/'] then return ofDirectory base
  else
    let candidate := FilePath.ofText (Path.absolute [] (base.join (.ofText name)).text)
    if ← tree.isDirectory candidate then return ofDirectory candidate
    else return ⟨name, base, none⟩

end Target

end AssetAudit.App
