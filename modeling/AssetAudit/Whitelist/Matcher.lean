import AssetAudit.Notice
import AssetAudit.Path.Lexical
import AssetAudit.Whitelist.Compiled

/-!
# Whitelist lookups

A matcher answers for one app whether a path is on its whitelist. It keeps the verdicts that it
has given, under the normalized path, and warns once of every path outside the app.
-/
namespace AssetAudit.Whitelist

structure Matcher where
  /-- The app directory as an absolute path. -/
  app : Text
  compiled : Compiled := {}
  verdicts : List (Text × Bool) := []
  warned : List Text := []

namespace Matcher

/-- The form of a path in the app, empty for a path outside it. -/
def normalize (m : Matcher) (path : Text) : Noted (Text × Matcher) :=
  match Path.normalize m.app path with
  | .form form => pure (form, m)
  | .outside =>
    if m.warned.contains path then pure ([], m)
    else do
      Noted.note (.outsideApp path)
      return ([], { m with warned := m.warned ++ [path] })

def verdict? (m : Matcher) (form : Text) : Option Bool :=
  (m.verdicts.find? (·.1 == form)).map (·.2)

def check (m : Matcher) (path : Text) : Noted (Bool × Matcher) :=
  if m.compiled.isEmpty then pure (false, m)
  else do
    let (form, m) ← m.normalize path
    if form.isEmpty then return (false, m)
    else match m.verdict? form with
      | some verdict => return (verdict, m)
      | none =>
        let verdict := m.compiled.accepts form
        return (verdict, { m with verdicts := m.verdicts ++ [(form, verdict)] })

/-- Replace all patterns and forget all verdicts. -/
def recompile (m : Matcher) (entries : List Value) : Except PatternError Matcher := do
  let compiled ← Whitelist.compile entries
  return { m with compiled, verdicts := [] }

def create (cwd app : Text) (entries : List Value) : Except PatternError Matcher :=
  Matcher.recompile { app := Path.absolute cwd app } entries

end Matcher

end AssetAudit.Whitelist
