import AssetAudit.Whitelist.Pattern

/-!
# Compiled whitelists

The patterns of an app in buckets: literal paths and names are looked up, expressions are tried
one by one. Patterns that cannot be used are kept with the reason.
-/
namespace AssetAudit.Whitelist

structure Rejected where
  pattern : Text
  reason : Text
  deriving DecidableEq, Repr

structure Tried where
  source : Text
  program : Regex.Program

structure Compiled where
  paths : List Text := []
  names : List Text := []
  expressions : List Tried := []
  rejected : List Rejected := []

namespace Compiled

def isEmpty (c : Compiled) : Bool :=
  c.paths.isEmpty && c.names.isEmpty && c.expressions.isEmpty

def isValid (c : Compiled) : Bool :=
  c.rejected.isEmpty

def add (c : Compiled) : Pattern → Compiled
  | .path p => if c.paths.contains p then c else { c with paths := c.paths ++ [p] }
  | .name n => if c.names.contains n then c else { c with names := c.names ++ [n] }
  | .expression source program =>
    { c with expressions := c.expressions ++ [⟨source, program⟩] }

def reject (c : Compiled) (pattern reason : Text) : Compiled :=
  { c with rejected := c.rejected ++ [⟨pattern, reason⟩] }

/-- Is the path at this place of the app, or a file of its name, on the list? -/
def accepts (c : Compiled) (path : Text) : Bool :=
  c.paths.contains path || c.names.contains (Path.basename path) ||
    c.expressions.any fun t => t.program.occursIn path || t.program.occursIn (Path.basename path)

end Compiled

def isSkipped (raw : Value) : Bool :=
  match raw with
  | .null => true
  | .text [] => true
  | _ => isComment raw || (normalize raw).isEmpty

def compileEntry (c : Compiled) (raw : Value) : Except PatternError Compiled :=
  if isSkipped raw then .ok c
  else match classify (normalize raw) with
    | .ok pattern => .ok (c.add pattern)
    | .error e => if e.isRejection then .ok (c.reject (normalize raw) e.message) else .error e

def compile (entries : List Value) : Except PatternError Compiled :=
  entries.foldlM compileEntry {}

end AssetAudit.Whitelist
