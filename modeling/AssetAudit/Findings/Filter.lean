import AssetAudit.Findings.Basic
import AssetAudit.Whitelist.Matcher

/-!
# Findings and the whitelist

Files, exports and types that are on the whitelist are dropped. Packages have no path and stay.
-/
namespace AssetAudit.Findings

def filterItems (matcher : Whitelist.Matcher) :
    List Value → Noted (List Value × Whitelist.Matcher)
  | [] => pure ([], matcher)
  | item :: rest =>
    match path? item with
    | none => do
      let (kept, matcher) ← filterItems matcher rest
      return (item :: kept, matcher)
    | some p => do
      let (listed, matcher) ← matcher.check p
      let (kept, matcher) ← filterItems matcher rest
      return (if listed then kept else item :: kept, matcher)

/-- Drop what is on the whitelist; findings with an error stay as they are. -/
def filter (f : Findings) (matcher : Whitelist.Matcher) :
    Noted (Findings × Whitelist.Matcher) :=
  if f.failure?.isSome then pure (f, matcher)
  else do
    let (files, matcher) ← filterItems matcher f.files
    let (exports, matcher) ← filterItems matcher f.exports
    let (types, matcher) ← filterItems matcher f.types
    return ({ f with files, exports, types, error := none }, matcher)

end AssetAudit.Findings
