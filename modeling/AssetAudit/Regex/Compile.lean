import AssetAudit.Regex.Match
import AssetAudit.Regex.Parse

/-!
# Compiled expressions

An expression with the text that it was read from and the flags that hold for all of it.
-/
namespace AssetAudit.Regex

structure Program where
  pattern : Text
  flags : Flags
  expr : Expr

/-- A look-behind has to know how far to step back. -/
def Expr.fixedLookbehind (groups : Nat → Nat × Option Nat) : Expr → Bool
  | .look behind _ e =>
    (!behind || (e.width groups).2 == some (e.width groups).1) && fixedLookbehind groups e
  | .seq a b | .alt a b | .ifGroup _ a b => fixedLookbehind groups a && fixedLookbehind groups b
  | .group _ _ _ e | .many _ _ _ e | .atomic e => fixedLookbehind groups e
  | .empty | .code _ | .anyChar | .set _ _ | .anchor _ | .backref _ => true

def compile (pattern : Text) (flags : Flags) : Outcome Program := do
  let parsed ← parse pattern flags
  let widths n := ((parsed.closed.find? (·.1 == n)).map (·.2)).getD (0, some 0)
  match parsed.flags.template, parsed.expr.repeats with
  | true, some greed => .error (.unsupportedTemplate greed)
  | _, _ =>
    if !parsed.expr.fixedLookbehind widths then .error .variableLookbehind
    else return { pattern, flags := parsed.flags, expr := parsed.expr }

namespace Program

def occursIn (p : Program) (text : Text) : Bool :=
  search p.expr p.flags text

end Program

end AssetAudit.Regex
