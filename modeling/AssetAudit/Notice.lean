import AssetAudit.Text.Basic

/-!
# Notices

What is worth telling about a run that goes on: a notice has a level and a text. A `Noted` value
carries the notices of its computation in order, and an `Attempt` keeps them when it fails.
-/
namespace AssetAudit

inductive Level where
  | warning
  | error
  deriving DecidableEq, Repr

inductive Notice where
  | outsideApp (path : Text)
  | unknownKey (part key : Text)
  | whitelistKind (kind : Text)
  | unreadableSettings (path reason : Text)
  | defaultsMissing (path : Text)
  | defaultsMalformed
  | notADirectory (path : Text)
  | unreadableDirectory (path reason : Text)
  | skippedAsset (path reason : Text)
  | undecodableSource (path reason : Text)
  | unreadableSource (path reason : Text)
  | analyzerSkipped (app reason : Text)
  | commandFailed (command reason : Text)
  | analyzerFailed (reason : Text)
  | noApps (directory : Text)
  | appFailed (reason : Text)
  deriving DecidableEq, Repr

namespace Notice

def level : Notice → Level
  | .defaultsMalformed | .noApps _ | .appFailed _ => .error
  | _ => .warning

def message : Notice → Text
  | .outsideApp p => "Ignoring path outside app: ".toList ++ p
  | .unknownKey s k => "Ignoring unknown config key '".toList ++ s ++ '.' :: k ++ ['\'']
  | .whitelistKind k => "Ignoring whitelist of unsupported type ".toList ++ k
  | .unreadableSettings p r => "Could not read ".toList ++ p ++ ": ".toList ++ r
  | .defaultsMissing p => "Defaults config not found: ".toList ++ p
  | .defaultsMalformed => "Failed to parse defaults config".toList
  | .notADirectory p => "Could not read ".toList ++ p ++ ": not a directory".toList
  | .unreadableDirectory p r => "Could not read ".toList ++ p ++ ": ".toList ++ r
  | .skippedAsset p r => "Skipping unreadable asset ".toList ++ p ++ ": ".toList ++ r
  | .undecodableSource p r =>
    "Could not decode ".toList ++ p ++ " as UTF-8, references in it are ignored: ".toList ++ r
  | .unreadableSource p r =>
    "Could not read ".toList ++ p ++ ", references in it are ignored: ".toList ++ r
  | .analyzerSkipped a r => "Knip skipped for ".toList ++ a ++ ": ".toList ++ r
  | .commandFailed c r => "Command \"".toList ++ c ++ "\" failed: ".toList ++ r
  | .analyzerFailed r => r ++ ". Continuing with assets-only analysis.".toList
  | .noApps d => "No valid apps found in ".toList ++ d
  | .appFailed r => "Error: ".toList ++ r

end Notice

structure Noted (α : Type) where
  value : α
  notices : List Notice := []

namespace Noted

variable {α β : Type}

def bind (x : Noted α) (f : α → Noted β) : Noted β :=
  ⟨(f x.value).value, x.notices ++ (f x.value).notices⟩

instance : Monad Noted where
  pure value := ⟨value, []⟩
  bind := bind

def note (n : Notice) : Noted Unit :=
  ⟨(), [n]⟩

@[simp] theorem value_bind (x : Noted α) (f : α → Noted β) :
    (x >>= f).value = (f x.value).value :=
  rfl

@[simp] theorem notices_bind (x : Noted α) (f : α → Noted β) :
    (x >>= f).notices = x.notices ++ (f x.value).notices :=
  rfl

end Noted

/-- A computation that may fail; what was noted before stays noted. -/
abbrev Attempt (ε α : Type) := ExceptT ε Noted α

namespace Attempt

variable {ε α : Type}

def note (n : Notice) : Attempt ε Unit :=
  ExceptT.lift (Noted.note n)

def ofNoted (x : Noted α) : Attempt ε α :=
  ExceptT.lift x

def ofExcept (x : Except ε α) : Attempt ε α :=
  ExceptT.mk (pure x)

def outcome (x : Attempt ε α) : Except ε α :=
  (ExceptT.run x).value

def notices (x : Attempt ε α) : List Notice :=
  (ExceptT.run x).notices

end Attempt

end AssetAudit
