import AssetAudit.Text.Quoted

/-!
# Faults of file operations
-/
namespace AssetAudit.Files

inductive Fault where
  | missing
  | notADirectory
  | isADirectory
  | alreadyExists
  | linkLoop
  | nameTooLong
  /-- The path holds a null character. -/
  | nullCharacter
  deriving DecidableEq, Repr

namespace Fault

def number : Fault → Nat
  | .missing => 2
  | .alreadyExists => 17
  | .notADirectory => 20
  | .isADirectory => 21
  | .nameTooLong => 36
  | .linkLoop => 40
  | .nullCharacter => 0

def reason : Fault → Text
  | .missing => "No such file or directory".toList
  | .alreadyExists => "File exists".toList
  | .notADirectory => "Not a directory".toList
  | .isADirectory => "Is a directory".toList
  | .nameTooLong => "File name too long".toList
  | .linkLoop => "Too many levels of symbolic links".toList
  | .nullCharacter => "embedded null byte".toList

/-- Does the fault only say that there is nothing at the path? -/
def meansAbsent : Fault → Bool
  | .missing | .notADirectory | .linkLoop | .nullCharacter => true
  | .isADirectory | .alreadyExists | .nameTooLong => false

end Fault

structure Error where
  fault : Fault
  path : Text
  deriving DecidableEq, Repr

def Error.message (e : Error) : Text :=
  match e.fault with
  | .nullCharacter => e.fault.reason
  | fault =>
    "[Errno ".toList ++ Text.ofNat fault.number ++ "] ".toList ++ fault.reason ++ ": ".toList ++
      e.path.quoted

end AssetAudit.Files
