import AssetAudit.Value.Basic

/-!
# Identity of values

Whether two values are the same can be decided. The lists inside a value ask for a procedure that
follows its structure.
-/
namespace AssetAudit.Value

mutual

def decEq (a b : Value) : Decidable (a = b) :=
  match a, b with
  | .scalar s, .scalar t => decidable_of_iff (s = t) (by simp)
  | .list xs, .list ys =>
    haveI := decEqItems xs ys
    decidable_of_iff (xs = ys) (by simp)
  | .tuple xs, .tuple ys =>
    haveI := decEqItems xs ys
    decidable_of_iff (xs = ys) (by simp)
  | .set xs, .set ys => decidable_of_iff (xs = ys) (by simp)
  | .map xs, .map ys =>
    haveI := decEqEntries xs ys
    decidable_of_iff (xs = ys) (by simp)
  | .scalar _, .list _ | .scalar _, .tuple _ | .scalar _, .set _ | .scalar _, .map _
  | .list _, .scalar _ | .list _, .tuple _ | .list _, .set _ | .list _, .map _
  | .tuple _, .scalar _ | .tuple _, .list _ | .tuple _, .set _ | .tuple _, .map _
  | .set _, .scalar _ | .set _, .list _ | .set _, .tuple _ | .set _, .map _
  | .map _, .scalar _ | .map _, .list _ | .map _, .tuple _ | .map _, .set _ => isFalse nofun

def decEqItems (xs ys : List Value) : Decidable (xs = ys) :=
  match xs, ys with
  | [], [] => isTrue rfl
  | x :: xs, y :: ys =>
    haveI := decEq x y
    haveI := decEqItems xs ys
    decidable_of_iff (x = y ∧ xs = ys) (by simp)
  | [], _ :: _ | _ :: _, [] => isFalse nofun

def decEqEntries (xs ys : List (Scalar × Value)) : Decidable (xs = ys) :=
  match xs, ys with
  | [], [] => isTrue rfl
  | (k, v) :: xs, (l, w) :: ys =>
    haveI := decEq v w
    haveI := decEqEntries xs ys
    decidable_of_iff (k = l ∧ v = w ∧ xs = ys) (by simp [and_assoc])
  | [], _ :: _ | _ :: _, [] => isFalse nofun

end

instance : DecidableEq Value := decEq

end AssetAudit.Value
