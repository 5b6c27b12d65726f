/-!
# Sets of code points by their boundaries

A set of code points is kept as the increasing array of places where membership changes, so
that a code point belongs to the set exactly when an odd number of boundaries lie at or below it.
-/
namespace AssetAudit.Unicode

/-- How many of the boundaries lie at or below `c`, sought between `lo` and `hi`. -/
def boundariesUpTo (bounds : Array Nat) (c lo hi : Nat) : Nat :=
  if lo < hi then
    if bounds.getD ((lo + hi) / 2) 0 ≤ c then boundariesUpTo bounds c ((lo + hi) / 2 + 1) hi
    else boundariesUpTo bounds c lo ((lo + hi) / 2)
  else lo
termination_by hi - lo

def inBounds (bounds : Array Nat) (c : Nat) : Bool :=
  boundariesUpTo bounds c 0 bounds.size % 2 == 1

end AssetAudit.Unicode
