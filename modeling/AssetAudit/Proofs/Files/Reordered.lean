import AssetAudit.Proofs.Files.Walk
import AssetAudit.Proofs.Files.Ways

/-!
# Directories in any order

Two trees that differ in the order of their entries alone have the same entries at every place. So every
path leads to the same place in both, their directories have the same sorted names, and a walk meets
the same paths.
-/
namespace AssetAudit.Files

namespace Node

inductive SameEntry : Option Node → Option Node → Prop
  | same (found : Option Node) : SameEntry found found
  | directory {xs ys : List (Text × Node)} (h : (xs.map (·.1)).Perm (ys.map (·.1))) :
      SameEntry (some (.directory xs)) (some (.directory ys))

/-- The same tree, with every directory in any order. -/
def Reordered (a b : Node) : Prop :=
  ∀ place, SameEntry (a.at? place) (b.at? place)

end Node

namespace Tree

variable {a b : Node} {onA onB : List Text → List Text → Except Fault (List Text)}

theorem followUntil_reordered (h : a.Reordered b) (hLink : ∀ start rest, onA start rest = onB start rest)
    (start rest : List Text) : followUntil a onA start rest = followUntil b onB start rest := by
  induction rest generalizing start with
  | nil => rfl
  | cons component rest ih =>
    have hInside : ∀ {xs ys}, a.at? start = some (.directory xs) → b.at? start = some (.directory ys) →
        Node.SameEntry ((Node.directory xs).child? component) ((Node.directory ys).child? component) := by
      intro xs ys hA hB
      rw [← at?_append_singleton hA, ← at?_append_singleton hB]
      exact h _
    have hHere := h start
    rw [followUntil, followUntil]
    generalize a.at? start = found at hHere hInside ⊢
    generalize b.at? start = other at hHere hInside ⊢
    simp only [ih, hLink]
    cases hHere with
    | same found =>
      cases found with
      | none => rfl
      | some node =>
        cases node with
        | file data => rfl
        | link target => rfl
        | directory xs => rfl
    | @directory xs ys hPerm =>
      have hChild := hInside rfl rfl
      dsimp only
      generalize (Node.directory xs).child? component = child at hChild ⊢
      generalize (Node.directory ys).child? component = twin at hChild ⊢
      cases hChild with
      | same => rfl
      | directory => rfl

theorem follow_reordered (h : a.Reordered b) (k : Nat) (start rest : List Text) :
    follow a k start rest = follow b k start rest := by
  induction k generalizing start rest with
  | zero => exact followUntil_reordered h (fun _ _ => rfl) start rest
  | succ k ih => exact followUntil_reordered h ih start rest

variable {tree other : Tree}

theorem locate_reordered (h : tree.root.Reordered other.root) (hCwd : other.cwd = tree.cwd)
    (path : FilePath) : tree.locate path = other.locate path := by
  unfold locate
  rw [follow_reordered h, hCwd]

theorem sameNode_reordered (h : tree.root.Reordered other.root) (hCwd : other.cwd = tree.cwd)
    (path : FilePath) : (∃ fault, tree.node path = .error fault ∧ other.node path = .error fault) ∨
      ∃ a b, tree.node path = .ok a ∧ other.node path = .ok b ∧ Node.SameEntry (some a) (some b) := by
  unfold Tree.node
  rw [locate_reordered h hCwd]
  cases other.locate path with
  | error fault => exact .inl ⟨fault, rfl, rfl⟩
  | ok place =>
    have hHere := h place
    dsimp only [bind, Except.bind]
    generalize tree.root.at? place = found at hHere
    generalize other.root.at? place = twin at hHere
    cases hHere with
    | same found =>
      cases found with
      | none => exact .inl ⟨.missing, rfl, rfl⟩
      | some node => exact .inr ⟨node, node, rfl, rfl, .same _⟩
    | directory hPerm => exact .inr ⟨_, _, rfl, rfl, .directory hPerm⟩

theorem isDirectory_reordered (h : tree.root.Reordered other.root) (hCwd : other.cwd = tree.cwd)
    (path : FilePath) : tree.isDirectory path = other.isDirectory path := by
  unfold Tree.isDirectory holds
  rcases sameNode_reordered h hCwd path with ⟨fault, hTree, hOther⟩ | ⟨a, b, hTree, hOther, hSame⟩
  · rw [hTree, hOther]
  · rw [hTree, hOther]
    cases hSame with
    | same => rfl
    | directory => rfl

theorem names_reordered (h : tree.root.Reordered other.root) (hCwd : other.cwd = tree.cwd)
    (path : FilePath) : tree.names path = other.names path := by
  unfold Tree.names
  rcases sameNode_reordered h hCwd path with ⟨fault, hTree, hOther⟩ | ⟨a, b, hTree, hOther, hSame⟩
  · rw [hTree, hOther]
  · rw [hTree, hOther]
    cases hSame with
    | same => rfl
    | directory hPerm => exact congrArg Except.ok (Text.sort_eq_of_perm hPerm)

end Tree

variable {tree other : Tree} {c : Collector} {wanted : List Text} {root : FilePath}

theorem walkFrom_reordered (h : tree.root.Reordered other.root) (hCwd : other.cwd = tree.cwd)
    (fuel : Nat) (directory : FilePath) :
    walkFrom tree c wanted root fuel directory = walkFrom other c wanted root fuel directory := by
  induction fuel generalizing directory with
  | zero => rfl
  | succ fuel ih =>
    have hListing : listing tree directory = listing other directory := by
      unfold listing
      simp only [Tree.names_reordered h hCwd, Tree.isDirectory_reordered h hCwd]
    rw [walkFrom, walkFrom, hListing, funext ih]

/-- A walk is the same in whatever order directories list their entries. -/
theorem walk_reordered (h : tree.root.Reordered other.root) (hCwd : other.cwd = tree.cwd)
    (directory : FilePath) (extensions : Value) :
    walk tree c directory extensions = walk other c directory extensions := by
  unfold walk
  simp only [Tree.isDirectory_reordered h hCwd, walkFrom_reordered h hCwd]

end AssetAudit.Files
