import AssetAudit.Files.Collect
import AssetAudit.Proofs.Files.Places
import AssetAudit.Proofs.Text.Sort
import Mathlib.Data.List.Nodup

/-!
# What a walk meets

A walk stays below the directory that it starts from, and below one directory no two names are the
same. So a walk meets no path twice, and no file is collected twice.
-/
namespace AssetAudit

def FilePath.Contains (directory path : FilePath) : Prop :=
  path.root = directory.root ∧ directory.parts <+: path.parts

namespace FilePath

theorem Contains.refl (p : FilePath) : p.Contains p :=
  ⟨rfl, List.prefix_rfl⟩

theorem contains_child (p : FilePath) (name : Text) : p.Contains (p.child name) :=
  ⟨rfl, List.prefix_append _ _⟩

theorem Contains.trans {p q r : FilePath} (h : p.Contains q) (h' : q.Contains r) : p.Contains r :=
  ⟨h'.1.trans h.1, h.2.trans h'.2⟩

theorem child_injective (p : FilePath) : Function.Injective p.child := by
  intro a b h
  simpa [child] using h

/-- No path lies below two entries of a directory. -/
theorem eq_of_contains {directory path a b : FilePath} {names : List Text}
    (hA : a ∈ names.map directory.child) (hB : b ∈ names.map directory.child)
    (hPathA : a.Contains path) (hPathB : b.Contains path) : a = b := by
  obtain ⟨n, -, rfl⟩ := List.mem_map.mp hA
  obtain ⟨k, -, rfl⟩ := List.mem_map.mp hB
  have hLength : (directory.child n).parts.length = (directory.child k).parts.length := by
    simp [child]
  have hPrefix := List.prefix_of_prefix_length_le hPathA.2 hPathB.2 (Nat.le_of_eq hLength)
  have hParts := hPrefix.eq_of_length hLength
  exact congrArg (FilePath.mk directory.root) hParts

end FilePath

namespace Files

def Node.WellNamed (node : Node) : Prop :=
  ∀ place entries, node.at? place = some (.directory entries) → (entries.map (·.1)).Nodup

namespace Tree

variable {tree : Tree}

theorem exists_names_eq {path : FilePath} {names : List Text} (h : tree.names path = .ok names) :
    ∃ place entries, tree.root.at? place = some (.directory entries) ∧
      names = Text.sort (entries.map (·.1)) := by
  unfold Tree.names at h
  cases hNode : tree.node path with
  | error fault =>
    rw [hNode] at h
    cases h
  | ok found =>
    obtain ⟨place, -, hAt⟩ := (node_eq_ok_iff ..).mp hNode
    rw [hNode] at h
    cases found with
    | file data => cases h
    | link target => cases h
    | directory entries => exact ⟨place, entries, hAt, (Except.ok.inj h).symm⟩

theorem nodup_names (h : tree.root.WellNamed) {path : FilePath} {names : List Text}
    (hNames : tree.names path = .ok names) : names.Nodup := by
  obtain ⟨place, entries, hAt, rfl⟩ := exists_names_eq hNames
  exact (Text.sort_perm _).nodup_iff.mpr (h place entries hAt)

def leadsToDirectory (tree : Tree) (path : FilePath) : Bool :=
  match tree.isDirectory path with
  | .ok answer => answer
  | .error _ => false

end Tree

variable {tree : Tree} {c : Collector} {wanted : List Text} {root : FilePath}

theorem kinds_eq {entries : List FilePath} {kinds : List (FilePath × Bool)}
    (h : (entries.mapM fun path => (tree.isDirectory path).map (path, ·)) = .ok kinds) :
    kinds = entries.map fun path => (path, tree.leadsToDirectory path) := by
  rw [Outcome.mapM_eq_ok_iff] at h
  induction entries generalizing kinds with
  | nil => exact (List.map_eq_nil_iff.mp h.symm)
  | cons path rest ih =>
    cases kinds with
    | nil => cases h
    | cons kind kinds =>
      obtain ⟨hKind, hRest⟩ := List.cons.inj h
      rw [List.map_cons, ← ih hRest, List.cons.injEq, and_iff_left rfl]
      dsimp only at hKind
      unfold Tree.leadsToDirectory
      cases hAnswer : tree.isDirectory path with
      | error e =>
        rw [hAnswer] at hKind
        cases hKind
      | ok answer =>
        rw [hAnswer] at hKind
        exact (Except.ok.inj hKind).symm

/-- The entries of a directory, told apart by whether they lead to directories. -/
theorem listing_spec {directory : FilePath} {directories others : List FilePath}
    (h : listing tree directory = .ok (directories, others)) :
    ∃ names, tree.names directory = .ok names ∧
      directories = (names.map directory.child).filter tree.leadsToDirectory ∧
      others = (names.map directory.child).filter fun p => !tree.leadsToDirectory p := by
  obtain ⟨names, hNames, h⟩ := (Outcome.bind_eq_ok_iff _ _ _).mp h
  obtain ⟨kinds, hKinds, h⟩ := (Outcome.bind_eq_ok_iff _ _ _).mp h
  obtain ⟨rfl, rfl⟩ := Prod.mk.inj (Except.ok.inj h)
  refine ⟨names, hNames, ?_⟩
  rw [kinds_eq hKinds]
  generalize names.map directory.child = entries
  rw [List.filter_map, List.filter_map, List.map_map, List.map_map]
  exact ⟨List.map_id _, List.map_id _⟩

def Visit.path : Visit → FilePath
  | .file path => path
  | .unreadable directory _ => directory

theorem contains_of_mem_walkFrom {fuel : Nat} {directory : FilePath} {visit : Visit}
    (h : visit ∈ walkFrom tree c wanted root fuel directory) : directory.Contains visit.path := by
  induction fuel generalizing directory with
  | zero => cases h
  | succ fuel ih =>
    unfold walkFrom at h
    cases hListing : listing tree directory with
    | error e =>
      rw [hListing] at h
      obtain rfl := List.mem_singleton.mp h
      exact FilePath.Contains.refl directory
    | ok kinds =>
      rw [hListing] at h
      obtain ⟨names, -, hDirectories, hOthers⟩ := listing_spec hListing
      rcases List.mem_append.mp h with hBelow | hHere
      · obtain ⟨next, hNext, hVisit⟩ := List.mem_flatMap.mp hBelow
        rw [hDirectories] at hNext
        have hEntry := List.mem_of_mem_filter (List.mem_of_mem_filter hNext)
        obtain ⟨name, -, rfl⟩ := List.mem_map.mp hEntry
        exact (FilePath.contains_child directory name).trans (ih hVisit)
      · obtain ⟨path, hPath, rfl⟩ := List.mem_map.mp hHere
        rw [hOthers] at hPath
        have hEntry := List.mem_of_mem_filter (List.mem_of_mem_filter hPath)
        obtain ⟨name, -, rfl⟩ := List.mem_map.mp hEntry
        exact FilePath.contains_child directory name

theorem contains_of_mem_paths {fuel : Nat} {directory path : FilePath}
    (h : path ∈ (walkFrom tree c wanted root fuel directory).map Visit.path) :
    directory.Contains path := by
  obtain ⟨visit, hVisit, rfl⟩ := List.mem_map.mp h
  exact contains_of_mem_walkFrom hVisit

theorem nodup_walkFrom (h : tree.root.WellNamed) (fuel : Nat) (directory : FilePath) :
    ((walkFrom tree c wanted root fuel directory).map Visit.path).Nodup := by
  induction fuel generalizing directory with
  | zero => exact List.nodup_nil
  | succ fuel ih =>
    unfold walkFrom
    cases hListing : listing tree directory with
    | error e => exact List.nodup_singleton _
    | ok kinds =>
      obtain ⟨directories, others⟩ := kinds
      obtain ⟨names, hNames, hDirectories, hOthers⟩ := listing_spec hListing
      have hEntries : (names.map directory.child).Nodup :=
        (Tree.nodup_names h hNames).map (FilePath.child_injective directory)
      have hWalked : ∀ d ∈ directories.filter fun d => !c.isExcluded (below root d),
          d ∈ names.map directory.child ∧ tree.leadsToDirectory d = true := by
        intro d hMem
        exact List.mem_filter.mp (hDirectories ▸ List.mem_of_mem_filter hMem)
      have hGiven : ∀ path ∈ others.filter (isWanted wanted),
          path ∈ names.map directory.child ∧ (!tree.leadsToDirectory path) = true := by
        intro path hMem
        exact List.mem_filter.mp (hOthers ▸ List.mem_of_mem_filter hMem)
      dsimp only
      rw [List.map_append, List.map_flatMap, List.map_map, List.nodup_append', List.nodup_flatMap]
      refine ⟨⟨fun next _ => ih next, ?_⟩, ?_, ?_⟩
      -- the walks of two directories share no path, and none meets a file given here
      · have hDistinct : (directories.filter fun d => !c.isExcluded (below root d)).Nodup :=
          (hDirectories ▸ hEntries.filter _ : directories.Nodup).filter _
        refine hDistinct.imp_of_mem fun {a b} hA hB hNe path hPathA hPathB => ?_
        exact hNe (FilePath.eq_of_contains (hWalked a hA).1 (hWalked b hB).1
          (contains_of_mem_paths hPathA) (contains_of_mem_paths hPathB))
      · have hDistinct : (others.filter (isWanted wanted)).Nodup :=
          (hOthers ▸ hEntries.filter _ : others.Nodup).filter _
        exact (List.map_id _).symm ▸ hDistinct
      · intro path hVisited hFile
        obtain ⟨next, hNext, hPath⟩ := List.mem_flatMap.mp hVisited
        rw [show Visit.path ∘ Visit.file = id from rfl, List.map_id] at hFile
        have hSame : next = path := FilePath.eq_of_contains (hWalked next hNext).1
          (hGiven path hFile).1 (contains_of_mem_paths hPath) (FilePath.Contains.refl path)
        have hLeads := (hWalked next hNext).2
        have hNot := (hGiven path hFile).2
        rw [← hSame, hLeads] at hNot
        cases hNot

/-- A walk starts from a directory. Elsewhere there is nothing to read. -/
theorem walk_eq_ok_iff {extensions : Value} {visits : List Visit} :
    walk tree c root extensions = .ok visits ↔
      (tree.isDirectory root = .ok true ∧ ∃ wanted, wantedExtensions extensions = .ok wanted ∧
        visits = walkFrom tree c wanted root Tree.longestPath root) ∨
      (tree.isDirectory root = .ok false ∧
        visits = [.unreadable root "not a directory".toList]) := by
  unfold walk
  cases tree.isDirectory root with
  | error e => simp
  | ok isDirectory =>
    cases isDirectory with
    | false => simp [eq_comm]
    | true =>
      dsimp only
      rw [Outcome.bind_eq_ok_iff]
      simp [pure, Except.pure, eq_comm]

theorem nodup_walk (h : tree.root.WellNamed) {directory : FilePath} {extensions : Value}
    {visits : List Visit} (hWalk : walk tree c directory extensions = .ok visits) :
    (visits.map Visit.path).Nodup := by
  obtain ⟨-, wanted, -, rfl⟩ | ⟨-, rfl⟩ := walk_eq_ok_iff.mp hWalk
  · exact nodup_walkFrom h _ _
  · exact List.nodup_singleton _

/-- An asset is a file of the walk that has a size. -/
theorem mem_assetsOf_iff {app : FilePath} {visits : List Visit} {a : Asset} :
    a ∈ (assetsOf tree app visits).value ↔ .file a.path ∈ visits ∧ tree.size a.path = .ok a.size ∧
      a.relative = ((a.path.relativeTo? app).getD a.path).text := by
  induction visits with
  | nil => exact iff_of_false List.not_mem_nil fun h => List.not_mem_nil h.1
  | cons visit rest ih =>
    have hValue : (assetsOf tree app (visit :: rest)).value =
        (assetOf tree app visit).value.toList ++ (assetsOf tree app rest).value := rfl
    have hAsset : a ∈ (assetOf tree app visit).value.toList ↔ visit = .file a.path ∧
        tree.size a.path = .ok a.size ∧ a.relative = ((a.path.relativeTo? app).getD a.path).text := by
      rw [Option.mem_toList]
      cases visit with
      | unreadable directory reason => exact iff_of_false nofun fun h => nomatch h.1
      | file path =>
        rw [assetOf]
        constructor
        · intro h
          cases hSize : tree.size path with
          | error e =>
            rw [hSize] at h
            cases h
          | ok size =>
            rw [hSize] at h
            cases h
            exact ⟨rfl, hSize, rfl⟩
        · obtain ⟨given, size, relative⟩ := a
          rintro ⟨hPath, hSize, hRelative⟩
          obtain rfl := Visit.file.inj hPath
          dsimp only at hSize hRelative
          rw [hSize, hRelative]
          rfl
    rw [hValue, List.mem_append, hAsset, ih, List.mem_cons, or_and_right, eq_comm]

theorem assetsOf_sublist (tree : Tree) (app : FilePath) (visits : List Visit) :
    ((assetsOf tree app visits).value.map (·.path)).Sublist (visits.map Visit.path) := by
  induction visits with
  | nil => exact List.Sublist.slnil
  | cons visit rest ih =>
    cases visit with
    | unreadable directory reason => exact ih.cons directory
    | file path =>
      have hValue : (assetsOf tree app (.file path :: rest)).value =
          (assetOf tree app (.file path)).value.toList ++ (assetsOf tree app rest).value := rfl
      rw [hValue]
      cases hSize : tree.size path with
      | error e =>
        have hAsset : (assetOf tree app (.file path)).value = none := by
          rw [assetOf, hSize]
          rfl
        rw [hAsset]
        exact ih.cons path
      | ok size =>
        have hAsset : (assetOf tree app (.file path)).value.map (·.path) = some path := by
          rw [assetOf, hSize]
          rfl
        obtain ⟨asset, hSome, rfl⟩ := Option.map_eq_some_iff.mp hAsset
        rw [hSome]
        exact ih.cons_cons asset.path

theorem nodup_collectAssets (h : tree.root.WellNamed) {directory app : FilePath}
    {extensions : Value} {assets : List Asset}
    (hAssets : (collectAssets tree c directory app extensions).outcome = .ok assets) :
    (assets.map (·.path)).Nodup := by
  obtain ⟨visits, hVisits, hValue⟩ := (Attempt.bind_eq_ok_iff _ _ _).mp hAssets
  cases hValue
  exact (nodup_walk h hVisits).sublist (assetsOf_sublist tree app visits)

end Files

end AssetAudit
