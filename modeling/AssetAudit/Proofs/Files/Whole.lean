import AssetAudit.Proofs.Files.Contents
import AssetAudit.Proofs.Files.Ways

/-!
# Whole paths

A path that is seen from the working directory has a whole path from the root of all. Both lead to the
same place, but the whole path is longer and may be too long to be asked for.
-/
namespace AssetAudit

namespace FilePath

theorem join_of_isAbsolute (p : FilePath) {q : FilePath} (h : q.isAbsolute = true) :
    p.join q = q :=
  if_pos h

theorem join_join (p q r : FilePath) : (p.join q).join r = p.join (q.join r) := by
  by_cases hr : r.isAbsolute = true
  · rw [join_of_isAbsolute _ hr, join_of_isAbsolute _ hr, join_of_isAbsolute _ hr]
  by_cases hq : q.isAbsolute = true
  · rw [join_of_isAbsolute _ hq, join_of_isAbsolute _ (isAbsolute_join hq)]
  · have hRest : (q.join r).isAbsolute = false := by
      rw [join, if_neg hr]
      exact Bool.eq_false_iff.mpr hq
    rw [join, if_neg hr, join, if_neg hq, join, hRest, if_neg Bool.false_ne_true, join, if_neg hr,
      List.append_assoc]

theorem hasNull_join {cwd p : FilePath} (hCwd : cwd.hasNull = false) (h : p.hasNull = false) :
    (cwd.join p).hasNull = false := by
  rw [Bool.eq_false_iff, ne_eq, hasNull_iff, not_or] at hCwd h ⊢
  unfold join
  split
  · exact h
  · refine ⟨hCwd.1, ?_⟩
    rintro ⟨part, hMem, hNull⟩
    rcases List.mem_append.mp hMem with hMem | hMem
    · exact hCwd.2 ⟨part, hMem, hNull⟩
    · exact h.2 ⟨part, hMem, hNull⟩

theorem ofText_of_part {name : Text} (hPart : isPart name = true) (hSlash : '/' ∉ name) :
    ofText name = ⟨[], [name]⟩ := by
  have hOne : ∀ part ∈ [name], isPart part = true ∧ '/' ∉ part := by
    intro part hMem
    obtain rfl := List.mem_singleton.mp hMem
    exact ⟨hPart, hSlash⟩
  exact IsSpelled.ofText_text (p := ⟨[], [name]⟩) ⟨.inl rfl, hOne⟩

theorem join_ofText_of_part (p : FilePath) {name : Text} (hPart : isPart name = true)
    (hSlash : '/' ∉ name) : p.join (.ofText name) = p.child name := by
  rw [ofText_of_part hPart hSlash]
  rfl

end FilePath

namespace Files

namespace Node

def Proper (node : Node) : Prop :=
  ∀ place entries, node.at? place = some (.directory entries) → (entries.map (·.1)).Nodup ∧
    ∀ name ∈ entries.map (·.1), FilePath.isPart name = true ∧ '/' ∉ name

mutual

def isProper : Node → Bool
  | .file _ | .link _ => true
  | .directory entries => decide (entries.map (·.1)).Nodup && areProper entries

def areProper : List (Text × Node) → Bool
  | [] => true
  | (name, node) :: rest =>
    (FilePath.isPart name && decide ('/' ∉ name)) && node.isProper && areProper rest

end

theorem areProper_iff (entries : List (Text × Node)) :
    areProper entries = true ↔ ∀ entry ∈ entries,
      (FilePath.isPart entry.1 = true ∧ '/' ∉ entry.1) ∧ entry.2.isProper = true := by
  induction entries with
  | nil => exact iff_of_true rfl nofun
  | cons entry rest ih =>
    obtain ⟨name, node⟩ := entry
    rw [areProper, List.forall_mem_cons, ← ih, Bool.and_eq_true, Bool.and_eq_true,
      Bool.and_eq_true, decide_eq_true_iff]

theorem isProper_at? {node found : Node} {place : List Text} (h : node.isProper = true)
    (hAt : node.at? place = some found) : found.isProper = true := by
  refine inherited_at? (P := (·.isProper = true)) (fun entries h entry hMem => ?_) h hAt
  exact ((areProper_iff entries).mp ((Bool.and_eq_true _ _).mp h).2 entry hMem).2

theorem proper_of_isProper {node : Node} (h : node.isProper = true) : node.Proper := by
  intro place entries hAt
  obtain ⟨hDistinct, hEntries⟩ := (Bool.and_eq_true _ _).mp (isProper_at? h hAt)
  refine ⟨of_decide_eq_true hDistinct, List.forall_mem_map.mpr fun entry hMem => ?_⟩
  exact ((areProper_iff entries).mp hEntries entry hMem).1

end Node

namespace Tree

/-- A tree as a file system has it, seen from a directory that has a whole path. -/
structure IsReal (tree : Tree) : Prop where
  proper : tree.root.Proper
  start : tree.cwd.isAbsolute = true
  null : tree.cwd.hasNull = false

variable {tree : Tree} {path : FilePath}

theorem isDirectory_of_not_fits (hNull : path.hasNull = false) (h : path.fits = false) :
    tree.isDirectory path = .error ⟨.nameTooLong, path.text⟩ := by
  unfold Tree.isDirectory holds Tree.node
  rw [locate_eq, hNull, h]
  rfl

theorem fits_of_isDirectory (h : tree.isDirectory path = .ok true) : path.fits = true := by
  obtain ⟨place, entries, hLocate, -⟩ := exists_place_of_isDirectory h
  exact ((locate_eq_ok_iff ..).mp hLocate).2.1

theorem isDirectory_absolute (hReal : tree.IsReal) (h : tree.isDirectory path = .ok true) :
    tree.isDirectory (tree.cwd.join path) =
      if (tree.cwd.join path).fits then .ok true
      else .error ⟨.nameTooLong, (tree.cwd.join path).text⟩ := by
  obtain ⟨place, entries, hLocate, hAt⟩ := exists_place_of_isDirectory h
  obtain ⟨hNull, -, hFollow⟩ := (locate_eq_ok_iff ..).mp hLocate
  have hWhole : (tree.cwd.join path).hasNull = false := FilePath.hasNull_join hReal.null hNull
  by_cases hFits : (tree.cwd.join path).fits = true
  · rw [if_pos hFits]
    refine isDirectory_eq_ok ((locate_eq_ok_iff ..).mpr ⟨hWhole, hFits, ?_⟩) hAt
    rw [FilePath.join_of_isAbsolute _ (FilePath.isAbsolute_join hReal.start)]
    exact hFollow
  · rw [if_neg hFits]
    exact isDirectory_of_not_fits hWhole (Bool.eq_false_iff.mpr hFits)

end Tree

end Files

end AssetAudit
