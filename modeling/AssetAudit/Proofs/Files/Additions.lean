import AssetAudit.Proofs.Files.Growth

/-!
# Walks of a tree with one more file

In a tree without links a walk finds what it found before and at most one file with it, when a file
is put where nothing was.
-/
namespace AssetAudit.Files

/-- Is the path short enough that a walk from `path` comes to a place by? -/
def Tree.Spells (tree : Tree) (path : FilePath) (place : List Text) : Prop :=
  ∀ base way, tree.locate path = .ok base → base ++ way = place → (path.descend way).fits = true

/-- A path leads to nothing that was there before, unless it led there before. -/
def NothingOld (before after : Tree) (path : FilePath) : Prop :=
  ∀ base, after.locate path = .ok base →
    before.locate path = .ok base ∨ before.root.at? base = none

structure Grows {α : Type} (nothing : Prop) (before after : List α) : Prop where
  sublist : before.Sublist after
  eq_of : nothing → before = after

namespace Grows

variable {α : Type} {nothing : Prop}

theorem refl (l : List α) : Grows nothing l l :=
  ⟨.refl l, fun _ => rfl⟩

theorem append {l l' m m' : List α} (h : Grows nothing l l') (h' : Grows nothing m m') :
    Grows nothing (l ++ m) (l' ++ m') :=
  ⟨h.sublist.append h'.sublist, fun hNone => congrArg₂ (· ++ ·) (h.eq_of hNone) (h'.eq_of hNone)⟩

theorem flatMap {β : Type} {f g : β → List α} (h : ∀ b, Grows nothing (f b) (g b)) (l : List β) :
    Grows nothing (l.flatMap f) (l.flatMap g) := by
  induction l with
  | nil => exact refl []
  | cons b rest ih => exact (h b).append ih

end Grows

section

variable {c : Collector} {wanted : List Text} {root : FilePath}

theorem filesIn_empty (fuel : Nat) (directory : FilePath) :
    filesIn c wanted root fuel (.directory []) directory = [] := by
  cases fuel with
  | zero => rfl
  | succ fuel => rfl

variable {place : List Text} {data : List UInt8}

/-- One of the names of a directory that a file is put into is that of the file itself, or leads
to a directory that the file is put into. -/
theorem child?_of_free {entries : List (Text × Node)} {name : Text} {rest : List Text}
    (h : (Node.directory entries).Free (name :: rest)) :
    (rest = [] ∧ (Node.directory entries).child? name = none) ∨
      ∃ inside, ((Node.directory entries).child? name).getD (.directory []) = .directory inside ∧
        (Node.directory inside).Free rest := by
  cases hChild : (Node.directory entries).child? name with
  | none =>
    cases rest with
    | nil => exact .inl ⟨rfl, rfl⟩
    | cons k rest => exact .inr ⟨[], rfl, Node.free_empty k rest⟩
  | some child =>
    have hFree := h.2 child hChild
    cases rest with
    | nil => exact absurd hFree (Node.not_free_nil child)
    | cons k rest =>
      obtain ⟨inside, rfl⟩ := hFree.1
      exact .inr ⟨inside, rfl, hFree⟩

theorem filesBelow_eq {walk : Node → FilePath → List Found} {node : Node} {directory : FilePath}
    {name : Text} {inside : List (Text × Node)}
    (h : (node.child? name).getD (.directory []) = .directory inside)
    (hEmpty : walk (.directory []) (directory.child name) = []) :
    filesBelow c root walk node directory name =
      if c.isExcluded (below root (directory.child name)) then []
      else walk (.directory inside) (directory.child name) := by
  unfold filesBelow
  cases hChild : node.child? name with
  | none =>
    rw [hChild] at h
    obtain rfl : [] = inside := Node.directory.inj h
    simp [hEmpty]
  | some child =>
    rw [hChild] at h
    obtain rfl : child = .directory inside := h
    rfl

/-- What is gathered name by name grows as what is gathered for the new name does. -/
theorem grows_flatMap_names {nothing : Prop} {node : Node} {f g : Text → List Found} {k : Text}
    {rest : List Text} (hNone : node.child? k = none → f k = [])
    (hOther : ∀ name, name ≠ k → f name = g name) (hNew : Grows nothing (f k) (g k)) :
    Grows nothing (node.names.flatMap f)
      ((node.put (.file data) (k :: rest)).names.flatMap g) := by
  rw [Node.flatMap_names_put (.file data) f rest hNone]
  refine Grows.flatMap (fun name => ?_) _
  by_cases hName : name = k
  · exact hName ▸ hNew
  · rw [hOther name hName]
    exact Grows.refl _

theorem grows_filesBelow {nothing : Prop} {walk : Node → FilePath → List Found}
    {entries : List (Text × Node)} {directory : FilePath} {k : Text} {rest : List Text}
    (hFree : (Node.directory entries).Free (k :: rest))
    (hEmpty : walk (.directory []) (directory.child k) = [])
    (hWalk : ∀ inside, (Node.directory inside).Free rest →
      Grows nothing (walk (.directory inside) (directory.child k))
        (walk ((Node.directory inside).put (.file data) rest) (directory.child k))) :
    Grows nothing (filesBelow c root walk (.directory entries) directory k)
      (filesBelow c root walk ((Node.directory entries).put (.file data) (k :: rest))
        directory k) := by
  rcases child?_of_free hFree with ⟨rfl, hNone⟩ | ⟨inside, hInside, hFreeInside⟩
  · unfold filesBelow
    rw [Node.child?_put, if_pos rfl, hNone]
    exact Grows.refl []
  · obtain ⟨later, hLater⟩ :=
      Node.exists_put_eq (.directory inside) (.file data) hFreeInside.ne_nil
    have hInsideGrows := hWalk inside hFreeInside
    rw [hLater] at hInsideGrows
    rw [filesBelow_eq hInside hEmpty, filesBelow, Node.child?_put, if_pos rfl, hInside, hLater]
    dsimp only
    split
    · exact Grows.refl []
    · exact hInsideGrows

theorem grows_filesHere {entries : List (Text × Node)} {directory : FilePath} {k : Text}
    {rest : List Text} (hFree : (Node.directory entries).Free (k :: rest)) :
    Grows (isWanted wanted ((directory.child k).descend rest) = false)
      (filesHere wanted (.directory entries) directory k)
      (filesHere wanted ((Node.directory entries).put (.file data) (k :: rest)) directory k) := by
  unfold filesHere
  rw [Node.child?_put, if_pos rfl]
  rcases child?_of_free hFree with ⟨rfl, hNone⟩ | ⟨inside, hInside, hFreeInside⟩
  · -- here the new file itself is found, if it is wanted
    rw [hNone]
    refine ⟨List.nil_sublist _, fun hUnwanted => ?_⟩
    have hPath : (directory.child k).descend [] = directory.child k := by
      simp [FilePath.descend]
    rw [hPath] at hUnwanted
    simp [Node.put, hUnwanted]
  · obtain ⟨later, hLater⟩ :=
      Node.exists_put_eq (.directory inside) (.file data) hFreeInside.ne_nil
    rw [hInside, hLater]
    cases hChild : (Node.directory entries).child? k with
    | none => exact Grows.refl []
    | some child =>
      rw [hChild] at hInside
      obtain rfl : child = .directory inside := hInside
      exact Grows.refl []

variable (c wanted root data) in
/-- What a walk finds in a node that a file is put into. -/
theorem grows_filesIn {node : Node} {directory : FilePath} (hFree : node.Free place)
    (hFits : (directory.descend place).fits = true) (fuel : Nat) :
    Grows (isWanted wanted (directory.descend place) = false)
      (filesIn c wanted root fuel node directory)
      (filesIn c wanted root fuel (node.put (.file data) place) directory) := by
  induction place generalizing node directory fuel with
  | nil => exact absurd hFree (Node.not_free_nil node)
  | cons k rest ih =>
    cases fuel with
    | zero => exact Grows.refl []
    | succ fuel =>
      obtain ⟨entries, rfl⟩ := hFree.1
      rw [← FilePath.descend_child] at hFits ⊢
      have hAll : ((Node.directory entries).put (.file data) (k :: rest)).names.all
            (fun name => (directory.child name).fits) =
          (Node.directory entries).names.all fun name => (directory.child name).fits := by
        have hNew := FilePath.fits_of_descend hFits
        rw [Bool.eq_iff_iff, List.all_eq_true, List.all_eq_true]
        simp [Node.mem_names_put, hNew]
      rw [filesIn, filesIn, hAll]
      split
      · refine Grows.append ?_ ?_
        · refine grows_flatMap_names (fun hNone => by rw [filesBelow, hNone])
            (fun name hName => by
              unfold filesBelow
              rw [Node.child?_put, if_neg hName]) ?_
          exact grows_filesBelow hFree (filesIn_empty fuel _) fun inside hFreeInside =>
            ih hFreeInside hFits fuel
        · refine grows_flatMap_names (fun hNone => by rw [filesHere, hNone])
            (fun name hName => by
              unfold filesHere
              rw [Node.child?_put, if_neg hName]) ?_
          exact grows_filesHere hFree
      · exact Grows.refl []

theorem isWanted_descend (wanted : List Text) (p : FilePath) {base way : List Text}
    (h : way ≠ []) :
    isWanted wanted (p.descend way) = isWanted wanted ⟨['/'], base ++ way⟩ := by
  have hName : (p.descend way).name = FilePath.name ⟨['/'], base ++ way⟩ := by
    rw [← List.dropLast_concat_getLast h, ← List.append_assoc, FilePath.name_descend]
    exact (FilePath.name_descend ⟨['/'], []⟩ _ _).symm
  rw [isWanted, isWanted, FilePath.suffix, FilePath.suffix, hName]

variable {tree : Tree} (hPlain : tree.root.Plain) (hFree : tree.root.Free place)
  (hSpells : (tree.withNode place (.file data)).Spells root place)

include hFree hSpells

/-- Below a place where nothing was, a walk finds at most the new file. -/
theorem filesAt_of_at?_none {extensions : Value} {base : List Text}
    (h : (tree.withNode place (.file data)).locate root = .ok base)
    (hNone : tree.root.at? base = none)
    (hUnwanted : ∀ wanted, wantedExtensions extensions = .ok wanted →
      isWanted wanted ⟨['/'], place⟩ = false) :
    filesAt (tree.withNode place (.file data)) c root extensions = [] := by
  unfold filesAt
  rw [h]
  cases hWanted : wantedExtensions extensions with
  | error e => rfl
  | ok wanted =>
    dsimp only
    split
    · rename_i found hAt
      obtain ⟨way, hPlace, rfl⟩ := Node.at?_put_of_none hFree hNone hAt
      cases way with
      | nil => exact filesIn_of_not_isDirectory rfl _
      | cons name rest =>
        have hGrows := grows_filesIn c wanted root data
          (Node.free_empty name rest) (hSpells _ _ h hPlace) Tree.longestPath
        rw [← hGrows.eq_of, filesIn_empty]
        rw [isWanted_descend wanted root (List.cons_ne_nil name rest), hPlace]
        exact hUnwanted wanted hWanted
    · rfl

theorem grows_of_filesAt_eq_nil {extensions : Value}
    (hNone : ∀ base, (tree.withNode place (.file data)).locate root = .ok base →
      NothingOld tree (tree.withNode place (.file data)) root → tree.root.at? base = none)
    (hEmpty : filesAt tree c root extensions = []) :
    Grows
      (NothingOld tree (tree.withNode place (.file data)) root ∧
        ∀ wanted, wantedExtensions extensions = .ok wanted →
          isWanted wanted ⟨['/'], place⟩ = false)
      (filesAt tree c root extensions)
      (filesAt (tree.withNode place (.file data)) c root extensions) := by
  rw [hEmpty]
  refine ⟨List.nil_sublist _, ?_⟩
  rintro ⟨hNothing, hUnwanted⟩
  cases hLater : (tree.withNode place (.file data)).locate root with
  | error fault =>
    unfold filesAt
    rw [hLater]
  | ok base =>
    exact (filesAt_of_at?_none hFree hSpells hLater (hNone base hLater hNothing) hUnwanted).symm

include hPlain

/-- What a walk finds in a tree with one more file. Nothing comes to it when the file is not wanted
and the walk does not start from something old where it did not start before. -/
theorem grows_filesAt (extensions : Value) :
    Grows
      (NothingOld tree (tree.withNode place (.file data)) root ∧
        ∀ wanted, wantedExtensions extensions = .ok wanted →
          isWanted wanted ⟨['/'], place⟩ = false)
      (filesAt tree c root extensions)
      (filesAt (tree.withNode place (.file data)) c root extensions) := by
  cases hLocate : tree.locate root with
  | error fault =>
    have hEmpty : filesAt tree c root extensions = [] := by
      unfold filesAt
      rw [hLocate]
    refine grows_of_filesAt_eq_nil hFree hSpells (fun base hLater hNothing => ?_) hEmpty
    rcases hNothing base hLater with hBefore | hNone
    · rw [hLocate] at hBefore
      cases hBefore
    · exact hNone
  | ok base =>
    have hLater := Tree.locate_withNode data hPlain hFree hLocate
    cases hAt : tree.root.at? base with
    | none =>
      have hEmpty : filesAt tree c root extensions = [] := by
        unfold filesAt
        rw [hLocate]
        cases wantedExtensions extensions with
        | error e => rfl
        | ok wanted =>
          dsimp only
          rw [hAt]
      refine grows_of_filesAt_eq_nil hFree hSpells (fun other hOther _ => ?_) hEmpty
      obtain rfl := Except.ok.inj (hLater.symm.trans hOther)
      exact hAt
    | some found =>
      unfold filesAt
      rw [hLocate, hLater]
      cases hWanted : wantedExtensions extensions with
      | error e => exact Grows.refl []
      | ok wanted =>
        dsimp only
        rw [hAt]
        rcases Node.at?_put (.file data) hFree hAt with hSame | ⟨way, hPlace, hFreeWay, hMore⟩
        · rw [show (tree.withNode place (.file data)).root.at? base = some found from hSame]
          exact Grows.refl _
        · rw [show (tree.withNode place (.file data)).root.at? base = _ from hMore]
          have hGrows := grows_filesIn c wanted root data
            hFreeWay (hSpells _ _ hLater hPlace) Tree.longestPath
          refine ⟨hGrows.sublist, fun hSame => hGrows.eq_of ?_⟩
          rw [isWanted_descend wanted root hFreeWay.ne_nil, hPlace]
          exact hSame.2 wanted rfl

end

end AssetAudit.Files
