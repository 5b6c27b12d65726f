import AssetAudit.Proofs.Files.Writing

/-!
# Where a file can be saved

Saving makes the directories that are missing. Where the directory is there already nothing has to be
made, and a file is taken wherever there is nothing or another file.
-/
namespace AssetAudit

namespace FilePath

variable {p : FilePath}

theorem child_parent (h : p.parts ≠ []) : p.parent.child p.name = p :=
  congrArg (FilePath.mk p.root) (dropLast_append_name h)

theorem fits_parent (h : p.fits = true) : p.parent.fits = true := by
  by_cases hParts : p.parts = []
  · rwa [parent_eq_self hParts]
  · rw [← child_parent hParts] at h
    exact fits_of_child h

theorem hasNull_parent (h : p.hasNull = false) : p.parent.hasNull = false := by
  rw [Bool.eq_false_iff, ne_eq, hasNull_iff, not_or] at h ⊢
  refine ⟨h.1, ?_⟩
  rintro ⟨part, hMem, hNull⟩
  exact h.2 ⟨part, List.dropLast_subset _ hMem, hNull⟩

end FilePath

namespace Files.Tree

variable {tree : Tree} {path : FilePath} {place : List Text}

/-- A file can come to stand at a path: its directory is there, and in it nothing or a file has its
name. -/
structure Takes (tree : Tree) (path : FilePath) : Prop where
  spelled : path.IsSpelled
  null : path.hasNull = false
  fits : path.fits = true
  part : FilePath.isPart path.name = true
  down : path.name ≠ ['.', '.']
  short : isLongName path.name = false
  free : ∃ place entries, tree.holder path = .ok (place, entries) ∧
    ∀ child, (Node.directory entries).child? path.name = some child → ∃ data, child = .file data

/-- The last component of a path that leads somewhere is the name of an entry. -/
theorem exists_child_of_reaches {root : Node} {n : Nat} {start : List Text} {name : Text}
    (hPart : FilePath.isPart name = true) (hDown : name ≠ ['.', '.'])
    (h : Reaches root n start [name] place []) : ∃ entries child,
      root.at? start = some (.directory entries) ∧ isLongName name = false ∧
        (Node.directory entries).child? name = some child := by
  have hNamed := not_or.mpr ((FilePath.isPart_iff name).mp hPart)
  cases h with
  | step hLeads _ =>
    cases hLeads with
    | stay _ hSame => exact absurd hSame hNamed
    | up _ hUp => exact absurd hUp hDown
    | down hAt _ _ hShort hChild _ => exact ⟨_, _, hAt, hShort, hChild⟩
  | link hLink _ =>
    obtain ⟨entries, hAt⟩ := hLink.directory
    have hThere := hLink.link
    rw [at?_append_singleton hAt] at hThere
    exact ⟨entries, _, hAt, hLink.short, hThere⟩

theorem makeOne_eq_error (hSpelled : path.IsSpelled) (h : tree.locate path = .ok place) :
    tree.makeOne path = .error .alreadyExists := by
  unfold makeOne
  split
  · rw [h]
    rfl
  · rename_i hName
    obtain ⟨hParts, hDown⟩ : path.parts ≠ [] ∧ path.name ≠ ['.', '.'] := by simpa using hName
    obtain ⟨hNull, hFits, -⟩ := (locate_eq_ok_iff ..).mp h
    obtain ⟨n, hEnough, hWay⟩ := reaches_of_locate h
    -- The way to the directory goes through its parent, where its name is taken.
    rw [parts_join_parent _ hParts] at hWay
    obtain ⟨i, j, middle, rfl, hUpper, hLast⟩ := hWay.exists_middle
    have hPart : FilePath.isPart path.name = true := by
      refine (hSpelled.parts _ ?_).1
      rw [← FilePath.dropLast_append_name hParts]
      exact List.mem_append_right _ List.mem_cons_self
    obtain ⟨entries, child, hAt, hShort, hChild⟩ := exists_child_of_reaches hPart hDown hLast
    have hLocate : tree.locate path.parent = .ok middle :=
      (locate_eq_ok_iff ..).mpr ⟨FilePath.hasNull_parent hNull, FilePath.fits_parent hFits,
        hUpper.follow_eq_ok (by omega)⟩
    rw [(holder_eq_ok_iff ..).mpr ⟨hLocate, hAt⟩]
    change (if isLongName path.name then Except.error Fault.nameTooLong else _) = _
    rw [hShort, hChild]
    rfl

theorem makeDirectories_eq_self (hSpelled : path.IsSpelled) (h : tree.isDirectory path = .ok true) :
    tree.makeDirectories path = .ok tree := by
  obtain ⟨place, entries, hLocate, -⟩ := exists_place_of_isDirectory h
  unfold makeDirectories makeUpTo
  rw [makeOne_eq_error hSpelled hLocate]
  change tree.toleratePresent path .alreadyExists = _
  unfold toleratePresent
  rw [h]

/-- A file is written at every path that takes one. -/
theorem Takes.write (h : tree.Takes path) (data : List UInt8) :
    ∃ saved, tree.write path data = .ok saved := by
  obtain ⟨place, entries, hHolder, hFree⟩ := h.free
  obtain ⟨hLocate, hAt⟩ := (holder_eq_ok_iff ..).mp hHolder
  have hNamed := not_or.mpr ((FilePath.isPart_iff _).mp h.part)
  have hParts : path.parts ≠ [] := by
    intro hNone
    have hPart := h.part
    rw [FilePath.name, hNone] at hPart
    cases hPart
  obtain ⟨n, hEnough, hUpper⟩ := reaches_of_locate hLocate
  have hWay := hUpper.append [path.name]
  rw [← parts_join_parent _ hParts] at hWay
  suffices hThrough : ∃ saved, tree.writeThrough data mostLinks path = .ok saved by
    obtain ⟨saved, hThrough⟩ := hThrough
    exact ⟨saved, by rw [Tree.write, hThrough]⟩
  unfold mostLinks writeThrough
  cases hChild : (Node.directory entries).child? path.name with
  | none =>
    have hLacks : Lacks tree.root place path.name :=
      ⟨⟨⟨entries, hAt⟩, hNamed, h.down, h.short⟩, by rw [at?_append_singleton hAt, hChild]⟩
    have hMissing : tree.locate path = .error .missing := by
      rw [locate_eq, h.null, h.fits]
      change follow tree.root mostLinks [] (tree.cwd.join path).parts = _
      rw [hWay.follow_eq hEnough]
      exact hLacks.follow_cons _ _
    refine ⟨tree.withNode (place ++ [path.name]) (.file data), ?_⟩
    rw [hMissing]
    refine (Outcome.bind_eq_ok_iff _ _ _).mpr ⟨(place, entries), hHolder, ?_⟩
    dsimp only
    rw [hChild]
    rfl
  | some child =>
    obtain ⟨old, rfl⟩ := hFree child hChild
    have hNoLink : ∀ target, Node.file old ≠ .link target := by rintro target ⟨⟩
    have hLeads := Leads.down hAt hNamed h.down h.short hChild hNoLink
    have hThere : tree.locate path = .ok (place ++ [path.name]) :=
      (locate_eq_ok_iff ..).mpr
        ⟨h.null, h.fits, (hWay.trans (.step hLeads (.here _ _))).follow_eq_ok hEnough⟩
    refine ⟨tree.withNode (place ++ [path.name]) (.file data), ?_⟩
    rw [hThere]
    dsimp only
    rw [at?_append_singleton hAt, hChild]

theorem Takes.exists_save (h : tree.Takes path) (data : List UInt8) :
    ∃ saved, tree.save path data = .ok saved := by
  obtain ⟨place, entries, hHolder, -⟩ := h.free
  obtain ⟨hLocate, hAt⟩ := (holder_eq_ok_iff ..).mp hHolder
  have hParent : path.parent.IsSpelled :=
    ⟨h.spelled.root, fun part hMem => h.spelled.parts part (List.dropLast_subset _ hMem)⟩
  have hDirectory : tree.isDirectory path.parent = .ok true := isDirectory_eq_ok hLocate hAt
  obtain ⟨saved, hSaved⟩ := h.write data
  refine ⟨saved, ?_⟩
  unfold save
  rw [makeDirectories_eq_self hParent hDirectory]
  exact hSaved

theorem node_of_save {data : List UInt8} {saved : Tree} (h : tree.save path data = .ok saved) :
    saved.node path = .ok (.file data) := by
  obtain ⟨above, -, hWrite⟩ := (Outcome.bind_eq_ok_iff _ _ _).mp h
  exact node_of_write hWrite

end Files.Tree

end AssetAudit
