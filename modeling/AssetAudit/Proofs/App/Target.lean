import AssetAudit.App.Target
import AssetAudit.Proofs.Files.Contents
import AssetAudit.Proofs.Files.Ways

/-!
# What a target selects

A target that is the word for all apps selects all of them. Any other target whose path leads to a
directory selects that directory. The name of the directory is compared with the word once more, so
that a directory with that name is taken for all apps.
-/
namespace AssetAudit.App.Target

def asked (base : FilePath) (given : Option Text) : FilePath :=
  base.join (.ofText (trimmed given))

def IsHere (given : Option Text) : Prop :=
  trimmed given = ['.'] ∨ trimmed given = ['.', '/']

instance (given : Option Text) : Decidable (IsHere given) :=
  inferInstanceAs (Decidable (_ ∨ _))

/-- The directory that a target means if it means one. What stands behind `..` is read by the text. -/
def meant (base : FilePath) (given : Option Text) : FilePath :=
  if IsHere given then base else (asked base given).straightened

def IsTheWord (given : Option Text) : Prop :=
  Unicode.lower (trimmed given) = everything

instance (given : Option Text) : Decidable (IsTheWord given) :=
  inferInstanceAs (Decidable (_ = _))

/-- The directory of a target has the name that stands for all apps. -/
def IsCalledAll (t : Target) : Prop :=
  ∃ d, t.directory = some d ∧ Unicode.lower d.name = everything

/-- The way to a path is the same on the tree as in its text: it goes up nowhere, or meets no link. -/
def GoesStraight (tree : Files.Tree) (path : FilePath) : Prop :=
  (∀ part ∈ path.parts, part ≠ ['.', '.']) ∨
    ∃ place, Files.Tree.follow tree.root 0 [] path.parts = .ok place

theorem isAll_everything (root : FilePath) : isAll ⟨everything, root, none⟩ = true := by
  have hLower : Unicode.lower everything = everything := by decide
  exact beq_iff_eq.mpr hLower

theorem isAll_ofDirectory (d : FilePath) :
    (ofDirectory d).isAll = true ↔ Unicode.lower d.name = everything := by
  unfold isAll ofDirectory
  by_cases hName : d.name.isEmpty = true
  · rw [if_pos hName, List.isEmpty_iff.mp hName]
    have hNameless : Unicode.lower nameless ≠ everything := by decide
    have hNone : Unicode.lower [] ≠ everything := by decide
    exact iff_of_false (fun h => hNameless (beq_iff_eq.mp h)) hNone
  · rw [if_neg hName]
    exact beq_iff_eq

theorem asked_of_isHere {base : FilePath} {given : Option Text} (h : IsHere given) :
    asked base given = base := by
  have hNone : FilePath.ofText (trimmed given) = ⟨[], []⟩ := by
    rcases h with hDot | hDot
    · rw [hDot]
      rfl
    · rw [hDot]
      rfl
  rw [asked, hNone, FilePath.join, if_neg (by decide), List.append_nil]

theorem resolve_of_isTheWord {tree : Files.Tree} {cwd : FilePath} {given : Option Text}
    (hWord : IsTheWord given) :
    resolve tree cwd given = .ok ⟨everything, cwd.absolute tree.cwd, none⟩ :=
  if_pos hWord

section

variable {tree : Files.Tree} {cwd : FilePath} {given : Option Text} {t : Target}
  (hSpelled : (cwd.absolute tree.cwd).IsSpelled)
  (hAbsolute : (cwd.absolute tree.cwd).isAbsolute = true)

include hSpelled hAbsolute

theorem resolve_cases (h : resolve tree cwd given = .ok t) :
    let base := cwd.absolute tree.cwd
    (IsTheWord given ∧ t = ⟨everything, base, none⟩) ∨
    (¬IsTheWord given ∧ IsHere given ∧ t = ofDirectory (meant base given)) ∨
    (¬IsTheWord given ∧ tree.isDirectory (meant base given) = .ok true ∧
      t = ofDirectory (meant base given)) ∨
    (¬IsTheWord given ∧ ¬IsHere given ∧ tree.isDirectory (meant base given) = .ok false ∧
      t = ⟨trimmed given, base, none⟩) := by
  intro base
  have hCandidate : FilePath.ofText (Path.absolute [] (asked base given).text) =
      (asked base given).straightened :=
    (hSpelled.join (FilePath.isSpelled_ofText _)).ofText_absolute
      (FilePath.isAbsolute_join hAbsolute)
  unfold resolve at h
  dsimp only at h
  by_cases hWord : Unicode.lower (trimmed given) = everything
  · rw [if_pos hWord] at h
    cases h
    exact .inl ⟨hWord, rfl⟩
  rw [if_neg hWord] at h
  by_cases hHere : trimmed given = ['.'] ∨ trimmed given = ['.', '/']
  · rw [if_pos hHere] at h
    cases h
    have hMeant : meant base given = base := if_pos hHere
    rw [hMeant]
    exact .inr (.inl ⟨hWord, hHere, rfl⟩)
  rw [if_neg hHere] at h
  have hMeant : meant base given = (asked base given).straightened := if_neg hHere
  rw [hMeant]
  obtain ⟨found, hFound, h⟩ := (Outcome.bind_eq_ok_iff _ _ _).mp h
  rw [asked] at hCandidate
  rw [hCandidate] at hFound h
  cases found with
  | true =>
    cases h
    exact .inr (.inr (.inl ⟨hWord, hFound, rfl⟩))
  | false =>
    cases h
    exact .inr (.inr (.inr ⟨hWord, hHere, hFound, rfl⟩))

/-- All apps are selected by the word for them and by a directory with that name. -/
theorem isAll_iff (h : resolve tree cwd given = .ok t) :
    t.isAll = true ↔ IsTheWord given ∨ t.IsCalledAll := by
  have hOfDirectory : ∀ d, ¬IsTheWord given →
      ((ofDirectory d).isAll = true ↔ IsTheWord given ∨ (ofDirectory d).IsCalledAll) := by
    intro d hOther
    rw [isAll_ofDirectory]
    constructor
    · intro hName
      exact .inr ⟨d, rfl, hName⟩
    · rintro (hWord | ⟨_, ⟨⟩, hName⟩)
      · exact absurd hWord hOther
      · exact hName
  rcases resolve_cases hSpelled hAbsolute h with
    ⟨hWord, rfl⟩ | ⟨hOther, -, rfl⟩ | ⟨hOther, -, rfl⟩ | ⟨hOther, -, -, rfl⟩
  · exact iff_of_true (isAll_everything _) (.inl hWord)
  · exact hOfDirectory _ hOther
  · exact hOfDirectory _ hOther
  · constructor
    · intro hAll
      exact .inl (beq_iff_eq.mp hAll)
    · rintro (hWord | ⟨d, hNone, -⟩)
      · exact absurd hWord hOther
      · cases hNone

theorem not_isCalledAll_of_isTheWord (h : resolve tree cwd given = .ok t) (hWord : IsTheWord given) :
    ¬t.IsCalledAll := by
  rcases resolve_cases hSpelled hAbsolute h with
    ⟨-, rfl⟩ | ⟨hOther, -⟩ | ⟨hOther, -⟩ | ⟨hOther, -⟩
  · rintro ⟨d, hNone, -⟩
    cases hNone
  · exact absurd hWord hOther
  · exact absurd hWord hOther
  · exact absurd hWord hOther

theorem resolve_directory (h : resolve tree cwd given = .ok t) (hOther : ¬IsTheWord given)
    (hFound : IsHere given ∨ tree.isDirectory (meant (cwd.absolute tree.cwd) given) = .ok true) :
    t = ofDirectory (meant (cwd.absolute tree.cwd) given) := by
  rcases resolve_cases hSpelled hAbsolute h with
    ⟨hWord, -⟩ | ⟨-, -, ht⟩ | ⟨-, -, ht⟩ | ⟨-, hElsewhere, hNone, -⟩
  · exact absurd hWord hOther
  · exact ht
  · exact ht
  · rcases hFound with hHere | hThere
    · exact absurd hHere hElsewhere
    · rw [hThere] at hNone
      cases hNone

omit hSpelled in
theorem isAbsolute_meant : (meant (cwd.absolute tree.cwd) given).isAbsolute = true := by
  unfold meant
  split
  · exact hAbsolute
  · exact FilePath.isAbsolute_join hAbsolute

/-- What a target means is where its path leads, if the path goes straight. -/
theorem locate_meant (hStraight : GoesStraight tree (asked (cwd.absolute tree.cwd) given))
    (hFound : tree.isDirectory (asked (cwd.absolute tree.cwd) given) = .ok true) :
    tree.isDirectory (meant (cwd.absolute tree.cwd) given) = .ok true ∧
      tree.locate (meant (cwd.absolute tree.cwd) given) =
        tree.locate (asked (cwd.absolute tree.cwd) given) := by
  unfold meant
  by_cases hHere : IsHere given
  · rw [if_pos hHere]
    rw [asked_of_isHere hHere] at hFound ⊢
    exact ⟨hFound, rfl⟩
  rw [if_neg hHere]
  have hAsked : (asked (cwd.absolute tree.cwd) given).IsSpelled :=
    hSpelled.join (FilePath.isSpelled_ofText _)
  rcases hStraight with hUp | hWay
  · rw [FilePath.straightened_of_no_up hAsked hUp]
    exact ⟨hFound, rfl⟩
  · obtain ⟨place, entries, hLocate, hAt⟩ := Files.Tree.exists_place_of_isDirectory hFound
    have hRoot : ∀ target, tree.root ≠ .link target := by
      intro target hLink
      rw [hLink] at hAt
      cases place with
      | nil => cases hAt
      | cons name rest => cases hAt
    have hThere := Files.Tree.locate_straightened (FilePath.isAbsolute_join hAbsolute) hRoot hWay hLocate
    exact ⟨Files.Tree.isDirectory_eq_ok hThere hAt, hThere.trans hLocate.symm⟩

end

end AssetAudit.App.Target
