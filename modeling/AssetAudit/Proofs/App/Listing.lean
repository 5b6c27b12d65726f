import AssetAudit.Proofs.App.Checks
import AssetAudit.Proofs.Files.Whole

/-!
# Listed apps can be analyzed

An app is listed when its directory and its sources are there, as the settings spell them. A session
looks for the same two directories from the root of all. It finds them, unless their whole paths are
too long to be asked for.
-/
namespace AssetAudit

namespace App

variable {tree : Files.Tree} {s : Settings}

structure IsOffered (tree : Files.Tree) (s : Settings) (directory : FilePath) (app : Text) :
    Prop where
  place : tree.isDirectory (directory.child app) = .ok true
  sources : ∃ sources, pathOf s.srcDir = .ok sources ∧
    tree.isDirectory ((directory.child app).join sources) = .ok true

theorem withSources_spec {directory : FilePath} {names apps : List Text}
    (h : withSources tree s directory names = .ok apps) :
    apps.Sublist names ∧ ∀ app ∈ apps, IsOffered tree s directory app := by
  induction names generalizing apps with
  | nil =>
    cases h
    exact ⟨List.Sublist.refl _, nofun⟩
  | cons name rest ih =>
    obtain ⟨found, hFound, h⟩ := (Outcome.bind_eq_ok_iff _ _ _).mp h
    rw [Outcome.mapError_eq_ok_iff] at hFound
    by_cases hSkip : (!found || name.startsWith ['.']) = true
    · rw [if_pos hSkip] at h
      obtain ⟨isApp, hApp, h⟩ := (Outcome.bind_eq_ok_iff _ _ _).mp h
      obtain ⟨others, hOthers, h⟩ := (Outcome.bind_eq_ok_iff _ _ _).mp h
      obtain ⟨hSub, hOffered⟩ := ih hOthers
      cases hApp
      cases h
      exact ⟨hSub.cons name, hOffered⟩
    · rw [if_neg hSkip] at h
      obtain ⟨sources, hSources, h⟩ := (Outcome.bind_eq_ok_iff _ _ _).mp h
      obtain ⟨isApp, hApp, h⟩ := (Outcome.bind_eq_ok_iff _ _ _).mp h
      obtain ⟨others, hOthers, h⟩ := (Outcome.bind_eq_ok_iff _ _ _).mp h
      obtain ⟨hSub, hOffered⟩ := ih hOthers
      cases isApp with
      | false =>
        cases h
        exact ⟨hSub.cons name, hOffered⟩
      | true =>
        cases h
        have hThere : found = true := by
          cases found with
          | false => exact absurd rfl hSkip
          | true => rfl
        subst hThere
        have hThis : IsOffered tree s directory name :=
          ⟨hFound, sources, hSources, (Outcome.mapError_eq_ok_iff _ _ _).mp hApp⟩
        exact ⟨hSub.cons_cons name, List.forall_mem_cons.mpr ⟨hThis, hOffered⟩⟩

/-- Listed apps are sorted and distinct, and their directories are there. -/
theorem list_spec (hReal : tree.IsReal) {apps : List Text} (h : list tree s = .ok apps) :
    Text.IsSorted apps ∧ apps.Nodup ∧ ∃ directory, appsDirectory s tree.cwd = .ok directory ∧
      ∀ app ∈ apps, FilePath.isPart app = true ∧ '/' ∉ app ∧ IsOffered tree s directory app := by
  obtain ⟨directory, hDirectory, h⟩ := (Outcome.bind_eq_ok_iff _ _ _).mp h
  cases hNames : tree.names directory with
  | error e =>
    rw [hNames] at h
    dsimp only at h
    split at h
    · cases h
    · cases h
      exact ⟨List.Pairwise.nil, List.Pairwise.nil, directory, hDirectory, nofun⟩
  | ok names =>
    rw [hNames] at h
    obtain ⟨hSub, hOffered⟩ := withSources_spec h
    obtain ⟨place, entries, hAt, rfl⟩ := Files.Tree.exists_names_eq hNames
    obtain ⟨hDistinct, hProper⟩ := hReal.proper place entries hAt
    refine ⟨(Text.isSorted_sort _).sublist hSub,
      ((Text.sort_perm _).nodup_iff.mpr hDistinct).sublist hSub, directory, hDirectory, ?_⟩
    intro app hMem
    obtain ⟨hPart, hSlash⟩ := hProper app ((Text.sort_perm _).mem_iff.mp (hSub.subset hMem))
    exact ⟨hPart, hSlash, hOffered app hMem⟩

namespace Session

theorem create_places {cwd : FilePath} {app : Text} {session : Session}
    (h : create s cwd app none = .ok session) :
    ∃ root apps sources, givenRoot s cwd = .ok root ∧ pathOf s.appsDir = .ok apps ∧
      pathOf s.srcDir = .ok sources ∧ session.app = app ∧
      session.directory = ((root.absolute cwd).join apps).join (.ofText app) ∧
      session.sources = session.directory.join sources := by
  have hParts := of_create h
  obtain ⟨root, hRoot, hAbsolute⟩ := (Outcome.map_eq_ok_iff _ _ _).mp hParts.root
  obtain ⟨apps, hApps, hPlace⟩ := (Outcome.map_eq_ok_iff _ _ _).mp hParts.place
  obtain ⟨sources, hSources, hBelow⟩ := (Outcome.map_eq_ok_iff _ _ _).mp hParts.sources
  rw [← hAbsolute] at hPlace
  exact ⟨root, apps, sources, hRoot, hApps, hSources, hParts.name, hPlace.symm, hBelow.symm⟩

/-- The directory of a session or that of its sources is too long to be asked for. -/
def IsOverlong (session : Session) : Prop :=
  ¬(session.directory.fits = true ∧ session.sources.fits = true)

variable {app : Text} {directory : FilePath} {session : Session}

/-- A session looks for the directories of a listed app by their whole paths. -/
theorem places_of_isOffered (hDirectory : appsDirectory s tree.cwd = .ok directory)
    (hPart : FilePath.isPart app = true) (hSlash : '/' ∉ app)
    (hOffered : IsOffered tree s directory app) (h : create s tree.cwd app none = .ok session) :
    session.app = app ∧ session.directory = tree.cwd.join (directory.child app) ∧
      ∃ sources, session.sources = tree.cwd.join ((directory.child app).join sources) ∧
        tree.isDirectory ((directory.child app).join sources) = .ok true := by
  obtain ⟨root, apps, sources, hRoot, hApps, hSources, hApp, hPlace, hBelow⟩ := create_places h
  obtain ⟨found, hFound, hDirectory⟩ := (Outcome.bind_eq_ok_iff _ _ _).mp hDirectory
  obtain rfl : root = found := Except.ok.inj (hRoot.symm.trans hFound)
  obtain ⟨other, hOther, hDirectory⟩ := (Outcome.bind_eq_ok_iff _ _ _).mp hDirectory
  obtain rfl : apps = other := Except.ok.inj (hApps.symm.trans hOther)
  cases hDirectory
  obtain ⟨sources', hSources', hThere⟩ := hOffered.sources
  obtain rfl : sources = sources' := Except.ok.inj (hSources.symm.trans hSources')
  have hWhole : session.directory = tree.cwd.join ((root.join apps).child app) := by
    rw [hPlace, FilePath.join_ofText_of_part _ hPart hSlash, FilePath.join_child,
      FilePath.absolute, FilePath.join_join]
  refine ⟨hApp, hWhole, sources, ?_, hThere⟩
  rw [hBelow, hWhole, FilePath.join_join]

/-- The check of a session for a listed app finds fault with nothing but its whitelist, unless its
directories are too long to be asked for. -/
theorem fault?_of_isOffered (hReal : tree.IsReal)
    (hDirectory : appsDirectory s tree.cwd = .ok directory)
    (hPart : FilePath.isPart app = true) (hSlash : '/' ∉ app)
    (hOffered : IsOffered tree s directory app) (h : create s tree.cwd app none = .ok session) :
    (session.IsOverlong → ∃ reason,
      session.fault? tree = some (.badPath session.directory.text reason)) ∧
    (¬session.IsOverlong → session.fault? tree =
      if session.matcher.compiled.rejected.isEmpty then none
      else some (.whitelist app session.matcher.compiled.rejected)) := by
  obtain ⟨hApp, hPlace, sources, hSources, hBelow⟩ :=
    places_of_isOffered hDirectory hPart hSlash hOffered h
  have hFirst := Files.Tree.isDirectory_absolute hReal hOffered.place
  have hSecond := Files.Tree.isDirectory_absolute hReal hBelow
  rw [← hPlace] at hFirst
  rw [← hSources] at hSecond
  unfold IsOverlong fault? directoryFault?
  by_cases hFits : session.directory.fits = true
  · rw [hFirst, if_pos hFits]
    dsimp only
    by_cases hShort : session.sources.fits = true
    · rw [hSecond, if_pos hShort, hApp]
      exact ⟨fun hLong => absurd ⟨hFits, hShort⟩ hLong, fun _ => Option.none_or⟩
    · rw [hSecond, if_neg hShort]
      exact ⟨fun _ => ⟨_, rfl⟩, fun hNot => absurd (fun hBoth => hShort hBoth.2) hNot⟩
  · rw [hFirst, if_neg hFits]
    exact ⟨fun _ => ⟨_, rfl⟩, fun hNot => absurd (fun hBoth => hFits hBoth.1) hNot⟩

/-- A whole path in the settings leaves no directory too long to be asked for. -/
theorem not_isOverlong_of_isOffered {root : FilePath} (hRoot : givenRoot s tree.cwd = .ok root)
    (hAbsolute : root.isAbsolute = true)
    (hDirectory : appsDirectory s tree.cwd = .ok directory)
    (hPart : FilePath.isPart app = true) (hSlash : '/' ∉ app)
    (hOffered : IsOffered tree s directory app) (h : create s tree.cwd app none = .ok session) :
    ¬session.IsOverlong := by
  obtain ⟨-, hPlace, sources, hSources, hBelow⟩ :=
    places_of_isOffered hDirectory hPart hSlash hOffered h
  obtain ⟨found, hFound, hMade⟩ := (Outcome.bind_eq_ok_iff _ _ _).mp hDirectory
  obtain rfl : root = found := Except.ok.inj (hRoot.symm.trans hFound)
  obtain ⟨apps, -, hMade⟩ := (Outcome.bind_eq_ok_iff _ _ _).mp hMade
  cases hMade
  have hWhole : ((root.join apps).child app).isAbsolute = true :=
    FilePath.isAbsolute_join hAbsolute
  rw [FilePath.join_of_isAbsolute _ hWhole] at hPlace
  rw [FilePath.join_of_isAbsolute _ (FilePath.isAbsolute_join hWhole)] at hSources
  refine not_not_intro ⟨?_, ?_⟩
  · rw [hPlace]
    exact Files.Tree.fits_of_isDirectory hOffered.place
  · rw [hSources]
    exact Files.Tree.fits_of_isDirectory hBelow

end Session

end App

end AssetAudit
