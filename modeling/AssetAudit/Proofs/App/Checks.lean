import AssetAudit.Proofs.App.Session
import AssetAudit.Proofs.Whitelist.Accounts

/-!
# Sessions that can be made

A session can be made when the settings for its directories are texts and no pattern of its
whitelist runs into a limit. Its check finds what is wrong with its directories, or else the rejected
patterns of its whitelist; only those are faults of the app.
-/
namespace AssetAudit

/-- Every setting that a session reads as a path is one. The directory of apps is read only if no
directory is given. -/
structure Settings.GivesPaths (s : Settings) (directory : Option FilePath) : Prop where
  root : s.rootDir.isTruthy = true → ∃ t, s.rootDir = .text t
  apps : directory = none → ∃ t, s.appsDir = .text t
  sources : ∃ t, s.srcDir = .text t
  assets : ∃ t, s.assetsDir = .text t
  scan : ∃ t, s.effectiveScanDir = .text t

/-- No pattern of the whitelist for an app runs into a limit. -/
def WhitelistSettings.StaysInLimits (w : WhitelistSettings) (app : Text) : Prop :=
  ∀ pattern ∈ w.patternsFor app, Whitelist.counts (.text pattern) = true →
    ¬ Whitelist.HitsLimit (Whitelist.normalizeText pattern)

namespace App

theorem exists_pathOf_iff (v : Value) : (∃ path, pathOf v = .ok path) ↔ ∃ t, v = .text t := by
  constructor
  · rintro ⟨path, h⟩
    unfold pathOf at h
    split at h
    · exact ⟨_, rfl⟩
    · cases h
  · rintro ⟨t, rfl⟩
    exact ⟨_, rfl⟩

theorem exists_givenRoot_iff (s : Settings) (cwd : FilePath) :
    (∃ root, givenRoot s cwd = .ok root) ↔ (s.rootDir.isTruthy = true → ∃ t, s.rootDir = .text t) := by
  unfold givenRoot
  split
  · rename_i hGiven
    rw [exists_pathOf_iff, hGiven]
    simp
  · rename_i hGiven
    exact iff_of_true ⟨_, rfl⟩ fun h => absurd h hGiven

theorem pathOf_ne_fault {v : Value} (f : Fault) : pathOf v ≠ .error (.fault f) := by
  unfold pathOf
  split <;> exact nofun

namespace Session

theorem exists_matcher_iff (cwd app : Text) (entries : List Value) :
    (∃ m, Whitelist.Matcher.create cwd app entries = .ok m) ↔
      ∀ raw ∈ entries, Whitelist.counts raw = true → ¬ Whitelist.HitsLimit (Whitelist.normalize raw) := by
  rw [← Whitelist.exists_compile_iff_limits]
  constructor
  · rintro ⟨m, h⟩
    obtain ⟨c, hCompile, -⟩ := (Whitelist.Matcher.create_eq_ok_iff ..).mp h
    exact ⟨c, hCompile⟩
  · rintro ⟨c, h⟩
    exact ⟨_, (Whitelist.Matcher.create_eq_ok_iff ..).mpr ⟨c, h, rfl⟩⟩

theorem exists_placeOf_iff (s : Settings) (cwd root : FilePath) (app : Text)
    (directory : Option FilePath) : (∃ place, placeOf s cwd root app directory = .ok place) ↔
      (directory = none → ∃ t, s.appsDir = .text t) := by
  cases directory with
  | some d => exact iff_of_true ⟨_, rfl⟩ nofun
  | none =>
    rw [← exists_pathOf_iff, forall_prop_of_true rfl]
    exact Outcome.exists_map_iff _ _

theorem exists_create_iff (s : Settings) (cwd : FilePath) (app : Text)
    (directory : Option FilePath) : (∃ session, create s cwd app directory = .ok session) ↔
      s.GivesPaths directory ∧ s.whitelist.StaysInLimits app := by
  have hLimits : ∀ cwd app' : Text, (∃ m, Whitelist.Matcher.create cwd app'
      ((s.whitelist.patternsFor app).map Value.text) = .ok m) ↔ s.whitelist.StaysInLimits app := by
    intro cwd app'
    rw [exists_matcher_iff, List.forall_mem_map]
    exact Iff.rfl
  simp only [create_bind, Outcome.bind_eq_ok_iff, Outcome.mapError_eq_ok_iff]
  constructor
  · rintro ⟨session, root, hRoot, place, hPlace, sources, hSources, assets, hAssets, scan, hScan,
      matcher, hMatcher, -⟩
    exact ⟨{
        root := (exists_givenRoot_iff s cwd).mp ⟨root, hRoot⟩
        apps := (exists_placeOf_iff ..).mp ⟨place, hPlace⟩
        sources := (exists_pathOf_iff _).mp ⟨sources, hSources⟩
        assets := (exists_pathOf_iff _).mp ⟨assets, hAssets⟩
        scan := (exists_pathOf_iff _).mp ⟨scan, hScan⟩ },
      (hLimits _ _).mp ⟨matcher, hMatcher⟩⟩
  · rintro ⟨hPaths, hStays⟩
    obtain ⟨root, hRoot⟩ := (exists_givenRoot_iff s cwd).mpr hPaths.root
    obtain ⟨place, hPlace⟩ :=
      (exists_placeOf_iff s cwd (root.absolute cwd) app directory).mpr hPaths.apps
    obtain ⟨sources, hSources⟩ := (exists_pathOf_iff _).mpr hPaths.sources
    obtain ⟨assets, hAssets⟩ := (exists_pathOf_iff _).mpr hPaths.assets
    obtain ⟨scan, hScan⟩ := (exists_pathOf_iff _).mpr hPaths.scan
    obtain ⟨matcher, hMatcher⟩ := (hLimits cwd.text place.text).mpr hStays
    exact ⟨_, root, hRoot, place, hPlace, sources, hSources, assets, hAssets, scan, hScan, matcher,
      hMatcher, rfl⟩

theorem create_ne_fault {s : Settings} {cwd : FilePath} {app : Text} {directory : Option FilePath}
    (f : Fault) : create s cwd app directory ≠ .error (.fault f) := by
  intro h
  rw [create_bind] at h
  rcases (Outcome.bind_eq_error_iff _ _ _).mp h with hRoot | ⟨root, -, h⟩
  · unfold givenRoot at hRoot
    split at hRoot
    · exact pathOf_ne_fault f hRoot
    · cases hRoot
  rcases (Outcome.bind_eq_error_iff _ _ _).mp h with hPlace | ⟨place, -, h⟩
  · cases directory with
    | some d => cases hPlace
    | none =>
      unfold placeOf at hPlace
      cases hApps : pathOf s.appsDir with
      | ok apps =>
        rw [hApps] at hPlace
        cases hPlace
      | error e =>
        rw [hApps] at hPlace
        cases hPlace
        exact pathOf_ne_fault f hApps
  rcases (Outcome.bind_eq_error_iff _ _ _).mp h with hSources | ⟨sources, -, h⟩
  · exact pathOf_ne_fault f hSources
  rcases (Outcome.bind_eq_error_iff _ _ _).mp h with hAssets | ⟨assets, -, h⟩
  · exact pathOf_ne_fault f hAssets
  rcases (Outcome.bind_eq_error_iff _ _ _).mp h with hScan | ⟨scan, -, h⟩
  · exact pathOf_ne_fault f hScan
  rcases (Outcome.bind_eq_error_iff _ _ _).mp h with hMatcher | ⟨matcher, -, h⟩
  · obtain ⟨e, -, hEq⟩ := (Outcome.mapError_eq_error_iff _ _ _).mp hMatcher
    cases hEq
  · cases h

def fault? (session : Session) (tree : Files.Tree) : Option Fault :=
  (directoryFault? tree session.directory session.sources session.app).or
    (if session.matcher.compiled.rejected.isEmpty then none
    else some (.whitelist session.app session.matcher.compiled.rejected))

theorem check_eq (session : Session) (tree : Files.Tree) :
    session.check tree = match session.fault? tree with
      | some fault => .error (.fault fault)
      | none => ((tree.isDirectory session.assets).mapError .system).map fun _ => () := by
  unfold check fault?
  cases directoryFault? tree session.directory session.sources session.app with
  | some fault => rfl
  | none =>
    dsimp only
    rw [Option.none_or]
    cases session.matcher.compiled.rejected.isEmpty with
    | false => rfl
    | true => cases tree.isDirectory session.assets <;> rfl

end Session

end App

end AssetAudit
