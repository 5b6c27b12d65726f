import AssetAudit.Proofs.Analyzer.Answers
import AssetAudit.Proofs.App.Checks
import AssetAudit.Proofs.Project.Analysis

/-!
# What the stages of an analysis need

An analysis comes to a report when each of its stages has what it needs: a session without a fault,
an analyzer that comes to an end, directories to walk, and sizes that have a text. A fault of the app
ends it before any of them.
-/
namespace AssetAudit

namespace Files

structure CanWalk (tree : Tree) (root : FilePath) (extensions : Value) : Prop where
  place : ∃ found, tree.isDirectory root = .ok found
  wanted : tree.isDirectory root = .ok true → ∃ items, extensions.items? = some items ∧
    ∀ item ∈ items, ∃ t, item = .text t

theorem exists_wantedFrom_iff (items : List Value) :
    (∃ wanted, wantedFrom items = .ok wanted) ↔ ∀ item ∈ items, ∃ t, item = .text t := by
  induction items with
  | nil => exact iff_of_true ⟨_, rfl⟩ (List.forall_mem_nil _)
  | cons item rest ih =>
    rw [List.forall_mem_cons, ← ih]
    constructor
    · rintro ⟨wanted, h⟩
      unfold wantedFrom at h
      split at h
      · rename_i hNil
        cases hNil
      · rename_i t others hCons
        obtain ⟨rfl, rfl⟩ := List.cons.inj hCons
        obtain ⟨others, hRest, -⟩ := (Outcome.map_eq_ok_iff _ _ _).mp h
        exact ⟨⟨t, rfl⟩, others, hRest⟩
      · cases h
    · rintro ⟨⟨t, rfl⟩, others, hRest⟩
      exact ⟨_, (Outcome.map_eq_ok_iff _ _ _).mpr ⟨others, hRest, rfl⟩⟩

theorem exists_wantedExtensions_iff (extensions : Value) :
    (∃ wanted, wantedExtensions extensions = .ok wanted) ↔
      ∃ items, extensions.items? = some items ∧ ∀ item ∈ items, ∃ t, item = .text t := by
  unfold wantedExtensions
  cases extensions.items? with
  | none => simp
  | some items => simp [exists_wantedFrom_iff]

theorem exists_walk_iff (tree : Tree) (c : Collector) (root : FilePath) (extensions : Value) :
    (∃ visits, walk tree c root extensions = .ok visits) ↔ CanWalk tree root extensions := by
  unfold walk
  cases hRoot : tree.isDirectory root with
  | error e =>
    refine iff_of_false (by simp) ?_
    rintro ⟨⟨found, hFound⟩, -⟩
    rw [hRoot] at hFound
    cases hFound
  | ok found =>
    cases found with
    | false =>
      refine iff_of_true ⟨_, rfl⟩ ⟨⟨_, hRoot⟩, fun hTrue => ?_⟩
      rw [hRoot] at hTrue
      cases hTrue
    | true =>
      constructor
      · rintro ⟨visits, h⟩
        obtain ⟨wanted, hWanted, -⟩ := (Outcome.bind_eq_ok_iff _ _ _).mp h
        exact ⟨⟨_, hRoot⟩, fun _ => (exists_wantedExtensions_iff extensions).mp ⟨wanted, hWanted⟩⟩
      · rintro ⟨-, hExtensions⟩
        obtain ⟨wanted, hWanted⟩ := (exists_wantedExtensions_iff extensions).mpr (hExtensions hRoot)
        exact ⟨_, (Outcome.bind_eq_ok_iff _ _ _).mpr ⟨wanted, hWanted, rfl⟩⟩

theorem exists_collectAssets_iff (tree : Tree) (c : Collector) (directory app : FilePath)
    (extensions : Value) :
    (∃ assets, (collectAssets tree c directory app extensions).outcome = .ok assets) ↔
      CanWalk tree directory extensions := by
  rw [← exists_walk_iff tree c]
  unfold collectAssets
  simp [Attempt.bind_eq_ok_iff]

theorem exists_collectSources_iff (tree : Tree) (c : Collector) (directory : FilePath)
    (extensions : Value) :
    (∃ paths, (collectSources tree c directory extensions).outcome = .ok paths) ↔
      CanWalk tree directory extensions := by
  rw [← exists_walk_iff tree c]
  unfold collectSources
  simp [Attempt.bind_eq_ok_iff]

end Files

namespace Project

open Whitelist (Compiled Matcher verdict)

/-- What an analysis in a given directory, or in that of the app, needs once its session has no
fault. -/
structure Completes (p : Project) (around : Surroundings) (app : Text)
    (directory : Option FilePath) (session : App.Session) : Prop where
  assets : ∃ found, around.tree.isDirectory session.assets = .ok found
  analyzer : Analyzer.isEnabled p.settings.knip = true →
    Analyzer.Completes around.execute p.settings.knip around.tree session.directory
  scan : Files.CanWalk around.tree session.scan p.settings.assetExtensions
  sources : Files.CanWalk around.tree session.sources p.settings.sourceExtensions
  sizes : ∀ g : Ground, g.Of p around.tree app directory → ∀ a ∈ g.assets,
    g.isListed around.tree a.path.text = false → g.isUsed around.tree a = false →
      ∃ text, FileSize.format? a.size = some text

theorem Ground.Of.unique {p : Project} {tree : Files.Tree} {app : Text}
    {directory : Option FilePath} {g g' : Ground} (h : g.Of p tree app directory)
    (h' : g'.Of p tree app directory) : g = g' := by
  obtain ⟨session, whitelist, assets, sources⟩ := g
  obtain ⟨session', whitelist', assets', sources'⟩ := g'
  obtain rfl : session = session' := Except.ok.inj (h.session.symm.trans h'.session)
  obtain rfl : whitelist = whitelist' := Except.ok.inj (h.whitelist.symm.trans h'.whitelist)
  obtain rfl : assets = assets' := Except.ok.inj (h.assets.symm.trans h'.assets)
  obtain rfl : sources = sources' := Except.ok.inj (h.sources.symm.trans h'.sources)
  rfl

theorem exists_tellApart_iff (root : FilePath) (listed used : Files.Asset → Bool)
    (assets : List Files.Asset) :
    (∃ sorted, tellApart root listed used assets = .ok sorted) ↔
      ∀ a ∈ assets, listed a = false → used a = false →
        ∃ text, FileSize.format? a.size = some text := by
  induction assets with
  | nil => exact iff_of_true ⟨_, rfl⟩ (List.forall_mem_nil _)
  | cons asset rest ih =>
    unfold tellApart
    rw [List.forall_mem_cons, ← ih]
    cases hListed : listed asset with
    | true => simp [Outcome.map_eq_ok_iff]
    | false =>
      cases hUsed : used asset with
      | true => simp
      | false =>
        unfold UnusedAsset.of?
        cases FileSize.format? asset.size with
        | none => simp
        | some text => simp [Outcome.map_eq_ok_iff]

theorem session_eq_ok_iff (p : Project) (tree : Files.Tree) (app : Text)
    (directory : Option FilePath) (session : App.Session) :
    p.session tree app directory = .ok session ↔
      App.Session.create p.settings tree.cwd app directory = .ok session ∧
        session.fault? tree = none ∧ ∃ found, tree.isDirectory session.assets = .ok found := by
  unfold Project.session
  cases App.Session.create p.settings tree.cwd app directory with
  | error e => exact iff_of_false nofun fun h => nomatch h.1
  | ok created =>
    simp only [Outcome.mapError_ok, App.Session.check_eq, bind, Except.bind, Except.ok.injEq]
    cases hFault : created.fault? tree with
    | some fault =>
      refine iff_of_false nofun ?_
      rintro ⟨rfl, hNone, -⟩
      rw [hFault] at hNone
      cases hNone
    | none =>
      cases hAssets : tree.isDirectory created.assets with
      | error e =>
        refine iff_of_false nofun ?_
        rintro ⟨rfl, -, found, hFound⟩
        rw [hAssets] at hFound
        cases hFound
      | ok found =>
        constructor
        · intro h
          cases h
          exact ⟨rfl, hFault, found, hAssets⟩
        · rintro ⟨rfl, -⟩
          rfl

/-- A session has a fault when it can be made and its check finds one. -/
theorem session_eq_fault_iff (p : Project) (tree : Files.Tree) (app : Text)
    (directory : Option FilePath) (fault : App.Fault) :
    p.session tree app directory = .error (.session (.fault fault)) ↔
      ∃ session, App.Session.create p.settings tree.cwd app directory = .ok session ∧
        session.fault? tree = some fault := by
  unfold Project.session
  cases hCreate : App.Session.create p.settings tree.cwd app directory with
  | error e =>
    refine iff_of_false ?_ (fun ⟨_, h, _⟩ => nomatch h)
    intro h
    cases h
    exact App.Session.create_ne_fault fault hCreate
  | ok created =>
    simp only [Outcome.mapError_ok, App.Session.check_eq, bind, Except.bind, Except.ok.injEq,
      exists_eq_left']
    cases created.fault? tree with
    | some found => simp
    | none => cases tree.isDirectory created.assets <;> simp [Except.map, pure, Except.pure]

theorem exists_findings_iff (p : Project) (around : Surroundings) (session : App.Session) :
    (∃ found, (p.findings around session).outcome = .ok found) ↔
      (Analyzer.isEnabled p.settings.knip = true →
        Analyzer.Completes around.execute p.settings.knip around.tree session.directory) := by
  rw [← Analyzer.exists_run_iff]
  unfold findings
  split
  · rename_i hEnabled
    simp [Attempt.bind_eq_ok_iff, hEnabled]
  · rename_i hDisabled
    exact iff_of_true ⟨_, rfl⟩ fun hEnabled => absurd hEnabled hDisabled

/-- An analysis comes to a report when its session has no fault and its stages have what they
need. -/
theorem exists_analyze_iff (p : Project) (around : Surroundings) (app : Text)
    (directory : Option FilePath) :
    (∃ report, (p.analyze around app directory).outcome = .ok report) ↔
      ∃ session, App.Session.create p.settings around.tree.cwd app directory = .ok session ∧
        session.fault? around.tree = none ∧ p.Completes around app directory session := by
  constructor
  · rintro ⟨report, h⟩
    obtain ⟨g, m, hGround, -, hFindings, hSorted⟩ := exists_ground h
    obtain ⟨session, hSession, -⟩ := (Attempt.bind_eq_ok_iff _ _ _).mp h
    obtain ⟨hCreate, hFault, hAssets⟩ := (session_eq_ok_iff ..).mp hSession
    obtain rfl : session = g.session := Except.ok.inj (hCreate.symm.trans hGround.session)
    refine ⟨g.session, hCreate, hFault, {
      assets := hAssets
      analyzer := (exists_findings_iff p around g.session).mp ⟨_, hFindings⟩
      scan := (Files.exists_collectAssets_iff ..).mp ⟨_, hGround.assets⟩
      sources := (Files.exists_collectSources_iff ..).mp ⟨_, hGround.sources⟩
      sizes := ?_ }⟩
    intro g' hOther
    obtain rfl := hOther.unique hGround
    exact (exists_tellApart_iff ..).mp ⟨_, (tellApart_eq_ok_iff ..).mpr hSorted⟩
  · rintro ⟨session, hCreate, hFault, hStages⟩
    have hSession := (session_eq_ok_iff ..).mpr ⟨hCreate, hFault, hStages.assets⟩
    obtain ⟨⟨found, status, m⟩, hFindings⟩ := (exists_findings_iff ..).mpr hStages.analyzer
    obtain ⟨assets, hAssets⟩ := (Files.exists_collectAssets_iff around.tree p.collector session.scan
      session.directory _).mpr hStages.scan
    obtain ⟨paths, hPaths⟩ := (Files.exists_collectSources_iff around.tree p.collector _ _).mpr
      hStages.sources
    obtain ⟨c, hCompile, hServes⟩ := App.Session.create_serves hCreate
    obtain ⟨sorted, hSorted⟩ := (exists_tellApart_iff session.root _ _ assets).mpr
      (hStages.sizes ⟨session, c, assets, paths⟩ ⟨hCreate, hCompile, hAssets, hPaths⟩)
    have hStill := (findings_spec hServes hFindings).1
    exact ⟨_, (Attempt.bind_eq_ok_iff _ _ _).mpr ⟨session, hSession,
      (Attempt.bind_eq_ok_iff _ _ _).mpr ⟨_, hFindings,
        (Attempt.bind_eq_ok_iff _ _ _).mpr ⟨assets, (Attempt.adapt_eq_ok_iff _ _ _).mpr hAssets,
          (Attempt.bind_eq_ok_iff _ _ _).mpr ⟨paths, (Attempt.adapt_eq_ok_iff _ _ _).mpr hPaths,
            (Attempt.bind_eq_ok_iff _ _ _).mpr
              ⟨sorted, (outcome_sortAssets hStill assets).trans hSorted, rfl⟩⟩⟩⟩⟩⟩

theorem findings_ne_session {p : Project} {around : Surroundings} {session : App.Session}
    (e : App.SessionError) : (p.findings around session).outcome ≠ .error (.session e) := by
  unfold findings
  intro h
  split at h
  · rcases (Attempt.bind_eq_error_iff _ _ _).mp h with hRun | ⟨found, -, h⟩
    · obtain ⟨_, -, hEq⟩ := (Attempt.adapt_eq_error_iff _ _ _).mp hRun
      cases hEq
    · rcases (Attempt.bind_eq_error_iff _ _ _).mp h with hFilter | ⟨kept, -, h⟩
      · cases hFilter
      · cases h
  · cases h

theorem tellApart_ne_session {root : FilePath} {listed used : Files.Asset → Bool}
    {assets : List Files.Asset} (e : App.SessionError) :
    tellApart root listed used assets ≠ .error (.session e) := by
  induction assets with
  | nil => exact nofun
  | cons asset rest ih =>
    have hMap : ∀ f : Sorted → Sorted,
        (tellApart root listed used rest).map f ≠ .error (.session e) := by
      intro f h
      cases hRest : tellApart root listed used rest with
      | ok sorted =>
        rw [hRest] at h
        cases h
      | error other =>
        rw [hRest] at h
        cases h
        exact ih hRest
    unfold tellApart
    split
    · exact hMap _
    · split
      · exact ih
      · split
        · exact nofun
        · exact hMap _

/-- A fault of the app is what an analysis ends with when its session has one, and only then. -/
theorem analyze_eq_fault_iff (p : Project) (around : Surroundings) (app : Text)
    (directory : Option FilePath) (fault : App.Fault) :
    (p.analyze around app directory).outcome = .error (.session (.fault fault)) ↔
      ∃ session, App.Session.create p.settings around.tree.cwd app directory = .ok session ∧
        session.fault? around.tree = some fault := by
  rw [← session_eq_fault_iff]
  constructor
  · intro h
    rcases (Attempt.bind_eq_error_iff _ _ _).mp h with hSession | ⟨session, hSession, h⟩
    · exact hSession
    rcases (Attempt.bind_eq_error_iff _ _ _).mp h with hFindings | ⟨⟨found, status, m⟩, hFindings, h⟩
    · exact absurd hFindings (findings_ne_session _)
    rcases (Attempt.bind_eq_error_iff _ _ _).mp h with hAssets | ⟨assets, -, h⟩
    · obtain ⟨_, -, hEq⟩ := (Attempt.adapt_eq_error_iff _ _ _).mp hAssets
      cases hEq
    rcases (Attempt.bind_eq_error_iff _ _ _).mp h with hPaths | ⟨paths, -, h⟩
    · obtain ⟨_, -, hEq⟩ := (Attempt.adapt_eq_error_iff _ _ _).mp hPaths
      cases hEq
    rcases (Attempt.bind_eq_error_iff _ _ _).mp h with hSorted | ⟨sorted, -, h⟩
    · obtain ⟨c, -, hServes⟩ := App.Session.create_serves (session_eq_ok hSession)
      rw [outcome_sortAssets (findings_spec hServes hFindings).1] at hSorted
      exact absurd hSorted (tellApart_ne_session _)
    · cases h
  · intro h
    exact (Attempt.bind_eq_error_iff _ _ _).mpr (.inl h)

/-- Whatever goes wrong with an app in a given directory, or in its own, is a fault of the app: a
session can be made for it, and when the session has no fault its analysis comes to a report. -/
structure Contained (p : Project) (around : Surroundings) (app : Text)
    (directory : Option FilePath) : Prop where
  paths : p.settings.GivesPaths directory
  limits : p.settings.whitelist.StaysInLimits app
  stages : ∀ session, App.Session.create p.settings around.tree.cwd app directory = .ok session →
    session.fault? around.tree = none → p.Completes around app directory session

theorem settles_iff_contained (p : Project) (around : Surroundings) (app : Text)
    (directory : Option FilePath) :
    ((∃ report, (p.analyze around app directory).outcome = .ok report) ∨
      ∃ fault, (p.analyze around app directory).outcome = .error (.session (.fault fault))) ↔
      p.Contained around app directory := by
  simp only [exists_analyze_iff, analyze_eq_fault_iff]
  constructor
  · intro h
    have hCreate : ∃ session,
        App.Session.create p.settings around.tree.cwd app directory = .ok session := by
      rcases h with ⟨session, hCreate, -⟩ | ⟨fault, session, hCreate, -⟩
      · exact ⟨session, hCreate⟩
      · exact ⟨session, hCreate⟩
    obtain ⟨hPaths, hLimits⟩ := (App.Session.exists_create_iff ..).mp hCreate
    refine ⟨hPaths, hLimits, fun session hSession hSound => ?_⟩
    rcases h with ⟨other, hOther, -, hStages⟩ | ⟨fault, other, hOther, hFault⟩
    · obtain rfl := Except.ok.inj (hOther.symm.trans hSession)
      exact hStages
    · obtain rfl := Except.ok.inj (hOther.symm.trans hSession)
      rw [hSound] at hFault
      cases hFault
  · rintro ⟨hPaths, hLimits, hStages⟩
    obtain ⟨session, hCreate⟩ := (App.Session.exists_create_iff ..).mpr ⟨hPaths, hLimits⟩
    cases hFault : session.fault? around.tree with
    | none => exact .inl ⟨session, hCreate, hFault, hStages session hCreate hFault⟩
    | some fault => exact .inr ⟨fault, session, hCreate, hFault⟩

end Project

end AssetAudit
