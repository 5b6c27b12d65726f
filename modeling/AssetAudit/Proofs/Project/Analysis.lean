import AssetAudit.Proofs.Analyzer.Commands
import AssetAudit.Proofs.App.Session
import AssetAudit.Proofs.Files.Walk
import AssetAudit.Proofs.Findings.Reports
import AssetAudit.Proofs.Project.Assets

/-!
# What a report says

A report is read off a ground: the session of the app, the whitelist that holds for it, and the
files that were collected. Its assets, its findings and its status follow from the ground, from the
texts of the sources and from what the analyzer gave.
-/
namespace AssetAudit.Project

open Whitelist (Compiled Matcher verdict)

structure Ground where
  session : App.Session
  whitelist : Compiled
  assets : List Files.Asset
  sources : List FilePath

namespace Ground

/-- The ground that the settings and the tree give for an app: the patterns of all apps and the
app's own make the whitelist, assets are collected where the session scans, and source files where
it has its sources. -/
structure Of (g : Ground) (p : Project) (tree : Files.Tree) (app : Text)
    (directory : Option FilePath) : Prop where
  session : App.Session.create p.settings tree.cwd app directory = .ok g.session
  whitelist : Whitelist.compile ((p.settings.whitelist.patterns ++
    p.settings.whitelist.ownPatterns app).map Value.text) = .ok g.whitelist
  assets : (Files.collectAssets tree p.collector g.session.scan g.session.directory
    p.settings.assetExtensions).outcome = .ok g.assets
  sources : (Files.collectSources tree p.collector g.session.sources
    p.settings.sourceExtensions).outcome = .ok g.sources

def isListed (g : Ground) (tree : Files.Tree) (path : Text) : Bool :=
  verdict (g.session.place tree.cwd) g.whitelist path

def isUsed (g : Ground) (tree : Files.Tree) (asset : Files.Asset) : Bool :=
  Project.isUsed tree g.session.sources g.sources asset

end Ground

/-- The assets of a report: unused are, each once, those that are neither listed nor used, and
every other asset is listed or has a source that refers to it. -/
structure TellsAssets (report : Report) (g : Ground) (tree : Files.Tree) : Prop where
  unused : report.assets.map some =
    (g.assets.filter fun a => !g.isListed tree a.path.text && !g.isUsed tree a).map fun a =>
      UnusedAsset.of? g.session.root a.path a.size
  once : tree.root.WellNamed → (report.assets.map (·.path)).Nodup
  whitelisted : report.whitelisted =
    (g.assets.filter fun a => g.isListed tree a.path.text).map (·.relative)
  others : ∀ a ∈ g.assets, a.relative ∉ report.whitelisted →
    a.path ∉ report.assets.map (·.path) →
      ∃ path ∈ g.sources, ∃ text, Usage.textOf? tree path = some text ∧
        (Usage.Source.of path text).refersTo (.of tree.cwd a.path g.session.sources) = true

/-- The findings of a report: those of the first command that did not fail, without items outside
the sources and listed items, or none if the analyzer is not enabled. -/
structure TellsFindings (report : Report) (g : Ground) (s : AnalyzerSettings)
    (around : Surroundings) : Prop where
  found : Analyzer.isEnabled s = true → report.findings.failure? = none →
    ∃ place commands command output given,
      Analyzer.directory s around.tree.cwd g.session.directory = .ok place ∧
      s.commands.items? = some commands ∧
      Analyzer.IsDue (around.execute place) commands command ∧
      around.execute place command = .ok (.finished output) ∧ output.code = 0 ∧
      Findings.report? output.stdout = some given ∧
      report.findings.AreOf given (g.isListed around.tree)
  skipped : Analyzer.isEnabled s = false → report.findings = {}
  status : report.status =
    if Analyzer.isEnabled s then
      if report.findings.failure?.isSome then Status.failed else Status.success
    else Status.skipped

theorem path_of? {root path : FilePath} {size : Int} {unused : UnusedAsset}
    (h : UnusedAsset.of? root path size = some unused) : unused.path = path := by
  obtain ⟨sizeText, -, rfl⟩ := Option.map_eq_some_iff.mp h
  rfl

theorem paths_of_unused {root : FilePath} {unused : List UnusedAsset} {assets : List Files.Asset}
    (h : unused.map some = assets.map fun a => UnusedAsset.of? root a.path a.size) :
    unused.map (·.path) = assets.map (·.path) := by
  induction unused generalizing assets with
  | nil =>
    obtain rfl := List.map_eq_nil_iff.mp h.symm
    rfl
  | cons first rest ih =>
    cases assets with
    | nil => cases h
    | cons asset assets =>
      rw [List.map_cons, List.map_cons, List.cons.injEq] at h
      rw [List.map_cons, List.map_cons, path_of? h.1.symm, ih h.2]

theorem Sorted.Of.tellsAssets {report : Report} {g : Ground} {p : Project} {tree : Files.Tree}
    {app : Text} {directory : Option FilePath} (hGround : g.Of p tree app directory)
    (h : Sorted.Of ⟨report.assets, report.whitelisted⟩ g.session.root
      (fun a => g.isListed tree a.path.text) (g.isUsed tree) g.assets) :
    TellsAssets report g tree := by
  have hWhitelisted : report.whitelisted =
      (g.assets.filter fun a => g.isListed tree a.path.text).map (·.relative) := h.whitelisted
  have hPaths : report.assets.map (·.path) =
      (g.assets.filter fun a => !g.isListed tree a.path.text && !g.isUsed tree a).map (·.path) :=
    paths_of_unused h.unused
  refine ⟨h.unused, ?_, hWhitelisted, ?_⟩
  · intro hNamed
    have hDistinct := Files.nodup_collectAssets hNamed hGround.assets
    rw [hPaths]
    exact hDistinct.sublist (List.filter_sublist.map _)
  · intro a hMem hRelative hPath
    rw [hWhitelisted] at hRelative
    rw [hPaths] at hPath
    have hUnlisted : g.isListed tree a.path.text = false := by
      by_contra hListed
      exact hRelative (List.mem_map_of_mem (List.mem_filter.mpr ⟨hMem, by simpa using hListed⟩))
    have hUsed : g.isUsed tree a = true := by
      by_contra hUnused
      refine hPath (List.mem_map_of_mem (List.mem_filter.mpr ⟨hMem, ?_⟩))
      rw [hUnlisted, Bool.eq_false_iff.mpr hUnused]
      rfl
    exact (Usage.isReferred_iff _ _ _).mp hUsed

theorem session_eq_ok {p : Project} {tree : Files.Tree} {app : Text} {directory : Option FilePath}
    {session : App.Session} (h : p.session tree app directory = .ok session) :
    App.Session.create p.settings tree.cwd app directory = .ok session := by
  obtain ⟨created, hCreate, h⟩ := (Outcome.bind_eq_ok_iff _ _ _).mp h
  obtain ⟨⟨⟩, -, h⟩ := (Outcome.bind_eq_ok_iff _ _ _).mp h
  cases h
  exact (Outcome.mapError_eq_ok_iff _ _ _).mp hCreate

theorem exists_session_of_analyze {p : Project} {around : Surroundings} {app : Text}
    {directory : Option FilePath} {report : Report}
    (h : (p.analyze around app directory).outcome = .ok report) :
    ∃ session, App.Session.create p.settings around.tree.cwd app directory = .ok session ∧
      report.app = app ∧ report.directory = session.directory := by
  obtain ⟨session, hSession, h⟩ := (Attempt.bind_eq_ok_iff _ _ _).mp h
  obtain ⟨⟨found, status, m⟩, -, h⟩ := (Attempt.bind_eq_ok_iff _ _ _).mp h
  obtain ⟨assets, -, h⟩ := (Attempt.bind_eq_ok_iff _ _ _).mp h
  obtain ⟨paths, -, h⟩ := (Attempt.bind_eq_ok_iff _ _ _).mp h
  obtain ⟨sorted, -, h⟩ := (Attempt.bind_eq_ok_iff _ _ _).mp h
  cases h
  exact ⟨session, session_eq_ok hSession, rfl, rfl⟩

/-- The findings of an analysis and its status, and a matcher that still answers for the
whitelist. -/
theorem findings_spec {p : Project} {around : Surroundings} {session : App.Session}
    {app : Text} {c : Compiled} (h : session.matcher.Serves app c) {f : Findings} {status : Text}
    {m : Matcher} (hFindings : (p.findings around session).outcome = .ok (f, status, m)) :
    m.Serves app c ∧
      ((Analyzer.isEnabled p.settings.knip = true ∧
        (∃ found, (Analyzer.run around.execute p.settings.knip around.tree
          session.directory).outcome = .ok found ∧ f = found.without (verdict app c)) ∧
        status = if f.failure?.isSome then Status.failed else Status.success) ∨
      (Analyzer.isEnabled p.settings.knip = false ∧ f = {} ∧ status = Status.skipped)) := by
  unfold findings at hFindings
  split at hFindings
  · rename_i hEnabled
    obtain ⟨found, hRun, hFindings⟩ := (Attempt.bind_eq_ok_iff _ _ _).mp hFindings
    obtain ⟨⟨kept, next⟩, hFilter, hFindings⟩ := (Attempt.bind_eq_ok_iff _ _ _).mp hFindings
    obtain ⟨hKept, hServes⟩ := Findings.filter_spec h found
    rw [Except.ok.inj hFilter] at hKept hServes
    cases hFindings
    exact ⟨hServes, .inl ⟨hEnabled, ⟨found, (Attempt.adapt_eq_ok_iff _ _ _).mp hRun, hKept⟩, rfl⟩⟩
  · rename_i hDisabled
    cases hFindings
    exact ⟨h, .inr ⟨Bool.eq_false_iff.mpr hDisabled, rfl, rfl⟩⟩

theorem tellsFindings_of {p : Project} {around : Surroundings} {g : Ground} {report : Report}
    {m : Matcher} (h : g.session.matcher.Serves (g.session.place around.tree.cwd) g.whitelist)
    (hFindings : (p.findings around g.session).outcome =
      .ok (report.findings, report.status, m)) :
    TellsFindings report g p.settings.knip around := by
  obtain ⟨-, ⟨hEnabled, ⟨found, hRun, hKept⟩, hStatus⟩ | ⟨hDisabled, hNone, hStatus⟩⟩ :=
    findings_spec h hFindings
  · refine ⟨fun _ hSound => ?_, fun hDisabled => ?_, ?_⟩
    · rw [hKept, Findings.failure?_without] at hSound
      obtain ⟨place, commands, command, hPlace, hCommands, hDue, hGives⟩ :=
        Analyzer.exists_gives_of_run hRun hSound
      obtain ⟨output, given, hOutput, hCode, hGiven, hReport⟩ := (Analyzer.gives_iff ..).mp hGives
      refine ⟨place, commands, command, output, given, hPlace, hCommands, hDue, hOutput, hCode,
        hGiven, ?_⟩
      rw [hKept]
      exact Findings.areOf_of_ofReport hReport _
    · rw [hEnabled] at hDisabled
      cases hDisabled
    · rw [if_pos hEnabled, hStatus]
  · refine ⟨fun hEnabled => ?_, fun _ => hNone, ?_⟩
    · rw [hDisabled] at hEnabled
      cases hEnabled
    · rw [hDisabled, hStatus]
      rfl

/-- What the steps of an analysis leave in its report. -/
theorem exists_ground {p : Project} {around : Surroundings} {app : Text}
    {directory : Option FilePath} {report : Report}
    (h : (p.analyze around app directory).outcome = .ok report) :
    ∃ (g : Ground) (m : Matcher), g.Of p around.tree app directory ∧
      g.session.matcher.Serves (g.session.place around.tree.cwd) g.whitelist ∧
      (p.findings around g.session).outcome = .ok (report.findings, report.status, m) ∧
      Sorted.Of ⟨report.assets, report.whitelisted⟩ g.session.root
        (fun a => g.isListed around.tree a.path.text) (g.isUsed around.tree) g.assets := by
  obtain ⟨session, hSession, h⟩ := (Attempt.bind_eq_ok_iff _ _ _).mp h
  obtain ⟨⟨found, status, m⟩, hFindings, h⟩ := (Attempt.bind_eq_ok_iff _ _ _).mp h
  obtain ⟨assets, hAssets, h⟩ := (Attempt.bind_eq_ok_iff _ _ _).mp h
  obtain ⟨paths, hPaths, h⟩ := (Attempt.bind_eq_ok_iff _ _ _).mp h
  obtain ⟨sorted, hSorted, h⟩ := (Attempt.bind_eq_ok_iff _ _ _).mp h
  cases h
  have hCreate := session_eq_ok hSession
  obtain ⟨c, hCompile, hServes⟩ := App.Session.create_serves hCreate
  -- the matcher that has filtered the findings goes on to the assets
  have hStill := (findings_spec hServes hFindings).1
  rw [outcome_sortAssets hStill, tellApart_eq_ok_iff] at hSorted
  exact ⟨⟨session, c, assets, paths⟩, m,
    ⟨hCreate, hCompile, (Attempt.adapt_eq_ok_iff _ _ _).mp hAssets,
      (Attempt.adapt_eq_ok_iff _ _ _).mp hPaths⟩, hServes, hFindings, hSorted⟩

/-- A report tells the collected assets apart by the whitelist and the sources, and takes over what
the analyzer gave. -/
theorem analyze_tells {p : Project} {around : Surroundings} {app : Text}
    {directory : Option FilePath} {report : Report}
    (h : (p.analyze around app directory).outcome = .ok report) :
    ∃ g : Ground, g.Of p around.tree app directory ∧ TellsAssets report g around.tree ∧
      TellsFindings report g p.settings.knip around := by
  obtain ⟨g, m, hGround, hServes, hFindings, hSorted⟩ := exists_ground h
  exact ⟨g, hGround, hSorted.tellsAssets hGround, tellsFindings_of hServes hFindings⟩

/-- A project with one app: four pictures, and a source that names one of them. -/
def shop : Project where
  settings := {
    rootDir := .null
    appsDir := .text "apps".toList
    assetsDir := .text "assets".toList
    srcDir := .text "src".toList
    scanDir := .null
    assetExtensions := .list [.text ".png".toList]
    sourceExtensions := .list [.text ".js".toList]
    excludeDirs := .list []
    whitelist := { patterns := ["b.png".toList], products := [("web".toList, ["c.png".toList])] }
    knip := {
      enabled := .bool true
      cwd := .null
      timeout := .null
      commands := .list [.text "knip".toList] }
    report := { jsonOutput := .null, saveReport := .null }
    logging := { level := .null, format := .null } }
  collector := { patterns := [], rules := [] }

def shopTree : Files.Tree where
  root := .directory [("apps".toList, .directory [("web".toList, .directory [
    ("package.json".toList, .file []),
    ("src".toList, .directory [
      ("a.png".toList, .file [1]), ("b.png".toList, .file []), ("c.png".toList, .file []),
      ("d.png".toList, .file []), ("main.js".toList, .file (Text.utf8 "d.png".toList))])])])]
  cwd := ⟨['/'], []⟩

/-- The analyzer names two files of the sources and one beside them, and a package that is called
as a listed picture is. -/
def shopSurroundings : Surroundings where
  tree := shopTree
  execute _ _ := .ok (.finished {
    stdout := "\x7b\"files\": [\"src/b.png\", \"src/x.js\", \"x.js\"], ".toList ++
      "\"dependencies\": [\"b.png\"]\x7d".toList })
  time := []

def shopSummary (report : Report) : List (List Text) :=
  [report.assets.map (·.shown), report.whitelisted, report.findings.files.map Findings.label,
    report.findings.dependencies.map Findings.label]

theorem analyze_tells_shop : ∃ report,
    (shop.analyze shopSurroundings "web".toList none).outcome = .ok report ∧
      shopSummary report = [["apps/web/src/a.png".toList], ["src/b.png".toList, "src/c.png".toList],
        ["src/x.js".toList], ["b.png".toList]] ∧
      ∃ g : Ground, g.Of shop shopTree "web".toList none ∧ TellsAssets report g shopTree ∧
        TellsFindings report g shop.settings.knip shopSurroundings := by
  obtain ⟨report, hReport, hSummary⟩ := Outcome.exists_of_toOption_map (f := shopSummary)
    (x := (shop.analyze shopSurroundings "web".toList none).outcome)
    (b := [["apps/web/src/a.png".toList], ["src/b.png".toList, "src/c.png".toList],
      ["src/x.js".toList], ["b.png".toList]]) (by decide +kernel)
  exact ⟨report, hReport, hSummary, analyze_tells hReport⟩

end AssetAudit.Project
