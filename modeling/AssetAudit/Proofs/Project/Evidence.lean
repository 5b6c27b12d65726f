import AssetAudit.Proofs.Files.Additions
import AssetAudit.Proofs.Project.Analysis
import AssetAudit.Proofs.Whitelist.Buckets

/-!
# Reports with more to go by

More patterns on the whitelist can only clear what a report names, and so can one more source file.
Both statements compare two analyses that come to a report.
-/
namespace AssetAudit

theorem App.Session.create_whitelist {s : Settings} {w : WhitelistSettings} {cwd : FilePath}
    {app : Text} {directory : Option FilePath} {session later : Session}
    (h : create s cwd app directory = .ok session)
    (hLater : create { s with whitelist := w } cwd app directory = .ok later) :
    later = { session with matcher := later.matcher } := by
  have hFirst := of_create h
  have hSecond := of_create hLater
  have hRoot : later.root = session.root := Except.ok.inj (hSecond.root.symm.trans hFirst.root)
  have hPlace : later.directory = session.directory :=
    Except.ok.inj (hSecond.place.symm.trans (hRoot ▸ hFirst.place))
  have hSources : later.sources = session.sources :=
    Except.ok.inj (hSecond.sources.symm.trans (hPlace ▸ hFirst.sources))
  have hAssets : later.assets = session.assets :=
    Except.ok.inj (hSecond.assets.symm.trans (hPlace ▸ hFirst.assets))
  have hScan : later.scan = session.scan :=
    Except.ok.inj (hSecond.scan.symm.trans (hPlace ▸ hFirst.scan))
  have hName : later.app = session.app := hSecond.name.trans hFirst.name.symm
  rw [← hName, ← hRoot, ← hPlace, ← hSources, ← hAssets, ← hScan]

theorem Whitelist.verdict_of_subset {entries others : List Value} {c d : Whitelist.Compiled}
    (h : Whitelist.compile entries = .ok c) (hOthers : Whitelist.compile others = .ok d)
    (hSubset : entries ⊆ others) {app path : Text}
    (hListed : Whitelist.verdict app c path = true) : Whitelist.verdict app d path = true := by
  rw [Whitelist.verdict_compile_iff h] at hListed
  rw [Whitelist.verdict_compile_iff hOthers]
  obtain ⟨raw, hRaw, hAlone⟩ := hListed
  exact ⟨raw, hSubset hRaw, hAlone⟩

namespace Project

def withWhitelist (p : Project) (w : WhitelistSettings) : Project :=
  { p with settings := { p.settings with whitelist := w } }

/-- A later report names no more, apart from packages, and lists no less. -/
structure ClearsTo (report later : Report) : Prop where
  assets : later.assets.Sublist report.assets
  whitelisted : report.whitelisted.Sublist later.whitelisted
  files : later.findings.files.Sublist report.findings.files
  exports : later.findings.exports.Sublist report.findings.exports
  types : later.findings.types.Sublist report.findings.types
  dependencies : later.findings.dependencies = report.findings.dependencies
  devDependencies : later.findings.devDependencies = report.findings.devDependencies

theorem sublist_of_map_some {α : Type} {l l' : List α}
    (h : (l.map some).Sublist (l'.map some)) : l.Sublist l' := by
  have hParts := h.filterMap id
  rw [List.filterMap_map, List.filterMap_map] at hParts
  change (l.filterMap some).Sublist (l'.filterMap some) at hParts
  rwa [List.filterMap_some, List.filterMap_some] at hParts

theorem Sorted.Of.sublist_unused {sorted later : Sorted} {root : FilePath}
    {listed used listedLater usedLater : Files.Asset → Bool} {assets : List Files.Asset}
    (h : sorted.Of root listed used assets) (hLater : later.Of root listedLater usedLater assets)
    (hListed : ∀ a ∈ assets, listed a = true → listedLater a = true)
    (hUsed : ∀ a ∈ assets, used a = true → usedLater a = true) :
    later.unused.Sublist sorted.unused := by
  apply sublist_of_map_some
  rw [h.unused, hLater.unused]
  refine List.Sublist.map _ ?_
  have hFilter : assets.filter (fun a => !listedLater a && !usedLater a) =
      (assets.filter fun a => !listed a && !used a).filter
        fun a => !listedLater a && !usedLater a := by
    rw [List.filter_filter]
    refine List.filter_congr fun a hMem => ?_
    have hMore := hListed a hMem
    have hMoreUsed := hUsed a hMem
    cases hFirst : listed a <;> cases hSecond : used a <;> simp_all
  rw [hFilter]
  exact List.filter_sublist

theorem Sorted.Of.sublist_whitelisted {sorted later : Sorted} {root : FilePath}
    {listed used listedLater usedLater : Files.Asset → Bool} {assets : List Files.Asset}
    (h : sorted.Of root listed used assets) (hLater : later.Of root listedLater usedLater assets)
    (hListed : ∀ a, listed a = true → listedLater a = true) :
    sorted.whitelisted.Sublist later.whitelisted := by
  rw [h.whitelisted, hLater.whitelisted]
  exact (List.monotone_filter_right assets hListed).map _

theorem sublist_isKept {listed later : Text → Bool}
    (h : ∀ path, listed path = true → later path = true) (items : List Value) :
    (items.filter (Findings.isKept later)).Sublist (items.filter (Findings.isKept listed)) := by
  refine List.monotone_filter_right items fun item hKept => ?_
  unfold Findings.isKept at hKept ⊢
  cases hPath : Findings.path? item with
  | none => rfl
  | some path =>
    rw [hPath] at hKept
    cases hListed : listed path with
    | false => simp [hListed]
    | true => simp [h path hListed] at hKept

theorem findings_clear {f later : Findings} {found : Findings} {listed listedLater : Text → Bool}
    (h : f = found.without listed) (hLater : later = found.without listedLater)
    (hListed : ∀ path, listed path = true → listedLater path = true) :
    later.files.Sublist f.files ∧ later.exports.Sublist f.exports ∧
      later.types.Sublist f.types ∧ later.dependencies = f.dependencies ∧
      later.devDependencies = f.devDependencies := by
  subst h hLater
  unfold Findings.without
  split
  · exact ⟨.refl _, .refl _, .refl _, rfl, rfl⟩
  · exact ⟨sublist_isKept hListed _, sublist_isKept hListed _, sublist_isKept hListed _, rfl, rfl⟩

variable {p : Project} {around : Surroundings} {app : Text} {directory : Option FilePath}
  {report later : Report}

theorem clearsTo_of_patterns (h : (p.analyze around app directory).outcome = .ok report)
    {w : WhitelistSettings}
    (hShared : p.settings.whitelist.patterns.Sublist w.patterns)
    (hOwn : (p.settings.whitelist.ownPatterns app).Sublist (w.ownPatterns app))
    (hLater : ((p.withWhitelist w).analyze around app directory).outcome = .ok later) :
    ClearsTo report later := by
  obtain ⟨g, m, hGround, hServes, hFindings, hSorted⟩ := exists_ground h
  obtain ⟨g', m', hGround', hServes', hFindings', hSorted'⟩ := exists_ground hLater
  have hSession := App.Session.create_whitelist hGround.session hGround'.session
  have hAssets : g'.assets = g.assets := by
    have hThere := hGround'.assets
    rw [hSession] at hThere
    exact Except.ok.inj (hThere.symm.trans hGround.assets)
  have hSources : g'.sources = g.sources := by
    have hThere := hGround'.sources
    rw [hSession] at hThere
    exact Except.ok.inj (hThere.symm.trans hGround.sources)
  have hPatterns := (List.Sublist.append hShared hOwn).map Value.text
  have hListed : ∀ path, g.isListed around.tree path = true →
      g'.isListed around.tree path = true := by
    intro path hPath
    have hMore := Whitelist.verdict_of_subset hGround.whitelist hGround'.whitelist
      hPatterns.subset hPath
    unfold Ground.isListed
    rw [hSession]
    exact hMore
  have hUsed : ∀ a, g'.isUsed around.tree a = g.isUsed around.tree a := by
    intro a
    unfold Ground.isUsed
    rw [hSession, hSources]
  have hRoot : g'.session.root = g.session.root := by rw [hSession]
  rw [hRoot, hAssets] at hSorted'
  have hKept : later.findings.files.Sublist report.findings.files ∧
      later.findings.exports.Sublist report.findings.exports ∧
      later.findings.types.Sublist report.findings.types ∧
      later.findings.dependencies = report.findings.dependencies ∧
      later.findings.devDependencies = report.findings.devDependencies := by
    obtain ⟨-, ⟨hOn, ⟨found, hRun, hSome⟩, -⟩ | ⟨hOff, hNone, -⟩⟩ := findings_spec hServes hFindings
    · obtain ⟨-, ⟨-, ⟨found', hRun', hSome'⟩, -⟩ | ⟨hOff, -, -⟩⟩ :=
        findings_spec hServes' hFindings'
      · rw [hSession] at hRun'
        obtain rfl := Except.ok.inj (hRun'.symm.trans hRun)
        exact findings_clear hSome hSome' hListed
      · cases hOn.symm.trans hOff
    · obtain ⟨-, ⟨hOn, -, -⟩ | ⟨-, hNone', -⟩⟩ := findings_spec hServes' hFindings'
      · cases hOn.symm.trans hOff
      · rw [hNone, hNone']
        exact ⟨.refl _, .refl _, .refl _, rfl, rfl⟩
  obtain ⟨hFiles, hExports, hTypes, hDependencies, hDev⟩ := hKept
  exact {
    assets := hSorted.sublist_unused hSorted' (fun a _ => hListed a.path.text)
      fun a _ hIs => (hUsed a).trans hIs
    whitelisted := hSorted.sublist_whitelisted hSorted' fun a => hListed a.path.text
    files := hFiles, exports := hExports, types := hTypes
    dependencies := hDependencies, devDependencies := hDev }

/-- A file that is no asset is put into a tree without links, where nothing was. Its path can be
spelled from the directories that are walked, and the directories that are made for it do not make
the assets be looked for where something else was before. -/
structure AddsFile (p : Project) (app : Text) (directory : Option FilePath)
    (before after : Files.Tree) (place : List Text) (data : List UInt8) : Prop where
  eq : after = before.withNode place (.file data)
  plain : before.root.Plain
  free : before.root.Free place
  named : ∀ name ∈ place, Files.IsName name
  noAsset : ∀ wanted, Files.wantedExtensions p.settings.assetExtensions = .ok wanted →
    Files.isWanted wanted ⟨['/'], place⟩ = false
  spells : ∀ session, App.Session.create p.settings before.cwd app directory = .ok session →
    after.Spells session.scan place ∧ after.Spells session.sources place
  nothingOld : ∀ session, App.Session.create p.settings before.cwd app directory = .ok session →
    Files.NothingOld before after session.scan

theorem textOf?_eq {tree : Files.Tree} {path : FilePath} {data : List UInt8}
    (h : tree.node path = .ok (.file data)) :
    Usage.textOf? tree path = (Text.ofUtf8 data).toOption.map Text.unifyLineEnds := by
  rw [Usage.textOf?, Files.Tree.read, h]

theorem isReferred_of_sublist {tree later : Files.Tree} {found more : List Files.Found}
    (hNode : ∀ f ∈ found, tree.node f.path = .ok (.file f.data))
    (hLater : ∀ f ∈ more, later.node f.path = .ok (.file f.data)) (h : found.Sublist more)
    {r : Usage.References} (hReferred : Usage.isReferred tree (found.map (·.path)) r = true) :
    Usage.isReferred later (more.map (·.path)) r = true := by
  rw [Usage.isReferred_iff] at hReferred ⊢
  obtain ⟨path, hPath, text, hText, hRefers⟩ := hReferred
  obtain ⟨f, hMem, rfl⟩ := List.mem_map.mp hPath
  have hMore := h.subset hMem
  refine ⟨f.path, List.mem_map_of_mem hMore, text, ?_, hRefers⟩
  rw [textOf?_eq (hLater f hMore), ← textOf?_eq (hNode f hMem), hText]

theorem sublist_of_addsFile (h : (p.analyze around app directory).outcome = .ok report)
    {more : Surroundings} {place : List Text} {data : List UInt8}
    (hAdds : p.AddsFile app directory around.tree more.tree place data)
    (hLater : (p.analyze more app directory).outcome = .ok later) :
    later.assets.Sublist report.assets ∧ later.whitelisted = report.whitelisted := by
  obtain ⟨g, m, hGround, -, -, hSorted⟩ := exists_ground h
  obtain ⟨g', m', hGround', -, -, hSorted'⟩ := exists_ground hLater
  have hCwd : more.tree.cwd = around.tree.cwd := by
    rw [hAdds.eq]
    rfl
  have hSession : g'.session = g.session := by
    have hThere := hGround'.session
    rw [hCwd] at hThere
    exact Except.ok.inj (hThere.symm.trans hGround.session)
  have hWhitelist : g'.whitelist = g.whitelist :=
    Except.ok.inj (hGround'.whitelist.symm.trans hGround.whitelist)
  have hPlain : more.tree.root.Plain := by
    rw [hAdds.eq]
    exact hAdds.plain.put hAdds.free hAdds.named
  obtain ⟨hScan, hSources⟩ := hAdds.spells g.session hGround.session
  have hNothingOld := hAdds.nothingOld g.session hGround.session
  rw [hAdds.eq] at hScan hSources hNothingOld
  -- the walk for assets finds what it found before
  have hAssets : g'.assets = g.assets := by
    have hThere := hGround'.assets
    rw [hSession] at hThere
    rw [Files.collectAssets_eq_ok hPlain hThere,
      Files.collectAssets_eq_ok hAdds.plain hGround.assets, hAdds.eq]
    have hGrows := Files.grows_filesAt (c := p.collector) hAdds.plain hAdds.free hScan
      p.settings.assetExtensions
    rw [hGrows.eq_of ⟨hNothingOld, hAdds.noAsset⟩]
  have hListed : ∀ path, g'.isListed more.tree path = g.isListed around.tree path := by
    intro path
    unfold Ground.isListed
    rw [hSession, hWhitelist, hCwd]
  have hUsed : ∀ a, g.isUsed around.tree a = true → g'.isUsed more.tree a = true := by
    intro a hIs
    have hThere := hGround'.sources
    rw [hSession] at hThere
    unfold Ground.isUsed Project.isUsed at hIs ⊢
    rw [Files.collectSources_eq_ok hAdds.plain hGround.sources] at hIs
    rw [Files.collectSources_eq_ok hPlain hThere, hSession, hCwd]
    refine isReferred_of_sublist
      (fun _ hMem => Files.node_of_mem_filesAt hAdds.plain hMem)
      (fun _ hMem => Files.node_of_mem_filesAt hPlain hMem) ?_ hIs
    rw [hAdds.eq]
    exact (Files.grows_filesAt hAdds.plain hAdds.free hSources _).sublist
  rw [hSession, hAssets] at hSorted'
  constructor
  · refine hSorted.sublist_unused hSorted' (fun a _ hIs => ?_) fun a _ => hUsed a
    rw [hListed]
    exact hIs
  · have hFirst : report.whitelisted = _ := hSorted.whitelisted
    have hSecond : later.whitelisted = _ := hSorted'.whitelisted
    rw [hFirst, hSecond]
    simp only [hListed]

/-- A report is monotone in what it goes by: with more patterns for all apps or for its own it names
no more and lists no less, and with one more source file it names no more assets and lists the
same. -/
theorem report_monotone (h : (p.analyze around app directory).outcome = .ok report) :
    (∀ w later, p.settings.whitelist.patterns.Sublist w.patterns →
      (p.settings.whitelist.ownPatterns app).Sublist (w.ownPatterns app) →
      ((p.withWhitelist w).analyze around app directory).outcome = .ok later →
        ClearsTo report later) ∧
    (∀ more place data later, p.AddsFile app directory around.tree more.tree place data →
      (p.analyze more app directory).outcome = .ok later →
        later.assets.Sublist report.assets ∧ later.whitelisted = report.whitelisted) :=
  ⟨fun _ _ hShared hOwn hLater => clearsTo_of_patterns h hShared hOwn hLater,
    fun _ _ _ _ hAdds hLater => sublist_of_addsFile h hAdds hLater⟩

def assetCounts (report : Report) : Nat × Nat :=
  (report.assets.length, report.whitelisted.length)

def shopPatterns : WhitelistSettings where
  patterns := ["a.png".toList, "b.png".toList]
  products := [("web".toList, ["c.png".toList])]

def shopWithSource : Surroundings where
  tree := shopTree.withNode (Text.splitOn '/' "apps/web/src/new/y.js".toList)
    (.file (Text.utf8 "a.png".toList))
  execute := shopSurroundings.execute
  time := []

theorem addsFile_shop : shop.AddsFile "web".toList none shopTree shopWithSource.tree
    (Text.splitOn '/' "apps/web/src/new/y.js".toList) (Text.utf8 "a.png".toList) := by
  have hPaths : ∀ session, App.Session.create shop.settings shopTree.cwd "web".toList none =
      .ok session → session.scan = ⟨['/'], Text.splitOn '/' "apps/web/src".toList⟩ ∧
        session.sources = ⟨['/'], Text.splitOn '/' "apps/web/src".toList⟩ := by
    intro session hSession
    have hBoth : (App.Session.create shop.settings shopTree.cwd "web".toList none).toOption.map
        (fun s => (s.scan, s.sources)) = some
          (⟨['/'], Text.splitOn '/' "apps/web/src".toList⟩,
            ⟨['/'], Text.splitOn '/' "apps/web/src".toList⟩) := by decide +kernel
    rw [hSession] at hBoth
    exact Prod.mk.inj (Option.some.inj hBoth)
  have hBefore : shopTree.locate ⟨['/'], Text.splitOn '/' "apps/web/src".toList⟩ =
      .ok (Text.splitOn '/' "apps/web/src".toList) := by decide +kernel
  have hAfter : shopWithSource.tree.locate ⟨['/'], Text.splitOn '/' "apps/web/src".toList⟩ =
      .ok (Text.splitOn '/' "apps/web/src".toList) := by decide +kernel
  have hSpells : shopWithSource.tree.Spells ⟨['/'], Text.splitOn '/' "apps/web/src".toList⟩
      (Text.splitOn '/' "apps/web/src/new/y.js".toList) := by
    intro base way hLocate hPlace
    obtain rfl := Except.ok.inj (hAfter.symm.trans hLocate)
    obtain rfl : way = ["new".toList, "y.js".toList] := List.append_cancel_left hPlace
    decide +kernel
  exact {
    eq := rfl
    plain := Files.Node.plain_of_isPlain (by decide +kernel)
    free := Files.Node.free_of_isFree (by decide +kernel)
    named := by decide +kernel
    noAsset := by
      intro wanted hWanted
      obtain rfl : [".png".toList] = wanted := Except.ok.inj hWanted
      decide +kernel
    spells := by
      intro session hSession
      obtain ⟨hScan, hSources⟩ := hPaths session hSession
      rw [hScan, hSources]
      exact ⟨hSpells, hSpells⟩
    nothingOld := by
      intro session hSession
      rw [(hPaths session hSession).1]
      intro base hLocate
      obtain rfl := Except.ok.inj (hAfter.symm.trans hLocate)
      exact .inl hBefore }

theorem report_monotone_shop : ∃ report listed used,
    (shop.analyze shopSurroundings "web".toList none).outcome = .ok report ∧
      assetCounts report = (1, 2) ∧
    (((shop.withWhitelist shopPatterns).analyze shopSurroundings "web".toList none).outcome =
        .ok listed ∧ assetCounts listed = (0, 3) ∧ ClearsTo report listed) ∧
    ((shop.analyze shopWithSource "web".toList none).outcome = .ok used ∧
      assetCounts used = (0, 2) ∧ used.assets.Sublist report.assets ∧
      used.whitelisted = report.whitelisted) := by
  obtain ⟨report, hReport, hCounts⟩ := Outcome.exists_of_toOption_map (f := assetCounts)
    (x := (shop.analyze shopSurroundings "web".toList none).outcome) (b := (1, 2))
    (by decide +kernel)
  obtain ⟨listed, hListed, hListedCounts⟩ := Outcome.exists_of_toOption_map (f := assetCounts)
    (x := ((shop.withWhitelist shopPatterns).analyze shopSurroundings "web".toList none).outcome)
    (b := (0, 3)) (by decide +kernel)
  obtain ⟨used, hUsed, hUsedCounts⟩ := Outcome.exists_of_toOption_map (f := assetCounts)
    (x := (shop.analyze shopWithSource "web".toList none).outcome) (b := (0, 2))
    (by decide +kernel)
  refine ⟨report, listed, used, hReport, hCounts, ⟨hListed, hListedCounts, ?_⟩, hUsed,
    hUsedCounts, ?_⟩
  · exact (report_monotone hReport).1 shopPatterns listed
      ((List.Sublist.refl _).cons _) (.refl _) hListed
  · exact (report_monotone hReport).2 shopWithSource _ _ used addsFile_shop hUsed

def gallery (scan : Text) : Project :=
  { shop with settings := { shop.settings with scanDir := .text scan } }

def longName : Text :=
  List.replicate 62 '𝒳'

def galleryTree : Files.Tree where
  root := .directory [("apps".toList, .directory [("web".toList, .directory [
    ("package.json".toList, .file []), (longName, .directory []),
    ("pics".toList, .directory [("a.png".toList, .file [1])]),
    ("src".toList, .directory [("b.png".toList, .file [])])])])]
  cwd := ⟨['/'], []⟩

def quiet (tree : Files.Tree) : Surroundings where
  tree
  execute _ _ := .ok (.finished { stdout := "\x7b\x7d".toList })
  time := []

def detour : Text :=
  (List.replicate 16 (longName ++ "/../".toList)).flatten ++ "src".toList

def longPlace : List Text :=
  ["apps".toList, "web".toList, "src".toList, List.replicate 15 '𝒳' ++ ".js".toList]

/-- A file that is no asset is put below the sources, and after that the report names an asset that
it did not name, or does not list the same. -/
def Unsettles (p : Project) (tree : Files.Tree) (place : List Text) : Prop :=
  tree.root.Plain ∧ tree.root.Free place ∧ (∀ name ∈ place, Files.IsName name) ∧
    (∀ wanted, Files.wantedExtensions p.settings.assetExtensions = .ok wanted →
      Files.isWanted wanted ⟨['/'], place⟩ = false) ∧
    (∃ session base, App.Session.create p.settings tree.cwd "web".toList none = .ok session ∧
      tree.locate session.sources = .ok base ∧ base <+: place) ∧
    ∃ report later, (p.analyze (quiet tree) "web".toList none).outcome = .ok report ∧
      (p.analyze (quiet (tree.withNode place (.file []))) "web".toList none).outcome =
        .ok later ∧
      ¬(later.assets.Sublist report.assets ∧ later.whitelisted = report.whitelisted)

theorem unsettles_gallery {scan : Text} {place : List Text} (base : List Text)
    (before after : Nat × Nat) (hFree : galleryTree.root.isFree place = true)
    (hNames : ∀ name ∈ place, Files.IsName name)
    (hWanted : Files.isWanted [".png".toList] ⟨['/'], place⟩ = false)
    (hSources : (App.Session.create (gallery scan).settings galleryTree.cwd "web".toList
      none).toOption.map (fun session => galleryTree.locate session.sources) = some (.ok base))
    (hBase : base <+: place)
    (hBefore : ((gallery scan).analyze (quiet galleryTree) "web".toList
      none).outcome.toOption.map assetCounts = some before)
    (hAfter : ((gallery scan).analyze (quiet (galleryTree.withNode place (.file []))) "web".toList
      none).outcome.toOption.map assetCounts = some after)
    (hMore : before.1 < after.1 ∨ before.2 ≠ after.2) :
    Unsettles (gallery scan) galleryTree place := by
  obtain ⟨session, hSession, hLocate⟩ := Outcome.exists_of_toOption_map hSources
  obtain ⟨report, hReport, rfl⟩ := Outcome.exists_of_toOption_map hBefore
  obtain ⟨later, hLater, rfl⟩ := Outcome.exists_of_toOption_map hAfter
  refine ⟨Files.Node.plain_of_isPlain (by decide +kernel), Files.Node.free_of_isFree hFree, hNames,
    ?_, ⟨session, base, hSession, hLocate, hBase⟩, report, later, hReport, hLater, ?_⟩
  · intro wanted hThese
    obtain rfl : [".png".toList] = wanted := Except.ok.inj hThese
    exact hWanted
  · rintro ⟨hAssets, hListed⟩
    rcases hMore with hMore | hOther
    · exact absurd hAssets.length_le (Nat.not_le.mpr hMore)
    · exact hOther (congrArg List.length hListed).symm

/-- Assets can be looked for through a directory that is made for the new file, and the new file can
have too long a path for its directory to be read any more. -/
theorem unsettles_twice :
    Unsettles (gallery "src/new/../../pics".toList) galleryTree
        (Text.splitOn '/' "apps/web/src/new/x.js".toList) ∧
      Unsettles (gallery detour) galleryTree longPlace := by
  constructor
  · exact unsettles_gallery (Text.splitOn '/' "apps/web/src".toList) (0, 0) (1, 0)
      (by decide +kernel) (by decide +kernel) (by decide +kernel)
      (by decide +kernel) (by decide +kernel) (by decide +kernel) (by decide +kernel)
      (by decide +kernel)
  · exact unsettles_gallery (Text.splitOn '/' "apps/web/src".toList) (0, 1) (0, 0)
      (by decide +kernel) (by decide +kernel) (by decide +kernel)
      (by decide +kernel) (by decide +kernel) (by decide +kernel) (by decide +kernel)
      (by decide +kernel)

end Project

end AssetAudit
