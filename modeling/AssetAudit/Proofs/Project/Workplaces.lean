import AssetAudit.Proofs.App.Checks
import AssetAudit.Proofs.Path.Inside
import AssetAudit.Proofs.Project.Analysis

/-!
# Where the analyzer works

The analyzer may be run in a directory below the app, and names what it finds as seen from there. The
whitelist takes such a name as seen from the app. What is dropped from the findings is what the whitelist
names among the assets when both directories are one, and not otherwise.
-/
namespace AssetAudit

namespace FilePath

variable {place : FilePath} {names : List Text} {path : Text}

structure IsWhole (p : FilePath) : Prop where
  spelled : p.IsSpelled
  absolute : p.isAbsolute = true

theorem IsWhole.join {p q : FilePath} (hp : p.IsWhole) (hq : q.IsSpelled) : (p.join q).IsWhole :=
  ⟨hp.spelled.join hq, isAbsolute_join hp.absolute⟩

theorem ofText_joinNames (h : ∀ name ∈ names, Path.IsName name) :
    ofText (Text.join ['/'] names) = ⟨[], names⟩ := by
  have hParts : ∀ name ∈ names, isPart name = true ∧ '/' ∉ name := fun name hMem =>
    ⟨(h name hMem).part, (h name hMem).slash⟩
  rw [Path.object_of_relative (isAbsolute_joinParts hParts), filter_splitOn_join hParts]

theorem IsWhole.resolve_text {p : FilePath} (h : p.IsWhole) (cwd : Text) :
    Path.resolve cwd p.text = p.parts.foldl Path.step [] := by
  rw [Path.resolve_of_absolute _ (h.spelled.isAbsolute_text h.absolute), h.spelled.resolveBelow_text]

theorem IsWhole.resolve_names (hPlace : place.IsWhole) (hNames : ∀ name ∈ names, Path.IsName name) :
    let file := (place.join (.ofText (Text.join ['/'] names))).text
    Path.isAbsolute file = true ∧ Path.resolve ['/'] file = Path.resolve ['/'] place.text ++ names := by
  have hFile : (place.join (ofText (Text.join ['/'] names))).IsWhole := hPlace.join (isSpelled_ofText _)
  refine ⟨hFile.spelled.isAbsolute_text hFile.absolute, ?_⟩
  rw [hFile.resolve_text, hPlace.resolve_text, ofText_joinNames hNames]
  change (place.parts ++ names).foldl Path.step [] = _
  rw [List.foldl_append]
  exact foldl_step_of_no_up (fun name hMem => ⟨(hNames name hMem).part, (hNames name hMem).up⟩) _

end FilePath

namespace App.Session

variable {s : Settings} {cwd : FilePath} {app : Text} {directory : Option FilePath} {session : Session}

theorem placeOf_of_create (h : create s cwd app directory = .ok session) : ∃ root,
    givenRoot s cwd = .ok root ∧ placeOf s cwd (root.absolute cwd) app directory = .ok session.directory := by
  obtain ⟨root, hRoot, hAbsolute⟩ := (Outcome.map_eq_ok_iff _ _ _).mp (of_create h).root
  exact ⟨root, hRoot, hAbsolute ▸ (of_create h).place⟩

theorem isWhole_directory (hCwd : cwd.IsWhole) (hGiven : ∀ d ∈ directory, d.IsSpelled)
    (h : create s cwd app directory = .ok session) : session.directory.IsWhole := by
  obtain ⟨root, hRoot, hPlace⟩ := placeOf_of_create h
  cases directory with
  | some d =>
    rw [← Except.ok.inj hPlace]
    exact hCwd.join (hGiven d rfl)
  | none =>
    obtain ⟨apps, hApps, hDirectory⟩ := (Outcome.map_eq_ok_iff _ _ _).mp hPlace
    have hPath : ∀ {v : Value} {path : FilePath}, pathOf v = .ok path → path.IsSpelled := by
      intro v path hPath
      obtain ⟨t, rfl⟩ := (exists_pathOf_iff v).mp ⟨path, hPath⟩
      cases hPath
      exact FilePath.isSpelled_ofText t
    have hStart : root.IsSpelled := by
      unfold givenRoot at hRoot
      split at hRoot
      · exact hPath hRoot
      · cases hRoot
        exact hCwd.spelled
    rw [← hDirectory]
    exact ((hCwd.join hStart).join (hPath hApps)).join (FilePath.isSpelled_ofText app)

end App.Session

theorem Analyzer.isWhole_directory {s : AnalyzerSettings} {cwd app place : FilePath} (hCwd : cwd.IsWhole)
    (hApp : app.IsWhole) (h : Analyzer.directory s cwd app = .ok place) : place.IsWhole := by
  unfold Analyzer.directory at h
  split at h
  · split at h
    · cases h
      exact hCwd.join (hApp.spelled.join (FilePath.isSpelled_ofText _))
    · cases h
  · cases h
    exact hApp

namespace Project

open Whitelist (Compiled verdict)

variable {app : Text} {c : Compiled} {place : FilePath} {path : Text} {names : List Text}

/-- A path of names, none of which has a backslash in it, that lies in the sources. -/
structure IsNamed (path : Text) (names : List Text) : Prop where
  spelled : path = Text.join ['/'] names
  some : names ≠ []
  isName : ∀ name ∈ names, Path.IsName name
  backslash : ∀ name ∈ names, '\\' ∉ name
  sources : Findings.inSources path = true

/-- Whatever the whitelist, a path that is named is listed exactly when the file there is, as seen from a
place. -/
def Agrees (app : Text) (place : FilePath) : Prop :=
  ∀ (entries : List Value) (c : Compiled), Whitelist.compile entries = .ok c →
    ∀ (path : Text) (names : List Text), IsNamed path names →
      verdict app c path = verdict app c (place.join (.ofText path)).text

theorem IsNamed.normalize (h : IsNamed path names) (app : Text) : Path.normalize app path = .form path := by
  have hPosix : Path.toPosix path = Text.join ['/'] names := by
    rw [← h.spelled]
    refine Path.toPosix_of_not_mem fun hMem => ?_
    rw [h.spelled, FilePath.mem_join_iff _ (by decide)] at hMem
    obtain ⟨name, hName, hBackslash⟩ := hMem
    exact h.backslash name hName hBackslash
  obtain ⟨hRelative, hWritten⟩ := Path.written_of_isWritten h.some h.isName (.inl hPosix)
  rw [Path.normalize_relative _ hRelative, hWritten, ← h.spelled]

/-- A file has the form of its path where the place is the app. -/
theorem IsNamed.normalize_file (h : IsNamed path names) (hPlace : place.IsWhole)
    (hSame : Path.resolve ['/'] place.text = Path.resolve ['/'] app) :
    Path.normalize app (place.join (.ofText path)).text = .form path := by
  obtain ⟨rfl, hSome, hNames, hBackslash, -⟩ := h
  obtain ⟨hAbsolute, hFile⟩ := hPlace.resolve_names hNames
  rw [hSame] at hFile
  rw [Path.normalize_below hAbsolute hFile hNames hBackslash]
  cases names with
  | nil => exact absurd rfl hSome
  | cons name rest => rfl

theorem IsNamed.verdict_file (h : IsNamed path names) (hPlace : place.IsWhole)
    (hSame : Path.resolve ['/'] place.text = Path.resolve ['/'] app) (c : Compiled) :
    verdict app c path = verdict app c (place.join (.ofText path)).text := by
  rw [verdict, verdict, h.normalize, h.normalize_file hPlace hSame]

/-- A file below a directory of the app has a longer form than its path from there. -/
theorem length_lt_of_form {way : List Text} (hSome : way ≠ []) (hNames : names ≠ []) {file form : Text}
    (hAbsolute : Path.isAbsolute file = true)
    (hFile : Path.resolve ['/'] file = Path.resolve ['/'] app ++ (way ++ names))
    (hForm : Path.normalize app file = .form form) : (Text.join ['/'] names).length < form.length := by
  have hBelow := Path.relative_below hFile
  have hText : (FilePath.mk [] (way ++ names)).text =
      Text.join ['/'] way ++ '/' :: Text.join ['/'] names := by
    rw [← Text.join_append '/' hSome hNames]
    obtain ⟨first, rest, rfl⟩ := List.exists_cons_of_ne_nil hSome
    rfl
  rw [hText] at hBelow
  unfold Path.normalize at hForm
  rw [if_pos hAbsolute, hBelow] at hForm
  dsimp only at hForm
  split at hForm
  · cases hForm
  · cases hForm
    simp only [Path.toPosix, Text.replaceChar, List.length_map, List.length_append, List.length_cons]
    omega

/-- Two directories of which one lies in the other agree only when they are one. -/
theorem agrees_iff (hPlace : place.IsWhole)
    (hInside : Path.resolve ['/'] app <+: Path.resolve ['/'] place.text) :
    Agrees app place ↔ Path.resolve ['/'] place.text = Path.resolve ['/'] app := by
  constructor
  · intro hAgrees
    obtain ⟨way, hWay⟩ := hInside
    by_contra hOther
    have hSome : way ≠ [] := by
      rintro rfl
      exact hOther (by rw [← hWay, List.append_nil])
    have hNames : ∀ name ∈ ["src".toList, "x".toList], Path.IsName name := by
      simp only [List.forall_mem_cons]
      exact ⟨⟨by decide, by decide, by decide⟩, ⟨by decide, by decide, by decide⟩, nofun⟩
    have hNamed : IsNamed "src/x".toList ["src".toList, "x".toList] :=
      ⟨rfl, List.cons_ne_nil _ _, hNames, by decide, rfl⟩
    -- a list of this one path tells the two files apart
    have hVerdicts := hAgrees [.text "src/x".toList] { paths := ["src/x".toList] } rfl _ _ hNamed
    have hListed : verdict app { paths := ["src/x".toList] } "src/x".toList = true := by
      rw [verdict, hNamed.normalize]
      rfl
    rw [hListed, eq_comm, Whitelist.verdict_eq_true_iff] at hVerdicts
    obtain ⟨form, hForm, -, hAccepts⟩ := hVerdicts
    have hSame : form = "src/x".toList := by
      simpa [Compiled.accepts] using hAccepts
    obtain ⟨hAbsolute, hFile⟩ := hPlace.resolve_names hNames
    rw [← hWay, List.append_assoc] at hFile
    have hLonger := length_lt_of_form hSome hNamed.some hAbsolute hFile hForm
    rw [hSame] at hLonger
    exact absurd hLonger (by decide)
  · intro hSame entries c _ path names hNamed
    exact hNamed.verdict_file hPlace hSame c

structure Gave (around : Surroundings) (s : AnalyzerSettings) (app place : FilePath)
    (given : Entries Value) : Prop where
  directory : Analyzer.directory s around.tree.cwd app = .ok place
  report : ∃ commands command output, s.commands.items? = some commands ∧
    Analyzer.IsDue (around.execute place) commands command ∧
    around.execute place command = .ok (.finished output) ∧ output.code = 0 ∧
    Findings.report? output.stdout = some given

inductive IsCategory (f : Findings) (given : Entries Value) : List Value → List Value → Prop
  | files : IsCategory f given (Findings.listOf given "files") f.files
  | exports : IsCategory f given (Findings.listOf given "exports") f.exports
  | types : IsCategory f given (Findings.listOf given "types") f.types

/-- An item that names a path is dropped when the path is listed. -/
theorem not_mem_kept_iff {f : Findings} {given : Entries Value} {listed : Text → Bool}
    (h : f.AreOf given listed) {items kept : List Value} (hCategory : IsCategory f given items kept)
    {item : Value} (hMem : item ∈ items) (hPath : Findings.path? item = some path)
    (hSources : Findings.inSources path = true) : item ∉ kept ↔ listed path = true := by
  have hKept : kept = items.filter (Findings.stays listed) := by
    cases hCategory with
    | files => exact h.files
    | exports => exact h.exports
    | types => exact h.types
  have hStays : Findings.stays listed item = !listed path := by
    rw [Findings.stays, hPath]
    dsimp only
    rw [hSources, Bool.true_and]
  rw [hKept, List.mem_filter, hStays]
  simp [hMem]

/-- A report drops the findings that the whitelist names as files of the app. They are those that it names
as files of the place where the analyzer was run when this is the app itself, and for every other directory
of the app there is a whitelist for which they are not. -/
theorem findings_follow_files_iff {p : Project} {around : Surroundings} {name : Text}
    {directory : Option FilePath} {report : Report} (hCwd : around.tree.cwd.IsWhole)
    (hGiven : ∀ d ∈ directory, d.IsSpelled)
    (hReport : (p.analyze around name directory).outcome = .ok report)
    (hEnabled : Analyzer.isEnabled p.settings.knip = true)
    (hSound : report.findings.failure? = none) :
    ∃ (g : Ground) (place : FilePath) (given : Entries Value),
      g.Of p around.tree name directory ∧ Gave around p.settings.knip g.session.directory place given ∧
      (∀ items kept, IsCategory report.findings given items kept → ∀ item ∈ items, ∀ path names,
        Findings.path? item = some path → IsNamed path names →
          (item ∉ kept ↔ g.isListed around.tree (g.session.directory.join (.ofText path)).text = true) ∧
          (Path.resolve ['/'] place.text = Path.resolve ['/'] g.session.directory.text →
            (item ∉ kept ↔ g.isListed around.tree (place.join (.ofText path)).text = true))) ∧
      (Path.resolve ['/'] g.session.directory.text <+: Path.resolve ['/'] place.text →
        (Agrees (g.session.place around.tree.cwd) place ↔
          Path.resolve ['/'] place.text = Path.resolve ['/'] g.session.directory.text)) := by
  obtain ⟨g, m, hGround, hServes, hRun, -⟩ := exists_ground hReport
  have hFindings := tellsFindings_of hServes hRun
  obtain ⟨place, commands, command, output, given, hPlace, hCommands, hDue, hOutput, hCode, hRead,
    hAreOf⟩ := hFindings.found hEnabled hSound
  have hDirectory := App.Session.isWhole_directory hCwd hGiven hGround.session
  have hThere := Analyzer.isWhole_directory hCwd hDirectory hPlace
  have hApp : Path.resolve ['/'] g.session.directory.text =
      Path.resolve ['/'] (g.session.place around.tree.cwd) := by
    rw [App.Session.place, Path.resolve_absolute, hDirectory.resolve_text, hDirectory.resolve_text]
  refine ⟨g, place, given, hGround, ⟨hPlace, commands, command, output, hCommands, hDue, hOutput, hCode,
    hRead⟩, ?_, ?_⟩
  · intro items kept hCategory item hMem path names hPath hNamed
    have hDropped := not_mem_kept_iff hAreOf hCategory hMem hPath hNamed.sources
    constructor
    · rw [hDropped, Ground.isListed, Ground.isListed, hNamed.verdict_file hDirectory hApp]
    · intro hSame
      rw [hDropped, Ground.isListed, Ground.isListed, hNamed.verdict_file hThere (hSame.trans hApp)]
  · intro hInside
    rw [hApp] at hInside ⊢
    exact agrees_iff hThere hInside

def outlet (workplace : Text) : Project :=
  { shop with settings := { shop.settings with
      whitelist := { patterns := ["outlet/src/x.js".toList] }
      knip := { shop.settings.knip with cwd := .text workplace } } }

def outletSurroundings : Surroundings where
  tree := {
    root := .directory [("apps".toList, .directory [("web".toList, .directory [
      ("package.json".toList, .file []), ("src".toList, .directory []),
      ("outlet".toList, .directory [("src".toList, .directory [("x.js".toList, .file [])])])])])]
    cwd := ⟨['/'], []⟩ }
  execute place _ := .ok (.finished {
    stdout := if place.name = "outlet".toList then "\x7b\"files\": [\"src/x.js\"]\x7d".toList
      else "\x7b\"files\": [\"outlet/src/x.js\"]\x7d".toList })
  time := []

def filesLeft (report : Report) : List Text × Option Text :=
  (report.findings.files.map Findings.label, report.findings.failure?)

/-- Run in the app, by a way through its outlet, the analyzer names the file as it is listed. -/
theorem findings_follow_files_iff_outlet :
    ∃ (report : Report) (g : Ground) (place : FilePath) (given : Entries Value),
      ((outlet "outlet/..".toList).analyze outletSurroundings "web".toList none).outcome = .ok report ∧
      Gave outletSurroundings (outlet "outlet/..".toList).settings.knip g.session.directory place given ∧
      .text "outlet/src/x.js".toList ∈ Findings.listOf given "files" ∧ report.findings.files = [] ∧
      g.isListed outletSurroundings.tree (place.join (.ofText "outlet/src/x.js".toList)).text = true := by
  obtain ⟨report, hReport, hLeft⟩ := Outcome.exists_of_toOption_map (f := filesLeft)
    (x := ((outlet "outlet/..".toList).analyze outletSurroundings "web".toList none).outcome)
    (b := ([], none)) (by decide +kernel)
  obtain ⟨hNone, hSound⟩ := Prod.mk.inj hLeft
  have hCwd : outletSurroundings.tree.cwd.IsWhole := ⟨FilePath.isSpelled_ofText ['/'], rfl⟩
  obtain ⟨g, place, given, hGround, hGave, hItems, -⟩ :=
    findings_follow_files_iff hCwd (by simp) hReport rfl hSound
  refine ⟨report, g, place, given, hReport, hGave, ?_⟩
  have hDirectory : g.session.directory = ⟨['/'], ["apps".toList, "web".toList]⟩ := by
    obtain ⟨root, hRoot, hPlace⟩ := App.Session.placeOf_of_create hGround.session
    cases hRoot
    exact (Except.ok.inj hPlace).symm
  obtain ⟨hPlace, commands, command, output, -, -, hOutput, -, hGiven⟩ := hGave
  rw [hDirectory] at hPlace
  cases hPlace
  cases hOutput
  obtain rfl : [(.text "files".toList, .list [.text "outlet/src/x.js".toList])] = given :=
    Option.some.inj hGiven
  have hMem : .text "outlet/src/x.js".toList ∈ Findings.listOf
      [(.text "files".toList, .list [.text "outlet/src/x.js".toList])] "files" :=
    List.mem_singleton_self _
  have hFiles : report.findings.files = [] := List.map_eq_nil_iff.mp hNone
  have hNamed : IsNamed "outlet/src/x.js".toList ["outlet".toList, "src".toList, "x.js".toList] := by
    refine ⟨rfl, List.cons_ne_nil _ _, ?_, by decide, by decide⟩
    simp only [List.forall_mem_cons]
    exact ⟨⟨by decide, by decide, by decide⟩, ⟨by decide, by decide, by decide⟩,
      ⟨by decide, by decide, by decide⟩, nofun⟩
  obtain ⟨-, hFollows⟩ := hItems _ _ .files _ hMem _ _ rfl hNamed
  rw [hDirectory, hFiles] at hFollows
  exact ⟨hMem, hFiles, (hFollows (by decide)).mp List.not_mem_nil⟩

/-- Run in the outlet, the analyzer names the listed file, and the file stays in the findings. -/
theorem listed_file_stays_in_findings :
    ∃ (report : Report) (c : Compiled),
      ((outlet "outlet".toList).analyze outletSurroundings "web".toList none).outcome = .ok report ∧
      Analyzer.directory (outlet "outlet".toList).settings.knip ⟨['/'], []⟩ (.ofText "/apps/web".toList) =
        .ok (.ofText "/apps/web/outlet".toList) ∧
      filesLeft report = (["src/x.js".toList], none) ∧
      Whitelist.compile [.text "outlet/src/x.js".toList] = .ok c ∧
      verdict "/apps/web".toList c
        ((FilePath.ofText "/apps/web/outlet".toList).join (.ofText "src/x.js".toList)).text = true := by
  obtain ⟨report, hReport, hLeft⟩ := Outcome.exists_of_toOption_map (f := filesLeft)
    (x := ((outlet "outlet".toList).analyze outletSurroundings "web".toList none).outcome)
    (b := (["src/x.js".toList], none)) (by decide +kernel)
  exact ⟨report, { paths := ["outlet/src/x.js".toList] }, hReport, rfl, hLeft, rfl, by decide +kernel⟩

end Project

end AssetAudit
