import AssetAudit.Proofs.Project.Failures
import AssetAudit.Proofs.Report.Documents

/-!
# What a project documents

Whatever an analysis puts into a report has been read from JSON or is a text or a size. So the document
of the reports of a project is read back.
-/
namespace AssetAudit

namespace Value

variable {v : Value} {entries : Entries Value}

theorem ComesBack.of_getText? {name : Text} (h : (Value.map entries).ComesBack)
    (hGet : entries.getText? name = some v) : v.ComesBack := by
  cases h with
  | map _ _ values =>
    obtain ⟨k, hMem, -⟩ := Entries.exists_of_get? hGet
    exact values _ hMem

theorem ComesBack.items? (h : v.ComesBack) {items : List Value} (hItems : v.items? = some items) :
    ∀ item ∈ items, item.ComesBack := by
  cases h with
  | scalar h =>
    rename_i s
    cases s with
    | text t =>
      cases hItems
      exact List.forall_mem_map.mpr fun c _ => .scalar trivial
    | bytes data => exact h.elim
    | null | bool | int | float | date | moment => cases hItems
  | list h =>
    cases hItems
    exact h
  | map _ texts _ =>
    cases hItems
    intro item hMem
    obtain ⟨entry, hEntry, rfl⟩ := List.mem_map.mp hMem
    obtain ⟨t, hText⟩ := texts entry.1 (List.mem_map_of_mem hEntry)
    rw [hText]
    exact .scalar trivial

end Value

namespace Findings

variable {report : Entries Value} {f : Findings}

theorem comesBack_failed (error : Text) : (failed error).ComesBack := by
  unfold ComesBack categories failed
  simp

theorem comesBack_category (h : (Value.map report).ComesBack) (name : String) :
    (category report name).ComesBack := by
  unfold category
  split
  · rename_i v hGiven
    exact h.of_getText? (Option.filter_eq_some_iff.mp hGiven).1
  · exact .list (List.forall_mem_nil _)

theorem comesBack_listOf (h : (Value.map report).ComesBack) (name : String) :
    ∀ item ∈ listOf report name, item.ComesBack := by
  have hCategory := comesBack_category h name
  unfold listOf
  split
  · rename_i items hList
    rw [hList] at hCategory
    exact hCategory.items? rfl
  · exact List.forall_mem_nil _

theorem comesBack_iff : f.ComesBack ↔
    (∀ item ∈ f.files, item.ComesBack) ∧ (∀ item ∈ f.dependencies, item.ComesBack) ∧
      (∀ item ∈ f.devDependencies, item.ComesBack) ∧ (∀ item ∈ f.exports, item.ComesBack) ∧
      ∀ item ∈ f.types, item.ComesBack := by
  unfold ComesBack categories
  simp

theorem comesBack_ofReport (hReport : (Value.map report).ComesBack) (h : ofReport report = .ok f) :
    f.ComesBack := by
  obtain ⟨dependencies, devDependencies, hDependencies, hDev, rfl⟩ := (ofReport_eq_ok_iff _ _).mp h
  have hKept : ∀ name, ∀ item ∈ (listOf report name).filter keepsSource, item.ComesBack :=
    fun name item hMem => comesBack_listOf hReport name item (List.mem_of_mem_filter hMem)
  exact comesBack_iff.mpr ⟨hKept _, (comesBack_category hReport _).items? hDependencies,
    (comesBack_category hReport _).items? hDev, hKept _, hKept _⟩

theorem comesBack_report? {stdout : Text} (h : report? stdout = some report) :
    (Value.map report).ComesBack := by
  unfold report? at h
  split at h
  · cases h
    exact .map List.Pairwise.nil nofun nofun
  · split at h
    · rename_i hDocument
      cases h
      unfold document? at hDocument
      split at hDocument
      · cases hDocument
      · exact Json.comesBack_read (Outcome.eq_ok_of_toOption hDocument)
    · cases h

theorem ComesBack.without (h : f.ComesBack) (listed : Text → Bool) : (f.without listed).ComesBack := by
  unfold Findings.without
  split
  · exact h
  · obtain ⟨hFiles, hDependencies, hDev, hExports, hTypes⟩ := comesBack_iff.mp h
    exact comesBack_iff.mpr ⟨fun item hMem => hFiles item (List.mem_of_mem_filter hMem), hDependencies,
      hDev, fun item hMem => hExports item (List.mem_of_mem_filter hMem),
      fun item hMem => hTypes item (List.mem_of_mem_filter hMem)⟩

end Findings

/-- What the analyzer gives comes back. -/
theorem Analyzer.comesBack_run {execute : Executor} {s : AnalyzerSettings} {tree : Files.Tree}
    {app : FilePath} {f : Findings} (h : (run execute s tree app).outcome = .ok f) : f.ComesBack := by
  rcases (run_eq_ok_iff execute s tree app f).mp h with ⟨-, rfl⟩ | ⟨-, place, commands, -, -, hTried⟩
  · exact Findings.comesBack_failed _
  · rcases (tryCommands_eq_ok_iff ..).mp hTried with ⟨command, -, hGives⟩ | ⟨-, rfl⟩
    · obtain ⟨output, report, -, -, hReport, hFindings⟩ := (gives_iff ..).mp hGives
      exact Findings.comesBack_ofReport (Findings.comesBack_report? hReport) hFindings
    · exact Findings.comesBack_failed _

namespace Project

variable {p : Project} {around : Surroundings} {app : Text} {directory : Option FilePath}
  {report : Report}

/-- What an analysis puts into a report comes back. -/
theorem comesBack_analyze (h : (p.analyze around app directory).outcome = .ok report) :
    report.ComesBack := by
  obtain ⟨g, m, -, hServes, hFindings, hSorted⟩ := exists_ground h
  constructor
  · obtain ⟨-, ⟨-, ⟨found, hRun, hKept⟩, -⟩ | ⟨-, hNone, -⟩⟩ := findings_spec hServes hFindings
    · rw [hKept]
      exact (Analyzer.comesBack_run hRun).without _
    · rw [hNone]
      exact Findings.comesBack_iff.mpr ⟨nofun, nofun, nofun, nofun, nofun⟩
  · intro a hMem
    have hSome : some a ∈ report.assets.map some := List.mem_map_of_mem hMem
    have hUnused : report.assets.map some = _ := hSorted.unused
    rw [hUnused] at hSome
    obtain ⟨asset, -, hOf⟩ := List.mem_map.mp hSome
    obtain ⟨sizeText, -, rfl⟩ := Option.map_eq_some_iff.mp hOf
    exact Int.natCast_nonneg _

/-- What every report that is made keeps up holds of the reports of a batch, whatever it comes to. -/
theorem reports_analyzeEach {P : Reports → Prop} {batch : Batch} {apps : List Text}
    (hMade : ∀ app report, (p.analyze around app none).outcome = .ok report →
      ∀ reports, P reports → P (reports.store report))
    (h : P p.reports) : P (analyzeEach around p batch apps).value.1.reports := by
  induction apps generalizing p batch with
  | nil => exact h
  | cons app rest ih =>
    cases hOutcome : (p.analyze around app none).outcome with
    | ok report =>
      rw [analyzeEach_report hOutcome]
      exact ih (p := p.store report) hMade (hMade app report hOutcome _ h)
    | error e =>
      by_cases hFault : ∃ fault, e = .session (.fault fault)
      · obtain ⟨fault, rfl⟩ := hFault
        rw [analyzeEach_fault hOutcome]
        exact ih hMade h
      · rw [analyzeEach_error hOutcome fun fault hEq => hFault ⟨fault, hEq⟩]
        exact h

theorem comesBack_analyzeAll (h : p.reports.ComesBack) :
    (p.analyzeAll around).value.1.reports.ComesBack := by
  unfold analyzeAll
  split
  · exact h
  · exact h
  · apply reports_analyzeEach _ h
    intro app report hReport reports hReports
    exact hReports.store (comesBack_analyze hReport)

end Project

end AssetAudit
