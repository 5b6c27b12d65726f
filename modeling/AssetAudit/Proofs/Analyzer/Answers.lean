import AssetAudit.Proofs.Analyzer.Commands
import AssetAudit.Proofs.Findings.Reports

/-!
# When the analyzer comes to an end

A command answers when it can be run and does not give a report whose packages cannot be gone
through. The analyzer comes to an end exactly when every command that it gets to answers, whether
with findings or with a failure.
-/
namespace AssetAudit

structure Findings.HasPackages (report : Entries Value) : Prop where
  dependencies : ∃ items, (category report "dependencies").items? = some items
  devDependencies : ∃ items, (category report "devDependencies").items? = some items

theorem Findings.exists_ofReport_iff (report : Entries Value) :
    (∃ f, ofReport report = .ok f) ↔ HasPackages report := by
  constructor
  · rintro ⟨f, h⟩
    obtain ⟨dependencies, devDependencies, hDependencies, hDev, -⟩ :=
      (ofReport_eq_ok_iff report f).mp h
    exact ⟨⟨dependencies, hDependencies⟩, ⟨devDependencies, hDev⟩⟩
  · rintro ⟨⟨dependencies, hDependencies⟩, ⟨devDependencies, hDev⟩⟩
    exact ⟨_, (ofReport_eq_ok_iff report _).mpr ⟨_, _, hDependencies, hDev, rfl⟩⟩

namespace Analyzer

def IsReadable (execution : Execution) : Prop :=
  ∀ output report, execution = .finished output → output.code = 0 →
    Findings.report? output.stdout = some report → Findings.HasPackages report

theorem exists_interpret_iff (output : Output) :
    (∃ result, interpret output = .ok result) ↔
      (output.code = 0 → ∀ report, Findings.report? output.stdout = some report →
        Findings.HasPackages report) := by
  simp only [← Findings.exists_ofReport_iff]
  unfold interpret
  by_cases hCode : output.code = 0
  · rw [if_neg (not_not_intro hCode)]
    simp only [hCode, true_imp_iff]
    unfold Findings.report?
    split
    · refine iff_of_true ⟨_, rfl⟩ ?_
      rintro report hEmpty
      cases hEmpty
      exact ⟨{}, rfl⟩
    · unfold Findings.read?
      cases Findings.document? output.stdout with
      | none => exact iff_of_true ⟨_, rfl⟩ nofun
      | some document =>
        cases document with
        | map report =>
          cases hRead : Findings.ofReport report with
          | error e => simp [Except.map, hRead]
          | ok found => simp [Except.map, hRead]
        | _ => exact iff_of_true ⟨_, rfl⟩ nofun
  · rw [if_pos hCode]
    exact iff_of_true ⟨_, rfl⟩ fun hZero => absurd hZero hCode

theorem exists_outcome_iff (execution : Execution) :
    (∃ result, execution.outcome = .ok result) ↔ IsReadable execution := by
  cases execution with
  | failed reason => exact iff_of_true ⟨_, rfl⟩ nofun
  | finished output =>
    rw [Execution.outcome, exists_interpret_iff]
    constructor
    · rintro h _ report hEq hCode hReport
      cases hEq
      exact h hCode report hReport
    · intro h hCode report hReport
      exact h output report rfl hCode hReport

variable (execute : Value → Except RunError Execution)

def Answers (command : Value) : Prop :=
  ∃ execution, execute command = .ok execution ∧ IsReadable execution

theorem answers_iff (command : Value) :
    Answers execute command ↔ (∃ f, Gives execute command f) ∨ Fails execute command := by
  constructor
  · rintro ⟨execution, hRun, hReadable⟩
    obtain ⟨result, hResult⟩ := (exists_outcome_iff execution).mpr hReadable
    cases result with
    | ok f => exact .inl ⟨f, execution, hRun, hResult⟩
    | error failure => exact .inr ⟨execution, failure, hRun, hResult⟩
  · rintro (⟨f, execution, hRun, hResult⟩ | ⟨execution, failure, hRun, hResult⟩)
    · exact ⟨execution, hRun, (exists_outcome_iff execution).mp ⟨_, hResult⟩⟩
    · exact ⟨execution, hRun, (exists_outcome_iff execution).mp ⟨_, hResult⟩⟩

theorem not_fails_of_gives {command : Value} {f : Findings} (h : Gives execute command f) :
    ¬ Fails execute command := by
  rintro ⟨execution, failure, hRun, hResult⟩
  obtain ⟨other, hOther, hFound⟩ := h
  obtain rfl := Except.ok.inj (hRun.symm.trans hOther)
  rw [hFound] at hResult
  cases hResult

/-- The commands come to an end when each one that is due answers. -/
theorem exists_tryCommands_iff (commands : List Value) :
    (∃ f, (tryCommands execute commands).outcome = .ok f) ↔
      ∀ command, IsDue execute commands command → Answers execute command := by
  induction commands with
  | nil =>
    refine iff_of_true ⟨.failed allFailed, rfl⟩ ?_
    rintro command ⟨before, after, hEq, -⟩
    simp at hEq
  | cons head rest ih =>
    simp only [tryCommands_cons_iff, isDue_cons_iff]
    constructor
    · rintro ⟨f, hGives | ⟨hFails, hRest⟩⟩ command (rfl | ⟨hHead, hDue⟩)
      · exact (answers_iff ..).mpr (.inl ⟨f, hGives⟩)
      · exact absurd hHead (not_fails_of_gives execute hGives)
      · exact (answers_iff ..).mpr (.inr hFails)
      · exact ih.mp ⟨f, hRest⟩ command hDue
    · intro h
      rcases (answers_iff ..).mp (h head (.inl rfl)) with ⟨f, hGives⟩ | hFails
      · exact ⟨f, .inl hGives⟩
      · obtain ⟨f, hRest⟩ := ih.mpr fun command hDue => h command (.inr ⟨hFails, hDue⟩)
        exact ⟨f, .inr ⟨hFails, hRest⟩⟩

/-- What a run needs: the manifest can be looked for, and with a manifest there are a directory and
commands to run in it, of which each that is due answers. -/
structure Completes (execute : Executor) (s : AnalyzerSettings) (tree : Files.Tree)
    (app : FilePath) : Prop where
  manifest : ∃ found, tree.isFile (manifest app) = .ok found
  commands : tree.isFile (Analyzer.manifest app) = .ok true → ∃ place commands,
    directory s tree.cwd app = .ok place ∧ s.commands.items? = some commands ∧
      ∀ command, IsDue (execute place) commands command → Answers (execute place) command

theorem exists_run_iff (execute : Executor) (s : AnalyzerSettings) (tree : Files.Tree)
    (app : FilePath) :
    (∃ f, (run execute s tree app).outcome = .ok f) ↔ Completes execute s tree app := by
  simp only [run_eq_ok_iff]
  constructor
  · rintro ⟨f, ⟨hNone, -⟩ | ⟨hFound, place, commands, hPlace, hCommands, hTried⟩⟩
    · exact ⟨⟨_, hNone⟩, fun hFound => nomatch hNone.symm.trans hFound⟩
    · exact ⟨⟨_, hFound⟩, fun _ => ⟨place, commands, hPlace, hCommands,
        (exists_tryCommands_iff ..).mp ⟨f, hTried⟩⟩⟩
  · rintro ⟨⟨found, hManifest⟩, hCommands⟩
    cases found with
    | false => exact ⟨_, .inl ⟨hManifest, rfl⟩⟩
    | true =>
      obtain ⟨place, commands, hPlace, hCommands, hAnswers⟩ := hCommands hManifest
      obtain ⟨f, hTried⟩ := (exists_tryCommands_iff ..).mpr hAnswers
      exact ⟨f, .inr ⟨hManifest, place, commands, hPlace, hCommands, hTried⟩⟩

end Analyzer

end AssetAudit
