import AssetAudit.Proofs.Analyzer.Survival
import Mathlib.Data.List.Forall2

/-!
# The first success

A command succeeds when it exits with zero and prints either nothing but blanks or a JSON object; in
every other case it fails, for one of three reasons. The commands before the first success leave nothing
but a warning each, in their order, and those behind it leave nothing at all.
-/
namespace AssetAudit

namespace Findings

inductive HasArray (report : Entries Value) (name : String) : Prop
  | absent (h : report.getText? name.toList = none)
  | null (h : report.getText? name.toList = some .null)
  | array {items : List Value} (h : report.getText? name.toList = some (.list items))

/-- What a report comes to when its packages are arrays, null or absent. -/
def told (report : Entries Value) : Findings where
  files := (listOf report "files").filter keepsSource
  dependencies := listOf report "dependencies"
  devDependencies := listOf report "devDependencies"
  exports := (listOf report "exports").filter keepsSource
  types := (listOf report "types").filter keepsSource

variable {report : Entries Value} {name : String}

theorem items?_category (h : HasArray report name) :
    (category report name).items? = some (listOf report name) := by
  unfold category listOf category
  cases h with
  | absent h => rw [h]; rfl
  | null h => rw [h]; rfl
  | array h =>
    rename_i items
    rw [h]
    cases items with
    | nil => rfl
    | cons item rest => rfl

theorem ofReport_eq_told (hDependencies : HasArray report "dependencies")
    (hDev : HasArray report "devDependencies") : ofReport report = .ok (told report) := by
  apply (ofReport_eq_ok_iff report _).mpr
  exact ⟨_, _, items?_category hDependencies, items?_category hDev, rfl⟩

end Findings

namespace Analyzer

inductive Execution.FailsAs : Execution → CommandFailure → Prop
  | noResult (reason : Text) : FailsAs (.failed reason) (.noResult reason)
  | exitCode {output : Output} (h : output.code ≠ 0) :
      FailsAs (.finished output) (.exitCode output.code)
  | noReport {output : Output} (hCode : output.code = 0) (hSome : output.stdout.trim ≠ [])
      (h : ∀ report, Findings.document? output.stdout ≠ some (.map report)) :
      FailsAs (.finished output) .noReport

inductive Execution.SucceedsWith : Execution → Findings → Prop
  | blank {output : Output} (hCode : output.code = 0) (h : output.stdout.trim = []) :
      SucceedsWith (.finished output) {}
  | report {output : Output} {report : Entries Value} (hCode : output.code = 0)
      (hSome : output.stdout.trim ≠ []) (h : Findings.document? output.stdout = some (.map report))
      (hDependencies : Findings.HasArray report "dependencies")
      (hDev : Findings.HasArray report "devDependencies") :
      SucceedsWith (.finished output) (Findings.told report)

def Execution.IsOrdinary (execution : Execution) : Prop :=
  ∀ output report, execution = .finished output → output.code = 0 →
    Findings.document? output.stdout = some (.map report) →
      Findings.HasArray report "dependencies" ∧ Findings.HasArray report "devDependencies"

variable {execution : Execution} {failure : CommandFailure} {f : Findings}

theorem Execution.FailsAs.outcome (h : execution.FailsAs failure) :
    execution.outcome = .ok (.error failure) := by
  cases h with
  | noResult reason => rfl
  | exitCode hCode => exact if_pos hCode
  | noReport hCode hSome hNone =>
    rename_i output
    have hRead : Findings.read? output.stdout = .ok none := by
      unfold Findings.read?
      split
      · rename_i report hReport
        exact absurd hReport (hNone report)
      · rfl
    have hShown : ¬output.stdout.trim.isEmpty = true := by simpa using hSome
    rw [Execution.outcome, interpret, if_neg (not_not_intro hCode), if_neg hShown, hRead]
    rfl

theorem Execution.SucceedsWith.outcome (h : execution.SucceedsWith f) :
    execution.outcome = .ok (.ok f) := by
  cases h with
  | blank hCode hBlank =>
    apply (interpret_eq_ok_iff _ _).mpr
    refine ⟨hCode, [], ?_, rfl⟩
    rw [Findings.report?, hBlank]
    rfl
  | report hCode hSome hDocument hDependencies hDev =>
    apply (interpret_eq_ok_iff _ _).mpr
    refine ⟨hCode, _, ?_, Findings.ofReport_eq_told hDependencies hDev⟩
    rw [Findings.report?, if_neg (by simpa using hSome), hDocument]

theorem Execution.IsOrdinary.succeeds_or_fails (h : execution.IsOrdinary) :
    (∃ f, execution.SucceedsWith f) ∨ ∃ failure, execution.FailsAs failure := by
  cases execution with
  | failed reason => exact .inr ⟨_, .noResult reason⟩
  | finished output =>
    by_cases hCode : output.code = 0
    · by_cases hBlank : output.stdout.trim = []
      · exact .inl ⟨_, .blank hCode hBlank⟩
      · by_cases hReport : ∃ report, Findings.document? output.stdout = some (.map report)
        · obtain ⟨report, hDocument⟩ := hReport
          obtain ⟨hDependencies, hDev⟩ := h output report rfl hCode hDocument
          exact .inl ⟨_, .report hCode hBlank hDocument hDependencies hDev⟩
        · exact .inr ⟨_, .noReport hCode hBlank fun report hDocument => hReport ⟨report, hDocument⟩⟩
    · exact .inr ⟨_, .exitCode hCode⟩

variable (execute : Value → Except RunError Execution)

def FailsWith (command : Value) (failure : CommandFailure) : Prop :=
  ∃ execution, execute command = .ok execution ∧ execution.FailsAs failure

def Succeeds (command : Value) (f : Findings) : Prop :=
  ∃ execution, execute command = .ok execution ∧ execution.SucceedsWith f

def Warns (command : Value) (n : Notice) : Prop :=
  ∃ failure, FailsWith execute command failure ∧ n = .commandFailed command.plain failure.message

variable {execute} {command : Value} {before after rest commands : List Value}

theorem tryCommands_of_succeeds (h : Succeeds execute command f) (rest : List Value) :
    (tryCommands execute (command :: rest)).outcome = .ok f ∧
      (tryCommands execute (command :: rest)).notices = [] := by
  obtain ⟨execution, hRun, hSucceeds⟩ := h
  have hTried : tryCommands execute (command :: rest) = pure f := by
    rw [tryCommands, hRun, Attempt.ofExcept_ok_bind, hSucceeds.outcome]
  rw [hTried]
  exact ⟨rfl, rfl⟩

theorem tryCommands_of_failsWith (h : FailsWith execute command failure) (rest : List Value) :
    (tryCommands execute (command :: rest)).outcome = (tryCommands execute rest).outcome ∧
      (tryCommands execute (command :: rest)).notices =
        .commandFailed command.plain failure.message :: (tryCommands execute rest).notices := by
  obtain ⟨execution, hRun, hFails⟩ := h
  have hTried : tryCommands execute (command :: rest) =
      (Attempt.note (.commandFailed command.plain failure.message) >>= fun _ =>
        tryCommands execute rest) := by
    rw [tryCommands, hRun, Attempt.ofExcept_ok_bind, hFails.outcome]
  rw [hTried]
  exact ⟨Attempt.outcome_bind _ _, rfl⟩

/-- Commands that fail leave a warning each, and the others go on as if there had been none before. -/
theorem tryCommands_append (h : ∀ c ∈ before, ∃ failure, FailsWith execute c failure)
    (rest : List Value) :
    (tryCommands execute (before ++ rest)).outcome = (tryCommands execute rest).outcome ∧
      ∃ warnings, List.Forall₂ (Warns execute) before warnings ∧
        (tryCommands execute (before ++ rest)).notices =
          warnings ++ (tryCommands execute rest).notices := by
  induction before with
  | nil => exact ⟨rfl, [], .nil, rfl⟩
  | cons c before ih =>
    obtain ⟨⟨failure, hFails⟩, hBefore⟩ := List.forall_mem_cons.mp h
    obtain ⟨hOutcome, warnings, hWarns, hNotices⟩ := ih hBefore
    obtain ⟨hSame, hWarned⟩ := tryCommands_of_failsWith hFails (before ++ rest)
    refine ⟨hSame.trans hOutcome, _ :: warnings, .cons ⟨failure, hFails, rfl⟩ hWarns, ?_⟩
    rw [List.cons_append, hWarned, hNotices]
    rfl

/-- Among commands whose outcomes are ordinary there is a first success, or all of them fail. -/
theorem exists_first_or_all_fail
    (h : ∀ c ∈ commands, ∃ execution, execute c = .ok execution ∧ execution.IsOrdinary) :
    (∃ before command after f, commands = before ++ command :: after ∧
        (∀ c ∈ before, ∃ failure, FailsWith execute c failure) ∧ Succeeds execute command f) ∨
      ∀ c ∈ commands, ∃ failure, FailsWith execute c failure := by
  induction commands with
  | nil => exact .inr nofun
  | cons head rest ih =>
    obtain ⟨⟨execution, hRun, hOrdinary⟩, hRest⟩ := List.forall_mem_cons.mp h
    rcases hOrdinary.succeeds_or_fails with ⟨f, hSucceeds⟩ | ⟨failure, hFails⟩
    · exact .inl ⟨[], head, rest, f, rfl, nofun, execution, hRun, hSucceeds⟩
    · have hHead : ∃ failure, FailsWith execute head failure := ⟨failure, execution, hRun, hFails⟩
      rcases ih hRest with ⟨before, command, after, f, rfl, hBefore, hSucceeds⟩ | hAll
      · exact .inl ⟨head :: before, command, after, f, rfl,
          List.forall_mem_cons.mpr ⟨hHead, hBefore⟩, hSucceeds⟩
      · exact .inr (List.forall_mem_cons.mpr ⟨hHead, hAll⟩)

theorem run_of_manifest {execute : Executor} {s : AnalyzerSettings} {tree : Files.Tree}
    {app place : FilePath} (hManifest : tree.isFile (manifest app) = .ok true)
    (hPlace : directory s tree.cwd app = .ok place) (hCommands : s.commands.items? = some commands) :
    run execute s tree app = tryCommands (execute place) commands := by
  unfold run
  rw [manifest] at hManifest
  rw [hManifest, hPlace, hCommands]
  rfl

/-- The first command that succeeds decides, whatever stands behind it and however those before it
failed; without one all lists are empty. Each command that failed left one warning. -/
theorem first_success_decides {execute : Executor} {s : AnalyzerSettings} {tree : Files.Tree}
    {app place : FilePath} {commands : List Value}
    (hManifest : tree.isFile (manifest app) = .ok true)
    (hPlace : directory s tree.cwd app = .ok place)
    (hCommands : s.commands.items? = some commands) :
    (∀ before command after f, commands = before ++ command :: after →
      (∀ c ∈ before, ∃ failure, FailsWith (execute place) c failure) →
      Succeeds (execute place) command f →
        (run execute s tree app).outcome = .ok f ∧
          List.Forall₂ (Warns (execute place)) before (run execute s tree app).notices) ∧
    ((∀ c ∈ commands, ∃ failure, FailsWith (execute place) c failure) →
      (run execute s tree app).outcome = .ok { error := some allFailed } ∧
        ∃ warnings, List.Forall₂ (Warns (execute place)) commands warnings ∧
          (run execute s tree app).notices = warnings ++ [.analyzerFailed allFailed]) ∧
    ((∀ c ∈ commands, ∃ execution, execute place c = .ok execution ∧ execution.IsOrdinary) →
      (∃ before command after f, commands = before ++ command :: after ∧
        (∀ c ∈ before, ∃ failure, FailsWith (execute place) c failure) ∧
        Succeeds (execute place) command f) ∨
      ∀ c ∈ commands, ∃ failure, FailsWith (execute place) c failure) := by
  rw [run_of_manifest hManifest hPlace hCommands]
  refine ⟨?_, ?_, exists_first_or_all_fail⟩
  · rintro before command after f rfl hBefore hSucceeds
    obtain ⟨hOutcome, warnings, hWarns, hNotices⟩ :=
      tryCommands_append hBefore (command :: after)
    obtain ⟨hFound, hNone⟩ := tryCommands_of_succeeds hSucceeds after
    rw [hNone, List.append_nil] at hNotices
    rw [hNotices]
    exact ⟨hOutcome.trans hFound, hWarns⟩
  · intro hAll
    obtain ⟨hOutcome, warnings, hWarns, hNotices⟩ := tryCommands_append hAll []
    rw [List.append_nil] at hOutcome hNotices
    exact ⟨hOutcome, warnings, hWarns, hNotices⟩

/-- The fourth of five commands prints a report; the fifth is not asked. -/
theorem first_success_decides_letters :
    (run letters (spelled "abcde".toList) packagedTree ⟨['/'], []⟩).outcome =
        .ok { files := [.text "src/b.ts".toList] } ∧
      List.Forall₂ (Warns (letters ⟨['/'], []⟩)) [.text ['a'], .text ['b'], .text ['c']]
        (run letters (spelled "abcde".toList) packagedTree ⟨['/'], []⟩).notices := by
  have hFails : ∀ c ∈ [.text ['a'], .text ['b'], .text ['c']],
      ∃ failure, FailsWith (letters ⟨['/'], []⟩) c failure := by
    intro c hMem
    simp only [List.mem_cons, List.not_mem_nil, or_false] at hMem
    rcases hMem with rfl | rfl | rfl
    · exact ⟨_, _, rfl, .noResult _⟩
    · exact ⟨_, _, rfl, .exitCode (by decide)⟩
    · have hNone : Findings.document? "Hello".toList = none := rfl
      refine ⟨_, _, rfl, .noReport rfl (by decide) ?_⟩
      intro report hReport
      cases hNone.symm.trans hReport
  have hDocument : Findings.document? "\x7b\"files\": [\"src/b.ts\"]\x7d".toList =
      some (.map [(.text "files".toList, .list [.text "src/b.ts".toList])]) := rfl
  have hTells : (Execution.finished
      { stdout := "\x7b\"files\": [\"src/b.ts\"]\x7d".toList }).SucceedsWith
        (Findings.told [(.text "files".toList, .list [.text "src/b.ts".toList])]) :=
    .report rfl (by decide) hDocument (.absent rfl) (.absent rfl)
  have hSucceeds : Succeeds (letters ⟨['/'], []⟩) (.text ['d'])
      { files := [.text "src/b.ts".toList] } := ⟨_, rfl, hTells⟩
  obtain ⟨hFirst, -⟩ := @first_success_decides letters (spelled "abcde".toList) packagedTree
    ⟨['/'], []⟩ ⟨['/'], []⟩ _ rfl rfl rfl
  exact hFirst _ _ [.text ['e']] _ rfl hFails hSucceeds

end Analyzer

end AssetAudit
