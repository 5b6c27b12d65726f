import AssetAudit.Proofs.Analyzer.Answers

/-!
# Runs that survive their commands

A command is of no use when it does not come to an end of its own, when its exit code is not zero and
when its output holds no report. Such a command only makes the run go on to the next one. So a run
comes to findings whatever its commands do, as long as the packages of the reports among their outputs
can be gone through: those of the first report, or an error when there is none.
-/
namespace AssetAudit

structure Findings.Tells (f : Findings) (report : Entries Value) : Prop where
  files : f.files = (listOf report "files").filter keepsSource
  exports : f.exports = (listOf report "exports").filter keepsSource
  types : f.types = (listOf report "types").filter keepsSource
  dependencies : (category report "dependencies").items? = some f.dependencies
  devDependencies : (category report "devDependencies").items? = some f.devDependencies
  error : f.error = none

theorem Findings.exists_tells {report : Entries Value} (h : HasPackages report) :
    ∃ f, ofReport report = .ok f ∧ f.Tells report := by
  obtain ⟨f, hFindings⟩ := (exists_ofReport_iff report).mpr h
  obtain ⟨dependencies, devDependencies, hDependencies, hDev, rfl⟩ :=
    (ofReport_eq_ok_iff report f).mp hFindings
  exact ⟨_, hFindings, rfl, rfl, rfl, hDependencies, hDev, rfl⟩

namespace Analyzer

/-- What a command can do that gives nothing to go by. -/
inductive Useless : Execution → Prop
  | failed (reason : Text) : Useless (.failed reason)
  | exitCode {output : Output} (h : output.code ≠ 0) : Useless (.finished output)
  | noReport {output : Output} (h : Findings.report? output.stdout = none) :
      Useless (.finished output)

theorem outcome_of_useless {execution : Execution} (h : Useless execution) :
    ∃ failure, execution.outcome = .ok (.error failure) := by
  cases h with
  | failed reason => exact ⟨_, rfl⟩
  | exitCode hCode => exact ⟨_, if_pos hCode⟩
  | noReport hNone =>
    rename_i output
    by_cases hCode : output.code = 0
    · rw [Findings.report?] at hNone
      split at hNone
      · cases hNone
      · rename_i hBlank
        refine ⟨.noReport, ?_⟩
        have hRead : Findings.read? output.stdout = .ok none := by
          unfold Findings.read?
          cases hDocument : Findings.document? output.stdout with
          | none => rfl
          | some v =>
            rw [hDocument] at hNone
            cases v with
            | map report => cases hNone
            | scalar s => rfl
            | list items => rfl
            | tuple items => rfl
            | set items => rfl
        rw [Execution.outcome, interpret, if_neg (not_not_intro hCode), if_neg hBlank, hRead]
        rfl
    · exact ⟨_, if_pos hCode⟩

/-- An execution is of no use, or it ends with a report. -/
theorem useless_or_report (execution : Execution) :
    Useless execution ∨ ∃ output report, execution = .finished output ∧ output.code = 0 ∧
      Findings.report? output.stdout = some report := by
  cases execution with
  | failed reason => exact .inl (.failed reason)
  | finished output =>
    by_cases hCode : output.code = 0
    · cases hReport : Findings.report? output.stdout with
      | none => exact .inl (.noReport hReport)
      | some report => exact .inr ⟨output, report, rfl, hCode, hReport⟩
    · exact .inl (.exitCode hCode)

variable (execute : Value → Except RunError Execution)

def IsUseless (command : Value) : Prop :=
  ∃ execution, execute command = .ok execution ∧ Useless execution

def Prints (command : Value) (report : Entries Value) : Prop :=
  ∃ output, execute command = .ok (.finished output) ∧ output.code = 0 ∧
    Findings.report? output.stdout = some report

variable {execute}

theorem fails_of_isUseless {command : Value} (h : IsUseless execute command) :
    Fails execute command := by
  obtain ⟨execution, hRun, hUseless⟩ := h
  obtain ⟨failure, hFailure⟩ := outcome_of_useless hUseless
  exact ⟨execution, failure, hRun, hFailure⟩

variable (execute) in
/-- How findings come from commands: they are those of the first command with a report, all before it
being of no use, or an error when every command is of no use. -/
def Decides (commands : List Value) (f : Findings) : Prop :=
  (∃ before command after report, commands = before ++ command :: after ∧
      (∀ c ∈ before, IsUseless execute c) ∧ Prints execute command report ∧ f.Tells report) ∨
    (∀ c ∈ commands, IsUseless execute c) ∧ f = .failed allFailed

theorem Decides.cons {command : Value} {rest : List Value} {f : Findings}
    (hUseless : IsUseless execute command) (h : Decides execute rest f) :
    Decides execute (command :: rest) f := by
  rcases h with ⟨before, other, after, report, rfl, hBefore, hPrints, hTells⟩ | ⟨hAll, hFindings⟩
  · exact .inl ⟨command :: before, other, after, report, rfl,
      List.forall_mem_cons.mpr ⟨hUseless, hBefore⟩, hPrints, hTells⟩
  · exact .inr ⟨List.forall_mem_cons.mpr ⟨hUseless, hAll⟩, hFindings⟩

theorem exists_decides {commands : List Value}
    (h : ∀ command, IsDue execute commands command → Answers execute command) :
    ∃ f, (tryCommands execute commands).outcome = .ok f ∧ Decides execute commands f := by
  induction commands with
  | nil => exact ⟨.failed allFailed, rfl, .inr ⟨nofun, rfl⟩⟩
  | cons command rest ih =>
    simp only [isDue_cons_iff] at h
    obtain ⟨execution, hRun, hReadable⟩ := h command (.inl rfl)
    rcases useless_or_report execution with hUseless | ⟨output, report, rfl, hCode, hReport⟩
    · have hThis : IsUseless execute command := ⟨execution, hRun, hUseless⟩
      have hRest : ∀ c, IsDue execute rest c → Answers execute c := fun c hDue =>
        h c (.inr ⟨fails_of_isUseless hThis, hDue⟩)
      obtain ⟨f, hTried, hDecides⟩ := ih hRest
      refine ⟨f, ?_, hDecides.cons hThis⟩
      exact (tryCommands_cons_iff ..).mpr (.inr ⟨fails_of_isUseless hThis, hTried⟩)
    · have hPrints : Prints execute command report := ⟨output, hRun, hCode, hReport⟩
      obtain ⟨f, hFindings, hTells⟩ :=
        Findings.exists_tells (hReadable output report rfl hCode hReport)
      have hGives : Gives execute command f :=
        (gives_iff ..).mpr ⟨output, report, hRun, hCode, hReport, hFindings⟩
      refine ⟨f, (tryCommands_cons_iff ..).mpr (.inl hGives), ?_⟩
      exact .inl ⟨[], command, rest, report, rfl, nofun, hPrints, hTells⟩

theorem run_of_isFile_error {execute : Executor} {s : AnalyzerSettings} {tree : Files.Tree}
    {app : FilePath} {e : Files.Error} (h : tree.isFile (manifest app) = .error e) :
    (run execute s tree app).outcome = .error (.system e) := by
  unfold run
  rw [manifest] at h
  rw [h]
  rfl

/-- Commands that are only letters: the first cannot start, the second has an exit code, the third
prints a greeting and the fourth a report. The fifth prints nothing and the sixth a report whose files
are no list. -/
def letters : Executor := fun _ command =>
  match command with
  | .text ['a'] => .ok (.failed "could not start".toList)
  | .text ['b'] => .ok (.finished { code := 2, stdout := "\x7b\x7d".toList })
  | .text ['c'] => .ok (.finished { stdout := "Hello".toList })
  | .text ['d'] => .ok (.finished { stdout := "\x7b\"files\": [\"src/b.ts\"]\x7d".toList })
  | .text ['e'] => .ok (.finished {})
  | .text ['f'] => .ok (.finished
      { stdout := "\x7b\"files\": \x7b\"file\": \"src/a.ts\"\x7d\x7d".toList })
  | _ => .error .noCommand

def spelled (commands : Text) : AnalyzerSettings where
  enabled := .bool true
  cwd := .null
  timeout := .null
  commands := .list (commands.map fun c => .text [c])

def packagedTree : Files.Tree where
  root := .directory [("package.json".toList, .file [])]
  cwd := ⟨['/'], []⟩

end Analyzer

end AssetAudit
