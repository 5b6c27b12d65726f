import AssetAudit.Analyzer.Run
import AssetAudit.Proofs.Outcomes

/-!
# Which command decides

A command gives findings when it ends with the code zero and its output is blank or holds a report.
Of the commands that are tried the first one to give findings decides, and all before it failed.
-/
namespace AssetAudit

namespace Findings

def report? (stdout : Text) : Option (Entries Value) :=
  if stdout.trim.isEmpty then some []
  else match document? stdout with
    | some (.map report) => some report
    | _ => none

end Findings

namespace Analyzer

theorem interpret_eq_ok_iff (output : Output) (f : Findings) :
    interpret output = .ok (.ok f) ↔
      output.code = 0 ∧ ∃ report, Findings.report? output.stdout = some report ∧
        Findings.ofReport report = .ok f := by
  unfold interpret Findings.report?
  split
  · rename_i hCode
    simp [hCode]
  · rename_i hCode
    rw [and_iff_right (Decidable.not_not.mp hCode)]
    split
    · have hEmpty : Findings.ofReport [] = .ok {} := rfl
      simp [hEmpty]
    · unfold Findings.read?
      cases Findings.document? output.stdout with
      | none => simp [Except.map]
      | some document =>
        cases document with
        | map report =>
          cases hRead : Findings.ofReport report with
          | error e => simp [Except.map, hRead]
          | ok found => simp [Except.map, hRead]
        | scalar s => simp [Except.map]
        | list items => simp [Except.map]
        | tuple items => simp [Except.map]
        | set items => simp [Except.map]

variable (execute : Value → Except RunError Execution)

def Gives (command : Value) (f : Findings) : Prop :=
  ∃ execution, execute command = .ok execution ∧ execution.outcome = .ok (.ok f)

def Fails (command : Value) : Prop :=
  ∃ execution failure, execute command = .ok execution ∧
    execution.outcome = .ok (.error failure)

theorem gives_iff (command : Value) (f : Findings) :
    Gives execute command f ↔
      ∃ output report, execute command = .ok (.finished output) ∧ output.code = 0 ∧
        Findings.report? output.stdout = some report ∧ Findings.ofReport report = .ok f := by
  constructor
  · rintro ⟨execution, hRun, hOutcome⟩
    cases execution with
    | failed reason => cases hOutcome
    | finished output =>
      obtain ⟨hCode, report, hReport, hFindings⟩ := (interpret_eq_ok_iff output f).mp hOutcome
      exact ⟨output, report, hRun, hCode, hReport, hFindings⟩
  · rintro ⟨output, report, hRun, hCode, hReport, hFindings⟩
    exact ⟨_, hRun, (interpret_eq_ok_iff output f).mpr ⟨hCode, report, hReport, hFindings⟩⟩

/-- All commands before this one fail. -/
def IsDue (commands : List Value) (command : Value) : Prop :=
  ∃ before after, commands = before ++ command :: after ∧ ∀ c ∈ before, Fails execute c

variable {execute} in
theorem IsDue.mem {commands : List Value} {command : Value} (h : IsDue execute commands command) :
    command ∈ commands := by
  obtain ⟨before, after, rfl, -⟩ := h
  exact List.mem_append_right before List.mem_cons_self

theorem isDue_cons_iff (head : Value) (rest : List Value) (command : Value) :
    IsDue execute (head :: rest) command ↔
      command = head ∨ Fails execute head ∧ IsDue execute rest command := by
  constructor
  · rintro ⟨before, after, hEq, hBefore⟩
    cases before with
    | nil => exact .inl (List.cons.inj hEq).1.symm
    | cons first before =>
      obtain ⟨rfl, rfl⟩ := List.cons.inj hEq
      obtain ⟨hFails, hBefore⟩ := List.forall_mem_cons.mp hBefore
      exact .inr ⟨hFails, before, after, rfl, hBefore⟩
  · rintro (rfl | ⟨hFails, before, after, rfl, hBefore⟩)
    · exact ⟨[], rest, rfl, by simp⟩
    · exact ⟨head :: before, after, rfl, List.forall_mem_cons.mpr ⟨hFails, hBefore⟩⟩

theorem tryCommands_cons_iff (command : Value) (rest : List Value) (f : Findings) :
    (tryCommands execute (command :: rest)).outcome = .ok f ↔
      Gives execute command f ∨
        Fails execute command ∧ (tryCommands execute rest).outcome = .ok f := by
  unfold Gives Fails
  rw [tryCommands, Attempt.bind_eq_ok_iff, Attempt.outcome_ofExcept]
  cases execute command with
  | error e => simp
  | ok execution =>
    cases hOutcome : execution.outcome with
    | error e => simp [hOutcome]
    | ok result =>
      cases result with
      | ok found => simp [hOutcome]
      | error failure => simp [hOutcome, Attempt.bind_eq_ok_iff]

/-- The first command that gives findings decides; without one there is only an error. -/
theorem tryCommands_eq_ok_iff (commands : List Value) (f : Findings) :
    (tryCommands execute commands).outcome = .ok f ↔
      (∃ command, IsDue execute commands command ∧ Gives execute command f) ∨
        (∀ c ∈ commands, Fails execute c) ∧ f = .failed allFailed := by
  induction commands with
  | nil =>
    have hNone : (tryCommands execute []).outcome = .ok (.failed allFailed) := rfl
    simpa [hNone, IsDue] using eq_comm
  | cons head rest ih =>
    rw [tryCommands_cons_iff, ih, List.forall_mem_cons]
    constructor
    · rintro (hGives | ⟨hFails, ⟨command, hDue, hGives⟩ | ⟨hAll, hError⟩⟩)
      · exact .inl ⟨head, (isDue_cons_iff ..).mpr (.inl rfl), hGives⟩
      · exact .inl ⟨command, (isDue_cons_iff ..).mpr (.inr ⟨hFails, hDue⟩), hGives⟩
      · exact .inr ⟨⟨hFails, hAll⟩, hError⟩
    · rintro (⟨command, hDue, hGives⟩ | ⟨⟨hFails, hAll⟩, hError⟩)
      · rcases (isDue_cons_iff ..).mp hDue with rfl | ⟨hFails, hDue⟩
        · exact .inl hGives
        · exact .inr ⟨hFails, .inl ⟨command, hDue, hGives⟩⟩
      · exact .inr ⟨hFails, .inr ⟨hAll, hError⟩⟩

def manifest (app : FilePath) : FilePath :=
  app.child "package.json".toList

theorem run_eq_ok_iff (execute : Executor) (s : AnalyzerSettings) (tree : Files.Tree)
    (app : FilePath) (f : Findings) :
    (run execute s tree app).outcome = .ok f ↔
      (tree.isFile (manifest app) = .ok false ∧ f = .failed noPackage) ∨
      (tree.isFile (manifest app) = .ok true ∧
        ∃ place commands, directory s tree.cwd app = .ok place ∧
          s.commands.items? = some commands ∧
          (tryCommands (execute place) commands).outcome = .ok f) := by
  unfold run manifest
  cases tree.isFile (app.child "package.json".toList) with
  | error e => simp [Attempt.bind_eq_ok_iff]
  | ok packaged =>
    cases packaged with
    | false => simpa [Attempt.bind_eq_ok_iff] using eq_comm
    | true =>
      cases s.commands.items? with
      | none => simp [Attempt.bind_eq_ok_iff]
      | some commands => simp [Attempt.bind_eq_ok_iff]

/-- Findings without an error are those of the first command that does not fail. -/
theorem exists_gives_of_run {execute : Executor} {s : AnalyzerSettings} {tree : Files.Tree}
    {app : FilePath} {f : Findings} (h : (run execute s tree app).outcome = .ok f)
    (hNone : f.failure? = none) :
    ∃ place commands command, directory s tree.cwd app = .ok place ∧
      s.commands.items? = some commands ∧ IsDue (execute place) commands command ∧
      Gives (execute place) command f := by
  rcases (run_eq_ok_iff execute s tree app f).mp h with ⟨-, rfl⟩ | ⟨-, place, commands, hPlace,
    hCommands, hTried⟩
  · cases hNone
  · rcases (tryCommands_eq_ok_iff ..).mp hTried with ⟨command, hDue, hGives⟩ | ⟨-, rfl⟩
    · exact ⟨place, commands, command, hPlace, hCommands, hDue, hGives⟩
    · cases hNone

end Analyzer

end AssetAudit
