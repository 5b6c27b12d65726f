import AssetAudit.Proofs.CommandLine.Batch
import AssetAudit.Proofs.CommandLine.Preparation
import AssetAudit.Proofs.Report.Shown

/-!
# How runs end

A run ends with 0 or 1, and with 1 if it ends without a message. It ends in order when its preparation
is told of, when its notices can be formed, and when what it analyzes comes to reports that can be
printed and saved or to faults of the apps.
-/
namespace AssetAudit.CommandLine

open Console (Block marked)

namespace Ending

variable {e : Ending} {blocks : List Block}

structure IsProper (e : Ending) : Prop where
  code : e.code ≤ 1
  failure : e.failure ≠ none → e.code = 1

theorem isProper_failed (tree : Files.Tree) (f : Failure) : (failed tree f).IsProper :=
  ⟨Nat.le_refl 1, fun _ => rfl⟩

theorem isProper_of_code {code : Nat} (h : code ≤ 1) (tree : Files.Tree) :
    ({ code, tree } : Ending).IsProper :=
  ⟨h, fun hFailure => absurd rfl hFailure⟩

theorem IsProper.print (h : e.IsProper) (blocks : List Block) : (e.print blocks).IsProper := by
  unfold Ending.print
  split
  · exact h
  · dsimp only
    split
    · exact ⟨Nat.le_refl 1, fun _ => rfl⟩
    · exact ⟨h.code, h.failure⟩

theorem IsProper.step {ε α : Type} (h : e.IsProper) (failure : ε → Failure) (x : Except ε α)
    {next : Ending → α → Ending} (hNext : ∀ a, (next e a).IsProper) :
    (e.step failure x next).IsProper := by
  unfold Ending.step
  split
  · exact h
  · exact ⟨Nat.le_refl 1, fun _ => rfl⟩
  · exact hNext _

theorem isProper_told (tree : Files.Tree) (blocks : List Block) : (told tree blocks).IsProper :=
  (isProper_of_code (Nat.le_refl 1) tree).print blocks

theorem failure_print_iff (h : e.failure = none) (blocks : List Block) :
    (e.print blocks).failure = none ↔ (Console.print screenWidth blocks).fault = none := by
  unfold Ending.print
  rw [h]
  dsimp only
  cases (Console.print screenWidth blocks).fault with
  | none => exact iff_of_true rfl rfl
  | some fault => exact iff_of_false nofun nofun

theorem failure_step_iff {ε α : Type} (h : e.failure = none) (failure : ε → Failure)
    (x : Except ε α) (next : Ending → α → Ending) :
    (e.step failure x next).failure = none ↔ ∃ a, x = .ok a ∧ (next e a).failure = none := by
  unfold Ending.step
  rw [h]
  cases x with
  | error error => exact iff_of_false nofun nofun
  | ok a => simp

theorem failure_told_iff (tree : Files.Tree) (blocks : List Block) :
    (told tree blocks).failure = none ↔ (Console.print screenWidth blocks).fault = none :=
  failure_print_iff rfl blocks

end Ending

section Views

theorem print_error (width : Nat) (message : Text) :
    (Console.print width (View.error message)).fault = none :=
  (Console.print_fault_eq_none_iff _ _).mpr
    (List.forall_mem_singleton.mpr (Console.prints_panel _ _ _))

theorem print_success (width : Nat) (message : Text) :
    (Console.print width (View.success message)).fault = none :=
  (Console.print_fault_eq_none_iff _ _).mpr
    (List.forall_mem_singleton.mpr (Console.prints_verbatim _ _))

theorem rejected_heading : "[bold red]Error:[/bold red] Invalid whitelist pattern(s):".toList =
    Console.styled [] "bold red".toList "Error:".toList " Invalid whitelist pattern(s):".toList := by
  unfold Console.styled
  simp

theorem print_rejected (width : Nat) (rejected : List Whitelist.Rejected) :
    (Console.print width (View.rejected rejected)).fault = none := by
  rw [Console.print_fault_eq_none_iff]
  unfold View.rejected
  rw [List.forall_mem_cons]
  constructor
  · exact Console.prints_styled width rejected_heading (by decide) nofun (by decide) (by decide)
  · intro block hMem
    obtain ⟨p, -, rfl⟩ := List.mem_map.mp hMem
    exact Console.prints_plain _ _

structure UsageReads (directory : FilePath) (apps : List Text) : Prop where
  directory : ∃ printed, marked ("Analyze ".toList ++ (directory.child "<app-name>".toList).text) =
    .ok printed
  apps : ∀ name ∈ apps, ∃ printed, marked ("  - ".toList ++ name) = .ok printed

theorem print_usage_iff (directory : FilePath) (apps : List Text) :
    (Console.print Ending.screenWidth (View.usage directory apps)).fault = none ↔
      UsageReads directory apps := by
  have hConstant : ∀ {s : Text}, '[' ∉ s → ∃ printed, marked s = .ok printed := fun h =>
    ⟨_, Console.marked_of_not_mem h⟩
  have hRoom : ¬Ending.screenWidth - (2 + 1) ≤ Console.cellPadding := by decide
  rw [Console.print_fault_eq_none_iff]
  unfold View.usage
  rw [List.forall_mem_cons, Console.prints_table_iff]
  change (Ending.screenWidth - (2 + 1) ≤ Console.cellPadding ∨ _) ∧ _ ↔ _
  rw [or_iff_right hRoom]
  have hHeading : (Block.text "[bold cyan]Available apps:[/bold cyan]".toList).Prints
      Ending.screenWidth := by
    have hStyled : "[bold cyan]Available apps:[/bold cyan]".toList =
        Console.styled [] "bold cyan".toList "Available apps:".toList [] := by
      unfold Console.styled
      simp
    exact Console.prints_styled _ hStyled (by decide) nofun (by decide) List.not_mem_nil
  constructor
  · rintro ⟨hRows, hApps⟩
    refine ⟨?_, ?_⟩
    · exact hRows _ (List.mem_cons_of_mem _ (List.mem_cons_of_mem _ List.mem_cons_self)) _
        (List.mem_cons_of_mem _ List.mem_cons_self)
    · intro name hMem
      rw [if_neg (by simpa using List.ne_nil_of_mem hMem)] at hApps
      exact (Console.prints_text_iff _ _).mp
        (hApps _ (List.mem_cons_of_mem _ (List.mem_map_of_mem hMem)))
  · rintro ⟨hDirectory, hApps⟩
    constructor
    · simp only [List.forall_mem_cons]
      exact ⟨⟨hConstant (by decide), hConstant (by decide), nofun⟩,
        ⟨hConstant (by decide), hConstant (by decide), nofun⟩,
        ⟨hConstant (by decide), hDirectory, nofun⟩,
        ⟨hConstant (by decide), hConstant (by decide), nofun⟩, nofun⟩
    · split
      · exact nofun
      · rw [List.forall_mem_cons, List.forall_mem_map]
        exact ⟨hHeading, fun name hMem => (Console.prints_text_iff _ _).mpr (hApps name hMem)⟩

end Views

variable {host : Host} {o : Options} {around : Surroundings} {project : Project}
  {target : App.Target} {json : Bool}

theorem exists_orNoText_iff {α : Type} (x : Option α) :
    (∃ a, orNoText x = .ok a) ↔ ∃ a, x = some a := by
  cases x with
  | none => exact iff_of_false nofun nofun
  | some a => exact iff_of_true ⟨a, rfl⟩ ⟨a, rfl⟩

theorem failure_documentEnding_iff (around : Surroundings) (project : Project) (code : Nat) :
    (documentEnding around project code).failure = none ↔
      ∃ document, project.reports.document? around.time = some document := by
  unfold documentEnding
  rw [Ending.failure_step_iff rfl, ← exists_orNoText_iff]
  simp

theorem isProper_documentEnding {code : Nat} (h : code ≤ 1) (around : Surroundings)
    (project : Project) : (documentEnding around project code).IsProper :=
  (Ending.isProper_of_code h _).step _ _ fun _ => ⟨h, fun hFailure => absurd rfl hFailure⟩

/-- What an analysis of one app needs for the run to end in order: whatever goes wrong with the app is a
fault of it, a report has a document or a view that can be read, and after the message of a fault the
usage can be told if the target only names the app. -/
structure OneEnds (around : Surroundings) (project : Project) (target : App.Target) (json : Bool) :
    Prop where
  contained : project.Contained around target.name target.directory
  document : json = true → ∀ r,
    (project.analyze around target.name target.directory).outcome = .ok r →
      ∃ document, (project.store r).reports.document? around.time = some document
  view : json = false → ∀ r,
    (project.analyze around target.name target.directory).outcome = .ok r →
      (∃ blocks, r.view? = some blocks) ∧ r.Legible Ending.screenWidth
  usage : target.directory = none → ∀ fault,
    (project.analyze around target.name none).outcome = .error (.session (.fault fault)) →
      (∀ app rejected, fault ≠ .whitelist app rejected) → ∃ directory apps,
        App.pathOf project.settings.appsDir = .ok directory ∧
        App.list around.tree project.settings = .ok apps ∧ UsageReads directory apps

theorem failure_faultEnding_iff (around : Surroundings) (s : Settings) (target : App.Target)
    (fault : App.Fault) : (faultEnding around s target fault).failure = none ↔
      (target.directory = none → (∀ app rejected, fault ≠ .whitelist app rejected) →
        ∃ directory apps, App.pathOf s.appsDir = .ok directory ∧ App.list around.tree s = .ok apps ∧
          UsageReads directory apps) := by
  unfold faultEnding
  split
  · rename_i app rejected
    rw [Ending.failure_told_iff]
    exact iff_of_true (print_rejected _ _) fun _ hOther => absurd rfl (hOther app rejected)
  · rename_i hOther
    have hTold : (Ending.told around.tree (View.error fault.message)).failure = none :=
      (Ending.failure_told_iff _ _).mpr (print_error _ _)
    dsimp only
    cases hDirectory : target.directory with
    | some d => exact iff_of_true hTold nofun
    | none =>
      rw [if_neg (by simp), Ending.failure_step_iff hTold]
      simp only [Ending.failure_print_iff hTold, Outcome.bind_eq_ok_iff]
      constructor
      · rintro ⟨blocks, ⟨directory, hPath, apps, hApps, hBlocks⟩, hPrints⟩ - -
        cases hBlocks
        exact ⟨directory, apps, hPath, hApps, (print_usage_iff _ _).mp hPrints⟩
      · intro h
        obtain ⟨directory, apps, hPath, hApps, hReads⟩ := h trivial fun app rejected hEq =>
          hOther app rejected hEq
        exact ⟨_, ⟨directory, hPath, apps, hApps, rfl⟩, (print_usage_iff _ _).mpr hReads⟩

section One

variable {r : Report} {fault : App.Fault} {e : Project.Error}

theorem analyzeOne_report
    (h : (project.analyze around target.name target.directory).outcome = .ok r) :
    (analyzeOne around project target json).value =
      if json then documentEnding around (project.store r) 0
      else ({ code := 0, tree := around.tree } : Ending).step .project (orNoText r.view?)
        Ending.print := by
  have hRun : (ExceptT.run (project.analyze around target.name target.directory)).value = .ok r := h
  unfold analyzeOne
  rw [Noted.value_bind, hRun]
  cases json <;> rfl

theorem analyzeOne_fault (h : (project.analyze around target.name target.directory).outcome =
    .error (.session (.fault fault))) :
    (analyzeOne around project target json).value = faultEnding around project.settings target fault := by
  have hRun : (ExceptT.run (project.analyze around target.name target.directory)).value =
      .error (.session (.fault fault)) := h
  unfold analyzeOne
  rw [Noted.value_bind, hRun]
  rfl

theorem analyzeOne_error
    (h : (project.analyze around target.name target.directory).outcome = .error e)
    (hOther : ∀ fault, e ≠ .session (.fault fault)) :
    (analyzeOne around project target json).value = .failed around.tree (.project e) := by
  have hRun : (ExceptT.run (project.analyze around target.name target.directory)).value =
      .error e := h
  unfold analyzeOne
  rw [Noted.value_bind, hRun]
  split
  · rename_i fault hFault
    cases hFault
    exact absurd rfl (hOther _)
  · rename_i hError
    cases hError
    rfl
  · rename_i hReport
    cases hReport

/-- Of an app that is reported only the report has to be told. -/
theorem oneEnds_iff_of_report
    (h : (project.analyze around target.name target.directory).outcome = .ok r) :
    OneEnds around project target json ↔
      (json = true → ∃ document, (project.store r).reports.document? around.time = some document) ∧
        (json = false → (∃ blocks, r.view? = some blocks) ∧ r.Legible Ending.screenWidth) := by
  have hContained := (project.settles_iff_contained around target.name target.directory).mp
    (.inl ⟨r, h⟩)
  constructor
  · exact fun hEnds => ⟨fun hJson => hEnds.document hJson r h, fun hJson => hEnds.view hJson r h⟩
  · rintro ⟨hDocument, hView⟩
    refine ⟨hContained, ?_, ?_, ?_⟩
    · intro hJson r' hReport
      obtain rfl := Except.ok.inj (h.symm.trans hReport)
      exact hDocument hJson
    · intro hJson r' hReport
      obtain rfl := Except.ok.inj (h.symm.trans hReport)
      exact hView hJson
    · intro hNone fault hFault
      rw [← hNone, h] at hFault
      cases hFault

/-- Of an app with a fault only the usage behind the message has to be told. -/
theorem oneEnds_iff_of_fault (h : (project.analyze around target.name target.directory).outcome =
    .error (.session (.fault fault))) :
    OneEnds around project target json ↔
      (target.directory = none → (∀ app rejected, fault ≠ .whitelist app rejected) →
        ∃ directory apps, App.pathOf project.settings.appsDir = .ok directory ∧
          App.list around.tree project.settings = .ok apps ∧ UsageReads directory apps) := by
  have hContained := (project.settles_iff_contained around target.name target.directory).mp
    (.inr ⟨fault, h⟩)
  constructor
  · exact fun hEnds hNone hOther => hEnds.usage hNone fault (hNone ▸ h) hOther
  · intro hUsage
    refine ⟨hContained, ?_, ?_, ?_⟩
    · intro _ r hReport
      cases h.symm.trans hReport
    · intro _ r hReport
      cases h.symm.trans hReport
    · intro hNone fault' hFault hOther
      rw [← hNone, h] at hFault
      cases hFault
      exact hUsage hNone hOther

theorem failure_view_iff (r : Report) (tree : Files.Tree) :
    ((({ code := 0, tree := tree } : Ending).step .project (orNoText r.view?)
      Ending.print).failure = none) ↔
      (∃ blocks, r.view? = some blocks) ∧ r.Legible Ending.screenWidth := by
  rw [Ending.failure_step_iff rfl, ← exists_orNoText_iff]
  simp only [Ending.failure_print_iff]
  constructor
  · rintro ⟨blocks, hView, hPrints⟩
    obtain ⟨_, hSome⟩ := (exists_orNoText_iff _).mp ⟨blocks, hView⟩
    rw [hSome] at hView
    cases hView
    exact ⟨⟨blocks, by rw [hSome]; rfl⟩, (Report.print_view_iff hSome _).mp hPrints⟩
  · rintro ⟨hView, hLegible⟩
    obtain ⟨blocks, hSome⟩ := (exists_orNoText_iff _).mp hView
    exact ⟨blocks, by rw [hSome]; rfl, (Report.print_view_iff hSome _).mpr hLegible⟩

theorem failure_analyzeOne_iff (around : Surroundings) (project : Project) (target : App.Target)
    (json : Bool) : (analyzeOne around project target json).value.failure = none ↔
      OneEnds around project target json := by
  cases hOutcome : (project.analyze around target.name target.directory).outcome with
  | ok r =>
    rw [analyzeOne_report hOutcome, oneEnds_iff_of_report hOutcome]
    cases json with
    | true => simp [failure_documentEnding_iff]
    | false => simp [failure_view_iff]
  | error e =>
    by_cases hFault : ∃ fault, e = .session (.fault fault)
    · obtain ⟨fault, rfl⟩ := hFault
      rw [analyzeOne_fault hOutcome, failure_faultEnding_iff, oneEnds_iff_of_fault hOutcome]
    · rw [analyzeOne_error hOutcome fun fault hEq => hFault ⟨fault, hEq⟩]
      refine iff_of_false nofun fun h => ?_
      rcases (project.settles_iff_contained around target.name target.directory).mpr
        h.contained with ⟨r, hReport⟩ | ⟨fault, hThis⟩
      · cases hOutcome.symm.trans hReport
      · exact hFault ⟨fault, Except.error.inj (hOutcome.symm.trans hThis)⟩

end One

/-- What an analysis of all apps needs for the run to end in order: the apps can be listed, whatever
goes wrong with one of them is a fault of it, and if there are any, the reports have a document, or
views that can be read and a place that they can be saved at. -/
structure AllEnd (around : Surroundings) (project : Project) (json : Bool) : Prop where
  contained : ∃ apps, App.list around.tree project.settings = .ok apps ∧
    ∀ app ∈ apps, project.Contained around app none
  document : json = true → ∀ after b, (project.analyzeAll around).value = (after, .ok b) →
    (b.analyzed.isEmpty && b.failed.isEmpty) = false →
      ∃ document, after.reports.document? around.time = some document
  views : json = false → ∀ after b, (project.analyzeAll around).value = (after, .ok b) →
    (b.analyzed.isEmpty && b.failed.isEmpty) = false →
      (∃ blocks, batchView? after.reports b.analyzed = some blocks ∧
        ∀ block ∈ blocks, block.Prints Ending.screenWidth) ∧
      ∃ saved, after.save around = .ok saved

theorem failure_save_iff (e : Ending) (around : Surroundings) (project : Project) :
    (e.save around project).failure = none ↔
      e.failure = none ∧ ∃ saved, project.save around = .ok saved := by
  unfold Ending.save
  cases hEnds : e.failure with
  | some f =>
    unfold Ending.step
    rw [hEnds]
    exact iff_of_false (fun h => nomatch hEnds.symm.trans h) nofun
  | none =>
    rw [Ending.failure_step_iff hEnds, and_iff_right rfl]
    constructor
    · rintro ⟨saved, hSaved, -⟩
      exact ⟨saved, hSaved⟩
    · rintro ⟨⟨path?, tree⟩, hSaved⟩
      refine ⟨_, hSaved, ?_⟩
      cases path? with
      | none => exact hEnds
      | some path =>
        have hSame : ({ e with tree } : Ending).failure = none := hEnds
        exact (Ending.failure_print_iff hSame _).mpr (print_success _ _)

theorem failure_batchEnding_iff (around : Surroundings) (project : Project) (b : Project.Batch)
    (json : Bool) (hDirectory : ∃ d, App.appsDirectory project.settings around.tree.cwd = .ok d) :
    (batchEnding around project b json).failure = none ↔
      ((b.analyzed.isEmpty && b.failed.isEmpty) = false →
        (json = true → ∃ document, project.reports.document? around.time = some document) ∧
        (json = false → (∃ blocks, batchView? project.reports b.analyzed = some blocks ∧
          ∀ block ∈ blocks, block.Prints Ending.screenWidth) ∧
            ∃ saved, project.save around = .ok saved)) := by
  unfold batchEnding
  dsimp only
  cases b.analyzed.isEmpty && b.failed.isEmpty with
  | true =>
    rw [if_pos rfl, Ending.failure_step_iff rfl]
    obtain ⟨d, hOk⟩ := hDirectory
    exact iff_of_true ⟨d, hOk, (Ending.failure_print_iff rfl _).mpr (print_error _ _)⟩ nofun
  | false =>
    rw [if_neg nofun, forall_prop_of_true rfl]
    cases json with
    | true =>
      rw [if_pos rfl, failure_documentEnding_iff, forall_prop_of_true rfl, and_iff_left nofun]
    | false =>
      rw [if_neg nofun, failure_save_iff, Ending.failure_step_iff rfl]
      constructor
      · rintro ⟨⟨blocks, hView, hPrints⟩, hSaved⟩
        obtain ⟨_, hSome⟩ := (exists_orNoText_iff _).mp ⟨blocks, hView⟩
        rw [hSome] at hView
        cases hView
        rw [Ending.failure_print_iff rfl, Console.print_fault_eq_none_iff] at hPrints
        exact ⟨nofun, fun _ => ⟨⟨blocks, hSome, hPrints⟩, hSaved⟩⟩
      · intro h
        obtain ⟨⟨blocks, hView, hPrints⟩, hSaved⟩ := h.2 rfl
        refine ⟨⟨blocks, by rw [hView]; rfl, ?_⟩, hSaved⟩
        exact (Ending.failure_print_iff rfl _).mpr
          ((Console.print_fault_eq_none_iff _ _).mpr hPrints)

theorem settings_analyzeEach {b : Project.Batch} (apps : List Text) :
    (Project.analyzeEach around project b apps).value.1.settings = project.settings := by
  induction apps generalizing project b with
  | nil => rfl
  | cons app rest ih =>
    cases hOutcome : (project.analyze around app none).outcome with
    | ok report =>
      rw [Project.analyzeEach_report hOutcome, ih]
      rfl
    | error e =>
      by_cases hFault : ∃ fault, e = .session (.fault fault)
      · obtain ⟨fault, rfl⟩ := hFault
        rw [Project.analyzeEach_fault hOutcome, ih]
      · rw [Project.analyzeEach_error hOutcome fun fault hEq => hFault ⟨fault, hEq⟩]

theorem settings_analyzeAll (around : Surroundings) (project : Project) :
    (project.analyzeAll around).value.1.settings = project.settings := by
  unfold Project.analyzeAll
  split
  · rfl
  · rfl
  · exact settings_analyzeEach _

/-- All apps are gone through when they can be listed and each of them is contained. -/
theorem exists_batch_iff (around : Surroundings) (project : Project) :
    (∃ b, (project.analyzeAll around).value.2 = .ok b) ↔
      ∃ apps, App.list around.tree project.settings = .ok apps ∧
        ∀ app ∈ apps, project.Contained around app none := by
  constructor
  · rintro ⟨b, hBatch⟩
    cases hApps : App.list around.tree project.settings with
    | error e =>
      rw [Project.analyzeAll, hApps] at hBatch
      cases hBatch
    | ok apps =>
      rw [Project.analyzeAll_of_list hApps] at hBatch
      exact ⟨apps, rfl, Project.contained_of_analyzeEach rfl hBatch⟩
  · rintro ⟨apps, hApps, hContained⟩
    obtain ⟨b, hBatch, -⟩ :=
      Project.analyzeEach_tells rfl (Project.Batch.tells_nil project around) hContained
    exact ⟨b, (Project.analyzeAll_of_list hApps).trans hBatch⟩

theorem failure_analyzeAll_iff (around : Surroundings) (project : Project) (json : Bool) :
    (analyzeAll around project json).value.failure = none ↔ AllEnd around project json := by
  have hBatches := exists_batch_iff around project
  have hSettings := settings_analyzeAll around project
  cases hValue : (project.analyzeAll around).value with
  | mk after batch =>
    rw [hValue] at hBatches hSettings
    cases batch with
    | error e =>
      rw [analyzeAll_error hValue]
      refine iff_of_false nofun fun h => ?_
      obtain ⟨b, hBatch⟩ := hBatches.mpr h.contained
      cases hBatch
    | ok b =>
      obtain ⟨apps, hApps, hContained⟩ := hBatches.mp ⟨b, rfl⟩
      obtain ⟨d, hDirectory, -⟩ := (Outcome.bind_eq_ok_iff _ _ _).mp hApps
      rw [analyzeAll_batch hValue, failure_batchEnding_iff around after b json ⟨d, hSettings ▸ hDirectory⟩]
      constructor
      · intro h
        refine ⟨⟨apps, hApps, hContained⟩, ?_, ?_⟩
        · intro hJson after' b' hThis hSome
          cases hValue.symm.trans hThis
          exact (h hSome).1 hJson
        · intro hJson after' b' hThis hSome
          cases hValue.symm.trans hThis
          exact (h hSome).2 hJson
      · intro h hSome
        exact ⟨fun hJson => h.document hJson after b hValue hSome,
          fun hJson => h.views hJson after b hValue hSome⟩

namespace Logging

variable {l : Logging} {run : Noted Ending}

/-- The lines of notices can be formed, or none of them is let through. -/
def Forms (l : Logging) (notices : List Notice) : Prop :=
  l.missing = none ∨ ∀ n ∈ notices, l.lets n = false

theorem pass_of_forms (tree : Files.Tree) (h : l.Forms run.notices) :
    (l.pass tree run).value = run.value := by
  unfold Logging.pass
  split
  · rename_i n rest field hNotices hMissing
    rcases h with hNone | hNotLet
    · rw [hNone] at hMissing
      cases hMissing
    · have hNothing := List.filter_eq_nil_iff.mpr fun n hMem => Bool.eq_false_iff.mp (hNotLet n hMem)
      rw [hNothing] at hNotices
      cases hNotices
  · rfl

theorem pass_of_not_forms (tree : Files.Tree) (h : ¬l.Forms run.notices) :
    ∃ f, (l.pass tree run).value = .failed tree f := by
  unfold Logging.pass
  split
  · exact ⟨_, rfl⟩
  · rename_i hOther
    refine absurd ?_ h
    cases hMissing : l.missing with
    | none => exact .inl hMissing
    | some field =>
      right
      intro n hMem
      apply Bool.eq_false_iff.mpr
      intro hLet
      obtain ⟨first, rest, hNotices⟩ :=
        List.exists_cons_of_ne_nil (List.ne_nil_of_mem (List.mem_filter.mpr ⟨hMem, hLet⟩))
      exact hOther first rest field hNotices hMissing

theorem failure_pass_iff (l : Logging) (tree : Files.Tree) (run : Noted Ending) :
    (l.pass tree run).value.failure = none ↔ l.Forms run.notices ∧ run.value.failure = none := by
  by_cases hForms : l.Forms run.notices
  · rw [pass_of_forms tree hForms, and_iff_right hForms]
  · obtain ⟨f, hFailed⟩ := pass_of_not_forms tree hForms
    rw [hFailed]
    exact iff_of_false nofun fun h => hForms h.1

end Logging

theorem isProper_save {e : Ending} (h : e.IsProper) (around : Surroundings) (project : Project) :
    (e.save around project).IsProper := by
  refine h.step _ _ ?_
  rintro ⟨path?, tree⟩
  have hSame : ({ e with tree } : Ending).IsProper := ⟨h.code, h.failure⟩
  cases path? with
  | none => exact hSame
  | some path => exact hSame.print _

theorem isProper_batchEnding (around : Surroundings) (project : Project) (b : Project.Batch)
    (json : Bool) : (batchEnding around project b json).IsProper := by
  have hCode : (if b.succeeded then 0 else 1) ≤ 1 := by split <;> decide
  unfold batchEnding
  dsimp only
  split
  · exact (Ending.isProper_of_code (Nat.le_refl 1) _).step _ _ fun _ =>
      (Ending.isProper_of_code (Nat.le_refl 1) _).print _
  · split
    · exact isProper_documentEnding hCode _ _
    · exact isProper_save ((Ending.isProper_of_code hCode _).step _ _ fun blocks =>
        (Ending.isProper_of_code hCode _).print blocks) _ _

theorem isProper_analyzeAll (around : Surroundings) (project : Project) (json : Bool) :
    (analyzeAll around project json).value.IsProper := by
  unfold analyzeAll
  rw [Noted.value_bind]
  obtain ⟨after, batch⟩ := (project.analyzeAll around).value
  cases batch with
  | error e => exact Ending.isProper_failed _ _
  | ok b => exact isProper_batchEnding _ _ _ _

theorem isProper_faultEnding (around : Surroundings) (s : Settings) (target : App.Target)
    (fault : App.Fault) : (faultEnding around s target fault).IsProper := by
  unfold faultEnding
  split
  · exact Ending.isProper_told _ _
  · dsimp only
    split
    · exact Ending.isProper_told _ _
    · exact (Ending.isProper_told _ _).step _ _ fun blocks => (Ending.isProper_told _ _).print blocks

theorem isProper_analyzeOne (around : Surroundings) (project : Project) (target : App.Target)
    (json : Bool) : (analyzeOne around project target json).value.IsProper := by
  unfold analyzeOne
  rw [Noted.value_bind]
  split
  · exact isProper_faultEnding _ _ _ _
  · exact Ending.isProper_failed _ _
  · split
    · exact isProper_documentEnding (Nat.zero_le 1) _ _
    · exact (Ending.isProper_of_code (Nat.zero_le 1) _).step _ _ fun blocks =>
        (Ending.isProper_of_code (Nat.zero_le 1) _).print blocks

def work (host : Host) (o : Options) (p : Prepared) : Noted Ending :=
  if p.target.isAll then analyzeAll (surroundings host p.project.settings) p.project o.json
  else analyzeOne (surroundings host p.project.settings) p.project p.target o.json

theorem goesOn_eq_pass (host : Host) (o : Options) (p : Prepared) :
    goesOn host o p = p.logging.pass host.tree (work host o p) :=
  rfl

structure Ends (host : Host) (o : Options) (p : Prepared) : Prop where
  lines : p.logging.Forms (work host o p).notices
  all : p.target.isAll = true → AllEnd (surroundings host p.project.settings) p.project o.json
  one : p.target.isAll = false →
    OneEnds (surroundings host p.project.settings) p.project p.target o.json

theorem failure_goesOn_iff (host : Host) (o : Options) (p : Prepared) :
    (goesOn host o p).value.failure = none ↔ Ends host o p := by
  rw [goesOn_eq_pass, Logging.failure_pass_iff]
  have hWork : (work host o p).value.failure = none ↔
      (p.target.isAll = true → AllEnd (surroundings host p.project.settings) p.project o.json) ∧
      (p.target.isAll = false →
        OneEnds (surroundings host p.project.settings) p.project p.target o.json) := by
    unfold work
    cases p.target.isAll with
    | true =>
      rw [if_pos rfl, failure_analyzeAll_iff]
      exact ⟨fun h => ⟨fun _ => h, nofun⟩, fun h => h.1 rfl⟩
    | false =>
      rw [if_neg nofun, failure_analyzeOne_iff]
      exact ⟨fun h => ⟨nofun, fun _ => h⟩, fun h => h.2 rfl⟩
  rw [hWork]
  constructor
  · rintro ⟨hLines, hAll, hOne⟩
    exact ⟨hLines, hAll, hOne⟩
  · intro h
    exact ⟨h.lines, h.all, h.one⟩

theorem isProper_goesOn (host : Host) (o : Options) (p : Prepared) :
    (goesOn host o p).value.IsProper := by
  have hWork : (work host o p).value.IsProper := by
    unfold work
    split
    · exact isProper_analyzeAll _ _ _
    · exact isProper_analyzeOne _ _ _ _
  rw [goesOn_eq_pass]
  by_cases hForms : p.logging.Forms (work host o p).notices
  · rwa [Logging.pass_of_forms host.tree hForms]
  · obtain ⟨f, hFailed⟩ := Logging.pass_of_not_forms host.tree hForms
    rw [hFailed]
    exact Ending.isProper_failed _ _

theorem isProper_stop (stop : Stop) (tree : Files.Tree) : (stop.ending tree).IsProper := by
  cases stop with
  | told blocks => exact Ending.isProper_told _ _
  | failed f => exact Ending.isProper_failed _ _

def configured (name document : String) : Host where
  tree := {
    root := .directory [(name.toList, .file (Text.utf8 document.toList))]
    cwd := ⟨['/'], []⟩ }
  environment := []
  time := []

end AssetAudit.CommandLine
