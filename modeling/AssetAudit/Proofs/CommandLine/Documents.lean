import AssetAudit.Proofs.CommandLine.Endings
import AssetAudit.Proofs.Project.Documents

/-!
# Runs that print a document

A run that is asked for a document prints the one of the reports that it has made, and it prints nothing
if it ends without a message. Only a run that has a message to tell prints something else, which no
reader takes for a document.
-/
namespace AssetAudit.CommandLine

open Console (Block)

/-- A text that starts as no document does. -/
def IsMessage (t : Text) : Prop :=
  ∃ c rest, t = c :: rest ∧ Json.StartsNothing c

namespace IsMessage

variable {t : Text}

theorem append (h : IsMessage t) (more : Text) : IsMessage (t ++ more) := by
  obtain ⟨c, rest, rfl, hStarts⟩ := h
  exact ⟨c, rest ++ more, rfl, hStarts⟩

theorem ne_nil (h : IsMessage t) : t ≠ [] := by
  obtain ⟨c, rest, rfl, -⟩ := h
  exact nofun

theorem read_ne_ok (h : IsMessage t) (v : Value) : Json.read t ≠ .ok v := by
  obtain ⟨c, rest, rfl, hStarts⟩ := h
  obtain ⟨e, hError⟩ := Json.exists_error_of_startsNothing hStarts rest
  rw [hError]
  nofun

end IsMessage

section Views

theorem startsNothing_corner : Json.StartsNothing '╭' :=
  ⟨by decide, by decide, by decide, by decide⟩

theorem startsNothing_letter : Json.StartsNothing 'E' :=
  ⟨by decide, by decide, by decide, by decide⟩

theorem isMessage_error (message : Text) :
    IsMessage (Console.textOf (Console.print Ending.screenWidth (View.error message)).lines) := by
  have hWidth : 0 < Ending.screenWidth := by decide
  obtain ⟨first, rest, hPanel⟩ := Console.exists_panel_cons hWidth "Error".toList
    (Console.audible ("Error: ".toList ++ message))
  have hLines : (Console.print Ending.screenWidth (View.error message)).lines =
      ('╭' :: first) :: (rest ++ []) := congrArg (· ++ []) hPanel
  rw [hLines]
  exact ⟨'╭', _, rfl, startsNothing_corner⟩

theorem isMessage_rejected (rejected : List Whitelist.Rejected) :
    IsMessage (Console.textOf (Console.print Ending.screenWidth (View.rejected rejected)).lines) := by
  have hMarked : Console.marked "[bold red]Error:[/bold red] Invalid whitelist pattern(s):".toList =
      .ok "Error: Invalid whitelist pattern(s):".toList := by
    have hBody : Console.unmarked "Error:".toList = "Error:".toList := by decide +kernel
    have hTail : Console.unmarked " Invalid whitelist pattern(s):".toList =
        " Invalid whitelist pattern(s):".toList := by decide +kernel
    rw [rejected_heading]
    refine Eq.trans (Console.marked_styled (by decide) nofun (by decide) (by decide)) ?_
    rw [hBody, hTail, Console.unmarked_nil]
    rfl
  have hFirst : (Block.text "[bold red]Error:[/bold red] Invalid whitelist pattern(s):".toList).lines
      Ending.screenWidth = .ok ["Error: Invalid whitelist pattern(s):".toList] := by
    rw [Block.lines, hMarked]
    exact congrArg Except.ok (by decide +kernel)
  unfold View.rejected
  rw [Console.print, hFirst]
  exact ⟨'E', _, rfl, startsNothing_letter⟩

end Views

namespace Ending

variable {e : Ending}

structure Tells (e : Ending) : Prop where
  code : e.code = 1
  output : IsMessage e.output

theorem exists_output_print (e : Ending) (blocks : List Block) :
    ∃ more, (e.print blocks).output = e.output ++ more := by
  unfold print
  split
  · exact ⟨[], (List.append_nil _).symm⟩
  · dsimp only
    split
    · exact ⟨_, rfl⟩
    · exact ⟨_, rfl⟩

theorem Tells.print (h : e.Tells) (blocks : List Block) : (e.print blocks).Tells := by
  refine ⟨code_print h.code blocks, ?_⟩
  obtain ⟨more, hMore⟩ := exists_output_print e blocks
  rw [hMore]
  exact h.output.append more

theorem Tells.step {ε α : Type} (h : e.Tells) (failure : ε → Failure) (x : Except ε α)
    {next : Ending → α → Ending} (hNext : ∀ a, (next e a).Tells) : (e.step failure x next).Tells := by
  unfold Ending.step
  split
  · exact h
  · exact ⟨rfl, h.output⟩
  · exact hNext _

theorem tells_told {blocks : List Block} (tree : Files.Tree)
    (h : IsMessage (Console.textOf (Console.print screenWidth blocks).lines)) :
    (told tree blocks).Tells := by
  refine ⟨code_print rfl blocks, ?_⟩
  unfold told Ending.print
  dsimp only
  split
  · exact h
  · exact h

theorem tells_error (tree : Files.Tree) (message : Text) : (told tree (View.error message)).Tells :=
  tells_told tree (isMessage_error message)

end Ending

variable {host : Host} {o : Options} {p : Prepared} {around : Surroundings} {project : Project}

theorem tells_faultEnding (around : Surroundings) (s : Settings) (target : App.Target)
    (fault : App.Fault) : (faultEnding around s target fault).Tells := by
  unfold faultEnding
  split
  · exact Ending.tells_told _ (isMessage_rejected _)
  · have hTold := Ending.tells_error around.tree fault.message
    dsimp only
    split
    · exact hTold
    · exact hTold.step _ _ fun blocks => hTold.print blocks

theorem tells_batchEnding {b : Project.Batch} {json : Bool}
    (hDirectory : ∃ d, App.appsDirectory project.settings around.tree.cwd = .ok d)
    (hNone : (b.analyzed.isEmpty && b.failed.isEmpty) = true) :
    (batchEnding around project b json).Tells := by
  obtain ⟨d, hOk⟩ := hDirectory
  unfold batchEnding
  rw [if_pos hNone, hOk]
  exact Ending.tells_error _ _

theorem output_documentEnding {code : Nat} (h : (documentEnding around project code).failure ≠ none) :
    (documentEnding around project code).output = [] := by
  unfold documentEnding Ending.step orNoText at h ⊢
  cases hDocument : project.reports.document? around.time with
  | none => rfl
  | some document =>
    rw [hDocument] at h
    exact absurd rfl h

theorem isEmpty_batch {apps : List Text} {b : Project.Batch} (hSome : apps ≠ [])
    (hApps : App.list around.tree project.settings = .ok apps)
    (h : (project.analyzeAll around).value.2 = .ok b) :
    (b.analyzed.isEmpty && b.failed.isEmpty) = false := by
  rw [Project.analyzeAll_of_list hApps] at h
  obtain ⟨result, hResult, hTells⟩ := Project.analyzeEach_tells rfl
    (Project.Batch.tells_nil project around) (Project.contained_of_analyzeEach rfl h)
  obtain rfl : b = result := Except.ok.inj (h.symm.trans hResult)
  obtain ⟨app, hMem⟩ := List.exists_mem_of_ne_nil apps hSome
  have hGiven : app ∈ [] ++ apps := hMem
  have hOnce := hTells.once hGiven
  rw [Bool.eq_false_iff]
  intro hNone
  obtain ⟨hAnalyzed, hFailed⟩ := (Bool.and_eq_true _ _).mp hNone
  rw [List.isEmpty_iff.mp hAnalyzed, List.isEmpty_iff.mp hFailed] at hOnce
  exact List.not_mem_nil (hOnce.mpr List.not_mem_nil)

namespace Prepared

/-- What a prepared run has to tell instead of a document: there are no apps, or the one to analyze has
a fault. -/
inductive HasMessage (host : Host) (p : Prepared) : Prop
  | noApps (hAll : p.target.isAll = true)
      (h : App.list host.tree p.project.settings = .ok []) : HasMessage host p
  | fault (hOne : p.target.isAll = false) {fault : App.Fault}
      (h : (p.project.analyze (surroundings host p.project.settings) p.target.name
        p.target.directory).outcome = .error (.session (.fault fault))) : HasMessage host p

def after (host : Host) (p : Prepared) : Project :=
  let around := surroundings host p.project.settings
  if p.target.isAll then (p.project.analyzeAll around).value.1
  else match (p.project.analyze around p.target.name p.target.directory).outcome with
    | .ok report => p.project.store report
    | .error _ => p.project

theorem after_of_all (h : p.target.isAll = true) : p.after host =
    (p.project.analyzeAll (surroundings host p.project.settings)).value.1 :=
  if_pos h

theorem after_of_report {report : Report} (hOne : p.target.isAll = false)
    (h : (p.project.analyze (surroundings host p.project.settings) p.target.name
      p.target.directory).outcome = .ok report) : p.after host = p.project.store report := by
  unfold after
  dsimp only
  rw [if_neg (by rw [hOne]; nofun), h]

theorem comesBack_after (h : p.project.reports.ComesBack) : (p.after host).reports.ComesBack := by
  cases hAll : p.target.isAll with
  | true =>
    rw [after_of_all hAll]
    exact Project.comesBack_analyzeAll h
  | false =>
    cases hOutcome : (p.project.analyze (surroundings host p.project.settings) p.target.name
      p.target.directory).outcome with
    | ok report =>
      rw [after_of_report hAll hOutcome]
      exact h.store (Project.comesBack_analyze hOutcome)
    | error e =>
      unfold after
      dsimp only
      rw [if_neg (by rw [hAll]; nofun), hOutcome]
      exact h

end Prepared

theorem tells_work (h : p.HasMessage host) : (work host o p).value.Tells := by
  unfold work
  cases h with
  | noApps hAll hApps =>
    rw [if_pos hAll]
    have hBatch : (p.project.analyzeAll (surroundings host p.project.settings)).value =
        (p.project, .ok {}) := by
      have hSeen : App.list (surroundings host p.project.settings).tree p.project.settings = .ok [] :=
        hApps
      rw [Project.analyzeAll, hSeen]
      rfl
    rw [analyzeAll_batch hBatch]
    obtain ⟨d, hDirectory, -⟩ := (Outcome.bind_eq_ok_iff _ _ _).mp hApps
    exact tells_batchEnding ⟨d, hDirectory⟩ rfl
  | fault hOne hFault =>
    rw [if_neg (by simp [hOne]), analyzeOne_fault hFault]
    exact tells_faultEnding _ _ _ _

/-- With nothing to tell, a run prints the document of its reports, or it fails before. -/
theorem work_of_no_message (hJson : o.json = true) (h : ¬p.HasMessage host) :
    (∃ code, (work host o p).value =
      documentEnding (surroundings host p.project.settings) (p.after host) code) ∨
    ∃ f, (work host o p).value = .failed host.tree f := by
  unfold work
  cases hAll : p.target.isAll with
  | true =>
    rw [if_pos rfl, hJson, Prepared.after_of_all hAll]
    cases hBatch : (p.project.analyzeAll (surroundings host p.project.settings)).value with
    | mk after batch =>
      cases batch with
      | error e => exact .inr ⟨_, analyzeAll_error hBatch⟩
      | ok b =>
        left
        obtain ⟨apps, hApps, -⟩ := (exists_batch_iff _ _).mp ⟨b, congrArg Prod.snd hBatch⟩
        have hSome : apps ≠ [] := by
          rintro rfl
          exact h (.noApps hAll hApps)
        have hTold := isEmpty_batch hSome hApps (congrArg Prod.snd hBatch)
        refine ⟨if b.succeeded then 0 else 1, ?_⟩
        rw [analyzeAll_batch hBatch]
        unfold batchEnding
        rw [hTold]
        rfl
  | false =>
    rw [if_neg nofun, hJson]
    cases hOutcome : (p.project.analyze (surroundings host p.project.settings) p.target.name
      p.target.directory).outcome with
    | ok report =>
      left
      refine ⟨0, ?_⟩
      rw [analyzeOne_report hOutcome, Prepared.after_of_report hAll hOutcome]
      rfl
    | error e =>
      right
      refine ⟨.project e, analyzeOne_error hOutcome ?_⟩
      rintro fault rfl
      exact h (.fault hAll hOutcome)

/-- A run has a message to tell instead of a document: its preparation stops with one, or the analysis
has one and the notices before it can be formed. -/
inductive HasMessage (host : Host) (o : Options) : Prop
  | stop {stop : Stop} (h : (Prepared.prepare host o).outcome = .error stop) (hTold : stop.IsTold) :
      HasMessage host o
  | analysis {p : Prepared} (h : (Prepared.prepare host o).outcome = .ok p)
      (hForms : p.logging.Forms (work host o p).notices) (hMessage : p.HasMessage host) : HasMessage host o

/-- A text is the document of the reports that a run has made, and it is read back as their mapping. -/
def IsDocument (host : Host) (o : Options) (t : Text) : Prop :=
  ∃ p document v, (Prepared.prepare host o).outcome = .ok p ∧
    (p.after host).reports.document? host.time = some document ∧ t = document ++ ['\n'] ∧
    (p.after host).reports.toValue? host.time = some v ∧
    ((p.after host).reports.IsCountable → Json.read t = .ok v)

theorem isProper_analysis (host : Host) (o : Options) : (analysis host o).value.IsProper := by
  cases hPrepared : (Prepared.prepare host o).outcome with
  | ok p =>
    rw [analysis_of_prepare hPrepared]
    exact isProper_goesOn host o p
  | error stop =>
    rw [analysis_of_stop hPrepared]
    exact isProper_stop stop host.tree

theorem tells_analysis (h : HasMessage host o) : (analysis host o).value.Tells := by
  cases h with
  | stop h hTold =>
    obtain ⟨message, rfl⟩ := hTold
    rw [analysis_of_stop h]
    exact Ending.tells_error host.tree message
  | analysis h hForms hMessage =>
    rw [analysis_of_prepare h, goesOn_eq_pass, Logging.pass_of_forms host.tree hForms]
    exact tells_work hMessage

/-- A run that has nothing to tell prints the document of its reports, or it fails before. -/
theorem analysis_of_no_message (hJson : o.json = true) (h : ¬HasMessage host o) :
    (∃ p code, (Prepared.prepare host o).outcome = .ok p ∧ (analysis host o).value =
      documentEnding (surroundings host p.project.settings) (p.after host) code) ∨
    ∃ f, (analysis host o).value = .failed host.tree f := by
  cases hPrepared : (Prepared.prepare host o).outcome with
  | error stop =>
    rw [analysis_of_stop hPrepared]
    rcases Prepared.told_or_failed hPrepared with hTold | ⟨f, rfl⟩
    · exact absurd (.stop hPrepared hTold) h
    · exact .inr ⟨f, rfl⟩
  | ok p =>
    rw [analysis_of_prepare hPrepared, goesOn_eq_pass]
    by_cases hForms : p.logging.Forms (work host o p).notices
    · rw [Logging.pass_of_forms host.tree hForms]
      have hNone : ¬p.HasMessage host := fun hMessage => h (.analysis hPrepared hForms hMessage)
      rcases work_of_no_message hJson hNone with ⟨code, hWork⟩ | hFailed
      · exact .inl ⟨p, code, rfl, hWork⟩
      · exact .inr hFailed
    · exact .inr (Logging.pass_of_not_forms host.tree hForms)

theorem isDocument_of_documentEnding {code : Nat}
    (hPrepared : (Prepared.prepare host o).outcome = .ok p)
    (h : (documentEnding (surroundings host p.project.settings) (p.after host) code).failure = none) :
    IsDocument host o
      (documentEnding (surroundings host p.project.settings) (p.after host) code).output := by
  obtain ⟨-, document, hDocument, hOutput⟩ := documentEnding_of_no_failure h
  obtain ⟨base, hOf⟩ := Prepared.exists_of_prepare hPrepared
  have hStart : p.project.reports.ComesBack := hOf.fresh ▸ Reports.comesBack_none
  obtain ⟨v, hValue, hRead⟩ := Reports.read_document? (Prepared.comesBack_after hStart) hDocument
  refine ⟨p, document, v, hPrepared, hDocument, hOutput, hValue, ?_⟩
  rw [hOutput]
  exact hRead

/-- A run that is asked for a document ends with 0 or 1. If it has a message to tell, it prints what
cannot be read as a document. Else it prints the document of the reports that it has made, and nothing if
it ends without a message. -/
theorem document_unless_message {arguments : List Text}
    (hRequest : Request.ofArguments arguments = .ok (.analysis o)) (hJson : o.json = true) :
    (run host arguments).value.code ≤ 1 ∧
      (HasMessage host o → (run host arguments).value.code = 1 ∧
        (run host arguments).value.output ≠ [] ∧
        ∀ v, Json.read (run host arguments).value.output ≠ .ok v) ∧
      (¬HasMessage host o →
        ((run host arguments).value.failure = none →
          IsDocument host o (run host arguments).value.output) ∧
        ((run host arguments).value.failure ≠ none → (run host arguments).value.output = [])) := by
  have hRun : run host arguments = analysis host o := by
    unfold run
    rw [hRequest]
  rw [hRun]
  refine ⟨(isProper_analysis host o).code, ?_, ?_⟩
  · intro hMessage
    have hTells := tells_analysis hMessage
    exact ⟨hTells.code, hTells.output.ne_nil, hTells.output.read_ne_ok⟩
  · intro hNone
    rcases analysis_of_no_message hJson hNone with ⟨p, code, hPrepared, hEnding⟩ | ⟨f, hFailed⟩
    · rw [hEnding]
      exact ⟨isDocument_of_documentEnding hPrepared, output_documentEnding⟩
    · rw [hFailed]
      exact ⟨nofun, fun _ => rfl⟩

/-- An app fails, and the document of the other one is printed. -/
theorem document_unless_message_stalls :
    IsDocument stalls allAsDocument (run stalls ["all".toList, "--json".toList]).value.output := by
  obtain ⟨p, hPrepared, hEnds, hApps⟩ := exists_prepared_stalls
  have hRequest : Request.ofArguments ["all".toList, "--json".toList] =
      .ok (.analysis allAsDocument) := rfl
  have hNothing : ¬HasMessage stalls allAsDocument := by
    intro hTold
    cases hTold with
    | stop h _ => cases hPrepared.symm.trans h
    | analysis h _ hMessage =>
      obtain rfl := Except.ok.inj (hPrepared.symm.trans h)
      cases hMessage with
      | noApps _ hNone => cases hApps.symm.trans hNone
      | fault hOne _ =>
        obtain ⟨base, hOf⟩ := Prepared.exists_of_prepare hPrepared
        have hAll : p.target.isAll = true := isAll_of_isTheWord hOf (by decide)
        cases hAll.symm.trans hOne
  have hNone : (run stalls ["all".toList, "--json".toList]).value.failure = none := by
    have hRun : run stalls ["all".toList, "--json".toList] = analysis stalls allAsDocument := rfl
    rw [hRun, analysis_of_prepare hPrepared]
    exact hEnds
  obtain ⟨-, -, hDocument⟩ := @document_unless_message stalls allAsDocument _ hRequest rfl
  exact (hDocument hNothing).1 hNone

/-- A run from a directory that is missing ends with 1 and prints a panel. -/
theorem panel_instead_of_document :
    let e := (run (nestHost "web".toList) ["-C".toList, "missing".toList, "--json".toList]).value
    e.code = 1 ∧ e.failure = none ∧ e.output.head? = some '╭' ∧ ∀ v, Json.read e.output ≠ .ok v := by
  intro e
  have hEnding : e.code = 1 ∧ e.failure.isNone = true ∧ e.output.head? = some '╭' := by
    decide +kernel
  obtain ⟨hCode, hEnds, hCorner⟩ := hEnding
  refine ⟨hCode, Option.isNone_iff_eq_none.mp hEnds, hCorner, ?_⟩
  obtain ⟨rest, hOutput⟩ := List.head?_eq_some_iff.mp hCorner
  exact IsMessage.read_ne_ok ⟨'╭', rest, hOutput, startsNothing_corner⟩

end AssetAudit.CommandLine
