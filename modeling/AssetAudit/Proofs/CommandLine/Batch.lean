import AssetAudit.Proofs.CommandLine.Analysis
import AssetAudit.Proofs.Project.Failures
import AssetAudit.Proofs.Report.Totals

/-!
# Runs over all apps

A run that analyzes all apps and prints the document ends with 0 when there are apps and none has
failed. Its document has the data of the analyzed apps, in their order.
-/
namespace AssetAudit

namespace CommandLine

/-- A document of reports for so many apps, in their order. -/
def Documents (document time : Text) (apps : List Text) : Prop :=
  ∃ data : Entries Value, data.map (·.1) = apps.map Scalar.text ∧
    Json.pretty (Value.record [("timestamp", .text time),
      ("total_apps_analyzed", .int data.length), ("apps_data", .map data)]) = .ok document

theorem documents_of_document? {reports : Reports} {time document : Text}
    (h : reports.document? time = some document) :
    Documents document time (reports.entries.map (·.app)) := by
  obtain ⟨v, hValue, hPretty⟩ := Option.bind_eq_some_iff.mp h
  obtain ⟨data, hData, rfl⟩ := Option.map_eq_some_iff.mp hValue
  have hKeys := Reports.map_key_of_mapM hData
  have hLength : reports.size = data.length := by
    have hBoth := congrArg List.length hKeys
    rw [List.length_map, List.length_map] at hBoth
    exact hBoth.symm
  refine ⟨data, by rw [hKeys, List.map_map]; rfl, ?_⟩
  rw [← hLength]
  exact Outcome.eq_ok_of_toOption hPretty

namespace Ending

theorem code_print {e : Ending} (h : e.code = 1) (blocks : List Console.Block) :
    (e.print blocks).code = 1 := by
  unfold print
  split
  · exact h
  · dsimp only
    split
    · rfl
    · exact h

end Ending

theorem Stop.code_ending (stop : Stop) (tree : Files.Tree) : (stop.ending tree).code = 1 := by
  cases stop with
  | told blocks => exact Ending.code_print rfl blocks
  | failed f => rfl

variable {host : Host} {o : Options} {p : Prepared} {around : Surroundings} {project : Project}

/-- A run whose notices are let through ends as it would without them. -/
theorem Logging.value_pass {l : Logging} {tree : Files.Tree} {run : Noted Ending}
    (h : (l.pass tree run).value.failure = none) : (l.pass tree run).value = run.value := by
  unfold Logging.pass at h ⊢
  split
  · rename_i hNotices hMissing
    rw [hNotices, hMissing] at h
    cases h
  · rfl

/-- The document is printed, or the run ends without a message. -/
theorem documentEnding_of_no_failure {code : Nat}
    (h : (documentEnding around project code).failure = none) :
    (documentEnding around project code).code = code ∧ ∃ document,
      project.reports.document? around.time = some document ∧
      (documentEnding around project code).output = document ++ ['\n'] := by
  unfold documentEnding Ending.step orNoText at h ⊢
  cases hDocument : project.reports.document? around.time with
  | none =>
    rw [hDocument] at h
    cases h
  | some document => exact ⟨rfl, document, rfl, rfl⟩

theorem code_batchEnding_of_none (around : Surroundings) (project : Project) {b : Project.Batch}
    (json : Bool) (hNone : (b.analyzed.isEmpty && b.failed.isEmpty) = true) :
    (batchEnding around project b json).code = 1 := by
  unfold batchEnding
  rw [if_pos hNone]
  unfold Ending.step
  cases App.appsDirectory project.settings around.tree.cwd with
  | error e => rfl
  | ok directory => exact Ending.code_print rfl _

theorem batchEnding_of_no_failure {b : Project.Batch}
    (h : (batchEnding around project b true).failure = none) :
    ((batchEnding around project b true).code = 0 ↔ b.succeeded = true) ∧
      ((b.analyzed.isEmpty && b.failed.isEmpty) = false → ∃ document,
        project.reports.document? around.time = some document ∧
        (batchEnding around project b true).output = document ++ ['\n']) := by
  cases hNone : b.analyzed.isEmpty && b.failed.isEmpty with
  | true =>
    refine ⟨?_, nofun⟩
    have hCode := code_batchEnding_of_none around project true hNone
    have hAnalyzed := ((Bool.and_eq_true _ _).mp hNone).1
    rw [hCode, Project.Batch.succeeded, hAnalyzed]
    exact iff_of_false nofun nofun
  | false =>
    have hDocument : batchEnding around project b true =
        documentEnding around project (if b.succeeded then 0 else 1) := by
      unfold batchEnding
      rw [hNone]
      rfl
    rw [hDocument] at h ⊢
    obtain ⟨hCode, document, hMade, hOutput⟩ := documentEnding_of_no_failure h
    refine ⟨?_, fun _ => ⟨document, hMade, hOutput⟩⟩
    rw [hCode]
    cases b.succeeded with
    | true => exact iff_of_true rfl rfl
    | false => exact iff_of_false nofun nofun

theorem analyzeAll_error {after : Project} {e : Project.Error} {json : Bool}
    (h : (project.analyzeAll around).value = (after, .error e)) :
    (analyzeAll around project json).value = .failed around.tree (.project e) := by
  unfold analyzeAll
  rw [Noted.value_bind, h]
  rfl

theorem analyzeAll_batch {after : Project} {b : Project.Batch} {json : Bool}
    (h : (project.analyzeAll around).value = (after, .ok b)) :
    (analyzeAll around project json).value = batchEnding around after b json := by
  unfold analyzeAll
  rw [Noted.value_bind, h]
  rfl

theorem analyzeAll_of_no_failure (h : (analyzeAll around project true).value.failure = none) :
    ∃ after b, (project.analyzeAll around).value = (after, .ok b) ∧
      ((analyzeAll around project true).value.code = 0 ↔ b.succeeded = true) ∧
      ((b.analyzed.isEmpty && b.failed.isEmpty) = false → ∃ document,
        after.reports.document? around.time = some document ∧
        (analyzeAll around project true).value.output = document ++ ['\n']) := by
  cases hBatch : (project.analyzeAll around).value with
  | mk after batch =>
    cases batch with
    | error e =>
      rw [analyzeAll_error hBatch] at h
      cases h
    | ok b =>
      rw [analyzeAll_batch hBatch] at h ⊢
      exact ⟨after, b, rfl, batchEnding_of_no_failure h⟩

theorem isAll_of_isTheWord {base : FilePath} (h : p.Of host o base)
    (hAll : App.Target.IsTheWord o.target) : p.target.isAll = true := by
  have hTarget : p.target = ⟨App.Target.everything, base.absolute host.tree.cwd, none⟩ :=
    Except.ok.inj (h.target.symm.trans (App.Target.resolve_of_isTheWord hAll))
  rw [hTarget]
  exact App.Target.isAll_everything _

/-- A run over all apps that does not end without a message, as an analysis of the project makes it. -/
theorem analysis_of_all (hJson : o.json = true) (hAll : App.Target.IsTheWord o.target)
    (hPrepared : (Prepared.prepare host o).outcome = .ok p)
    (h : (analysis host o).value.failure = none) :
    p.project.reports = {} ∧ (analysis host o).value =
      (analyzeAll (surroundings host p.project.settings) p.project true).value := by
  obtain ⟨base, hOf⟩ := Prepared.exists_of_prepare hPrepared
  have hRun := analysis_of_prepare hPrepared
  rw [goesOn, if_pos (isAll_of_isTheWord hOf hAll), hJson] at hRun
  refine ⟨hOf.fresh, ?_⟩
  rw [hRun] at h ⊢
  exact Logging.value_pass h

/-- What comes of all apps: a batch sorts the listed ones, and it stores the reports of the analyzed
ones. A run that prints the document ends with 0 when there are apps and none has failed, and its
document has the analyzed apps. -/
theorem all_apps_settle :
    (∀ (p after : Project) (around : Surroundings) (b : Project.Batch), around.tree.IsReal →
      (p.analyzeAll around).value = (after, .ok b) →
        ∃ apps, App.list around.tree p.settings = .ok apps ∧ b.Sorts p around.tree apps ∧
          (p.reports = {} → after.reports.entries.map (·.app) = b.analyzed) ∧
          ∀ root, App.givenRoot p.settings around.tree.cwd = .ok root → root.isAbsolute = true →
            ∀ app ∈ apps, ¬p.IsOverlong around.tree app) ∧
    (∀ (host : Host) (o : Options), host.tree.IsReal → o.json = true →
      App.Target.IsTheWord o.target → (analysis host o).value.failure = none →
        (∀ stop, (Prepared.prepare host o).outcome = .error stop → (analysis host o).value.code = 1) ∧
        ∀ p, (Prepared.prepare host o).outcome = .ok p → ∃ apps after b,
          App.list host.tree p.project.settings = .ok apps ∧
          (p.project.analyzeAll (surroundings host p.project.settings)).value = (after, .ok b) ∧
          ((analysis host o).value.code = 0 ↔ apps ≠ [] ∧ b.failed = []) ∧
          (apps ≠ [] → ∃ document, (analysis host o).value.output = document ++ ['\n'] ∧
            Documents document host.time b.analyzed)) ∧
    ∀ host, run host ["all".toList, "--json".toList] =
      analysis host { target := some "all".toList, json := true } := by
  refine ⟨?_, ?_, fun host => rfl⟩
  · intro p after around b hReal hBatch
    obtain ⟨apps, hApps, hSorts⟩ := Project.exists_sorts hReal (congrArg Prod.snd hBatch)
    refine ⟨apps, hApps, hSorts, ?_, ?_⟩
    · intro hFresh
      exact Project.map_app_analyzeAll hReal hFresh hBatch
    · intro root hRoot hAbsolute
      exact Project.not_isOverlong hReal hApps hRoot hAbsolute
  · intro host o hReal hJson hAll hEnds
    refine ⟨?_, ?_⟩
    · intro stop hStop
      rw [analysis_of_stop hStop]
      exact Stop.code_ending stop host.tree
    · intro p hPrepared
      obtain ⟨hFresh, hValue⟩ := analysis_of_all hJson hAll hPrepared hEnds
      rw [hValue] at hEnds ⊢
      obtain ⟨after, b, hBatch, hCode, hDocument⟩ := analyzeAll_of_no_failure hEnds
      have hSeen : (surroundings host p.project.settings).tree.IsReal := hReal
      obtain ⟨apps, hApps, hSorts⟩ := Project.exists_sorts hSeen (congrArg Prod.snd hBatch)
      have hStored := Project.map_app_analyzeAll hSeen hFresh hBatch
      refine ⟨apps, after, b, hApps, hBatch, ?_, ?_⟩
      · rw [hCode]
        exact hSorts.succeeded_iff
      · intro hSome
        obtain ⟨document, hMade, hOutput⟩ := hDocument (hSorts.isEmpty_eq_false hSome)
        refine ⟨document, hOutput, ?_⟩
        rw [← hStored]
        exact documents_of_document? hMade

/-- Two apps, of which the first has a pattern that cannot be compiled. -/
def stalls : Host where
  tree := {
    root := .directory [
      ("apps".toList, .directory [
        ("bad".toList, .directory [("src".toList, .directory [])]),
        ("web".toList, .directory [("src".toList, .directory [])])]),
      ("sweep.config.json".toList, .file (Text.utf8
        "\x7b\"whitelist\": \x7b\"products\": \x7b\"bad\": [\"regex:(\"]\x7d\x7d\x7d".toList))]
    cwd := ⟨['/'], []⟩ }
  environment := []
  time := []

def allAsDocument : Options where
  target := some "all".toList
  json := true

theorem exists_prepared_stalls : ∃ p, (Prepared.prepare stalls allAsDocument).outcome = .ok p ∧
    (goesOn stalls allAsDocument p).value.failure = none ∧
    App.list stalls.tree p.project.settings = .ok ["bad".toList, "web".toList] := by
  obtain ⟨p, hPrepared, hRun⟩ := Outcome.exists_of_toOption_map
    (f := fun p => ((goesOn stalls allAsDocument p).value.failure.isNone,
      (App.list stalls.tree p.project.settings).toOption))
    (x := (Prepared.prepare stalls allAsDocument).outcome)
    (b := (true, some ["bad".toList, "web".toList])) (by decide +kernel)
  obtain ⟨hNone, hApps⟩ := Prod.mk.inj hRun
  exact ⟨p, hPrepared, Option.isNone_iff_eq_none.mp hNone, Outcome.eq_ok_of_toOption hApps⟩

theorem all_apps_settle_stalls : ∃ p apps after b,
    (Prepared.prepare stalls allAsDocument).outcome = .ok p ∧
      App.list stalls.tree p.project.settings = .ok apps ∧
      (p.project.analyzeAll (surroundings stalls p.project.settings)).value = (after, .ok b) ∧
      b.Sorts p.project stalls.tree apps ∧ after.reports.entries.map (·.app) = b.analyzed ∧
      ((analysis stalls allAsDocument).value.code = 0 ↔ apps ≠ [] ∧ b.failed = []) := by
  have hProper : stalls.tree.root.isProper = true := by decide +kernel
  have hReal : stalls.tree.IsReal := ⟨Files.Node.proper_of_isProper hProper, rfl, by decide⟩
  obtain ⟨p, hPrepared, hNone, -⟩ := exists_prepared_stalls
  have hEnds : (analysis stalls allAsDocument).value.failure = none := by
    rw [analysis_of_prepare hPrepared]
    exact hNone
  obtain ⟨hBatches, hRuns, -⟩ := all_apps_settle
  have hWord : App.Target.IsTheWord allAsDocument.target := by decide
  obtain ⟨apps, after, b, hApps, hBatch, hCode, -⟩ :=
    (hRuns stalls allAsDocument hReal rfl hWord hEnds).2 p hPrepared
  obtain ⟨base, hOf⟩ := Prepared.exists_of_prepare hPrepared
  obtain ⟨listed, hListed, hSorts, hStored, -⟩ := hBatches p.project after _ b hReal hBatch
  obtain rfl : apps = listed := Except.ok.inj (hApps.symm.trans hListed)
  exact ⟨p, apps, after, b, hPrepared, hApps, hBatch, hSorts, hStored hOf.fresh, hCode⟩

/-- A name of 251 bytes. -/
def wideName : Text :=
  List.replicate 62 (Char.ofNat 0x1f600) ++ "abc".toList

def winding : Project where
  settings := { Project.shop.settings with
    rootDir := .text ['.']
    appsDir := .text (wideName ++ (List.replicate 15 ("/../".toList ++ wideName)).flatten)
    srcDir := .text "src".toList
    knip := { Project.shop.settings.knip with enabled := .bool false }
    whitelist := {} }
  collector := { patterns := [], rules := [] }

def windingSurroundings : Surroundings where
  tree := {
    root := .directory [("tmp".toList, .directory [("sweep_root".toList, .directory [
      ("proj".toList, .directory [(wideName, .directory [
        ("web".toList, .directory [("src".toList, .directory [])])])])])])]
    cwd := ⟨['/'], ["tmp".toList, "sweep_root".toList, "proj".toList]⟩ }
  execute _ _ := .error .noCommand
  time := []

/-- A listed app without any pattern fails when its whole path is too long. -/
theorem listed_app_fails_without_patterns : ∃ apps b,
    App.list windingSurroundings.tree winding.settings = .ok apps ∧
      (winding.analyzeAll windingSurroundings).value.2 = .ok b ∧
      "web".toList ∈ apps ∧ "web".toList ∈ b.failed.map (·.1) ∧
      winding.settings.whitelist.patternsFor "web".toList = [] := by
  have hProper : windingSurroundings.tree.root.isProper = true := by decide +kernel
  have hReal : windingSurroundings.tree.IsReal :=
    ⟨Files.Node.proper_of_isProper hProper, rfl, by decide⟩
  obtain ⟨b, hBatch, hFailed⟩ := Outcome.exists_of_toOption_map
    (f := fun b : Project.Batch => b.failed.map (·.1))
    (x := (winding.analyzeAll windingSurroundings).value.2) (b := ["web".toList]) (by decide +kernel)
  obtain ⟨apps, hApps, hSorts⟩ := Project.exists_sorts hReal hBatch
  have hWeb : "web".toList ∈ b.failed.map (·.1) := by
    rw [hFailed]
    exact List.mem_singleton_self _
  exact ⟨apps, b, hApps, hBatch, hSorts.parts.subset (List.mem_append_right _ hWeb), hWeb, rfl⟩

end CommandLine

end AssetAudit
