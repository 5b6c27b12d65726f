import AssetAudit.Proofs.Project.Stages

/-!
# Analyzing all apps

A batch goes on from app to app as long as each comes to a report or to a fault of its own. Then every
app is told of once, in the order of the apps; any other error ends the batch for all of them.
-/
namespace AssetAudit.Project

variable {around : Surroundings}

def succeeds (p : Project) (around : Surroundings) (app : Text) : Bool :=
  (p.analyze around app none).outcome.isOk

/-- What a batch tells of apps: each is either analyzed or failed, in their order, and a failed one is
kept with the fault that its analysis ended with. -/
structure Batch.Tells (b : Batch) (p : Project) (around : Surroundings) (apps : List Text) :
    Prop where
  analyzed : b.analyzed = apps.filter (p.succeeds around)
  failed : b.failed.map (·.1) = apps.filter fun app => !p.succeeds around app
  faults : ∀ failure ∈ b.failed,
    (p.analyze around failure.1 none).outcome = .error (.session (.fault failure.2))

theorem Batch.tells_nil (p : Project) (around : Surroundings) : Batch.Tells {} p around [] :=
  ⟨rfl, rfl, List.forall_mem_nil _⟩

theorem Batch.Tells.report {b : Batch} {p : Project} {apps : List Text} (h : b.Tells p around apps)
    {app : Text} {report : Report} (hReport : (p.analyze around app none).outcome = .ok report) :
    Batch.Tells { b with analyzed := b.analyzed ++ [app] } p around (apps ++ [app]) := by
  have hSucceeds : p.succeeds around app = true := by rw [succeeds, hReport]; rfl
  exact {
    analyzed := by simp [h.analyzed, hSucceeds]
    failed := by simp [h.failed, hSucceeds]
    faults := h.faults }

theorem Batch.Tells.fault {b : Batch} {p : Project} {apps : List Text} (h : b.Tells p around apps)
    {app : Text} {fault : App.Fault}
    (hFault : (p.analyze around app none).outcome = .error (.session (.fault fault))) :
    Batch.Tells { b with failed := b.failed ++ [(app, fault)] } p around (apps ++ [app]) := by
  have hSucceeds : p.succeeds around app = false := by rw [succeeds, hFault]; rfl
  exact {
    analyzed := by simp [h.analyzed, hSucceeds]
    failed := by simp [h.failed, hSucceeds]
    faults := List.forall_mem_append.mpr ⟨h.faults, List.forall_mem_singleton.mpr hFault⟩ }

theorem Batch.Tells.once {b : Batch} {p : Project} {apps : List Text} (h : b.Tells p around apps)
    {app : Text} (hMem : app ∈ apps) : app ∈ b.analyzed ↔ app ∉ b.failed.map (·.1) := by
  rw [h.analyzed, h.failed, List.mem_filter, List.mem_filter, and_iff_right hMem]
  simp [hMem]

/-- Reports that are stored do not bear on later analyses. -/
theorem analyze_store (p : Project) (report : Report) : (p.store report).analyze = p.analyze :=
  rfl

theorem analyzeEach_report {p : Project} {app : Text} {report : Report}
    (h : (p.analyze around app none).outcome = .ok report) (b : Batch) (rest : List Text) :
    (analyzeEach around p b (app :: rest)).value =
      (analyzeEach around (p.store report) { b with analyzed := b.analyzed ++ [app] } rest).value := by
  have hRun : (ExceptT.run (p.analyze around app none)).value = .ok report := h
  rw [analyzeEach, Noted.value_bind, hRun]

theorem analyzeEach_fault {p : Project} {app : Text} {fault : App.Fault}
    (h : (p.analyze around app none).outcome = .error (.session (.fault fault))) (b : Batch)
    (rest : List Text) :
    (analyzeEach around p b (app :: rest)).value =
      (analyzeEach around p { b with failed := b.failed ++ [(app, fault)] } rest).value := by
  have hRun : (ExceptT.run (p.analyze around app none)).value =
      .error (.session (.fault fault)) := h
  rw [analyzeEach, Noted.value_bind, hRun]
  rfl

theorem analyzeEach_error {p : Project} {app : Text} {e : Error}
    (h : (p.analyze around app none).outcome = .error e)
    (hOther : ∀ fault, e ≠ .session (.fault fault)) (b : Batch) (rest : List Text) :
    (analyzeEach around p b (app :: rest)).value = (p, .error e) := by
  have hRun : (ExceptT.run (p.analyze around app none)).value = .error e := h
  rw [analyzeEach, Noted.value_bind, hRun]
  split
  · rename_i hReport
    cases hReport
  · rename_i hFault
    cases hFault
    exact absurd rfl (hOther _)
  · rename_i hError
    cases hError
    rfl

/-- A batch comes to its end when every app that is left is contained, and then it tells of them after
those before. The project may have stored reports on the way. -/
theorem analyzeEach_tells {p q : Project} (hSame : q.analyze = p.analyze) {b : Batch}
    {before : List Text} (h : b.Tells p around before) {rest : List Text}
    (hContained : ∀ app ∈ rest, p.Contained around app none) :
    ∃ result, (analyzeEach around q b rest).value.2 = .ok result ∧
      result.Tells p around (before ++ rest) := by
  induction rest generalizing q b before with
  | nil => exact ⟨b, rfl, by rwa [List.append_nil]⟩
  | cons app rest ih =>
    obtain ⟨hApp, hRest⟩ := List.forall_mem_cons.mp hContained
    rw [List.append_cons]
    rcases (settles_iff_contained p around app none).mpr hApp with ⟨report, hReport⟩ | ⟨fault, hFault⟩
    · rw [analyzeEach_report (by rw [hSame]; exact hReport)]
      exact ih ((analyze_store q report).trans hSame) (h.report hReport) hRest
    · rw [analyzeEach_fault (by rw [hSame]; exact hFault)]
      exact ih hSame (h.fault hFault) hRest

theorem contained_of_analyzeEach {p q : Project} (hSame : q.analyze = p.analyze) {b result : Batch}
    {rest : List Text} (h : (analyzeEach around q b rest).value.2 = .ok result) :
    ∀ app ∈ rest, p.Contained around app none := by
  induction rest generalizing q b with
  | nil => exact List.forall_mem_nil _
  | cons app rest ih =>
    have hContained := settles_iff_contained p around app none
    rw [← hSame] at hContained
    cases hOutcome : (q.analyze around app none).outcome with
    | ok report =>
      rw [analyzeEach_report hOutcome] at h
      exact List.forall_mem_cons.mpr ⟨hContained.mp (.inl ⟨report, hOutcome⟩),
        ih ((analyze_store q report).trans hSame) h⟩
    | error e =>
      by_cases hFault : ∃ fault, e = .session (.fault fault)
      · obtain ⟨fault, rfl⟩ := hFault
        rw [analyzeEach_fault hOutcome] at h
        exact List.forall_mem_cons.mpr ⟨hContained.mp (.inr ⟨fault, hOutcome⟩), ih hSame h⟩
      · rw [analyzeEach_error hOutcome (fun fault hEq => hFault ⟨fault, hEq⟩)] at h
        cases h

theorem analyzeAll_of_list {p : Project} {apps : List Text}
    (h : App.list around.tree p.settings = .ok apps) :
    (p.analyzeAll around).value.2 = (analyzeEach around p {} apps).value.2 := by
  rw [analyzeAll, h]
  cases apps <;> rfl

/-- A batch over the apps of a project returns, with each app in exactly one of its lists, when and
only when the apps can be listed and every one of them is contained. -/
theorem batch_returns_iff (p : Project) (around : Surroundings) :
    (∃ apps b, App.list around.tree p.settings = .ok apps ∧
      (p.analyzeAll around).value.2 = .ok b ∧ b.Tells p around apps ∧
      ∀ app ∈ apps, app ∈ b.analyzed ↔ app ∉ b.failed.map (·.1)) ↔
      ∃ apps, App.list around.tree p.settings = .ok apps ∧
        ∀ app ∈ apps, p.Contained around app none := by
  constructor
  · rintro ⟨apps, b, hApps, hBatch, -⟩
    rw [analyzeAll_of_list hApps] at hBatch
    exact ⟨apps, hApps, contained_of_analyzeEach rfl hBatch⟩
  · rintro ⟨apps, hApps, hContained⟩
    obtain ⟨b, hBatch, hTells⟩ := analyzeEach_tells rfl (Batch.tells_nil p around) hContained
    rw [List.nil_append] at hTells
    exact ⟨apps, b, hApps, (analyzeAll_of_list hApps).trans hBatch, hTells,
      fun app hMem => hTells.once hMem⟩

/-- The shop with a second app, whose own whitelist has a count that the reader cannot hold. -/
def market : Project :=
  { shop with settings := { shop.settings with
      whitelist := { products := [("bazaar".toList, ["regex:a\x7b4294967295\x7d".toList])] } } }

def marketSurroundings : Surroundings :=
  { shopSurroundings with tree := {
      root := .directory [("apps".toList, .directory [
        ("bazaar".toList, .directory [("src".toList, .directory [])]),
        ("web".toList, .directory [("src".toList, .directory [])])])]
      cwd := ⟨['/'], []⟩ } }

def numberSurroundings : Surroundings where
  tree := shopTree
  execute _ _ := .ok (.finished { stdout := "\x7b\"dependencies\": 5\x7d".toList })
  time := []

/-- The second app of the market would be analyzed, but the first one ends the batch. So does a report
of the analyzer whose packages are a number. -/
theorem batches_end_early :
    App.list marketSurroundings.tree market.settings = .ok ["bazaar".toList, "web".toList] ∧
      market.succeeds marketSurroundings "web".toList = true ∧
      (market.analyzeAll marketSurroundings).value.2 =
        .error (.session (.pattern (.limit .repeatTooLarge))) ∧
      (shop.analyzeAll numberSurroundings).value.2 = .error (.run (.report .notIterable)) := by
  refine ⟨rfl, ?_, ?_, ?_⟩
  · decide +kernel
  · rfl
  · rfl

end AssetAudit.Project
