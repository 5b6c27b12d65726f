import AssetAudit.Proofs.Project.Analysis

/-!
# Calls one after another

A project may be asked for the analysis of apps again and again. What a call gives depends on the
settings and its own app alone: neither the calls before it nor the patterns of other apps bear on
it. Of every app the project keeps the last report.
-/
namespace AssetAudit

namespace Reports

theorem map_app_put (report : Report) (entries : List Report) :
    (put report entries).map (·.app) =
      if report.app ∈ entries.map (·.app) then entries.map (·.app)
      else entries.map (·.app) ++ [report.app] := by
  induction entries with
  | nil => rfl
  | cons r rest ih =>
    unfold put
    by_cases hApp : r.app = report.app
    · simp [hApp]
    · have hOther : ¬report.app = r.app := fun h => hApp h.symm
      rw [if_neg hApp, List.map_cons, List.map_cons, ih]
      by_cases hMem : report.app ∈ rest.map (·.app)
      · rw [if_pos hMem, if_pos (List.mem_cons_of_mem _ hMem)]
      · rw [if_neg hMem, if_neg (by simpa [hOther] using hMem)]
        rfl

theorem nodup_store {reports : Reports} (h : (reports.entries.map (·.app)).Nodup)
    (report : Report) : ((reports.store report).entries.map (·.app)).Nodup := by
  change ((put report reports.entries).map (·.app)).Nodup
  rw [map_app_put]
  split
  · exact h
  · rename_i hNew
    rw [List.nodup_append]
    refine ⟨h, by simp, ?_⟩
    intro app hOld other hOther hEq
    obtain rfl := List.mem_singleton.mp hOther
    exact hNew (hEq ▸ hOld)

/-- A stored report takes the place of the earlier one of its app, and of no other. -/
theorem get?_store (reports : Reports) (report : Report) (app : Text) :
    (reports.store report).get? app =
      if report.app = app then some report else reports.get? app := by
  unfold get? store
  generalize reports.entries = entries
  induction entries with
  | nil =>
    by_cases hApp : report.app = app
    · simp [put, hApp]
    · simp [put, hApp]
  | cons r rest ih =>
    dsimp only at ih ⊢
    unfold put
    by_cases hSame : r.app = report.app
    · rw [if_pos hSame, List.find?_cons, List.find?_cons, hSame]
      by_cases hApp : report.app = app
      · simp [hApp]
      · rw [beq_eq_false_iff_ne.mpr hApp, if_neg hApp]
    · rw [if_neg hSame, List.find?_cons, List.find?_cons, ih]
      by_cases hApp : r.app = app
      · have hOther : ¬report.app = app := fun h => hSame (hApp.trans h.symm)
        simp [hApp, hOther]
      · rw [beq_eq_false_iff_ne.mpr hApp]

end Reports

theorem App.Session.create_of_patternsFor {s : Settings} {w : WhitelistSettings} {app : Text}
    (h : w.patternsFor app = s.whitelist.patternsFor app) (cwd : FilePath)
    (directory : Option FilePath) :
    create { s with whitelist := w } cwd app directory = create s cwd app directory := by
  unfold create
  rw [h]
  rfl

namespace Project

/-- What stays as it is while calls are made: the tree, and how a command ends for an app. -/
structure Conditions where
  tree : Files.Tree
  execute : Text → Analyzer.Executor

structure Call where
  app : Text
  directory : Option FilePath := none
  time : Text

def answer (p : Project) (k : Conditions) (c : Call) : Attempt Error Report :=
  p.analyze { tree := k.tree, execute := k.execute c.app, time := c.time } c.app c.directory

def call (p : Project) (k : Conditions) (c : Call) : Noted (Except Error Report × Project) := do
  match ← (p.answer k c).run with
  | .ok report => return (.ok report, p.store report)
  | .error e => return (.error e, p)

def run (p : Project) (k : Conditions) :
    List Call → Noted (List (Except Error Report) × Project)
  | [] => pure ([], p)
  | c :: rest => do
    let (first, p) ← p.call k c
    let (others, p) ← p.run k rest
    return (first :: others, p)

def lastReport (app : Text) (calls : List Call) (answers : List (Except Error Report)) :
    Option Report :=
  (calls.zip answers).reverse.findSome? fun made =>
    if made.1.app = app then made.2.toOption else none

theorem app_of_answer {p : Project} {k : Conditions} {c : Call} {report : Report}
    (h : (p.answer k c).outcome = .ok report) : report.app = c.app := by
  obtain ⟨session, -, h⟩ := (Attempt.bind_eq_ok_iff _ _ _).mp h
  obtain ⟨⟨found, status, m⟩, -, h⟩ := (Attempt.bind_eq_ok_iff _ _ _).mp h
  obtain ⟨assets, -, h⟩ := (Attempt.bind_eq_ok_iff _ _ _).mp h
  obtain ⟨paths, -, h⟩ := (Attempt.bind_eq_ok_iff _ _ _).mp h
  obtain ⟨sorted, -, h⟩ := (Attempt.bind_eq_ok_iff _ _ _).mp h
  cases h
  rfl

theorem outcome_answer_time (p : Project) (k : Conditions) (c : Call) (time : Text) :
    (p.answer k c).outcome =
      (p.answer k { c with time }).outcome.map fun report => { report with time := c.time } := by
  unfold answer analyze
  refine Attempt.outcome_bind_map _ _ fun session => ?_
  refine Attempt.outcome_bind_map _ _ fun found => ?_
  refine Attempt.outcome_bind_map _ _ fun assets => ?_
  refine Attempt.outcome_bind_map _ _ fun paths => ?_
  refine Attempt.outcome_bind_map _ _ fun sorted => ?_
  rfl

theorem ofSettings_eq_ok_iff (s : Settings) (p : Project) :
    ofSettings s = .ok p ↔
      ∃ collector, Files.Collector.create s.excludeDirs = .ok collector ∧
        p = { settings := s, collector } := by
  unfold ofSettings
  rw [Outcome.map_eq_ok_iff]
  constructor
  · rintro ⟨collector, hCollector, rfl⟩
    exact ⟨collector, (Outcome.mapError_eq_ok_iff _ _ _).mp hCollector, rfl⟩
  · rintro ⟨collector, hCollector, rfl⟩
    exact ⟨collector, (Outcome.mapError_eq_ok_iff _ _ _).mpr hCollector, rfl⟩

theorem answer_of_ownPatterns {p : Project} {w : WhitelistSettings} {c : Call}
    (hShared : w.patterns = p.settings.whitelist.patterns)
    (hOwn : w.ownPatterns c.app = p.settings.whitelist.ownPatterns c.app) (k : Conditions) :
    Project.answer { p with settings := { p.settings with whitelist := w } } k c =
      p.answer k c := by
  have hPatterns : w.patternsFor c.app = p.settings.whitelist.patternsFor c.app :=
    congrArg₂ (· ++ ·) hShared hOwn
  have hCreate := App.Session.create_of_patternsFor hPatterns k.tree.cwd c.directory
  unfold answer analyze session
  dsimp only
  rw [hCreate]
  rfl

def keep (p : Project) : Except Error Report → Project
  | .ok report => p.store report
  | .error _ => p

theorem call_eq (p : Project) (k : Conditions) (c : Call) :
    p.call k c = ⟨((p.answer k c).outcome, p.keep (p.answer k c).outcome),
      (p.answer k c).notices⟩ := by
  unfold call Attempt.outcome Attempt.notices
  generalize (p.answer k c).run = made
  obtain ⟨outcome, notices⟩ := made
  cases outcome with
  | ok report => simp [bind, Noted.bind, pure, keep]
  | error e => simp [bind, Noted.bind, pure, keep]

theorem answer_keep (p : Project) (outcome : Except Error Report) :
    (p.keep outcome).answer = p.answer := by
  cases outcome with
  | ok report => rfl
  | error e => rfl

theorem run_cons (p : Project) (k : Conditions) (c : Call) (rest : List Call) :
    p.run k (c :: rest) =
      ⟨((p.answer k c).outcome :: ((p.keep (p.answer k c).outcome).run k rest).value.1,
          ((p.keep (p.answer k c).outcome).run k rest).value.2),
        (p.answer k c).notices ++ ((p.keep (p.answer k c).outcome).run k rest).notices⟩ := by
  rw [run, call_eq]
  simp [bind, Noted.bind, pure]

/-- A run gives what its calls give one by one on the project that it starts from. -/
theorem run_answers {p q : Project} (h : q.answer = p.answer) (k : Conditions)
    (calls : List Call) :
    (q.run k calls).value.1 = calls.map (fun c => (p.answer k c).outcome) ∧
      (q.run k calls).notices = calls.flatMap fun c => (p.answer k c).notices := by
  induction calls generalizing q with
  | nil => exact ⟨rfl, rfl⟩
  | cons c rest ih =>
    obtain ⟨hAnswers, hNotices⟩ := ih ((answer_keep q (q.answer k c).outcome).trans h)
    rw [run_cons, List.map_cons, List.flatMap_cons, ← hAnswers, ← hNotices, ← h]
    exact ⟨rfl, rfl⟩

theorem get?_keep (p q : Project) (k : Conditions) (c : Call) (app : Text) :
    (q.keep (p.answer k c).outcome).reports.get? app =
      (if c.app = app then (p.answer k c).outcome.toOption else none).or
        (q.reports.get? app) := by
  cases hAnswer : (p.answer k c).outcome with
  | ok report =>
    have hApp : report.app = c.app := app_of_answer hAnswer
    change (q.reports.store report).get? app = _
    rw [Reports.get?_store, hApp]
    split
    · rfl
    · rfl
  | error e =>
    split
    · rfl
    · rfl

/-- Behind a run the report of an app is that of its last call that came to one, or what was there
before if no call did. -/
theorem get?_run {p q : Project} (h : q.answer = p.answer) (k : Conditions) (calls : List Call)
    (app : Text) :
    (q.run k calls).value.2.reports.get? app =
      (lastReport app calls (calls.map fun c => (p.answer k c).outcome)).or
        (q.reports.get? app) := by
  induction calls generalizing q with
  | nil => rfl
  | cons c rest ih =>
    rw [run_cons, h]
    dsimp only
    rw [ih ((answer_keep q _).trans h), get?_keep, ← Option.or_assoc]
    congr 1
    unfold lastReport
    rw [List.map_cons, List.zip_cons_cons, List.reverse_cons, List.findSome?_append]
    congr 1
    rw [List.findSome?_singleton]

theorem nodup_run {p : Project} (h : (p.reports.entries.map (·.app)).Nodup) (k : Conditions)
    (calls : List Call) : ((p.run k calls).value.2.reports.entries.map (·.app)).Nodup := by
  induction calls generalizing p with
  | nil => exact h
  | cons c rest ih =>
    rw [run_cons]
    apply ih
    cases (p.answer k c).outcome with
    | ok report => exact Reports.nodup_store h report
    | error e => exact h

/-- Calls on a project do not bear on each other. Each gives the report, up to its time, or the error
that it gives on a project made anew, and the same notices. A call with an error leaves the project
as it was. Behind the calls the project has one report for each app, that of its last call with a
report. Other patterns for other apps change nothing for an app. -/
theorem calls_keep_apart {s : Settings} {p : Project} (h : ofSettings s = .ok p) (k : Conditions)
    (calls : List Call) :
    (∀ time, (p.run k calls).value.1 = calls.map fun c =>
      (p.answer k { c with time }).outcome.map fun report => { report with time := c.time }) ∧
    (p.run k calls).notices = calls.flatMap (fun c => (p.answer k c).notices) ∧
    (∀ before c e, ((p.run k before).value.2.call k c).value.1 = .error e →
      ((p.run k before).value.2.call k c).value.2 = (p.run k before).value.2) ∧
    ((p.run k calls).value.2.reports.entries.map (·.app)).Nodup ∧
    (∀ app, (p.run k calls).value.2.reports.get? app =
      lastReport app calls (p.run k calls).value.1) ∧
    (∀ w app, w.patterns = s.whitelist.patterns →
      w.ownPatterns app = s.whitelist.ownPatterns app →
        ∃ q, ofSettings { s with whitelist := w } = .ok q ∧
          ∀ c, c.app = app → q.answer k c = p.answer k c) := by
  obtain ⟨collector, hCollector, rfl⟩ := (ofSettings_eq_ok_iff s p).mp h
  obtain ⟨hAnswers, hNotices⟩ := run_answers (p := { settings := s, collector }) rfl k calls
  refine ⟨?_, hNotices, ?_, ?_, ?_, ?_⟩
  · intro time
    rw [hAnswers]
    apply List.map_congr_left
    intro c _
    exact outcome_answer_time _ k c time
  · intro before c e hError
    rw [call_eq] at hError ⊢
    dsimp only at hError ⊢
    rw [hError]
    rfl
  · exact nodup_run (p := { settings := s, collector }) List.nodup_nil k calls
  · intro app
    rw [get?_run rfl, hAnswers]
    exact Option.or_none
  · intro w app hShared hOwn
    refine ⟨_, (ofSettings_eq_ok_iff _ _).mpr ⟨collector, hCollector, rfl⟩, ?_⟩
    rintro c rfl
    exact answer_of_ownPatterns (p := { settings := s, collector }) hShared hOwn k

def shopConditions : Conditions where
  tree := shopTree
  execute _ := shopSurroundings.execute

def visits : List Call :=
  [{ app := "web".toList, time := ['1'] }, { app := "attic".toList, time := ['2'] },
    { app := "web".toList, time := ['3'] }]

/-- An app that is not there is asked for between two calls for the shop's own, and more patterns are
given for it. -/
theorem calls_keep_apart_shop :
    let w : WhitelistSettings :=
      { shop.settings.whitelist with
        products := ("attic".toList, ["a.png".toList]) :: shop.settings.whitelist.products }
    ofSettings shop.settings = .ok shop ∧
    (shop.run shopConditions visits).value.1.map (·.isOk) = [true, false, true] ∧
    ((shop.run shopConditions visits).value.2.reports.get? "web".toList).map (·.time) =
      some ['3'] ∧
    (∀ time, (shop.run shopConditions visits).value.1 = visits.map fun c =>
      (shop.answer shopConditions { c with time }).outcome.map fun report =>
        { report with time := c.time }) ∧
    ∃ q, ofSettings { shop.settings with whitelist := w } = .ok q ∧
      ∀ c, c.app = "web".toList → q.answer shopConditions c = shop.answer shopConditions c := by
  intro w
  have hShop : ofSettings shop.settings = .ok shop := rfl
  obtain ⟨hAnswers, -, -, -, -, hOther⟩ := calls_keep_apart hShop shopConditions visits
  exact ⟨hShop, by decide +kernel, by decide +kernel, hAnswers,
    hOther w "web".toList rfl (by decide +kernel)⟩

end Project

end AssetAudit
