import AssetAudit.CommandLine.Run
import AssetAudit.Proofs.App.Target
import AssetAudit.Proofs.Project.Analysis

/-!
# What a run analyzes

A run that is prepared goes on with all apps or with the one that its target names, and which of both
is decided by the target alone. A directory that is selected and that is not called by the word for
all apps is the one that is analyzed.
-/
namespace AssetAudit

theorem App.Session.directory_of_create {s : Settings} {cwd : FilePath} {app : Text} {d : FilePath}
    {session : App.Session} (h : create s cwd app (some d) = .ok session) :
    session.directory = d.absolute cwd :=
  (Except.ok.inj (of_create h).place).symm

theorem Project.directory_of_analyze {p : Project} {around : Surroundings} {app : Text}
    {d : FilePath} {report : Report} (hAbsolute : d.isAbsolute = true)
    (h : (p.analyze around app (some d)).outcome = .ok report) : report.directory = d := by
  obtain ⟨session, hCreate, -, hDirectory⟩ := exists_session_of_analyze h
  rw [hDirectory, App.Session.directory_of_create hCreate, FilePath.absolute, FilePath.join,
    if_pos hAbsolute]

namespace CommandLine

variable {host : Host} {o : Options} {p : Prepared}

namespace Prepared

structure Of (p : Prepared) (host : Host) (o : Options) (base : FilePath) : Prop where
  start : Prepared.base host o = .ok base
  target : App.Target.resolve host.tree base o.target = .ok p.target
  fresh : p.project.reports = {}

theorem exists_of_prepare (h : (prepare host o).outcome = .ok p) : ∃ base, p.Of host o base := by
  obtain ⟨base, hBase, h⟩ := (Attempt.bind_eq_ok_iff _ _ _).mp h
  obtain ⟨environment, -, h⟩ := (Attempt.bind_eq_ok_iff _ _ _).mp h
  obtain ⟨target, hTarget, h⟩ := (Attempt.bind_eq_ok_iff _ _ _).mp h
  obtain ⟨settings, -, h⟩ := (Attempt.bind_eq_ok_iff _ _ _).mp h
  obtain ⟨logging, -, h⟩ := (Attempt.bind_eq_ok_iff _ _ _).mp h
  obtain ⟨project, hProject, h⟩ := (Attempt.bind_eq_ok_iff _ _ _).mp h
  cases h
  rw [Attempt.outcome_ofExcept, Outcome.mapError_eq_ok_iff] at hTarget hProject
  obtain ⟨collector, -, rfl⟩ := (Outcome.map_eq_ok_iff _ _ _).mp hProject
  exact ⟨base, hBase, hTarget, rfl⟩

end Prepared

def goesOn (host : Host) (o : Options) (p : Prepared) : Noted Ending :=
  let around := surroundings host p.project.settings
  p.logging.pass host.tree
    (if p.target.isAll then analyzeAll around p.project o.json
      else analyzeOne around p.project p.target o.json)

theorem analysis_of_prepare (h : (Prepared.prepare host o).outcome = .ok p) :
    (analysis host o).value = (goesOn host o p).value := by
  have hRun : (ExceptT.run (Prepared.prepare host o)).value = .ok p := h
  unfold analysis
  rw [Noted.value_bind, hRun]
  rfl

theorem analysis_of_stop {stop : Stop} (h : (Prepared.prepare host o).outcome = .error stop) :
    (analysis host o).value = stop.ending host.tree := by
  have hRun : (ExceptT.run (Prepared.prepare host o)).value = .error stop := h
  unfold analysis
  rw [Noted.value_bind, hRun]
  rfl

/-- A run analyzes a directory when it goes on with one app and all that it makes is a report of this
directory. -/
structure Analyzes (host : Host) (o : Options) (p : Prepared) (d : FilePath) : Prop where
  one : (analysis host o).value = (p.logging.pass host.tree
    (analyzeOne (surroundings host p.project.settings) p.project p.target o.json)).value
  report : ∀ report, (p.project.analyze (surroundings host p.project.settings) p.target.name
    p.target.directory).outcome = .ok report → report.directory = d

theorem analyzes_of_directory {d : FilePath} (h : (Prepared.prepare host o).outcome = .ok p)
    (hDirectory : p.target.directory = some d) (hAbsolute : d.isAbsolute = true)
    (hOne : p.target.isAll = false) : Analyzes host o p d where
  one := by
    rw [analysis_of_prepare h, goesOn, hOne]
    rfl
  report report hReport := by
    rw [hDirectory] at hReport
    exact Project.directory_of_analyze hAbsolute hReport

open App.Target in
/-- Only the word for all apps selects all of them, as long as the directory that is selected is not
called so. Any other target that means a directory selects it, and a run analyzes it. -/
theorem target_selects {cwd : FilePath} {given : Option Text} {t : App.Target}
    (hSpelled : (cwd.absolute host.tree.cwd).IsSpelled)
    (hAbsolute : (cwd.absolute host.tree.cwd).isAbsolute = true)
    (h : App.Target.resolve host.tree cwd given = .ok t) :
    let base := cwd.absolute host.tree.cwd
    ((t.isAll = true ↔ IsTheWord given) ↔ ¬t.IsCalledAll) ∧
      (¬IsTheWord given → IsHere given ∨ host.tree.isDirectory (meant base given) = .ok true →
        t = ofDirectory (meant base given) ∧
          (¬t.IsCalledAll → ∀ o p, Prepared.base host o = .ok cwd → o.target = given →
            (Prepared.prepare host o).outcome = .ok p →
              p.target = t ∧ Analyzes host o p (meant base given))) ∧
      (GoesStraight host.tree (asked base given) →
        host.tree.isDirectory (asked base given) = .ok true →
          host.tree.isDirectory (meant base given) = .ok true ∧
            host.tree.locate (meant base given) = host.tree.locate (asked base given)) := by
  intro base
  have hAll := isAll_iff hSpelled hAbsolute h
  refine ⟨?_, ?_, locate_meant hSpelled hAbsolute⟩
  · constructor
    · intro hOnly hCalled
      have hWord : IsTheWord given := hOnly.mp (hAll.mpr (.inr hCalled))
      exact not_isCalledAll_of_isTheWord hSpelled hAbsolute h hWord hCalled
    · intro hNot
      constructor
      · intro hSelected
        rcases hAll.mp hSelected with hWord | hCalled
        · exact hWord
        · exact absurd hCalled hNot
      · intro hWord
        exact hAll.mpr (.inl hWord)
  · intro hOther hFound
    have ht := resolve_directory hSpelled hAbsolute h hOther hFound
    refine ⟨ht, ?_⟩
    intro hNot o p hBase hGiven hPrepared
    obtain ⟨start, hOf⟩ := Prepared.exists_of_prepare hPrepared
    obtain rfl : cwd = start := Except.ok.inj (hBase.symm.trans hOf.start)
    have hTarget : p.target = t := by
      have hResolve := hOf.target
      rw [hGiven, h] at hResolve
      exact (Except.ok.inj hResolve).symm
    have hDirectory : p.target.directory = some (meant base given) := by
      rw [hTarget, ht]
      rfl
    have hOne : p.target.isAll = false := by
      rw [hTarget, Bool.eq_false_iff]
      intro hSelected
      rcases hAll.mp hSelected with hWord | hCalled
      · exact hOther hWord
      · exact hNot hCalled
    exact ⟨hTarget, analyzes_of_directory hPrepared hDirectory
      (isAbsolute_meant hAbsolute) hOne⟩

def nest (name : Text) : Files.Tree where
  root := .directory [("home".toList, .directory [(name, .directory [])])]
  cwd := ⟨['/'], ["home".toList]⟩

def nestHost (name : Text) : Host where
  tree := nest name
  environment := []
  time := []

open App.Target in
theorem target_selects_web : ∃ p,
    (Prepared.prepare (nestHost "web".toList) { target := some "web".toList }).outcome = .ok p ∧
      p.target = ofDirectory ⟨['/'], ["home".toList, "web".toList]⟩ ∧
      (p.target.isAll = true ↔ IsTheWord (some "web".toList)) ∧
      Analyzes (nestHost "web".toList) { target := some "web".toList } p
        ⟨['/'], ["home".toList, "web".toList]⟩ := by
  obtain ⟨p, hPrepared, hTarget⟩ := Outcome.exists_of_toOption_map (f := Prepared.target)
    (x := (Prepared.prepare (nestHost "web".toList) { target := some "web".toList }).outcome)
    (b := ofDirectory ⟨['/'], ["home".toList, "web".toList]⟩) (by decide +kernel)
  have hSpelled : (FilePath.absolute ⟨['/'], ["home".toList]⟩
      (nestHost "web".toList).tree.cwd).IsSpelled := FilePath.isSpelled_ofText "/home".toList
  have hAbsolute : (FilePath.absolute ⟨['/'], ["home".toList]⟩
      (nestHost "web".toList).tree.cwd).isAbsolute = true := rfl
  have hResolve : App.Target.resolve (nestHost "web".toList).tree ⟨['/'], ["home".toList]⟩
      (some "web".toList) = .ok (ofDirectory ⟨['/'], ["home".toList, "web".toList]⟩) := rfl
  obtain ⟨hOnly, hSelects, -⟩ := target_selects hSpelled hAbsolute hResolve
  have hNot : ¬(ofDirectory ⟨['/'], ["home".toList, "web".toList]⟩).IsCalledAll := by
    rintro ⟨d, ⟨⟩, hName⟩
    exact absurd hName (by decide)
  have hOther : ¬IsTheWord (some "web".toList) := by decide
  obtain ⟨-, hRun⟩ := hSelects hOther (.inr rfl)
  obtain ⟨-, hAnalyzes⟩ := hRun hNot { target := some "web".toList } p rfl rfl hPrepared
  refine ⟨p, hPrepared, hTarget, ?_, hAnalyzes⟩
  rw [hTarget]
  exact hOnly.mpr hNot

open App.Target in
/-- A directory that is called by the word for all apps is taken for all of them, whether a path leads
to it or it is the one that the target is seen from. -/
theorem directory_called_all :
    (∃ t, App.Target.resolve (nest "all".toList) ⟨[], []⟩ (some "./all".toList) = .ok t ∧
      t.directory = some ⟨['/'], ["home".toList, "all".toList]⟩ ∧ t.isAll = true ∧
      ¬IsTheWord (some "./all".toList)) ∧
    ∃ t, App.Target.resolve (nest "ALL".toList) ⟨[], ["ALL".toList]⟩ none = .ok t ∧
      t.directory = some ⟨['/'], ["home".toList, "ALL".toList]⟩ ∧ t.isAll = true ∧
      ¬IsTheWord none := by
  refine ⟨⟨_, rfl, rfl, ?_, ?_⟩, ⟨_, rfl, rfl, ?_, ?_⟩⟩
  · decide
  · decide
  · decide
  · decide

end CommandLine

end AssetAudit
