import AssetAudit.Proofs.App.Listing
import AssetAudit.Proofs.Project.Batch
import AssetAudit.Proofs.Project.Calls

/-!
# Which apps a batch fails

A listed app fails for the rejected patterns of its whitelist, and for nothing else unless its
directories are too long to be asked for. The reports of a batch are those of the analyzed apps, in
their order.
-/
namespace AssetAudit

def WhitelistSettings.rejectedFor (w : WhitelistSettings) (app : Text) : List Text :=
  Whitelist.placed .rejected ((w.patternsFor app).map Value.text)

theorem Whitelist.accountsFor_of_compile {entries : List Value} {c : Compiled}
    (h : compile entries = .ok c) : c.AccountsFor entries := by
  obtain ⟨readings, hReads, rfl⟩ := (compile_eq_ok_iff entries c).mp h
  exact Compiled.accountsFor_nil.foldl_take hReads

theorem App.Session.rejected_of_create {s : Settings} {cwd : FilePath} {app : Text}
    {session : App.Session} (h : create s cwd app none = .ok session) :
    session.matcher.compiled.rejected.map (·.pattern) = s.whitelist.rejectedFor app := by
  obtain ⟨c, hCompile, hMatcher⟩ := (Whitelist.Matcher.create_eq_ok_iff ..).mp (of_create h).matcher
  rw [hMatcher]
  exact (Whitelist.accountsFor_of_compile hCompile).rejected

namespace Project

def IsOverlong (p : Project) (tree : Files.Tree) (app : Text) : Prop :=
  ∃ session, App.Session.create p.settings tree.cwd app none = .ok session ∧ session.IsOverlong

variable {p : Project} {around : Surroundings}

section

variable {app : Text} {session : App.Session} {directory : FilePath}

theorem isOverlong_iff {tree : Files.Tree}
    (hCreate : App.Session.create p.settings tree.cwd app none = .ok session) :
    p.IsOverlong tree app ↔ session.IsOverlong := by
  constructor
  · rintro ⟨other, hOther, hLong⟩
    obtain rfl := Except.ok.inj (hOther.symm.trans hCreate)
    exact hLong
  · exact fun hLong => ⟨session, hCreate, hLong⟩

variable (hReal : around.tree.IsReal)
  (hDirectory : App.appsDirectory p.settings around.tree.cwd = .ok directory)
  (hListed : FilePath.isPart app = true ∧ '/' ∉ app ∧
    App.IsOffered around.tree p.settings directory app)
  (hCreate : App.Session.create p.settings around.tree.cwd app none = .ok session)

include hReal hDirectory hListed hCreate

theorem isSome_fault?_iff : (session.fault? around.tree).isSome = true ↔
    p.settings.whitelist.rejectedFor app ≠ [] ∨ p.IsOverlong around.tree app := by
  obtain ⟨hPart, hSlash, hOffered⟩ := hListed
  obtain ⟨hLong, hShort⟩ :=
    App.Session.fault?_of_isOffered hReal hDirectory hPart hSlash hOffered hCreate
  rw [isOverlong_iff hCreate]
  by_cases hOverlong : session.IsOverlong
  · obtain ⟨reason, hFault⟩ := hLong hOverlong
    rw [hFault]
    exact iff_of_true rfl (.inr hOverlong)
  · rw [hShort hOverlong, ← App.Session.rejected_of_create hCreate, or_iff_left hOverlong]
    cases session.matcher.compiled.rejected with
    | nil => simp
    | cons r rest => simp

/-- The message of a fault names a path that is too long or, in the order of the whitelist, the
rejected patterns. -/
theorem message_of_fault? {fault : App.Fault} (h : session.fault? around.tree = some fault) :
    (p.IsOverlong around.tree app → ∃ directory reason, fault.message =
      "Invalid path '".toList ++ directory ++ "': ".toList ++ reason) ∧
    (¬p.IsOverlong around.tree app → ∃ rejected : List Whitelist.Rejected, fault.message =
        "Invalid whitelist pattern(s) for '".toList ++ app ++ "': ".toList ++
          Text.join "; ".toList (rejected.map App.rejectedText) ∧
      rejected.map (·.pattern) = p.settings.whitelist.rejectedFor app) := by
  obtain ⟨hPart, hSlash, hOffered⟩ := hListed
  obtain ⟨hLong, hShort⟩ :=
    App.Session.fault?_of_isOffered hReal hDirectory hPart hSlash hOffered hCreate
  rw [isOverlong_iff hCreate]
  constructor
  · intro hOverlong
    obtain ⟨reason, hFault⟩ := hLong hOverlong
    obtain rfl := Option.some.inj (h.symm.trans hFault)
    exact ⟨session.directory.text, reason, rfl⟩
  · intro hNot
    have hFault := h.symm.trans (hShort hNot)
    split at hFault
    · cases hFault
    · obtain rfl := Option.some.inj hFault
      exact ⟨_, rfl, App.Session.rejected_of_create hCreate⟩

end

structure Batch.Sorts (b : Batch) (p : Project) (tree : Files.Tree) (apps : List Text) : Prop where
  parts : (b.analyzed ++ b.failed.map (·.1)).Perm apps
  once : (b.analyzed ++ b.failed.map (·.1)).Nodup
  analyzed : Text.IsSorted b.analyzed
  failed : Text.IsSorted (b.failed.map (·.1))
  fails : ∀ app ∈ apps, app ∈ b.failed.map (·.1) ↔
    p.settings.whitelist.rejectedFor app ≠ [] ∨ p.IsOverlong tree app
  told : ∀ failure ∈ b.failed, ¬p.IsOverlong tree failure.1 →
    ∃ rejected : List Whitelist.Rejected, failure.2.message =
        "Invalid whitelist pattern(s) for '".toList ++ failure.1 ++ "': ".toList ++
          Text.join "; ".toList (rejected.map App.rejectedText) ∧
      rejected.map (·.pattern) = p.settings.whitelist.rejectedFor failure.1
  tooLong : ∀ failure ∈ b.failed, p.IsOverlong tree failure.1 → ∃ directory reason,
    failure.2.message = "Invalid path '".toList ++ directory ++ "': ".toList ++ reason

theorem Batch.Sorts.succeeded_iff {b : Batch} {tree : Files.Tree} {apps : List Text}
    (h : b.Sorts p tree apps) : b.succeeded = true ↔ apps ≠ [] ∧ b.failed = [] := by
  have hParts := h.parts
  unfold Batch.succeeded
  cases hFailed : b.failed with
  | cons failure rest => exact iff_of_false (by simp) fun hBoth => nomatch hBoth.2
  | nil =>
    rw [hFailed, List.map_nil, List.append_nil] at hParts
    rw [List.isEmpty_nil, Bool.and_true, and_iff_left rfl]
    cases hAnalyzed : b.analyzed with
    | nil =>
      rw [hAnalyzed] at hParts
      rw [List.nil_perm.mp hParts]
      exact iff_of_false nofun fun hSome => hSome rfl
    | cons app rest =>
      refine iff_of_true rfl ?_
      rintro rfl
      rw [hAnalyzed] at hParts
      cases List.perm_nil.mp hParts

theorem Batch.Sorts.isEmpty_eq_false {b : Batch} {tree : Files.Tree} {apps : List Text}
    (h : b.Sorts p tree apps) (hSome : apps ≠ []) :
    (b.analyzed.isEmpty && b.failed.isEmpty) = false := by
  rw [Bool.eq_false_iff]
  intro hNone
  obtain ⟨hAnalyzed, hFailed⟩ := (Bool.and_eq_true _ _).mp hNone
  have hParts := h.parts
  rw [List.isEmpty_iff.mp hAnalyzed, List.isEmpty_iff.mp hFailed] at hParts
  exact hSome (List.nil_perm.mp hParts)

theorem succeeds_eq {app : Text} {session : App.Session} (hContained : p.Contained around app none)
    (hCreate : App.Session.create p.settings around.tree.cwd app none = .ok session) :
    p.succeeds around app = (session.fault? around.tree).isNone := by
  unfold succeeds
  cases hFault : session.fault? around.tree with
  | none =>
    obtain ⟨report, hReport⟩ := (exists_analyze_iff p around app none).mpr
      ⟨session, hCreate, hFault, hContained.stages session hCreate hFault⟩
    rw [hReport]
    rfl
  | some fault =>
    rw [(analyze_eq_fault_iff p around app none fault).mpr ⟨session, hCreate, hFault⟩]
    rfl

/-- Whatever a batch comes to, it has sorted the listed apps into its parts. -/
theorem exists_sorts (hReal : around.tree.IsReal) {b : Batch}
    (h : (p.analyzeAll around).value.2 = .ok b) :
    ∃ apps, App.list around.tree p.settings = .ok apps ∧ b.Sorts p around.tree apps := by
  cases hApps : App.list around.tree p.settings with
  | error e =>
    rw [analyzeAll, hApps] at h
    cases h
  | ok apps =>
    rw [analyzeAll_of_list hApps] at h
    have hContained := contained_of_analyzeEach rfl h
    obtain ⟨result, hResult, hTells⟩ := analyzeEach_tells rfl (Batch.tells_nil p around) hContained
    obtain rfl : b = result := Except.ok.inj (h.symm.trans hResult)
    rw [List.nil_append] at hTells
    obtain ⟨hSorted, hDistinct, directory, hDirectory, hListed⟩ := App.list_spec hReal hApps
    have hSession : ∀ app ∈ apps, ∃ session,
        App.Session.create p.settings around.tree.cwd app none = .ok session := fun app hMem =>
      (App.Session.exists_create_iff ..).mpr ⟨(hContained app hMem).paths, (hContained app hMem).limits⟩
    have hParts : (b.analyzed ++ b.failed.map (·.1)).Perm apps := by
      rw [hTells.analyzed, hTells.failed]
      exact List.filter_append_perm _ apps
    have hFaults : ∀ failure ∈ b.failed, ∃ session, App.Session.create p.settings
        around.tree.cwd failure.1 none = .ok session ∧
          session.fault? around.tree = some failure.2 ∧ failure.1 ∈ apps := by
      intro failure hMem
      obtain ⟨session, hCreate, hFault⟩ :=
        (analyze_eq_fault_iff p around _ none _).mp (hTells.faults failure hMem)
      exact ⟨session, hCreate, hFault,
        hParts.subset (List.mem_append_right _ (List.mem_map_of_mem hMem))⟩
    refine ⟨apps, rfl, {
      parts := hParts
      once := hParts.nodup_iff.mpr hDistinct
      analyzed := hTells.analyzed ▸ hSorted.sublist List.filter_sublist
      failed := hTells.failed ▸ hSorted.sublist List.filter_sublist
      fails := ?_
      told := ?_
      tooLong := ?_ }⟩
    · intro app hMem
      obtain ⟨session, hCreate⟩ := hSession app hMem
      rw [← isSome_fault?_iff hReal hDirectory (hListed app hMem) hCreate, hTells.failed,
        List.mem_filter, succeeds_eq (hContained app hMem) hCreate]
      simp [hMem]
    · intro failure hMem
      obtain ⟨session, hCreate, hFault, hFailed⟩ := hFaults failure hMem
      exact (message_of_fault? hReal hDirectory (hListed _ hFailed) hCreate hFault).2
    · intro failure hMem
      obtain ⟨session, hCreate, hFault, hFailed⟩ := hFaults failure hMem
      exact (message_of_fault? hReal hDirectory (hListed _ hFailed) hCreate hFault).1

theorem not_isOverlong (hReal : around.tree.IsReal) {apps : List Text}
    (hApps : App.list around.tree p.settings = .ok apps) {root : FilePath}
    (hRoot : App.givenRoot p.settings around.tree.cwd = .ok root)
    (hAbsolute : root.isAbsolute = true) : ∀ app ∈ apps, ¬p.IsOverlong around.tree app := by
  rintro app hMem ⟨session, hCreate, hLong⟩
  obtain ⟨-, -, directory, hDirectory, hListed⟩ := App.list_spec hReal hApps
  obtain ⟨hPart, hSlash, hOffered⟩ := hListed app hMem
  exact App.Session.not_isOverlong_of_isOffered hRoot hAbsolute hDirectory hPart hSlash hOffered
    hCreate hLong

/-- The reports that a batch stores are those of the analyzed apps, in their order. -/
theorem map_app_analyzeEach {q r : Project} {b result : Batch} {rest : List Text}
    (hStored : q.reports.entries.map (·.app) = b.analyzed) (hOnce : (b.analyzed ++ rest).Nodup)
    (h : (analyzeEach around q b rest).value = (r, .ok result)) :
    r.reports.entries.map (·.app) = result.analyzed := by
  -- On the apps that are left. That no app comes twice is needed for the new report to go to the end.
  induction rest generalizing q b with
  | nil =>
    cases h
    exact hStored
  | cons app rest ih =>
    cases hOutcome : (q.analyze around app none).outcome with
    | ok report =>
      rw [analyzeEach_report hOutcome] at h
      rw [List.append_cons] at hOnce
      refine ih ?_ hOnce h
      change (Reports.put report q.reports.entries).map (·.app) = _
      obtain ⟨session, -, hApp, -⟩ := exists_session_of_analyze hOutcome
      have hNew : report.app ∉ q.reports.entries.map (·.app) := by
        rw [hApp, hStored]
        have hFresh := (List.nodup_append.mp (List.nodup_append.mp hOnce).1).2.2
        intro hMem
        exact hFresh app hMem app (List.mem_singleton_self app) rfl
      rw [Reports.map_app_put, if_neg hNew, hStored, hApp]
    | error e =>
      by_cases hFault : ∃ fault, e = .session (.fault fault)
      · obtain ⟨fault, rfl⟩ := hFault
        rw [analyzeEach_fault hOutcome] at h
        refine ih (b := { b with failed := b.failed ++ [(app, fault)] }) hStored ?_ h
        exact hOnce.sublist (List.Sublist.append_left (List.sublist_cons_self app rest) _)
      · rw [analyzeEach_error hOutcome (fun fault hEq => hFault ⟨fault, hEq⟩)] at h
        cases h

theorem map_app_analyzeAll (hReal : around.tree.IsReal) (hFresh : p.reports = {}) {r : Project}
    {b : Batch} (h : (p.analyzeAll around).value = (r, .ok b)) :
    r.reports.entries.map (·.app) = b.analyzed := by
  cases hApps : App.list around.tree p.settings with
  | error e =>
    rw [analyzeAll, hApps] at h
    cases h
  | ok apps =>
    have hEach : (analyzeEach around p {} apps).value = (r, .ok b) := by
      rw [← h, analyzeAll, hApps]
      cases apps <;> rfl
    obtain ⟨-, hDistinct, -⟩ := App.list_spec hReal hApps
    refine map_app_analyzeEach ?_ ?_ hEach
    · rw [hFresh]
      rfl
    · rw [List.nil_append]
      exact hDistinct

end Project

end AssetAudit
