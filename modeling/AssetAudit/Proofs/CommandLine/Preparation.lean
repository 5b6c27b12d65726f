import AssetAudit.Proofs.CommandLine.Analysis
import AssetAudit.Proofs.Settings.Faults

/-!
# Preparations that are told of

Before anything is analyzed, a run looks at its directories, reads the settings and checks what they
say about notices and about the directories to pass over. Here is what each of these needs to come to
its end or to a message.
-/
namespace AssetAudit

namespace Files.Collector

theorem exists_trimmedTexts_iff (items : List Value) : (∃ texts, trimmedTexts items = .ok texts) ↔
    ∀ item ∈ items, item.isTruthy = true → ∃ t, item = .text t := by
  induction items with
  | nil => exact iff_of_true ⟨[], rfl⟩ nofun
  | cons item rest ih =>
    rw [List.forall_mem_cons, ← ih]
    by_cases hText : ∃ t, item = .text t
    · rw [and_iff_right fun _ => hText]
      obtain ⟨t, rfl⟩ := hText
      exact Outcome.exists_map_iff _ _
    · have hItem : trimmedTexts (item :: rest) =
          if item.isTruthy then .error .notAText else trimmedTexts rest := by
        rw [trimmedTexts]
        exact fun t hEq => hText ⟨t, hEq⟩
      rw [hItem]
      split
      · rename_i hGiven
        exact iff_of_false nofun fun h => hText (h.1 hGiven)
      · rename_i hNone
        exact (and_iff_right fun hGiven => absurd hGiven hNone).symm

/-- The directories to pass over are not given, or they are given by texts that are patterns. -/
def Fits (exclude : Value) : Prop :=
  exclude = .null ∨ ∃ items, exclude.items? = some items ∧
    (∀ item ∈ items, item.isTruthy = true → ∃ t, item = .text t) ∧
    ∀ texts, trimmedTexts items = .ok texts → ∃ rules, Ignore.readAll texts = .ok rules

theorem create_of_items {exclude : Value} (hGiven : exclude ≠ .null) {items : List Value}
    (h : exclude.items? = some items) : create exclude = trimmedTexts items >>= fun patterns =>
      ((Ignore.readAll patterns).mapError .ignore).map fun rules => { patterns, rules } := by
  unfold create
  split
  · exact absurd rfl hGiven
  · rw [h]
    refine congrArg (trimmedTexts items >>= ·) (funext fun patterns => ?_)
    dsimp only
    cases Ignore.readAll patterns with
    | error e => rfl
    | ok rules => rfl

theorem create_of_no_items {exclude : Value} (hGiven : exclude ≠ .null) (h : exclude.items? = none) :
    create exclude = .error .notIterable := by
  unfold create
  split
  · exact absurd rfl hGiven
  · rw [h]
    rfl

theorem exists_create_iff (exclude : Value) : (∃ c, create exclude = .ok c) ↔ Fits exclude := by
  by_cases hNull : exclude = .null
  · rw [hNull]
    have hUsual : (create .null).toOption.isSome = true := by decide +kernel
    obtain ⟨c, hSome⟩ := Option.isSome_iff_exists.mp hUsual
    exact iff_of_true ⟨c, Outcome.eq_ok_of_toOption hSome⟩ (.inl rfl)
  · rw [Fits, or_iff_right hNull]
    cases hItems : exclude.items? with
    | none =>
      rw [create_of_no_items hNull hItems]
      exact iff_of_false nofun nofun
    | some items =>
      rw [create_of_items hNull hItems]
      simp only [Outcome.bind_eq_ok_iff, Outcome.map_eq_ok_iff, Outcome.mapError_eq_ok_iff,
        Option.some.injEq, exists_eq_left', ← exists_trimmedTexts_iff]
      constructor
      · rintro ⟨c, patterns, hTexts, rules, hRules, -⟩
        refine ⟨⟨patterns, hTexts⟩, fun texts hThese => ?_⟩
        obtain rfl := Except.ok.inj (hTexts.symm.trans hThese)
        exact ⟨rules, hRules⟩
      · rintro ⟨⟨patterns, hTexts⟩, hRules⟩
        obtain ⟨rules, hRead⟩ := hRules patterns hTexts
        exact ⟨_, patterns, hTexts, rules, hRead, rfl⟩

end Files.Collector

namespace CommandLine

namespace Logging

structure Fits (s : LoggingSettings) (quiet : Bool) : Prop where
  form : s.format.isTruthy = true → ∃ t, s.format = .text t ∧ namesField t = true
  level : quiet = false → ∃ t, s.level = .text t ∧
    ∃ named ∈ levelNames, named.1.toList = Unicode.upper t

theorem exists_formOf_iff (s : LoggingSettings) :
    (∃ form, formOf s = .ok form) ↔
      (s.format.isTruthy = true → ∃ t, s.format = .text t ∧ namesField t = true) := by
  unfold formOf
  cases s.format.isTruthy with
  | false => exact iff_of_true ⟨_, rfl⟩ nofun
  | true =>
    rw [forall_prop_of_true rfl, if_neg (by simp)]
    split
    · rename_i t hText
      rw [hText]
      split
      · rename_i hNames
        exact iff_of_true ⟨_, rfl⟩ ⟨t, rfl, hNames⟩
      · rename_i hNames
        refine iff_of_false nofun ?_
        rintro ⟨_, ⟨⟩, hOther⟩
        exact hNames hOther
    · rename_i hOther
      exact iff_of_false nofun fun ⟨t, hText, _⟩ => hOther t hText

theorem exists_leastOf_iff (s : LoggingSettings) (quiet : Bool) :
    (∃ least, leastOf s quiet = .ok least) ↔ (quiet = false → ∃ t, s.level = .text t ∧
      ∃ named ∈ levelNames, named.1.toList = Unicode.upper t) := by
  unfold leastOf
  cases quiet with
  | true => exact iff_of_true ⟨_, rfl⟩ nofun
  | false =>
    rw [forall_prop_of_true rfl, if_neg (by simp)]
    split
    · rename_i t hText
      rw [hText]
      dsimp only
      split
      · rename_i name least hFound
        have hNamed := List.find?_some hFound
        exact iff_of_true ⟨_, rfl⟩
          ⟨t, rfl, _, List.mem_of_find?_eq_some hFound, eq_of_beq hNamed⟩
      · rename_i hNone
        refine iff_of_false nofun ?_
        rintro ⟨_, ⟨⟩, named, hMem, hName⟩
        exact absurd (beq_iff_eq.mpr hName) (List.find?_eq_none.mp hNone named hMem)
    · exact iff_of_false nofun (by rintro ⟨t, hText, -⟩; simp_all)
    · rename_i hOther _
      exact iff_of_false nofun fun ⟨t, hText, _⟩ => hOther t hText

theorem exists_ofSettings_iff (s : LoggingSettings) (quiet : Bool) :
    (∃ l, ofSettings s quiet = .ok l) ↔ Fits s quiet := by
  constructor
  · rintro ⟨l, h⟩
    obtain ⟨form, hForm, h⟩ := (Outcome.bind_eq_ok_iff _ _ _).mp h
    obtain ⟨least, hLeast, -⟩ := (Outcome.bind_eq_ok_iff _ _ _).mp h
    exact ⟨(exists_formOf_iff s).mp ⟨form, hForm⟩, (exists_leastOf_iff s quiet).mp ⟨least, hLeast⟩⟩
  · rintro ⟨hText, hName⟩
    obtain ⟨form, hForm⟩ := (exists_formOf_iff s).mpr hText
    obtain ⟨least, hLeast⟩ := (exists_leastOf_iff s quiet).mpr hName
    exact ⟨_, (Outcome.bind_eq_ok_iff _ _ _).mpr
      ⟨form, hForm, (Outcome.bind_eq_ok_iff _ _ _).mpr ⟨least, hLeast, rfl⟩⟩⟩

end Logging

variable {host : Host} {o : Options}

def Stop.IsTold (stop : Stop) : Prop :=
  ∃ message, stop = .told (View.error message)

namespace Prepared

def start (host : Host) (o : Options) : FilePath :=
  ((o.directory.map FilePath.ofText).getD host.tree.cwd).absolute host.tree.cwd

structure Reaches (host : Host) (o : Options) (base : FilePath) (env : Settings.Environment)
    (target : App.Target) : Prop where
  begins : Prepared.base host o = .ok base
  knows : Prepared.environment host base = .ok env
  means : App.Target.resolve host.tree base o.target = .ok target

def request (target : App.Target) : Settings.Request :=
  { root := some target.root.text }

/-- What a run needs for everything to be told that is wrong before the analysis: its directories can be
looked at, a file of variables can be read and sets variables, the faults of its settings are told, and
what they say about notices and about the directories to pass over can be used. -/
structure Tells (host : Host) (o : Options) : Prop where
  start : ∃ found, host.tree.isDirectory (start host o) = .ok found
  definitions : ∀ base, Prepared.base host o = .ok base →
    host.tree.isFile (base.child definitionsName) = .ok true → ∃ document env,
      Settings.fileText host.tree (base.child definitionsName) = .ok document ∧
      host.environment.extend document = .ok env
  target : ∀ base, Prepared.base host o = .ok base →
    ∃ target, App.Target.resolve host.tree base o.target = .ok target
  settings : ∀ base env target, Reaches host o base env target →
    Settings.Told host.tree (request target) env
  use : ∀ base env target s, Reaches host o base env target →
    (Settings.load host.tree (pure Settings.standard) env (request target)).outcome = .ok s →
      Logging.Fits s.logging o.json ∧ Files.Collector.Fits s.excludeDirs

theorem exists_environment_iff (host : Host) (base : FilePath) :
    (∃ env, Prepared.environment host base = .ok env) ↔
      (host.tree.isFile (base.child definitionsName) = .ok true → ∃ document env,
        Settings.fileText host.tree (base.child definitionsName) = .ok document ∧
        host.environment.extend document = .ok env) := by
  unfold Prepared.environment
  dsimp only
  split
  · rename_i hFile
    rw [forall_prop_of_true hFile]
    split
    · rename_i document hText
      simp only [hText, Except.ok.injEq, Outcome.mapError_eq_ok_iff]
      constructor
      · rintro ⟨env, hEnv⟩
        exact ⟨document, env, rfl, hEnv⟩
      · rintro ⟨_, env, rfl, hEnv⟩
        exact ⟨env, hEnv⟩
    · rename_i e hText
      refine iff_of_false nofun ?_
      rintro ⟨document, -, hOk, -⟩
      rw [hText] at hOk
      cases hOk
  · rename_i hOther
    exact iff_of_true ⟨_, rfl⟩ fun hFile => absurd hFile hOther

theorem failed_of_environment {base : FilePath} {stop : Stop}
    (h : Prepared.environment host base = .error stop) : ∃ f, stop = .failed f := by
  unfold Prepared.environment at h
  dsimp only at h
  split at h
  · split at h
    · obtain ⟨fault, -, rfl⟩ := (Outcome.mapError_eq_error_iff _ _ _).mp h
      exact ⟨_, rfl⟩
    · cases h
      exact ⟨_, rfl⟩
  · cases h

theorem not_isTold_failed (f : Failure) : ¬(Stop.failed f).IsTold := by
  rintro ⟨message, hEq⟩
  cases hEq

theorem isTold_settingsStop_iff (e : Settings.Error) :
    (settingsStop e).IsTold ↔ e.isExplained = true := by
  unfold settingsStop Stop.IsTold
  split
  · rename_i hTold
    exact iff_of_true ⟨_, rfl⟩ hTold
  · rename_i hNot
    exact iff_of_false nofun hNot

theorem base_eq (host : Host) (o : Options) :
    Prepared.base host o = match host.tree.isDirectory (start host o) with
      | .error e => .error (.failed (.system e))
      | .ok false =>
        .error (.told (View.error ("Directory not found: ".toList ++ (start host o).text)))
      | .ok true => .ok (start host o) :=
  rfl

theorem base_told_iff (host : Host) (o : Options) :
    (∀ stop, Prepared.base host o = .error stop → stop.IsTold) ↔
      ∃ found, host.tree.isDirectory (start host o) = .ok found := by
  rw [base_eq]
  cases host.tree.isDirectory (start host o) with
  | error e => exact iff_of_false (fun h => nomatch h _ rfl) nofun
  | ok found =>
    refine iff_of_true ?_ ⟨found, rfl⟩
    cases found with
    | true => exact nofun
    | false =>
      rintro _ ⟨⟩
      exact ⟨_, rfl⟩

theorem prepare_eq_error_iff (host : Host) (o : Options) (stop : Stop) :
    (prepare host o).outcome = .error stop ↔ Prepared.base host o = .error stop ∨
      ∃ base, Prepared.base host o = .ok base ∧ (Prepared.environment host base = .error stop ∨
        ∃ env, Prepared.environment host base = .ok env ∧
          ((∃ e, App.Target.resolve host.tree base o.target = .error e ∧
            Stop.failed (.system e) = stop) ∨
          ∃ target, App.Target.resolve host.tree base o.target = .ok target ∧
            ((∃ e, (Settings.load host.tree (pure Settings.standard) env (request target)).outcome =
              .error e ∧ settingsStop e = stop) ∨
            ∃ s, (Settings.load host.tree (pure Settings.standard) env (request target)).outcome =
              .ok s ∧ ((∃ e, Logging.ofSettings s.logging o.json = .error e ∧
                Stop.failed (.logging e) = stop) ∨
              ∃ l, Logging.ofSettings s.logging o.json = .ok l ∧
                ∃ e, Project.ofSettings (withAnalyzer s o.analyzer) = .error e ∧
                  Stop.failed (.project e) = stop)))) := by
  have hLogging : ∀ s, (withAnalyzer s o.analyzer).logging = s.logging := by
    intro s
    unfold withAnalyzer
    split <;> rfl
  unfold prepare settings
  simp only [Attempt.bind_eq_error_iff, Attempt.outcome_ofExcept, Attempt.adapt_eq_error_iff,
    Attempt.adapt_eq_ok_iff, Outcome.mapError_eq_error_iff, Outcome.mapError_eq_ok_iff, hLogging,
    Attempt.outcome_pure, reduceCtorEq, and_false, exists_false, or_false]
  exact Iff.rfl

theorem exists_ofSettings_iff (s : Settings) (wanted : Bool) :
    (∃ p, Project.ofSettings (withAnalyzer s wanted) = .ok p) ↔ Files.Collector.Fits s.excludeDirs := by
  have hExclude : (withAnalyzer s wanted).excludeDirs = s.excludeDirs := by
    unfold withAnalyzer
    split <;> rfl
  rw [← Files.Collector.exists_create_iff, Project.ofSettings, Outcome.exists_map_iff, hExclude]
  simp only [Outcome.mapError_eq_ok_iff]

theorem told_or_failed {stop : Stop} (h : (prepare host o).outcome = .error stop) :
    stop.IsTold ∨ ∃ f, stop = .failed f := by
  rcases (prepare_eq_error_iff host o stop).mp h with hBase | ⟨base, -, hEnv | ⟨env, -,
    ⟨e, -, rfl⟩ | ⟨target, -, ⟨e, -, rfl⟩ | ⟨s, -, ⟨e, -, rfl⟩ | ⟨l, -, e, -, rfl⟩⟩⟩⟩⟩
  · rw [base_eq] at hBase
    split at hBase
    · cases hBase
      exact .inr ⟨_, rfl⟩
    · cases hBase
      exact .inl ⟨_, rfl⟩
    · cases hBase
  · exact .inr (failed_of_environment hEnv)
  · exact .inr ⟨_, rfl⟩
  · unfold settingsStop
    split
    · exact .inl ⟨_, rfl⟩
    · exact .inr ⟨_, rfl⟩
  · exact .inr ⟨_, rfl⟩
  · exact .inr ⟨_, rfl⟩

/-- A run is prepared, or it stops with a message, when it has what it needs. -/
theorem prepare_told_iff (host : Host) (o : Options) :
    (∀ stop, (prepare host o).outcome = .error stop → stop.IsTold) ↔ Tells host o := by
  simp only [prepare_eq_error_iff]
  constructor
  · intro h
    have hDefinitions : ∀ base, Prepared.base host o = .ok base →
        ∃ env, Prepared.environment host base = .ok env := by
      intro base hBase
      cases hEnv : Prepared.environment host base with
      | ok env => exact ⟨env, rfl⟩
      | error stop =>
        obtain ⟨f, rfl⟩ := failed_of_environment hEnv
        exact absurd (h _ (.inr ⟨base, hBase, .inl hEnv⟩)) (not_isTold_failed f)
    refine ⟨?_, ?_, ?_, ?_, ?_⟩
    · exact (base_told_iff host o).mp fun stop hStop => h stop (.inl hStop)
    · exact fun base hBase => (exists_environment_iff host base).mp (hDefinitions base hBase)
    · intro base hBase
      obtain ⟨env, hEnv⟩ := hDefinitions base hBase
      cases hTarget : App.Target.resolve host.tree base o.target with
      | ok target => exact ⟨target, rfl⟩
      | error e =>
        exact absurd (h _ (.inr ⟨base, hBase, .inr ⟨env, hEnv, .inl ⟨e, hTarget, rfl⟩⟩⟩))
          (not_isTold_failed _)
    · rintro base env target ⟨hBase, hEnv, hTarget⟩
      refine (Settings.load_told_iff ..).mp fun e hLoad => ?_
      exact (isTold_settingsStop_iff e).mp (h _ (.inr ⟨base, hBase, .inr ⟨env, hEnv,
        .inr ⟨target, hTarget, .inl ⟨e, hLoad, rfl⟩⟩⟩⟩))
    · rintro base env target s ⟨hBase, hEnv, hTarget⟩ hLoad
      have hAfter : ∀ stop, ((∃ e, Logging.ofSettings s.logging o.json = .error e ∧
          Stop.failed (.logging e) = stop) ∨ ∃ l, Logging.ofSettings s.logging o.json = .ok l ∧
          ∃ e, Project.ofSettings (withAnalyzer s o.analyzer) = .error e ∧
            Stop.failed (.project e) = stop) → stop.IsTold := fun stop hStop =>
        h stop (.inr ⟨base, hBase, .inr ⟨env, hEnv, .inr ⟨target, hTarget,
          .inr ⟨s, hLoad, hStop⟩⟩⟩⟩)
      cases hLogging : Logging.ofSettings s.logging o.json with
      | error e => exact absurd (hAfter _ (.inl ⟨e, hLogging, rfl⟩)) (not_isTold_failed _)
      | ok l =>
        refine ⟨(Logging.exists_ofSettings_iff ..).mp ⟨l, hLogging⟩, ?_⟩
        cases hProject : Project.ofSettings (withAnalyzer s o.analyzer) with
        | ok p => exact (exists_ofSettings_iff s o.analyzer).mp ⟨p, hProject⟩
        | error e =>
          exact absurd (hAfter _ (.inr ⟨l, hLogging, e, hProject, rfl⟩)) (not_isTold_failed _)
  · rintro h stop (hBase | ⟨base, hBase, hEnv | ⟨env, hEnv, ⟨e, hTarget, rfl⟩ | ⟨target, hTarget,
      ⟨e, hLoad, rfl⟩ | ⟨s, hLoad, ⟨e, hLogging, rfl⟩ | ⟨l, hLogging, e, hProject, rfl⟩⟩⟩⟩⟩)
    · exact (base_told_iff host o).mpr h.start stop hBase
    · obtain ⟨env, hOk⟩ := (exists_environment_iff host base).mpr (h.definitions base hBase)
      cases hOk.symm.trans hEnv
    · obtain ⟨target, hOk⟩ := h.target base hBase
      cases hOk.symm.trans hTarget
    · exact (isTold_settingsStop_iff e).mpr ((Settings.load_told_iff ..).mpr
        (h.settings base env target ⟨hBase, hEnv, hTarget⟩) e hLoad)
    · obtain ⟨hFits, -⟩ := h.use base env target s ⟨hBase, hEnv, hTarget⟩ hLoad
      obtain ⟨l, hOk⟩ := (Logging.exists_ofSettings_iff ..).mpr hFits
      cases hOk.symm.trans hLogging
    · obtain ⟨-, hFits⟩ := h.use base env target s ⟨hBase, hEnv, hTarget⟩ hLoad
      obtain ⟨p, hOk⟩ := (exists_ofSettings_iff s o.analyzer).mpr hFits
      cases hOk.symm.trans hProject

end Prepared

end CommandLine

end AssetAudit
