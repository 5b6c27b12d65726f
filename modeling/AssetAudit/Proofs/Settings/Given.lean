import AssetAudit.Proofs.Settings.Merged
import AssetAudit.Settings.Load

/-!
# Where the values of settings come from

Every setting but the root directory and the whitelist is a field with a name, in a section or
beside the sections. Its value is that of its variable, if the environment has it, else what the
merged layers give for its name, else its default.
-/
namespace AssetAudit

namespace Settings

open Entries

def meaning (key : Scalar) : Text :=
  snakeCase key.plain

theorem getText?_snakeKeys (entries : Entries Value) (name : Text) :
    Entries.getText? (snakeKeys entries) name = entries.meant? meaning name := by
  -- what was taken over before counts only for names that do not come again
  have hFold : ∀ got : Entries Value, Entries.getText?
      ((entries.map fun e => (Scalar.text (snakeCase e.1.plain), e.2)).foldl
        (fun entries (key, value) => entries.insert key value) got) name =
      (entries.meant? meaning name).or (Entries.getText? got name) := by
    induction entries with
    | nil =>
      intro got
      rfl
    | cons entry rest ih =>
      intro got
      obtain ⟨key, value⟩ := entry
      rw [List.map_cons, List.foldl_cons, ih, getText?_insert, meant?_cons, Option.or_assoc]
      by_cases hName : snakeCase key.plain = name
      · rw [if_pos (congrArg Scalar.text hName), if_pos (show meaning key = name from hName)]
        rfl
      · rw [if_neg fun hEq => hName (Scalar.text.inj hEq),
          if_neg (show ¬meaning key = name from hName)]
        rfl
  refine (hFold []).trans ?_
  rw [show Entries.getText? ([] : Entries Value) name = none from rfl, Option.or_none]

/-- A setting: the section that it stands in, if it does, its name there, and the variable that sets
it, with the way its text is read. -/
structure Field where
  part : Option String
  name : String
  get : Settings → Value
  setter? : Option (String × (Text → Except Error Value))

def knownFields : List Field := [
  ⟨none, "apps_dir", (·.appsDir), some ("SWEEP_APPS_DIR", asText)⟩,
  ⟨none, "assets_dir", (·.assetsDir), some ("SWEEP_ASSETS_DIR", asText)⟩,
  ⟨none, "src_dir", (·.srcDir), some ("SWEEP_SRC_DIR", asText)⟩,
  ⟨none, "scan_dir", (·.scanDir), some ("SWEEP_SCAN_DIR", asText)⟩,
  ⟨none, "asset_extensions", (·.assetExtensions), some ("SWEEP_ASSET_EXTENSIONS", asList)⟩,
  ⟨none, "source_extensions", (·.sourceExtensions), some ("SWEEP_SOURCE_EXTENSIONS", asList)⟩,
  ⟨none, "exclude_dirs", (·.excludeDirs), some ("SWEEP_EXCLUDE_DIRS", asList)⟩,
  ⟨some "knip", "enabled", (·.knip.enabled), some ("SWEEP_KNIP_ENABLED", asBool)⟩,
  ⟨some "knip", "cwd", (·.knip.cwd), some ("SWEEP_KNIP_CWD", asText)⟩,
  ⟨some "knip", "timeout", (·.knip.timeout), some ("SWEEP_KNIP_TIMEOUT", parseFloat)⟩,
  ⟨some "knip", "commands", (·.knip.commands), none⟩,
  ⟨some "report", "json_output", (·.report.jsonOutput), some ("SWEEP_REPORT_JSON_OUTPUT", asText)⟩,
  ⟨some "report", "save_report", (·.report.saveReport), some ("SWEEP_REPORT_SAVE_REPORT", asBool)⟩,
  ⟨some "logging", "level", (·.logging.level), some ("SWEEP_LOGGING_LEVEL", asText)⟩,
  ⟨some "logging", "format", (·.logging.format), none⟩]

namespace Field

def given? (f : Field) (layer : Entries Value) : Option Value :=
  match f.part with
  | none => layer.meant? meaning f.name.toList
  | some part =>
    match layer.meant? meaning part.toList with
    | some (.map fields) => Entries.meant? meaning fields f.name.toList
    | _ => none

def set? (f : Field) (env : Environment) : Option (Except Error Value) :=
  f.setter?.bind fun v => (env.get? v.1).map v.2

def default? (f : Field) (sections : Value) : Option Value :=
  (sections.field? (f.part.getD "project").toList).bind (·.field? f.name.toList)

end Field

theorem default?_standard : ∀ f ∈ knownFields,
    (defaults standard).toOption.map f.get = f.default? standard := by
  unfold knownFields
  repeat refine List.forall_mem_cons.mpr ⟨rfl, ?_⟩
  exact nofun

theorem get_rootDir (s : Settings) (root : Value) :
    ∀ f ∈ knownFields, f.get { s with rootDir := root } = f.get s := by
  unfold knownFields
  repeat refine List.forall_mem_cons.mpr ⟨rfl, ?_⟩
  exact nofun

def whitelistIn (given : Given) : Attempt Error WhitelistSettings :=
  match Entries.getText? given "whitelist".toList with
  | some v => whitelistOf v
  | none => pure {}

theorem ofGiven_eq_ok {sections : Attempt Error Value} {given : Given} {s : Settings}
    (h : (ofGiven sections given).outcome = .ok s) :
    ∃ v usual, sections.outcome = .ok v ∧ defaults v = .ok usual ∧
      (whitelistIn given).outcome = .ok s.whitelist ∧
      s = { overrideProject usual given with
        whitelist := s.whitelist
        knip := (overrideSection given "knip" analyzerNames overrideAnalyzer usual.knip).value
        report := (overrideSection given "report" reportNames overrideReport usual.report).value
        logging :=
          (overrideSection given "logging" loggingNames overrideLogging usual.logging).value } := by
  obtain ⟨_, -, h⟩ := (Attempt.bind_eq_ok_iff _ _ _).mp h
  obtain ⟨v, hSections, h⟩ := (Attempt.bind_eq_ok_iff _ _ _).mp h
  obtain ⟨usual, hUsual, h⟩ := (Attempt.bind_eq_ok_iff _ _ _).mp h
  refine ⟨v, usual, hSections, hUsual, ?_⟩
  unfold whitelistIn
  -- the steps behind the whitelist are the same whether it is given or not
  cases hGiven : Entries.getText? given "whitelist".toList
  all_goals
    rw [hGiven] at h
    obtain ⟨whitelist, hWhitelist, h⟩ := (Attempt.bind_eq_ok_iff _ _ _).mp h
    obtain ⟨_, hKnip, h⟩ := (Attempt.bind_eq_ok_iff _ _ _).mp h
    obtain ⟨_, hReport, h⟩ := (Attempt.bind_eq_ok_iff _ _ _).mp h
    obtain ⟨_, hLogging, h⟩ := (Attempt.bind_eq_ok_iff _ _ _).mp h
    cases hKnip
    cases hReport
    cases hLogging
    cases h
    exact ⟨hWhitelist, rfl⟩

theorem Field.given?_eq (f : Field) (data : Entries Value) :
    f.given? data =
      match f.part with
      | none => Entries.getText? (snakeKeys data) f.name.toList
      | some part =>
        (Given.section? (snakeKeys data) part).bind fun fields =>
          Entries.getText? fields f.name.toList := by
  unfold Field.given? Given.section?
  cases f.part with
  | none => exact (getText?_snakeKeys _ _).symm
  | some part =>
    dsimp only
    rw [getText?_snakeKeys]
    cases Entries.meant? meaning data part.toList with
    | none => rfl
    | some v =>
      cases v with
      | map fields => exact (getText?_snakeKeys fields _).symm
      | scalar s => rfl
      | list items => rfl
      | tuple items => rfl
      | set items => rfl

theorem get_overrideSection {α : Type} (given : Given) (part : String) (known : List String)
    {override : α → Given → α} {usual : α} (get : α → Value) {name : String}
    (h : ∀ fields, get (override usual fields) = Given.getD fields name (get usual)) :
    get (overrideSection given part known override usual).value =
      ((given.section? part).bind fun fields => Entries.getText? fields name.toList).getD
        (get usual) := by
  unfold overrideSection
  cases given.section? part with
  | none => rfl
  | some fields => exact h fields

/-- A setting has the value that is given for it, or its default. -/
theorem get_ofGiven {sections : Attempt Error Value} {data : Entries Value} {s : Settings}
    (h : (ofGiven sections (snakeKeys data)).outcome = .ok s) :
    ∃ v usual, sections.outcome = .ok v ∧ defaults v = .ok usual ∧
      ∀ f ∈ knownFields, f.get s = (f.given? data).getD (f.get usual) := by
  obtain ⟨v, usual, hSections, hUsual, -, hSettings⟩ := ofGiven_eq_ok h
  refine ⟨v, usual, hSections, hUsual, ?_⟩
  simp only [Field.given?_eq]
  rw [hSettings]
  unfold knownFields
  repeat refine List.forall_mem_cons.mpr ⟨rfl, ?_⟩
  refine List.forall_mem_cons.mpr ⟨get_overrideSection _ _ _ AnalyzerSettings.enabled
    fun _ => rfl, ?_⟩
  refine List.forall_mem_cons.mpr ⟨get_overrideSection _ _ _ AnalyzerSettings.cwd fun _ => rfl, ?_⟩
  refine List.forall_mem_cons.mpr ⟨get_overrideSection _ _ _ AnalyzerSettings.timeout
    fun _ => rfl, ?_⟩
  refine List.forall_mem_cons.mpr ⟨get_overrideSection _ _ _ AnalyzerSettings.commands
    fun _ => rfl, ?_⟩
  refine List.forall_mem_cons.mpr ⟨get_overrideSection _ _ _ ReportSettings.jsonOutput
    fun _ => rfl, ?_⟩
  refine List.forall_mem_cons.mpr ⟨get_overrideSection _ _ _ ReportSettings.saveReport
    fun _ => rfl, ?_⟩
  refine List.forall_mem_cons.mpr ⟨get_overrideSection _ _ _ LoggingSettings.level fun _ => rfl, ?_⟩
  refine List.forall_mem_cons.mpr ⟨get_overrideSection _ _ _ LoggingSettings.format
    fun _ => rfl, ?_⟩
  exact nofun

namespace Field

def SetBy (f : Field) (v : Variable) : Prop :=
  f.setter? = some (v.name, v.read) ∧ ∀ s x, f.get (v.set s x) = x

def SparedBy (f : Field) (v : Variable) : Prop :=
  f.setter?.map (·.1) ≠ some v.name ∧ ∀ s x, f.get (v.set s x) = f.get s

end Field

theorem setBy_or_sparedBy : ∀ f ∈ knownFields, ∀ v ∈ knownVariables, f.SetBy v ∨ f.SparedBy v := by
  unfold knownFields knownVariables
  repeat' refine List.forall_mem_cons.mpr ⟨?_, ?_⟩
  all_goals first
    | exact fun _ hMem => absurd hMem List.not_mem_nil
    | exact .inl ⟨rfl, fun _ _ => rfl⟩
    | exact .inr ⟨by decide, fun _ _ => rfl⟩

theorem exists_setBy {f : Field} (hMem : f ∈ knownFields) {name : String}
    {read : Text → Except Error Value} (h : f.setter? = some (name, read)) :
    ∃ v ∈ knownVariables, f.SetBy v := by
  have hNames : knownFields.all fun f => f.setter?.all fun x =>
      knownVariables.any fun v => v.name == x.1 := by
    decide
  have hThis := List.all_eq_true.mp hNames f hMem
  rw [h, Option.all_some, List.any_eq_true] at hThis
  obtain ⟨v, hVariable, hName⟩ := hThis
  refine ⟨v, hVariable, ?_⟩
  rcases setBy_or_sparedBy f hMem v hVariable with hSet | hSpared
  · exact hSet
  · refine absurd ?_ hSpared.1
    rw [h, Option.map_some, eq_of_beq hName]

theorem get_applyVariable {env : Environment} {s s' : Settings} {v : Variable}
    (h : applyVariable env s v = .ok s') (f : Field) (hSets : f.SetBy v ∨ f.SparedBy v) :
    (f.SetBy v ∧ f.set? env = some (.ok (f.get s'))) ∨
      ((f.SetBy v → f.set? env = none) ∧ f.get s' = f.get s) := by
  unfold applyVariable at h
  cases hText : env.get? v.name with
  | none =>
    rw [hText] at h
    cases h
    refine .inr ⟨fun hSet => ?_, rfl⟩
    rw [Field.set?, hSet.1, Option.bind_some, hText, Option.map_none]
  | some t =>
    rw [hText] at h
    obtain ⟨x, hRead, rfl⟩ := (Outcome.map_eq_ok_iff _ _ _).mp h
    rcases hSets with hSet | hSpared
    · refine .inl ⟨hSet, ?_⟩
      rw [Field.set?, hSet.1, Option.bind_some, hText, Option.map_some, hSet.2]
      exact congrArg some hRead
    · refine .inr ⟨fun hSet => ?_, hSpared.2 s x⟩
      exact absurd (congrArg (Option.map Prod.fst) hSet.1) hSpared.1

/-- Once a setting has the value of its variable, it keeps it. -/
theorem get_applyVariables {env : Environment} (f : Field) {vs : List Variable}
    (hSets : ∀ v ∈ vs, f.SetBy v ∨ f.SparedBy v) {s s' : Settings}
    (h : vs.foldlM (applyVariable env) s = .ok s') :
    (f.set? env = none → f.get s' = f.get s) ∧
      ∀ {c}, f.set? env = some c → (c = .ok (f.get s) ∨ ∃ v ∈ vs, f.SetBy v) →
        c = .ok (f.get s') := by
  induction vs generalizing s with
  | nil =>
    cases h
    refine ⟨fun _ => rfl, fun _ hDone => ?_⟩
    rcases hDone with hDone | ⟨v, hMem, -⟩
    · exact hDone
    · exact absurd hMem List.not_mem_nil
  | cons v rest ih =>
    rw [List.foldlM_cons] at h
    obtain ⟨next, hFirst, hRest⟩ := (Outcome.bind_eq_ok_iff _ _ _).mp h
    obtain ⟨hFirstSets, hRestSets⟩ := List.forall_mem_cons.mp hSets
    obtain ⟨hKept, hSet⟩ := ih hRestSets hRest
    rcases get_applyVariable hFirst f hFirstSets with ⟨-, hNow⟩ | ⟨hNone, hSame⟩
    · refine ⟨fun hUnset => ?_, fun hValue _ => ?_⟩
      · rw [hUnset] at hNow
        cases hNow
      · exact hSet hValue (.inl (Option.some.inj (hValue.symm.trans hNow)))
    · -- this variable does nothing for the setting, so that a later one has to set it
      refine ⟨fun hUnset => (hKept hUnset).trans hSame, fun hValue hDone => hSet hValue ?_⟩
      rcases hDone with hDone | ⟨w, hMem, hSetBy⟩
      · exact .inl (hSame ▸ hDone)
      · rcases List.mem_cons.mp hMem with rfl | hMem
        · rw [hNone hSetBy] at hValue
          cases hValue
        · exact .inr ⟨w, hMem, hSetBy⟩

theorem get_applyEnvironment {env : Environment} {s s' : Settings}
    (h : applyEnvironment env s = .ok s') {f : Field} (hMem : f ∈ knownFields) :
    match f.set? env with
    | some c => c = .ok (f.get s')
    | none => f.get s' = f.get s := by
  obtain ⟨hKept, hSet⟩ := get_applyVariables f (setBy_or_sparedBy f hMem) h
  cases hValue : f.set? env with
  | none => exact hKept hValue
  | some c =>
    obtain ⟨⟨name, read⟩, hVariable, -⟩ := Option.bind_eq_some_iff.mp hValue
    exact hSet hValue (.inr (exists_setBy hMem hVariable))

theorem whitelist_applyEnvironment {env : Environment} {s s' : Settings}
    (h : applyEnvironment env s = .ok s') : s'.whitelist = s.whitelist := by
  have hSpared : ∀ v ∈ knownVariables, ∀ s x, (v.set s x).whitelist = s.whitelist := by
    unfold knownVariables
    repeat refine List.forall_mem_cons.mpr ⟨fun _ _ => rfl, ?_⟩
    exact nofun
  unfold applyEnvironment at h
  generalize knownVariables = vs at h hSpared
  induction vs generalizing s with
  | nil =>
    cases h
    rfl
  | cons v rest ih =>
    rw [List.foldlM_cons] at h
    obtain ⟨next, hFirst, hRest⟩ := (Outcome.bind_eq_ok_iff _ _ _).mp h
    obtain ⟨hFirstSpared, hRestSpared⟩ := List.forall_mem_cons.mp hSpared
    refine (ih hRest hRestSpared).trans ?_
    unfold applyVariable at hFirst
    cases hText : env.get? v.name with
    | none =>
      rw [hText] at hFirst
      cases hFirst
      rfl
    | some t =>
      rw [hText] at hFirst
      obtain ⟨x, -, rfl⟩ := (Outcome.map_eq_ok_iff _ _ _).mp hFirst
      exact hFirstSpared s x

end Settings

end AssetAudit
