import AssetAudit.Proofs.Settings.Layers
import AssetAudit.Proofs.Value.Json

/-!
# Settings as a mapping

Settings stand in one mapping under the names by which they are read, and every name is given. So the
mapping is read as the same settings again, without a notice. It is a value that JSON has a form for
when the settings were read from one.
-/
namespace AssetAudit

namespace WhitelistSettings

def Single (w : WhitelistSettings) : Prop :=
  (w.products.map (·.1)).Nodup

end WhitelistSettings

namespace Settings

open Entries
open Value (recordEntries getText?_record distinct_record)

theorem textsOf_textList (ts : List Text) : textsOf (textList ts) = .ok ts := by
  have hTexts : (((ts.map Value.text).filter fun item => !item.isNull).map Value.plain) = ts := by
    induction ts with
    | nil => rfl
    | cons t rest ih => exact congrArg (t :: ·) ih
  exact congrArg Except.ok hTexts

theorem textsOf_orElse_textList (ts : List Text) :
    textsOf (orElse (some (textList ts)) (.list [])) = .ok ts := by
  cases ts with
  | nil => rfl
  | cons t rest => exact textsOf_textList (t :: rest)

theorem map_setProduct (app : Text) (patterns : List Text) (got : List (Text × List Text)) :
    (setProduct app patterns got).map (·.1) =
      if app ∈ got.map (·.1) then got.map (·.1) else got.map (·.1) ++ [app] := by
  induction got with
  | nil => rfl
  | cons first rest ih =>
    obtain ⟨a, ps⟩ := first
    unfold setProduct
    by_cases hApp : a = app
    · simp [hApp]
    · have hOther : ¬app = a := fun h => hApp h.symm
      rw [if_neg hApp, List.map_cons, List.map_cons, ih]
      by_cases hMem : app ∈ rest.map (·.1)
      · rw [if_pos hMem, if_pos (List.mem_cons_of_mem _ hMem)]
      · rw [if_neg hMem, if_neg (by simpa [hOther] using hMem)]
        rfl

theorem nodup_productsOf {entries : Entries Value} {got out : List (Text × List Text)}
    (hGot : (got.map (·.1)).Nodup) (h : productsOf got entries = .ok out) :
    (out.map (·.1)).Nodup := by
  induction entries generalizing got with
  | nil =>
    cases h
    exact hGot
  | cons entry rest ih =>
    obtain ⟨patterns, -, hRest⟩ := (Outcome.bind_eq_ok_iff _ _ _).mp h
    refine ih ?_ hRest
    rw [map_setProduct]
    split
    · exact hGot
    · rename_i hNew
      refine List.nodup_append.mpr ⟨hGot, by simp, ?_⟩
      rintro a hMem b hLast rfl
      obtain rfl := List.mem_singleton.mp hLast
      exact hNew hMem

theorem single_of_whitelistOf {v : Value} {w : WhitelistSettings}
    (h : (whitelistOf v).outcome = .ok w) : w.Single := by
  unfold whitelistOf at h
  split at h
  · obtain ⟨patterns, -, h⟩ := (Attempt.bind_eq_ok_iff _ _ _).mp h
    cases h
    exact List.nodup_nil
  · obtain ⟨patterns, -, h⟩ := (Attempt.bind_eq_ok_iff _ _ _).mp h
    split at h
    · obtain ⟨products, hProducts, h⟩ := (Attempt.bind_eq_ok_iff _ _ _).mp h
      cases h
      have hNone : (([] : List (Text × List Text)).map (·.1)).Nodup := List.nodup_nil
      exact nodup_productsOf hNone hProducts
    · cases h
  · cases h
    exact List.nodup_nil

theorem single_of_ofGiven {sections : Attempt Error Value} {given : Given} {s : Settings}
    (h : (ofGiven sections given).outcome = .ok s) : s.whitelist.Single := by
  obtain ⟨v, usual, -, -, hWhitelist, -⟩ := ofGiven_eq_ok h
  unfold whitelistIn at hWhitelist
  split at hWhitelist
  · exact single_of_whitelistOf hWhitelist
  · have hNone : s.whitelist = {} := (Except.ok.inj hWhitelist).symm
    rw [hNone]
    exact List.nodup_nil

theorem setProduct_of_new {app : Text} {got : List (Text × List Text)}
    (h : app ∉ got.map (·.1)) (patterns : List Text) :
    setProduct app patterns got = got ++ [(app, patterns)] := by
  induction got with
  | nil => rfl
  | cons first rest ih =>
    obtain ⟨a, ps⟩ := first
    obtain ⟨hFirst, hRest⟩ := not_or.mp fun hMem => h (List.mem_cons.mpr hMem)
    rw [setProduct, if_neg (Ne.symm hFirst), ih hRest]
    rfl

/-- Each app keeps its patterns where no app comes twice. -/
theorem productsOf_textLists {got products : List (Text × List Text)}
    (h : ((got ++ products).map (·.1)).Nodup) :
    productsOf got (products.map fun p => (.text p.1, textList p.2)) = .ok (got ++ products) := by
  -- Behind the apps that were read before: each new one goes to the end, as none of them comes again.
  induction products generalizing got with
  | nil => exact congrArg Except.ok (List.append_nil got).symm
  | cons first rest ih =>
    obtain ⟨app, patterns⟩ := first
    have hNew : app ∉ got.map (·.1) := by
      rw [List.map_append] at h
      intro hMem
      exact (List.nodup_append.mp h).2.2 app hMem app List.mem_cons_self rfl
    have hSplit : got ++ (app, patterns) :: rest = (got ++ [(app, patterns)]) ++ rest := by
      rw [List.append_assoc]
      rfl
    rw [hSplit] at h ⊢
    rw [← ih h, List.map_cons, productsOf, textsOf_orElse_textList]
    exact congrArg (fun next => productsOf next _) (setProduct_of_new hNew patterns)

theorem whitelistOf_map {entries listed : Entries Value} {patterns : List Text}
    {products : List (Text × List Text)}
    (hPatterns : Entries.getText? entries "patterns".toList = some (textList patterns))
    (hListed : Entries.getText? entries "products".toList = some (.map listed))
    (hProducts : productsOf [] listed = .ok products) :
    whitelistOf (.map entries) = pure { patterns, products } := by
  have hMap : orElse (some (.map listed)) (.map []) = .map listed := by cases listed <;> rfl
  unfold whitelistOf
  dsimp only
  rw [hPatterns, hListed, textsOf_orElse_textList, hMap]
  dsimp only
  rw [hProducts]
  rfl

theorem whitelistOf_toValue {w : WhitelistSettings} (h : w.Single) :
    whitelistOf w.toValue = pure w := by
  have hProducts : productsOf [] (w.products.map fun p => (.text p.1, textList p.2)) =
      .ok w.products := productsOf_textLists h
  refine whitelistOf_map ?_ ?_ hProducts
  · exact getText?_record _ "patterns"
  · exact getText?_record _ "products"

variable {fields : List (String × Value)}

def Spelled (names : List String) : Prop :=
  names.Nodup ∧ ∀ name ∈ names, snakeCase name.toList = name.toList

instance (names : List String) : Decidable (Spelled names) :=
  inferInstanceAs (Decidable (_ ∧ _))

theorem snakeKeys_record (h : Spelled (fields.map (·.1))) :
    snakeKeys (recordEntries fields) = recordEntries fields := by
  have hSame : (recordEntries fields).map (fun e => (Scalar.text (snakeCase e.1.plain), e.2)) =
      recordEntries fields := by
    unfold recordEntries
    rw [List.map_map]
    refine List.map_congr_left fun field hMem => ?_
    exact congrArg (fun name => (Scalar.text name, field.2)) (h.2 field.1 (List.mem_map_of_mem hMem))
  unfold snakeKeys
  rw [hSame, Entries.ofList_of_distinct (distinct_record h.1)]

theorem noteUnknown_record {known : List String} (part : String)
    (h : ∀ name ∈ fields.map (·.1), name ∈ known) :
    Given.noteUnknown (recordEntries fields) part known = pure () := by
  have hNone : (Given.names (recordEntries fields)).filter
      (fun name => !known.any fun k => k.toList == name) = [] := by
    refine List.filter_eq_nil_iff.mpr fun name hMem => ?_
    unfold Given.names recordEntries at hMem
    rw [List.map_map] at hMem
    obtain ⟨field, hField, rfl⟩ := List.mem_map.mp hMem
    have hKnown := h field.1 (List.mem_map_of_mem hField)
    simpa using ⟨field.1, hKnown, rfl⟩
  unfold Given.noteUnknown
  dsimp only
  rw [hNone]
  rfl

theorem overrideSection_record {α : Type} {given : Given} {part : String} {known : List String}
    (override : α → Given → α) (usual : α)
    (hGiven : getText? given part.toList = some (Value.record fields))
    (hKnown : fields.map (·.1) = known) (hSpelled : Spelled known) :
    overrideSection given part known override usual = pure (override usual (recordEntries fields)) := by
  subst hKnown
  have hSection : given.section? part = some (recordEntries fields) := by
    unfold Given.section?
    rw [hGiven]
    exact congrArg some (snakeKeys_record hSpelled)
  unfold overrideSection
  rw [hSection]
  dsimp only
  rw [noteUnknown_record part fun name hMem => hMem]
  rfl

theorem getD_record (name : String) (usual : Value) :
    Given.getD (recordEntries fields) name usual =
      ((fields.find? (·.1 == name)).map (·.2)).getD usual := by
  unfold Given.getD
  rw [getText?_record]

theorem knip_of_toValue {given : Given} {a : AnalyzerSettings} (usual : AnalyzerSettings)
    (hGiven : getText? given "knip".toList = some a.toValue) :
    overrideSection given "knip" analyzerNames overrideAnalyzer usual = pure a := by
  have hSpelled : Spelled analyzerNames := by decide
  refine (overrideSection_record overrideAnalyzer usual hGiven rfl hSpelled).trans ?_
  unfold overrideAnalyzer
  simp only [getD_record]
  rfl

theorem report_of_toValue {given : Given} {r : ReportSettings} (usual : ReportSettings)
    (hGiven : getText? given "report".toList = some r.toValue) :
    overrideSection given "report" reportNames overrideReport usual = pure r := by
  have hSpelled : Spelled reportNames := by decide
  refine (overrideSection_record overrideReport usual hGiven rfl hSpelled).trans ?_
  unfold overrideReport
  simp only [getD_record]
  rfl

theorem logging_of_toValue {given : Given} {l : LoggingSettings} (usual : LoggingSettings)
    (hGiven : getText? given "logging".toList = some l.toValue) :
    overrideSection given "logging" loggingNames overrideLogging usual = pure l := by
  have hSpelled : Spelled loggingNames := by decide
  refine (overrideSection_record overrideLogging usual hGiven rfl hSpelled).trans ?_
  unfold overrideLogging
  simp only [getD_record]
  rfl

theorem project_of_toValue {s : Settings} (usual : Settings) {entries : Entries Value}
    (h : s.toValue = .map entries) : overrideProject usual entries = { s with
      whitelist := usual.whitelist, knip := usual.knip, report := usual.report
      logging := usual.logging } := by
  cases h
  unfold overrideProject
  simp only [getD_record]
  rfl

/-- Settings are read from their own mapping as they are, and without a notice. -/
theorem ofValue_toValue {sections : Value} {usual s : Settings}
    (hUsual : defaults sections = .ok usual) (hSingle : s.whitelist.Single) :
    ofValue (pure sections) s.toValue = pure s := by
  -- The fields are kept under a name: what is read of the record is found among them, and the record
  -- is never unfolded into its entries.
  obtain ⟨fields, hFields, hNames, hWhitelist, hKnip, hReport, hLogging⟩ : ∃ fields,
      s.toValue = Value.record fields ∧ fields.map (·.1) = projectNames ++ sectionNames ∧
        fields.find? (·.1 == "whitelist") = some ("whitelist", s.whitelist.toValue) ∧
        fields.find? (·.1 == "knip") = some ("knip", s.knip.toValue) ∧
        fields.find? (·.1 == "report") = some ("report", s.report.toValue) ∧
        fields.find? (·.1 == "logging") = some ("logging", s.logging.toValue) :=
    ⟨_, rfl, rfl, rfl, rfl, rfl, rfl⟩
  have hSpelled : Spelled (fields.map (·.1)) := by
    rw [hNames]
    decide
  have hEntries : entriesOf s.toValue = .ok (recordEntries fields) := by
    rw [hFields]
    cases fields with
    | nil => cases hNames
    | cons field rest => rfl
  have hGiven : ∀ {name : String} {v : Value}, fields.find? (·.1 == name) = some (name, v) →
      getText? (recordEntries fields) name.toList = some v := by
    intro name v hFound
    rw [getText?_record, hFound]
    rfl
  have hRoot := noteUnknown_record "root" fun name hMem => hNames ▸ hMem
  unfold ofValue
  rw [hEntries, Attempt.ofExcept_ok_bind, snakeKeys_record hSpelled]
  unfold ofGiven
  rw [hRoot, Attempt.ofNoted_pure_bind, Attempt.pure_bind, hUsual, Attempt.ofExcept_ok_bind]
  dsimp only
  rw [hGiven hWhitelist]
  dsimp only
  rw [whitelistOf_toValue hSingle, Attempt.pure_bind, knip_of_toValue _ (hGiven hKnip),
    Attempt.ofNoted_pure_bind, report_of_toValue _ (hGiven hReport), Attempt.ofNoted_pure_bind,
    logging_of_toValue _ (hGiven hLogging), Attempt.ofNoted_pure_bind, project_of_toValue usual hFields]

/-! ## Settings that JSON has a form for -/

theorem isJson_standard : standard.IsJson :=
  Value.isJson_sound (by decide)

theorem isJson_of_meant? {data : Entries Value} {name : Text} {v : Value}
    (hData : (Value.map data).IsJson) (h : data.meant? meaning name = some v) : v.IsJson := by
  obtain ⟨key, hMem⟩ := mem_of_meant? h
  exact hData.values _ ((mem_under_iff _ _ _).mp hMem).1

theorem Field.isJson_given? (f : Field) {data : Entries Value} {v : Value}
    (hData : (Value.map data).IsJson) (h : f.given? data = some v) : v.IsJson := by
  unfold Field.given? at h
  split at h
  · exact isJson_of_meant? hData h
  · split at h
    · rename_i fields hSection
      exact isJson_of_meant? (isJson_of_meant? hData hSection) h
    · cases h

theorem Field.isJson_default? (f : Field) {v : Value} (h : f.default? standard = some v) :
    v.IsJson := by
  obtain ⟨fields, hSection, hField⟩ := Option.bind_eq_some_iff.mp h
  exact (isJson_standard.of_field? hSection).of_field? hField

variable {data : Entries Value} {s : Settings}

/-- Each setting is a value that was given, or a default. -/
theorem isJson_get (hData : (Value.map data).IsJson)
    (h : (ofGiven (pure standard) (snakeKeys data)).outcome = .ok s) :
    ∀ f ∈ knownFields, (f.get s).IsJson := by
  intro f hField
  obtain ⟨v, usual, hSections, hUsual, hGet⟩ := get_ofGiven h
  cases hSections
  rw [hGet f hField]
  cases hGiven : f.given? data with
  | some v => exact f.isJson_given? hData hGiven
  | none => exact f.isJson_default? (get_defaults f hField usual hUsual).symm

theorem isJson_rootDir (hData : (Value.map data).IsJson)
    (h : (ofGiven (pure standard) (snakeKeys data)).outcome = .ok s) : s.rootDir.IsJson := by
  obtain ⟨v, usual, hSections, hUsual, -, hSettings⟩ := ofGiven_eq_ok h
  cases hSections
  cases hUsual
  rw [hSettings]
  change (Given.getD (snakeKeys data) "root_dir" .null).IsJson
  unfold Given.getD
  rw [getText?_snakeKeys]
  cases hRoot : data.meant? meaning "root_dir".toList with
  | none => exact .scalar trivial
  | some v => exact isJson_of_meant? hData hRoot

theorem isJson_textList (ts : List Text) : (textList ts).IsJson :=
  .list (List.forall_mem_map.mpr fun t _ => Value.isJson_text t)

theorem isJson_whitelist {w : WhitelistSettings} (h : w.Single) : w.toValue.IsJson := by
  have hKeys : Entries.keys (w.products.map fun p => (Scalar.text p.1, textList p.2)) =
      (w.products.map (·.1)).map .text := by
    unfold Entries.keys
    rw [List.map_map, List.map_map]
    rfl
  have hProducts : (Value.map (w.products.map fun p => (.text p.1, textList p.2))).IsJson := by
    refine .map ?_ ?_ (List.forall_mem_map.mpr fun p _ => isJson_textList p.2)
    · unfold Distinct
      rw [hKeys]
      refine List.pairwise_map.mpr (h.imp fun {a b} hNe => ?_)
      refine Bool.eq_false_iff.mpr fun hSame => hNe ?_
      exact Scalar.text.inj ((Scalar.same_text_iff _ _).mp hSame)
    · rw [hKeys]
      exact List.forall_mem_map.mpr fun app _ => ⟨app, rfl⟩
  refine Value.isJson_record (by simp) ?_
  exact List.forall_mem_cons.mpr ⟨isJson_textList _, List.forall_mem_singleton.mpr hProducts⟩

/-- Settings that were read from a mapping that JSON has a form for make one again. -/
theorem isJson_toValue (hData : (Value.map data).IsJson)
    (h : (ofGiven (pure standard) (snakeKeys data)).outcome = .ok s) : s.toValue.IsJson := by
  have hFields := isJson_get hData h
  have hRoot := isJson_rootDir hData h
  have hWhitelist := isJson_whitelist (single_of_ofGiven h)
  simp only [knownFields, List.forall_mem_cons] at hFields
  obtain ⟨hApps, hAssets, hSrc, hScan, hAssetExtensions, hSourceExtensions, hExclude, hEnabled, hCwd,
    hTimeout, hCommands, hJson, hSave, hLevel, hFormat, -⟩ := hFields
  have hKnip : s.knip.toValue.IsJson :=
    Value.isJson_record (by simp) (by simpa using ⟨hEnabled, hCwd, hTimeout, hCommands⟩)
  have hReport : s.report.toValue.IsJson :=
    Value.isJson_record (by simp) (by simpa using ⟨hJson, hSave⟩)
  have hLogging : s.logging.toValue.IsJson :=
    Value.isJson_record (by simp) (by simpa using ⟨hLevel, hFormat⟩)
  refine Value.isJson_record (by simp) ?_
  simpa using ⟨hRoot, hApps, hAssets, hSrc, hScan, hAssetExtensions, hSourceExtensions, hExclude,
    hWhitelist, hKnip, hReport, hLogging⟩

end Settings

end AssetAudit
