import AssetAudit.Proofs.Decimal.Rounding
import AssetAudit.Proofs.Project.Calls
import Mathlib.Algebra.BigOperators.Ring.Finset
import Mathlib.Data.List.Dedup

/-!
# Stored reports and their sums

The store has one report for each app, the last one, in the order in which the apps came first. Its sums
are those of the numbers that the mapping of each report gives, and every such number counts the lists
beside it.
-/
namespace AssetAudit

namespace Reports

def storeAll (reports : List Report) : Reports :=
  reports.foldl store {}

def appsOf (reports : List Report) : List Text :=
  (reports.map (·.app)).reverse.dedup.reverse

def latest? (reports : List Report) (app : Text) : Option Report :=
  reports.reverse.find? (·.app == app)

theorem storeAll_append (reports : List Report) (report : Report) :
    storeAll (reports ++ [report]) = (storeAll reports).store report := by
  unfold storeAll
  rw [List.foldl_append, List.foldl_cons, List.foldl_nil]

theorem appsOf_append (reports : List Report) (report : Report) :
    appsOf (reports ++ [report]) =
      if report.app ∈ appsOf reports then appsOf reports else appsOf reports ++ [report.app] := by
  unfold appsOf
  rw [List.map_append, List.map_singleton, List.reverse_append, List.reverse_singleton,
    List.singleton_append]
  split
  · rename_i hKnown
    rw [List.dedup_cons_of_mem' (List.mem_reverse.mp hKnown)]
  · rename_i hNew
    rw [List.dedup_cons_of_notMem' (fun hKnown => hNew (List.mem_reverse.mpr hKnown)),
      List.reverse_cons]

theorem latest?_append (reports : List Report) (report : Report) (app : Text) :
    latest? (reports ++ [report]) app =
      if report.app = app then some report else latest? reports app := by
  unfold latest?
  rw [List.reverse_append, List.reverse_singleton, List.singleton_append, List.find?_cons]
  by_cases hApp : report.app = app
  · rw [if_pos hApp, beq_iff_eq.mpr hApp]
  · rw [if_neg hApp, beq_eq_false_iff_ne.mpr hApp]

theorem map_app_storeAll (reports : List Report) :
    (storeAll reports).entries.map (·.app) = appsOf reports := by
  induction reports using List.reverseRecOn with
  | nil => rfl
  | append_singleton reports report ih =>
    rw [storeAll_append, appsOf_append, ← ih]
    exact map_app_put report _

theorem get?_storeAll (reports : List Report) (app : Text) :
    (storeAll reports).get? app = latest? reports app := by
  induction reports using List.reverseRecOn with
  | nil => rfl
  | append_singleton reports report ih =>
    rw [storeAll_append, get?_store, latest?_append, ih]

theorem nodup_appsOf (reports : List Report) : (appsOf reports).Nodup :=
  List.nodup_reverse.mpr (List.nodup_dedup _)

/-- When the apps of reports are distinct, looking each of them up gives the reports again. -/
theorem filterMap_get? {reports : Reports} (h : (reports.entries.map (·.app)).Nodup) :
    (reports.entries.map (·.app)).filterMap reports.get? = reports.entries := by
  have hFound : ∀ r ∈ reports.entries, reports.get? r.app = some r := by
    intro r hMem
    obtain ⟨before, after, hSplit⟩ := List.append_of_mem hMem
    unfold get?
    rw [hSplit] at h ⊢
    rw [List.map_append, List.map_cons, List.nodup_append] at h
    have hBefore : before.find? (·.app == r.app) = none := by
      rw [List.find?_eq_none]
      intro other hOther hSame
      exact h.2.2 _ (List.mem_map_of_mem hOther) r.app List.mem_cons_self (beq_iff_eq.mp hSame)
    rw [List.find?_append, hBefore, Option.none_or, List.find?_cons,
      beq_self_eq_true r.app]
  rw [List.filterMap_map]
  refine (List.filterMap_congr fun r hMem => ?_).trans List.filterMap_some
  exact hFound r hMem

/-- What is stored: of each app the last report, in the order in which the apps came first. -/
theorem entries_storeAll (reports : List Report) :
    (storeAll reports).entries = (appsOf reports).filterMap (latest? reports) := by
  have hApps := map_app_storeAll reports
  have hFound := filterMap_get? (hApps ▸ nodup_appsOf reports)
  rw [hApps] at hFound
  rw [← hFound]
  exact List.filterMap_congr fun app _ => get?_storeAll reports app

/-- A report that is stored bears on the entry of its own app only. -/
theorem filter_store (reports : Reports) (report : Report) :
    (reports.store report).entries.filter (·.app ≠ report.app) =
      reports.entries.filter (·.app ≠ report.app) := by
  change (put report reports.entries).filter _ = _
  induction reports.entries with
  | nil => simp [put]
  | cons r rest ih =>
    unfold put
    by_cases hSame : r.app = report.app
    · rw [if_pos hSame, List.filter_cons_of_neg (by simp), List.filter_cons_of_neg (by simpa)]
    · rw [if_neg hSame, List.filter_cons_of_pos (by simpa), List.filter_cons_of_pos (by simpa), ih]

end Reports

namespace Value

def figure? (v : Value) (part name : String) : Option Int :=
  match (v.field? part.toList).bind (·.field? name.toList) with
  | some (.int n) => some n
  | _ => none

def itemCount : Value → Nat
  | .list items => items.length
  | _ => 0

def listed (v : Value) (part : String) : Nat :=
  match v.field? part.toList with
  | some (.map entries) => (entries.map fun e => e.2.itemCount).sum
  | _ => 0

theorem field?_record (fields : List (String × Value)) (name : String) :
    (record fields).field? name.toList = (fields.find? (·.1 == name)).map (·.2) := by
  induction fields with
  | nil => rfl
  | cons f rest ih =>
    have hSame : (Scalar.text f.1.toList).same (.text name.toList) = (f.1 == name) := by
      change (Scalar.text f.1.toList == .text name.toList) = _
      rw [Bool.eq_iff_iff, beq_iff_eq, beq_iff_eq, Scalar.text.injEq, String.toList_inj]
    change ((record (f :: rest)).field? name.toList) = _
    simp only [record, field?, Entries.getText?, Entries.get?, List.map_cons, List.find?_cons, hSame]
    cases f.1 == name with
    | true => rfl
    | false => exact ih

variable {fields inner : List (String × Value)} {part name : String}

theorem figure?_record {n : Int} (hPart : fields.find? (·.1 == part) = some (part, record inner))
    (hName : inner.find? (·.1 == name) = some (name, .int n)) :
    (record fields).figure? part name = some n := by
  unfold figure?
  rw [field?_record, hPart, Option.map_some, Option.bind_some, field?_record, hName]
  rfl

theorem listed_record (hPart : fields.find? (·.1 == part) = some (part, record inner)) :
    (record fields).listed part = (inner.map fun f => f.2.itemCount).sum := by
  unfold listed
  rw [field?_record, hPart]
  simp [record, Function.comp_def]

end Value

namespace Report

theorem assetBytes_eq (r : Report) : r.assetBytes = (r.assets.map (·.size)).sum :=
  List.sum_eq_foldl.symm

/-- What the mapping of a report tells in numbers, each beside the lists that it counts. -/
structure Figures (r : Report) (v : Value) : Prop where
  assets : v.figure? "unused_assets" "count" = some r.assets.length
  files : v.figure? "unused_files" "count" = some r.findings.files.length
  dependencies : v.figure? "unused_dependencies" "count" = some r.dependencyCount
  exports : v.figure? "unused_exports" "count" = some r.exportCount
  bytes : v.figure? "unused_assets" "total_size_bytes" = some r.assetBytes
  assetsListed : v.listed "unused_assets" = r.assets.length
  filesListed : v.listed "unused_files" = r.findings.files.length
  dependenciesListed : v.listed "unused_dependencies" = r.dependencyCount
  exportsListed : v.listed "unused_exports" = r.exportCount

theorem figures_of_toValue? {r : Report} {v : Value} (h : r.toValue? = some v) : r.Figures v := by
  obtain ⟨size, -, rfl⟩ := Option.map_eq_some_iff.mp h
  constructor
  case assets => exact Value.figure?_record rfl rfl
  case files => exact Value.figure?_record rfl rfl
  case dependencies => exact Value.figure?_record rfl rfl
  case exports => exact Value.figure?_record rfl rfl
  case bytes => exact Value.figure?_record rfl rfl
  case assetsListed =>
    rw [Value.listed_record rfl]
    simp [Value.itemCount, count]
  case filesListed =>
    rw [Value.listed_record rfl]
    simp [Value.itemCount, count]
  case dependenciesListed =>
    rw [Value.listed_record rfl]
    simp [Value.itemCount, dependencyCount]
  case exportsListed =>
    rw [Value.listed_record rfl]
    simp [Value.itemCount, exportCount]

theorem toValue?_eq_none_iff (r : Report) :
    r.toValue? = none ↔ (FileSize.beyond : Int) ≤ r.assetBytes := by
  unfold toValue? assetSize?
  rw [Option.map_eq_none_iff, FileSize.format?_eq_none_iff]

/-- The findings of a report are what its four counts count. -/
theorem total_eq (r : Report) :
    r.total = r.assets.length + r.findings.files.length + r.dependencyCount + r.exportCount := by
  unfold total Findings.total dependencyCount exportCount
  omega

end Report

namespace Reports

variable {reports : Reports} {entries : List Report} {data : Entries Value}

structure StandsFor (r : Report) (entry : Scalar × Value) : Prop where
  key : entry.1 = .text r.app
  value : r.toValue? = some entry.2
  figures : r.Figures entry.2

theorem forall₂_of_mapM (h : entries.mapM entryValue? = some data) :
    List.Forall₂ StandsFor entries data := by
  induction entries generalizing data with
  | nil =>
    cases h
    exact .nil
  | cons r rest ih =>
    rw [List.mapM_cons] at h
    obtain ⟨entry, hEntry, h⟩ := Option.bind_eq_some_iff.mp h
    obtain ⟨others, hOthers, h⟩ := Option.bind_eq_some_iff.mp h
    obtain ⟨value, hValue, rfl⟩ := Option.map_eq_some_iff.mp hEntry
    cases h
    exact .cons ⟨rfl, hValue, Report.figures_of_toValue? hValue⟩ (ih hOthers)

theorem map_key_of_mapM (h : entries.mapM entryValue? = some data) :
    data.map (·.1) = entries.map fun r => .text r.app := by
  have hStands := forall₂_of_mapM h
  clear h
  induction hStands with
  | nil => rfl
  | cons hStands _ ih => rw [List.map_cons, List.map_cons, hStands.key, ih]

theorem mapM_entryValue?_eq_none_iff (entries : List Report) :
    entries.mapM entryValue? = none ↔ ∃ r ∈ entries, r.toValue? = none := by
  induction entries with
  | nil => simp
  | cons r rest ih =>
    rw [List.mapM_cons, List.exists_mem_cons_iff, ← ih]
    cases hValue : r.toValue? with
    | none => simp [entryValue?, hValue]
    | some v =>
      rw [entryValue?, hValue]
      cases rest.mapM entryValue? with
      | none => simp
      | some others => simp

theorem toValue?_eq_none_iff (reports : Reports) (time : Text) :
    reports.toValue? time = none ↔ ∃ r ∈ reports.entries, (FileSize.beyond : Int) ≤ r.assetBytes := by
  unfold toValue?
  rw [Option.map_eq_none_iff, mapM_entryValue?_eq_none_iff]
  simp only [Report.toValue?_eq_none_iff]

def sum? (data : Entries Value) (part name : String) : Option Int :=
  (data.mapM fun (entry : Scalar × Value) => entry.2.figure? part name).map List.sum

theorem sum?_of_forall₂ {part name : String} {number : Report → Int}
    (hNumber : ∀ r v, Report.Figures r v → v.figure? part name = some (number r))
    (h : List.Forall₂ StandsFor entries data) :
    sum? data part name = some (entries.map number).sum := by
  induction h with
  | nil => rfl
  | @cons r entry _ _ hEntry _ ih =>
    unfold sum? at ih ⊢
    obtain ⟨numbers, hNumbers, hSum⟩ := Option.map_eq_some_iff.mp ih
    rw [List.mapM_cons, hNumber r entry.2 hEntry.figures, hNumbers]
    change some (number r :: numbers).sum = _
    rw [List.sum_cons, hSum, List.map_cons, List.sum_cons]

theorem foldl_add (t : Totals) (entries : List Report) :
    entries.foldl Totals.add t =
      { assets := t.assets + (entries.map (·.assets.length)).sum
        files := t.files + (entries.map (·.findings.files.length)).sum
        dependencies := t.dependencies + (entries.map (·.dependencyCount)).sum
        exports := t.exports + (entries.map (·.exportCount)).sum
        bytes := t.bytes + (entries.map (·.assetBytes)).sum } := by
  induction entries generalizing t with
  | nil => simp
  | cons r rest ih =>
    rw [List.foldl_cons, ih]
    simp only [Totals.add, List.map_cons, List.sum_cons, Nat.add_assoc, Int.add_assoc]

/-- A mapping of reports whose numbers have the totals as their sums. -/
structure AddsUp (reports : Reports) (v : Value) : Prop where
  apps : v.field? "total_apps_analyzed".toList = some (.int reports.size)
  entries : ∃ data, v.field? "apps_data".toList = some (.map data) ∧
    List.Forall₂ StandsFor reports.entries data ∧
    sum? data "unused_assets" "count" = some reports.totals.assets ∧
    sum? data "unused_files" "count" = some reports.totals.files ∧
    sum? data "unused_dependencies" "count" = some reports.totals.dependencies ∧
    sum? data "unused_exports" "count" = some reports.totals.exports ∧
    sum? data "unused_assets" "total_size_bytes" = some reports.totals.bytes

theorem addsUp_of_toValue? {time : Text} {v : Value} (h : reports.toValue? time = some v) :
    reports.AddsUp v := by
  obtain ⟨data, hData, rfl⟩ := Option.map_eq_some_iff.mp h
  have hEntries := forall₂_of_mapM hData
  have hTotals : reports.totals = _ := foldl_add {} reports.entries
  refine ⟨Value.field?_record _ "total_apps_analyzed", data, Value.field?_record _ "apps_data",
    hEntries, ?_, ?_, ?_, ?_, ?_⟩
  · rw [sum?_of_forall₂ (fun _ _ hFigures => hFigures.assets) hEntries, hTotals]
    simp [Nat.cast_list_sum, Function.comp_def]
  · rw [sum?_of_forall₂ (fun _ _ hFigures => hFigures.files) hEntries, hTotals]
    simp [Nat.cast_list_sum, Function.comp_def]
  · rw [sum?_of_forall₂ (fun _ _ hFigures => hFigures.dependencies) hEntries, hTotals]
    simp [Nat.cast_list_sum, Function.comp_def]
  · rw [sum?_of_forall₂ (fun _ _ hFigures => hFigures.exports) hEntries, hTotals]
    simp [Nat.cast_list_sum, Function.comp_def]
  · rw [sum?_of_forall₂ (fun _ _ hFigures => hFigures.bytes) hEntries, hTotals]
    simp

/-- Reports that are stored one after another leave the last one of each app, in the order in which the
apps came first, and the mapping of them adds up. It fails only when a size has no text. -/
theorem stored_reports_add_up (stored : List Report) (time : Text) :
    (storeAll stored).entries = (appsOf stored).filterMap (latest? stored) ∧
      (storeAll stored).entries.map (·.app) = appsOf stored ∧
      (storeAll stored).size = (stored.map (·.app)).dedup.length ∧
      (∀ report, ((storeAll stored).store report).entries.filter (·.app ≠ report.app) =
          (storeAll stored).entries.filter (·.app ≠ report.app) ∧
        ((storeAll stored).store report).entries.map (·.app) =
          if report.app ∈ appsOf stored then appsOf stored else appsOf stored ++ [report.app]) ∧
      (∀ r ∈ stored, r.total =
        r.assets.length + r.findings.files.length + r.dependencyCount + r.exportCount) ∧
      ((storeAll stored).toValue? time = none ↔
        ∃ r ∈ (storeAll stored).entries, (FileSize.beyond : Int) ≤ r.assetBytes) ∧
      ∀ v, (storeAll stored).toValue? time = some v → (storeAll stored).AddsUp v := by
  have hApps := map_app_storeAll stored
  refine ⟨entries_storeAll stored, hApps, ?_, fun report => ⟨filter_store _ report, ?_⟩,
    fun r _ => r.total_eq, toValue?_eq_none_iff _ time, fun v => addsUp_of_toValue?⟩
  · have hLength := congrArg List.length hApps
    rw [List.length_map] at hLength
    rw [size, hLength, appsOf, List.length_reverse]
    exact (List.reverse_perm _).dedup.length_eq
  · rw [← hApps]
    exact map_app_put report _

/-- An app, another one, and the first one again with one more asset. -/
theorem stored_again_adds_up :
    let asset : UnusedAsset := ⟨"a.png".toList, .ofText "/p/a.png".toList, 1500, "1.46 KB".toList⟩
    let first : Report := ⟨"a".toList, .ofText "/p".toList, [asset], {}, Status.skipped, [], []⟩
    let stored := [first, { first with app := "b".toList }, { first with assets := [asset, asset] }]
    (storeAll stored).totals = { assets := 3, bytes := 4500 } ∧
      ∃ v, (storeAll stored).toValue? [] = some v ∧ (storeAll stored).AddsUp v := by
  intro asset first stored
  obtain ⟨-, -, -, -, -, hNone, hAddsUp⟩ := stored_reports_add_up stored []
  refine ⟨by decide, ?_⟩
  cases hValue : (storeAll stored).toValue? [] with
  | none => exact absurd (hNone.mp hValue) (by decide +kernel)
  | some v => exact ⟨v, rfl, hAddsUp v hValue⟩

end Reports

end AssetAudit
