import AssetAudit.Proofs.Json.RoundTrip
import AssetAudit.Proofs.Report.Totals
import AssetAudit.Proofs.Value.Json
import Mathlib.Algebra.Order.BigOperators.Group.List

/-!
# Documents of reports

A document of reports is read back as the mapping that was written. Sizes that have a text are short
enough for that, and so are the numbers of things as long as they can be counted with as many digits as
are read.
-/
namespace AssetAudit

open Json (IsReadable)

namespace Json

theorem isReadable_mono {m k : Int} (hm : 0 ≤ m) (hmk : m ≤ k) (h : IsReadable k) : IsReadable m :=
  (Text.length_ofNat_mono (by omega)).trans h

end Json

namespace FileSize

theorem isReadable_of_format? {bytes : Int} {text : Text} (hBytes : 0 ≤ bytes)
    (h : format? bytes = some text) : IsReadable bytes := by
  have hBelow : ¬(beyond : Int) ≤ bytes := by
    rw [← format?_eq_none_iff, h]
    nofun
  have hNat : bytes.natAbs < beyond := by omega
  -- With the exponent written out, the power would be evaluated again and again.
  have hShort : ∀ {n e}, 0 < e → n < Decimal.leastReaching 53 e → (Text.ofNat n).length ≤ e :=
    fun he hn => Text.length_ofNat_le he (Nat.lt_of_lt_of_le hn (Nat.sub_le _ _))
  exact (hShort (by decide) hNat).trans (by decide)

end FileSize

namespace Value

variable {fields : List (String × Value)}

theorem comesBack_record (hNames : (fields.map (·.1)).Nodup)
    (h : ∀ field ∈ fields, field.2.ComesBack) : (record fields).ComesBack :=
  .map (distinct_record hNames) (isText_of_mem_keys_record fields) (List.forall_mem_map.mpr h)

end Value

def Findings.ComesBack (f : Findings) : Prop :=
  ∀ category ∈ f.categories, ∀ item ∈ category.2, item.ComesBack

namespace Report

variable {r : Report}

structure ComesBack (r : Report) : Prop where
  findings : r.findings.ComesBack
  sizes : ∀ a ∈ r.assets, 0 ≤ a.size

theorem comesBack_text (t : Text) : (Value.text t).ComesBack :=
  .scalar trivial

theorem comesBack_int {n : Int} (h : IsReadable n) : (Value.int n).ComesBack :=
  .scalar h

/-- A number of things in a report is no larger than the number of all. -/
theorem comesBack_count {n : Nat} (hTotal : IsReadable r.total) (hn : n ≤ r.total) :
    (Value.int n).ComesBack :=
  comesBack_int (Json.isReadable_mono (Int.natCast_nonneg n) (Int.ofNat_le.mpr hn) hTotal)

theorem comesBack_assetValue {a : UnusedAsset} (h : IsReadable a.size) :
    (r.assetValue a).ComesBack := by
  apply Value.comesBack_record (by simp)
  simp only [List.forall_mem_cons]
  exact ⟨comesBack_text _, comesBack_int h, comesBack_text _, nofun⟩

theorem comesBack_toValue? {v : Value} (h : r.ComesBack) (hTotal : IsReadable r.total)
    (hv : r.toValue? = some v) : v.ComesBack := by
  obtain ⟨size, hSize, rfl⟩ := Option.map_eq_some_iff.mp hv
  have hCounts := r.total_eq
  have hSizes : ∀ n ∈ r.assets.map (·.size), 0 ≤ n := List.forall_mem_map.mpr h.sizes
  have hBytes : IsReadable r.assetBytes := by
    apply FileSize.isReadable_of_format? _ hSize
    rw [assetBytes_eq]
    exact List.sum_nonneg hSizes
  have hAssets : ∀ a ∈ r.assets, (r.assetValue a).ComesBack := by
    intro a hMem
    apply comesBack_assetValue
    apply Json.isReadable_mono (h.sizes a hMem) _ hBytes
    rw [assetBytes_eq]
    exact List.single_le_sum hSizes _ (List.mem_map_of_mem hMem)
  have hItems := h.findings
  simp only [Findings.ComesBack, Findings.categories, List.forall_mem_cons] at hItems
  obtain ⟨hFiles, hDependencies, hDev, hExports, hTypes, -⟩ := hItems
  have hError : (optionalText r.findings.error).ComesBack := by
    unfold optionalText
    split
    · exact comesBack_text _
    · exact .scalar trivial
  apply Value.comesBack_record (by simp)
  simp only [List.forall_mem_cons]
  refine ⟨comesBack_text _, Value.comesBack_record (by simp) ?_, Value.comesBack_record (by simp) ?_,
    Value.comesBack_record (by simp) ?_, Value.comesBack_record (by simp) ?_, comesBack_text _, hError,
    nofun⟩
  · simp only [List.forall_mem_cons]
    exact ⟨comesBack_count hTotal (by omega), comesBack_int hBytes, comesBack_text _,
      .list (List.forall_mem_map.mpr hAssets), nofun⟩
  · simp only [List.forall_mem_cons]
    exact ⟨comesBack_count hTotal (by omega), .list hFiles, nofun⟩
  · simp only [List.forall_mem_cons]
    exact ⟨comesBack_count hTotal (by omega), .list hDependencies, .list hDev, nofun⟩
  · simp only [List.forall_mem_cons]
    exact ⟨comesBack_count hTotal (by omega), .list hExports, .list hTypes, nofun⟩

end Report

namespace Reports

variable {reports : Reports} {time : Text}

/-- Every number of things in the reports has as many digits as are read, or less. -/
structure IsCountable (reports : Reports) : Prop where
  apps : IsReadable reports.size
  totals : ∀ r ∈ reports.entries, IsReadable r.total

structure ComesBack (reports : Reports) : Prop where
  apps : (reports.entries.map (·.app)).Nodup
  reports : ∀ r ∈ reports.entries, r.ComesBack

theorem comesBack_none : ({} : Reports).ComesBack :=
  ⟨List.nodup_nil, nofun⟩

theorem eq_or_mem_of_mem_put {report r : Report} {entries : List Report} (h : r ∈ put report entries) :
    r = report ∨ r ∈ entries := by
  induction entries with
  | nil => exact .inl (List.mem_singleton.mp h)
  | cons first rest ih =>
    unfold put at h
    split at h
    · rcases List.mem_cons.mp h with rfl | hRest
      · exact .inl rfl
      · exact .inr (List.mem_cons_of_mem _ hRest)
    · rcases List.mem_cons.mp h with rfl | hRest
      · exact .inr List.mem_cons_self
      · exact (ih hRest).imp_right (List.mem_cons_of_mem _)

theorem ComesBack.store (h : reports.ComesBack) {report : Report} (hReport : report.ComesBack) :
    (reports.store report).ComesBack := by
  refine ⟨nodup_store h.apps report, ?_⟩
  intro r hMem
  rcases eq_or_mem_of_mem_put hMem with rfl | hOld
  · exact hReport
  · exact h.reports r hOld

theorem exists_standsFor {entries : List Report} {data : Entries Value} {entry : Scalar × Value}
    (h : List.Forall₂ StandsFor entries data) (hMem : entry ∈ data) :
    ∃ r ∈ entries, StandsFor r entry := by
  induction h with
  | nil => cases hMem
  | cons hFirst _ ih =>
    rcases List.mem_cons.mp hMem with rfl | hRest
    · exact ⟨_, List.mem_cons_self, hFirst⟩
    · obtain ⟨r, hReport, hStands⟩ := ih hRest
      exact ⟨r, List.mem_cons_of_mem _ hReport, hStands⟩

theorem comesBack_toValue? {v : Value} (h : reports.ComesBack) (hCountable : reports.IsCountable)
    (hv : reports.toValue? time = some v) : v.ComesBack := by
  obtain ⟨data, hData, rfl⟩ := Option.map_eq_some_iff.mp hv
  have hKeys : data.map (·.1) = (reports.entries.map (·.app)).map Scalar.text := by
    rw [map_key_of_mapM hData, List.map_map]
    rfl
  have hEntries : (Value.map data).ComesBack := by
    constructor
    · unfold Entries.Distinct Entries.keys
      rw [hKeys]
      apply List.pairwise_map.mpr
      apply h.apps.imp
      intro a b hNe
      apply Bool.eq_false_iff.mpr
      intro hSame
      exact hNe (Scalar.text.inj ((Scalar.same_text_iff _ _).mp hSame))
    · intro key hMem
      change key ∈ data.map (·.1) at hMem
      rw [hKeys] at hMem
      obtain ⟨app, -, rfl⟩ := List.mem_map.mp hMem
      exact ⟨app, rfl⟩
    · intro entry hMem
      obtain ⟨r, hReport, hStands⟩ := exists_standsFor (forall₂_of_mapM hData) hMem
      exact Report.comesBack_toValue? (h.reports r hReport) (hCountable.totals r hReport) hStands.value
  apply Value.comesBack_record (by simp)
  simp only [List.forall_mem_cons]
  exact ⟨Report.comesBack_text _, Report.comesBack_int hCountable.apps, hEntries, nofun⟩

theorem read_document? {document : Text} (h : reports.ComesBack)
    (hDocument : reports.document? time = some document) : ∃ v, reports.toValue? time = some v ∧
      (reports.IsCountable → Json.read (document ++ ['\n']) = .ok v) := by
  obtain ⟨v, hv, hPretty⟩ := Option.bind_eq_some_iff.mp hDocument
  refine ⟨v, hv, ?_⟩
  intro hCountable
  obtain ⟨t, hWritten, hRead⟩ := Json.read_written (comesBack_toValue? h hCountable hv) ⟨some 2⟩
  have hSame : Json.pretty v = .ok t := hWritten
  rw [hSame] at hPretty
  cases hPretty
  exact hRead

end Reports

end AssetAudit
