import AssetAudit.Proofs.Settings.Merged
import AssetAudit.Proofs.Value.Identity
import AssetAudit.Proofs.Value.Json

/-!
# Layers laid over each other

Under every key a merged mapping has the value of the upper layer, unless that is missing or null and
leaves the lower one, or both are mappings and are merged in turn. The keys of the lower layer keep
their places, and new ones follow. A mapping absorbs a layer when it has all that the layer could give
it, and then merging changes nothing: so it is when a layer is laid over a second time, and when a
mapping is laid over itself.
-/
namespace AssetAudit

namespace Entries

variable {α : Type}

theorem getText?_of_mem {entries : Entries α} (hDistinct : entries.Distinct) {name : Text} {value : α}
    (h : (.text name, value) ∈ entries) : entries.getText? name = some value := by
  induction entries with
  | nil => exact absurd h List.not_mem_nil
  | cons entry rest ih =>
    obtain ⟨key, first⟩ := entry
    obtain ⟨hFirst, hRest⟩ := List.pairwise_cons.mp hDistinct
    rw [getText?, get?_cons]
    rcases List.mem_cons.mp h with hHere | hLater
    · obtain ⟨rfl, rfl⟩ := Prod.mk.inj hHere
      rw [if_pos ((Scalar.same_text_iff _ _).mpr rfl)]
    · rw [hFirst _ (List.mem_map_of_mem hLater), if_neg Bool.false_ne_true]
      exact ih hRest hLater

/-- Mappings from texts are the same when they have the same keys in the same order, and under each the
same value. -/
theorem ext_of_texts {these those : Entries α} (hTexts : ∀ key ∈ these.keys, key.IsText)
    (hThese : these.Distinct) (hThose : those.Distinct) (hKeys : these.keys = those.keys)
    (h : ∀ name, these.getText? name = those.getText? name) : these = those := by
  apply List.ext_getElem
  · simpa [keys] using congrArg List.length hKeys
  · intro i hi hi'
    have hKey : these[i].1 = those[i].1 := by
      have hSame : these.keys[i]? = those.keys[i]? := congrArg (·[i]?) hKeys
      simpa [keys, hi, hi'] using hSame
    obtain ⟨name, hName⟩ := hTexts _ (List.mem_map_of_mem (List.getElem_mem hi))
    have hHere : these.getText? name = some these[i].2 :=
      getText?_of_mem hThese (hName ▸ List.getElem_mem hi)
    have hThere : those.getText? name = some those[i].2 :=
      getText?_of_mem hThose (hName ▸ hKey ▸ List.getElem_mem hi')
    rw [h name, hThere] at hHere
    exact Prod.ext hKey (Option.some.inj hHere).symm

end Entries

namespace Value

theorem isNull_eq_false {v : Value} (h : v ≠ .null) : v.isNull = false := by
  unfold isNull
  split
  · exact absurd rfl h
  · rfl

theorem IsJson.orderly {v : Value} (h : v.IsJson) : Orderly Scalar.IsText v := by
  induction h with
  | scalar _ => exact .scalar _
  | list _ ih => exact .list ih
  | map distinct texts _ ih => exact .map distinct texts ih

end Value

namespace Settings

open Value (Orderly)
open Entries

theorem overlay_of_no_maps {below : Option Value} {value : Value}
    (h : ∀ lower inner, ¬(below = some (.map lower) ∧ value = .map inner)) :
    overlay below value = value := by
  unfold overlay
  split
  · exact absurd ⟨rfl, rfl⟩ (h _ _)
  · rfl

variable {kind : Scalar → Prop} {base upper : Entries Value}

mutual

theorem orderly_merge (upper : Entries Value) {base : Entries Value}
    (hBase : Orderly kind (.map base)) (hUpper : Orderly kind (.map upper)) :
    Orderly kind (.map (merge base upper)) := by
  match upper with
  | [] => exact hBase
  | (key, value) :: rest =>
    have hKey : kind key := hUpper.kinds key List.mem_cons_self
    have hValue : Orderly kind value := hUpper.values _ List.mem_cons_self
    exact orderly_merge rest (orderly_mergeEntry value hBase hKey hValue) hUpper.tail

theorem orderly_mergeEntry (value : Value) {base : Entries Value} {key : Scalar}
    (hBase : Orderly kind (.map base)) (hKey : kind key) (hValue : Orderly kind value) :
    Orderly kind (.map (mergeEntry base key value)) := by
  rw [mergeEntry_eq]
  split
  · exact hBase
  · apply hBase.insert hKey
    match value with
    | .map inner =>
      cases hGet : base.get? key with
      | none => exact hValue
      | some below =>
        cases below with
        | map lower => exact orderly_merge inner (hBase.get? hGet) hValue
        | scalar s | list items | tuple items | set items => exact hValue
    | .scalar s | .list items | .tuple items | .set items =>
      rw [overlay_of_not_map (.inl rfl)]
      exact hValue

end

theorem keys_mergeEntry (hBase : Orderly Scalar.IsText (.map base)) (key : Scalar) (value : Value) :
    (mergeEntry base key value).keys =
      if value.isNull = false ∧ key ∉ base.keys then base.keys ++ [key] else base.keys := by
  have hAny : base.keys.any (·.same key) = true ↔ key ∈ base.keys := by
    rw [List.any_eq_true]
    constructor
    · rintro ⟨k, hMem, hSame⟩
      obtain ⟨t, rfl⟩ := hBase.kinds k hMem
      exact (Scalar.text_same_iff t key).mp hSame ▸ hMem
    · intro hMem
      obtain ⟨t, rfl⟩ := hBase.kinds key hMem
      exact ⟨_, hMem, (Scalar.same_text_iff _ _).mpr rfl⟩
  rw [mergeEntry_eq]
  cases value.isNull with
  | true => rfl
  | false =>
    rw [if_neg Bool.false_ne_true, keys_insert]
    by_cases hMem : key ∈ base.keys
    · rw [if_pos (hAny.mpr hMem), if_neg fun h => h.2 hMem]
    · rw [if_neg fun h => hMem (hAny.mp h), if_pos ⟨rfl, hMem⟩]

def added (base upper : Entries Value) : Entries Value :=
  upper.filter fun entry => !entry.2.isNull && decide (entry.1 ∉ base.keys)

theorem mem_added_iff (base upper : Entries Value) (entry : Scalar × Value) :
    entry ∈ added base upper ↔ entry ∈ upper ∧ entry.2.isNull = false ∧ entry.1 ∉ base.keys := by
  rw [added, List.mem_filter, Bool.and_eq_true, Bool.not_eq_true', decide_eq_true_iff]

/-- New keys follow in the order of their layer. -/
theorem keys_merge (hBase : Orderly Scalar.IsText (.map base))
    (hUpper : Orderly Scalar.IsText (.map upper)) :
    (merge base upper).keys = base.keys ++ (added base upper).keys := by
  induction upper generalizing base with
  | nil => exact (List.append_nil _).symm
  | cons entry rest ih =>
    obtain ⟨key, value⟩ := entry
    obtain ⟨hFirst, -⟩ := List.pairwise_cons.mp hUpper.distinct
    obtain ⟨t, rfl⟩ := hUpper.kinds key List.mem_cons_self
    have hNext := orderly_mergeEntry value hBase ⟨t, rfl⟩ (hUpper.values _ List.mem_cons_self)
    -- the key that is added is none of those to come
    have hLater : ∀ e ∈ rest, e.1 ≠ .text t := by
      intro e hMem hSame
      have hOther := hFirst e.1 (List.mem_map_of_mem hMem)
      rw [hSame, (Scalar.same_text_iff _ _).mpr rfl] at hOther
      cases hOther
    rw [merge, ih hNext hUpper.tail, added, added, keys_mergeEntry hBase]
    by_cases hNew : value.isNull = false ∧ Scalar.text t ∉ base.keys
    · have hRest : (rest.filter fun e => !e.2.isNull && decide (e.1 ∉ base.keys ++ [.text t])) =
          rest.filter fun e => !e.2.isNull && decide (e.1 ∉ base.keys) := by
        refine List.filter_congr fun e hMem => ?_
        simp [hLater e hMem]
      rw [if_pos hNew, hRest, List.filter_cons_of_pos (by simpa using hNew), List.append_assoc]
      rfl
    · have hOld : ¬(!value.isNull && decide (Scalar.text t ∉ base.keys)) = true := by
        simpa using hNew
      rw [if_neg hNew, List.filter_cons, if_neg hOld]

/-- What a layer would lay over a mapping is there already. -/
def Absorbs (base upper : Entries Value) : Prop :=
  ∀ name value, upper.getText? name = some value → value.isNull = false →
    ∃ below, base.getText? name = some below ∧ overlay (some below) value = below

theorem merge_of_absorbs (hBase : Orderly Scalar.IsText (.map base))
    (hUpper : Orderly Scalar.IsText (.map upper)) (h : Absorbs base upper) :
    merge base upper = base := by
  have hMerged := orderly_merge upper hBase hUpper
  apply ext_of_texts hMerged.kinds hMerged.distinct hBase.distinct
  · rw [keys_merge hBase hUpper]
    have hNone : added base upper = [] := by
      rw [List.eq_nil_iff_forall_not_mem]
      rintro ⟨key, value⟩ hAdded
      obtain ⟨hMem, hNull, hNew⟩ := (mem_added_iff _ _ _).mp hAdded
      obtain ⟨t, rfl⟩ := hUpper.kinds key (List.mem_map_of_mem hMem)
      obtain ⟨below, hBelow, -⟩ := h t value (getText?_of_mem hUpper.distinct hMem) hNull
      obtain ⟨k, hEntry, hSame⟩ := exists_of_get? hBelow
      rw [(Scalar.same_text_iff _ _).mp hSame] at hEntry
      have hOld : Scalar.text t ∈ base.keys := List.mem_map_of_mem hEntry
      exact hNew hOld
    rw [hNone]
    exact List.append_nil _
  · intro name
    rw [getText?_merge hUpper.distinct]
    cases hGet : (upper.getText? name).filter (!·.isNull) with
    | none => rfl
    | some value =>
      obtain ⟨hSome, hNull⟩ := Option.filter_eq_some_iff.mp hGet
      obtain ⟨below, hBelow, hSame⟩ := h name value hSome (by simpa using hNull)
      rw [hBelow]
      exact congrArg some hSame

theorem overlay_self {v : Value} (h : Orderly Scalar.IsText v) : overlay (some v) v = v := by
  induction h with
  | scalar s => rfl
  | list _ _ => rfl
  | tuple _ _ => rfl
  | set items => rfl
  | @map entries distinct kinds values ih =>
    have hEntries : Orderly Scalar.IsText (.map entries) := .map distinct kinds values
    refine congrArg Value.map (merge_of_absorbs hEntries hEntries fun name value hGet _ => ?_)
    obtain ⟨k, hMem, -⟩ := exists_of_get? hGet
    exact ⟨value, hGet, ih _ hMem⟩

theorem merge_self (h : Orderly Scalar.IsText (.map base)) : merge base base = base :=
  Value.map.inj (overlay_self h)

/-- What has been laid over a value is absorbed by it. -/
theorem overlay_overlay {v : Value} (h : Orderly Scalar.IsText v) (below : Option Value)
    (hBelow : ∀ w ∈ below, Orderly Scalar.IsText w) :
    overlay (some (overlay below v)) v = overlay below v := by
  induction h generalizing below with
  | scalar s | set items => rw [overlay_of_not_map (.inl rfl), overlay_of_not_map (.inl rfl)]
  | list _ _ | tuple _ _ => rw [overlay_of_not_map (.inl rfl), overlay_of_not_map (.inl rfl)]
  | @map inner distinct kinds values ih =>
    have hInner : Orderly Scalar.IsText (.map inner) := .map distinct kinds values
    by_cases hLower : ∃ lower, below = some (.map lower)
    · obtain ⟨lower, rfl⟩ := hLower
      have hLower : Orderly Scalar.IsText (.map lower) := hBelow _ rfl
      refine congrArg Value.map ?_
      refine merge_of_absorbs (orderly_merge inner hLower hInner) hInner fun name value hGet hNull => ?_
      obtain ⟨k, hMem, -⟩ := exists_of_get? hGet
      refine ⟨overlay (Entries.getText? lower name) value, ?_, ih _ hMem _ fun w hw => hLower.get? hw⟩
      rw [getText?_merge distinct, hGet, Option.filter_some, hNull]
      rfl
    · rw [overlay_of_no_maps fun lower _ hBoth => hLower ⟨lower, hBoth.1⟩]
      exact overlay_self hInner

theorem merge_merge (hBase : Orderly Scalar.IsText (.map base))
    (hUpper : Orderly Scalar.IsText (.map upper)) :
    merge (merge base upper) upper = merge base upper :=
  Value.map.inj (overlay_overlay hUpper (some (.map base)) fun _ hw => Option.some.inj hw ▸ hBase)

/-- A mapping laid over another counts key by key: a key that the upper layer lacks or gives a null for
keeps its value or stays away, mappings under one key are merged, and any other value is taken over. The
keys of the lower layer come first. Laying the layer over once more changes nothing, nor does laying a
mapping over itself. -/
theorem merge_goes_by_key (hBase : Orderly Scalar.IsText (.map base))
    (hUpper : Orderly Scalar.IsText (.map upper)) :
    (∀ name, upper.getText? name = none ∨ upper.getText? name = some .null →
      (merge base upper).getText? name = base.getText? name) ∧
    (∀ name lower inner, base.getText? name = some (.map lower) →
      upper.getText? name = some (.map inner) →
      (merge base upper).getText? name = some (.map (merge lower inner))) ∧
    (∀ name value, upper.getText? name = some value → value ≠ .null →
      (∀ lower inner, ¬(base.getText? name = some (.map lower) ∧ value = .map inner)) →
      (merge base upper).getText? name = some value) ∧
    (merge base upper).keys = base.keys ++ (added base upper).keys ∧
    merge (merge base upper) upper = merge base upper ∧
    merge base base = base := by
  refine ⟨?_, ?_, ?_, keys_merge hBase hUpper, merge_merge hBase hUpper, merge_self hBase⟩
  · intro name hNothing
    rw [getText?_merge hUpper.distinct]
    rcases hNothing with hNone | hNull
    · rw [hNone]
      rfl
    · rw [hNull]
      rfl
  · intro name lower inner hLower hInner
    rw [getText?_merge hUpper.distinct, hInner, hLower]
    rfl
  · intro name value hValue hNull hMaps
    rw [getText?_merge hUpper.distinct, hValue, Option.filter_some, Value.isNull_eq_false hNull]
    exact congrArg some (overlay_of_no_maps hMaps)

def sectionBelow : Entries Value :=
  [(.text "knip".toList, .map [(.text "enabled".toList, .bool true),
    (.text "commands".toList, .list [.text "a".toList])]), (.text "src_dir".toList, .text "src".toList)]

def sectionAbove : Entries Value :=
  [(.text "report".toList, .map [(.text "path".toList, .null)]), (.text "src_dir".toList, .null),
    (.text "knip".toList, .map [(.text "commands".toList, .list [.text "b".toList])])]

theorem merge_goes_by_key_sections :
    Orderly Scalar.IsText (.map sectionBelow) ∧ Orderly Scalar.IsText (.map sectionAbove) ∧
      (merge sectionBelow sectionAbove).getText? "src_dir".toList = some (.text "src".toList) ∧
      (merge sectionBelow sectionAbove).getText? "report".toList =
        some (.map [(.text "path".toList, .null)]) ∧
      (merge sectionBelow sectionAbove).keys = sectionBelow.keys ++ [.text "report".toList] ∧
      merge (merge sectionBelow sectionAbove) sectionAbove = merge sectionBelow sectionAbove := by
  have hBelow : Orderly Scalar.IsText (.map sectionBelow) :=
    (Value.isJson_sound (by decide +kernel)).orderly
  have hAbove : Orderly Scalar.IsText (.map sectionAbove) :=
    (Value.isJson_sound (by decide +kernel)).orderly
  obtain ⟨hKept, -, hTaken, hKeys, hAgain, -⟩ := merge_goes_by_key hBelow hAbove
  have hNew : sectionBelow.getText? "report".toList = none := by decide +kernel
  have hReport : (merge sectionBelow sectionAbove).getText? "report".toList =
      some (.map [(.text "path".toList, .null)]) := by
    refine hTaken _ _ (by decide +kernel) (fun hNull => nomatch hNull) ?_
    intro lower inner hBoth
    rw [hNew] at hBoth
    cases hBoth.1
  exact ⟨hBelow, hAbove, hKept _ (.inr (by decide +kernel)), hReport,
    hKeys.trans (by decide +kernel), hAgain⟩

end Settings

end AssetAudit
