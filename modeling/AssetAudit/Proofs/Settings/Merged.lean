import AssetAudit.Proofs.Value.Orderly
import AssetAudit.Settings.File
import AssetAudit.Settings.Load

/-!
# Names in merged layers

Keys of different spellings can mean one name, and of such keys the last one counts. Where a name is
spelled in one way only, a merged mapping has under it the value of the upper layer, if that gives
one, and else the value of the lower.
-/
namespace AssetAudit

namespace Entries

variable {α β : Type}

def Agree (meaning : Scalar → β) (entries : Entries α) (key : Scalar) : Prop :=
  ∀ k ∈ entries.keys, k.same key = true → meaning k = meaning key

theorem Agree.tail {meaning : Scalar → β} {key : Scalar} {entry : Scalar × α} {rest : Entries α}
    (h : Agree meaning (entry :: rest) key) : Agree meaning rest key :=
  fun k hMem => h k (List.mem_cons_of_mem _ hMem)

theorem get?_cons (key : Scalar) (value : α) (rest : Entries α) (k : Scalar) :
    get? ((key, value) :: rest) k = if key.same k then some value else rest.get? k := by
  unfold get?
  rw [List.find?_cons]
  cases key.same k <;> rfl

theorem insert_cons (key : Scalar) (value : α) (rest : Entries α) (k : Scalar) (v : α) :
    insert ((key, value) :: rest) k v =
      if key.same k then (key, v) :: rest else (key, value) :: rest.insert k v :=
  rfl

theorem getText?_insert (entries : Entries α) (key : Scalar) (value : α) (name : Text) :
    (entries.insert key value).getText? name =
      if key = .text name then some value else entries.getText? name := by
  unfold getText?
  induction entries with
  | nil =>
    rw [insert, get?_cons]
    by_cases hKey : key = .text name
    · rw [if_pos hKey, if_pos ((Scalar.same_text_iff _ _).mpr hKey)]
    · rw [if_neg hKey, if_neg fun hSame => hKey ((Scalar.same_text_iff _ _).mp hSame)]
  | cons entry rest ih =>
    obtain ⟨k, v⟩ := entry
    rw [insert_cons]
    by_cases hFirst : k = .text name
    · -- the first key is the one that is asked for
      subst hFirst
      by_cases hKey : key = .text name
      · subst hKey
        rw [if_pos ((Scalar.same_text_iff _ _).mpr rfl), get?_cons,
          if_pos ((Scalar.same_text_iff _ _).mpr rfl), if_pos rfl]
      · rw [if_neg fun hSame => hKey ((Scalar.text_same_iff _ _).mp hSame), if_neg hKey, get?_cons,
          get?_cons, if_pos ((Scalar.same_text_iff _ _).mpr rfl)]
        rw [if_pos ((Scalar.same_text_iff _ _).mpr rfl)]
    · have hOther : ¬k.same (.text name) = true := fun hSame =>
        hFirst ((Scalar.same_text_iff _ _).mp hSame)
      rw [get?_cons k v, if_neg hOther]
      by_cases hSame : k.same key = true
      · have hKey : key ≠ .text name := by
          rintro rfl
          exact hOther hSame
        rw [if_pos hSame, get?_cons, if_neg hOther, if_neg hKey]
      · rw [if_neg hSame, get?_cons, if_neg hOther, ih]

theorem get?_of_new {entries : Entries α} {key : Scalar}
    (h : ∀ k ∈ entries.keys, k.same key = false) : entries.get? key = none := by
  induction entries with
  | nil => rfl
  | cons entry rest ih =>
    obtain ⟨k, v⟩ := entry
    obtain ⟨hFirst, hRest⟩ := List.forall_mem_cons.mp h
    rw [get?_cons, hFirst, if_neg Bool.false_ne_true]
    exact ih hRest

variable [DecidableEq β] (meaning : Scalar → β)

def under (entries : Entries α) (name : β) : Entries α :=
  entries.filter fun entry => decide (meaning entry.1 = name)

def Once (entries : Entries α) : Prop :=
  (entries.map fun entry => meaning entry.1).Nodup

instance (entries : Entries α) : Decidable (Once meaning entries) :=
  inferInstanceAs (Decidable (entries.map fun entry => meaning entry.1).Nodup)

def meant? (entries : Entries α) (name : β) : Option α :=
  ((entries.under meaning name).getLast?).map (·.2)

variable {meaning}

theorem under_cons_of_eq {key : Scalar} {name : β} (h : meaning key = name) (value : α)
    (rest : Entries α) : under meaning ((key, value) :: rest) name =
      (key, value) :: under meaning rest name :=
  List.filter_cons_of_pos (decide_eq_true h)

theorem under_cons_of_ne {key : Scalar} {name : β} (h : meaning key ≠ name) (value : α)
    (rest : Entries α) : under meaning ((key, value) :: rest) name = under meaning rest name :=
  List.filter_cons_of_neg (by simpa using h)

theorem mem_under_iff (entries : Entries α) (name : β) (entry : Scalar × α) :
    entry ∈ entries.under meaning name ↔ entry ∈ entries ∧ meaning entry.1 = name := by
  rw [under, List.mem_filter, decide_eq_true_iff]

theorem Once.length_under_le {entries : Entries α} (h : entries.Once meaning) (name : β) :
    (entries.under meaning name).length ≤ 1 := by
  have hNames : (entries.under meaning name).map (fun entry => meaning entry.1) =
      List.replicate (entries.under meaning name).length name := by
    rw [List.eq_replicate_iff, List.length_map]
    refine ⟨rfl, fun n hMem => ?_⟩
    obtain ⟨entry, hEntry, rfl⟩ := List.mem_map.mp hMem
    exact ((mem_under_iff _ _ _).mp hEntry).2
  have hPart : (entries.under meaning name).Sublist entries := List.filter_sublist
  have hNodup := h.sublist (hPart.map _)
  rw [hNames] at hNodup
  exact List.nodup_replicate.mp hNodup

theorem meant?_cons (key : Scalar) (value : α) (rest : Entries α) (name : β) :
    meant? meaning ((key, value) :: rest) name =
      (meant? meaning rest name).or (if meaning key = name then some value else none) := by
  unfold meant?
  by_cases hName : meaning key = name
  · rw [under_cons_of_eq hName, if_pos hName, List.getLast?_cons]
    cases (under meaning rest name).getLast? <;> rfl
  · rw [under_cons_of_ne hName, if_neg hName, Option.or_none]

theorem mem_of_meant? {entries : Entries α} {name : β} {value : α}
    (h : entries.meant? meaning name = some value) :
    ∃ key, (key, value) ∈ entries.under meaning name := by
  obtain ⟨entry, hLast, rfl⟩ := Option.map_eq_some_iff.mp h
  exact ⟨entry.1, List.mem_of_getLast? hLast⟩

theorem under_insert {entries : Entries α} {key : Scalar} (h : Agree meaning entries key)
    (value : α) (name : β) :
    (entries.insert key value).under meaning name =
      if meaning key = name then (entries.under meaning name).insert key value
      else entries.under meaning name := by
  induction entries with
  | nil =>
    by_cases hName : meaning key = name
    · rw [if_pos hName]
      exact under_cons_of_eq hName value []
    · rw [if_neg hName]
      exact under_cons_of_ne hName value []
  | cons entry rest ih =>
    obtain ⟨k, v⟩ := entry
    rw [insert_cons]
    cases hSame : k.same key with
    | true =>
      have hMeans : meaning k = meaning key := h k List.mem_cons_self hSame
      rw [if_pos rfl]
      by_cases hName : meaning key = name
      · rw [if_pos hName, under_cons_of_eq (hMeans.trans hName),
          under_cons_of_eq (hMeans.trans hName), insert_cons, hSame, if_pos rfl]
      · have hOther : meaning k ≠ name := hMeans ▸ hName
        rw [if_neg hName, under_cons_of_ne hOther, under_cons_of_ne hOther]
    | false =>
      rw [if_neg Bool.false_ne_true]
      by_cases hFirst : meaning k = name
      · rw [under_cons_of_eq hFirst, under_cons_of_eq hFirst, ih h.tail, insert_cons, hSame,
          if_neg Bool.false_ne_true]
        split <;> rfl
      · rw [under_cons_of_ne hFirst, under_cons_of_ne hFirst, ih h.tail]

theorem get?_under {entries : Entries α} {key : Scalar} (h : Agree meaning entries key) :
    (entries.under meaning (meaning key)).get? key = entries.get? key := by
  induction entries with
  | nil => rfl
  | cons entry rest ih =>
    obtain ⟨k, v⟩ := entry
    rw [get?_cons]
    cases hSame : k.same key with
    | true =>
      rw [under_cons_of_eq (h k List.mem_cons_self hSame), get?_cons, hSame, if_pos rfl, if_pos rfl]
    | false =>
      rw [if_neg Bool.false_ne_true, ← ih h.tail]
      by_cases hFirst : meaning k = meaning key
      · rw [under_cons_of_eq hFirst, get?_cons, hSame, if_neg Bool.false_ne_true]
      · rw [under_cons_of_ne hFirst]

end Entries

namespace Settings

open Entries

theorem eq_map_of_asMapping? {v : Value} {entries : Entries Value}
    (h : asMapping? v = some entries) : v = .map entries := by
  cases v with
  | map _ => exact congrArg Value.map (Option.some.inj h)
  | scalar s => cases h
  | list items => cases h
  | tuple items => cases h
  | set items => cases h

theorem exists_of_asMapping? {v : Value} (h : (asMapping? v).isSome) :
    ∃ entries, v = .map entries := by
  obtain ⟨entries, hSome⟩ := Option.isSome_iff_exists.mp h
  exact ⟨entries, eq_map_of_asMapping? hSome⟩

/-- What a value comes to that is laid over another under the same key. -/
def overlay (below : Option Value) (value : Value) : Value :=
  match below, value with
  | some (.map below), .map inner => .map (merge below inner)
  | _, value => value

theorem mergeEntry_eq (base : Entries Value) (key : Scalar) (value : Value) :
    mergeEntry base key value =
      if value.isNull then base else base.insert key (overlay (base.get? key) value) := by
  cases value with
  | scalar s => cases s <;> simp [mergeEntry, Value.isNull, overlay]
  | list items | tuple items | set items => simp [mergeEntry, Value.isNull, overlay]
  | map inner =>
    rw [mergeEntry]
    cases base.get? key with
    | none => rfl
    | some below => cases below <;> rfl

theorem overlay_of_not_map {below : Option Value} {value : Value}
    (h : asMapping? value = none ∨ below.bind asMapping? = none) : overlay below value = value := by
  unfold overlay
  split
  · rcases h with h | h
    · cases h
    · cases h
  · rfl

variable {β : Type} [DecidableEq β] {meaning : Scalar → β} {base upper : Entries Value}

theorem mem_keys_mergeEntry {key k : Scalar} {value : Value}
    (h : k ∈ (mergeEntry base key value).keys) : k = key ∨ k ∈ base.keys := by
  rw [mergeEntry_eq] at h
  split at h
  · exact .inr h
  · exact mem_keys_insert h

theorem under_mergeEntry {key : Scalar} (h : Agree meaning base key) (value : Value) (name : β) :
    (mergeEntry base key value).under meaning name =
      if meaning key = name then mergeEntry (base.under meaning name) key value
      else base.under meaning name := by
  rw [mergeEntry_eq, mergeEntry_eq]
  cases value.isNull with
  | true =>
    rw [if_pos rfl, if_pos rfl]
    split <;> rfl
  | false =>
    rw [if_neg Bool.false_ne_true, if_neg Bool.false_ne_true, under_insert h]
    by_cases hName : meaning key = name
    · subst hName
      rw [get?_under h]
    · rw [if_neg hName, if_neg hName]

omit [DecidableEq β] in
theorem agree_mergeEntry {key : Scalar} {keys : List Scalar}
    (hFirst : ∀ k ∈ keys, key.same k = false) (hAgree : ∀ k ∈ keys, Agree meaning base k)
    (value : Value) : ∀ k ∈ keys, Agree meaning (mergeEntry base key value) k := by
  intro k hMem b hBase hSame
  rcases mem_keys_mergeEntry hBase with rfl | hOld
  · rw [hFirst k hMem] at hSame
    cases hSame
  · exact hAgree k hMem b hOld hSame

/-- Merging can be seen name by name. -/
theorem under_merge (hDistinct : upper.Distinct)
    (hAgree : ∀ key ∈ upper.keys, Agree meaning base key)
    (name : β) :
    (merge base upper).under meaning name =
      merge (base.under meaning name) (upper.under meaning name) := by
  induction upper generalizing base with
  | nil => rfl
  | cons entry rest ih =>
    obtain ⟨key, value⟩ := entry
    obtain ⟨hFirst, hRest⟩ := List.pairwise_cons.mp hDistinct
    have hLater : ∀ k ∈ keys rest, Agree meaning base k := fun k hMem =>
      hAgree k (List.mem_cons_of_mem _ hMem)
    -- no later key is the same as this one, so that what it adds bears on none of them
    have hNext := agree_mergeEntry hFirst hLater value
    rw [merge, ih hRest hNext, under_mergeEntry (hAgree key List.mem_cons_self)]
    by_cases hName : meaning key = name
    · rw [if_pos hName, under_cons_of_eq hName, merge]
    · rw [if_neg hName, under_cons_of_ne hName]

/-- Of a name that both layers spell in one way only, the value of the upper layer counts. -/
theorem meant?_merge (hDistinct : upper.Distinct)
    (hAgree : ∀ key ∈ upper.keys, Agree meaning base key)
    (hBase : base.Once meaning) (hUpper : upper.Once meaning) {name : β}
    (hMaps : (upper.meant? meaning name).bind asMapping? = none ∨
      (base.meant? meaning name).bind asMapping? = none) :
    (merge base upper).meant? meaning name =
      ((upper.meant? meaning name).filter (!·.isNull)).or (base.meant? meaning name) := by
  unfold meant? at hMaps ⊢
  rw [under_merge hDistinct hAgree]
  have hLower := hBase.length_under_le name
  generalize base.under meaning name = lower at hLower hMaps ⊢
  match hThese : upper.under meaning name, hUpper.length_under_le name with
  | [], _ => rfl
  | [(key, value)], _ =>
    rw [hThese] at hMaps
    have hOverlay : ∀ {k below}, lower = [(k, below)] → overlay (some below) value = value := by
      rintro k below rfl
      exact overlay_of_not_map hMaps
    rw [merge, merge, mergeEntry_eq]
    cases hNull : value.isNull with
    | true => simp [Option.filter, hNull]
    | false =>
      rw [if_neg Bool.false_ne_true]
      match lower, hLower with
      | [], _ => simp [Option.filter, Entries.get?, Entries.insert, overlay, hNull]
      | [(k, below)], _ =>
        rw [get?_cons, insert_cons]
        cases k.same key with
        | true => simp [Option.filter, hOverlay rfl, hNull]
        | false => simp [Option.filter, Entries.get?, Entries.insert, overlay, hNull]

theorem under_merge_map (hDistinct : upper.Distinct)
    (hAgree : ∀ key ∈ upper.keys, Agree meaning base key) {name : β} {key k : Scalar}
    {lower inner : Entries Value} (hSame : k.same key = true)
    (hBase : base.under meaning name = [(k, .map lower)])
    (hUpper : upper.under meaning name = [(key, .map inner)]) :
    (merge base upper).under meaning name = [(k, .map (merge lower inner))] := by
  rw [under_merge hDistinct hAgree, hBase, hUpper, merge, merge, mergeEntry_eq, get?_cons, hSame,
    if_neg (by simp [Value.isNull]), if_pos rfl, insert_cons, hSame, if_pos rfl]
  rfl

theorem getText?_mergeEntry (base : Entries Value) (key : Scalar) (value : Value) (name : Text) :
    (mergeEntry base key value).getText? name =
      if key = .text name ∧ value.isNull = false then some (overlay (base.getText? name) value)
      else base.getText? name := by
  rw [mergeEntry_eq]
  cases value.isNull with
  | true => rw [if_pos rfl, if_neg fun h => Bool.false_ne_true h.2.symm]
  | false =>
    rw [if_neg Bool.false_ne_true, getText?_insert]
    by_cases hKey : key = .text name
    · rw [if_pos hKey, if_pos ⟨hKey, rfl⟩, hKey]
      rfl
    · rw [if_neg hKey, if_neg fun h => hKey h.1]

theorem getText?_merge (hDistinct : upper.Distinct) (name : Text) :
    (merge base upper).getText? name =
      match (upper.getText? name).filter (!·.isNull) with
      | some value => some (overlay (base.getText? name) value)
      | none => base.getText? name := by
  induction upper generalizing base with
  | nil => rfl
  | cons entry rest ih =>
    obtain ⟨key, value⟩ := entry
    obtain ⟨hFirst, hRest⟩ := List.pairwise_cons.mp hDistinct
    rw [merge, ih hRest, getText?_mergeEntry, getText?, getText?, getText?, get?_cons]
    by_cases hKey : key = .text name
    · subst hKey
      rw [get?_of_new fun k hMem => ?_, if_pos ((Scalar.same_text_iff _ _).mpr rfl)]
      · cases hNull : value.isNull with
        | true => simp [Option.filter, hNull]
        | false => simp [Option.filter, hNull]
      · refine Bool.eq_false_iff.mpr fun hSame => ?_
        rw [(Scalar.same_text_iff _ _).mp hSame] at hMem
        exact absurd (hFirst _ hMem) (by simp [Scalar.same_text_iff])
    · rw [if_neg fun h => hKey h.1, if_neg fun hSame => hKey ((Scalar.same_text_iff _ _).mp hSame)]

/-- A mapping whose keys are all new is added as it is, but for its nulls. -/
theorem merge_of_new (hDistinct : upper.Distinct)
    (hNew : ∀ key ∈ upper.keys, ∀ k ∈ base.keys, k.same key = false) :
    merge base upper = base ++ upper.filter (!·.2.isNull) := by
  induction upper generalizing base with
  | nil => exact (List.append_nil base).symm
  | cons entry rest ih =>
    obtain ⟨key, value⟩ := entry
    obtain ⟨hFirst, hRest⟩ := List.pairwise_cons.mp hDistinct
    have hThis := hNew key List.mem_cons_self
    have hOverlay : overlay none value = value := overlay_of_not_map (.inr rfl)
    rw [merge, mergeEntry_eq, get?_of_new hThis, insert_of_new hThis, hOverlay]
    cases hNull : value.isNull with
    | true =>
      rw [if_pos rfl, List.filter_cons_of_neg (by simp [hNull])]
      exact ih hRest fun k hMem => hNew k (List.mem_cons_of_mem _ hMem)
    | false =>
      rw [if_neg Bool.false_ne_true, List.filter_cons_of_pos (by simp [hNull]), ih hRest,
        List.append_assoc]
      · rfl
      · intro k hMem b hBase
        rw [keys, List.map_append, List.mem_append] at hBase
        rcases hBase with hOld | hLast
        · exact hNew k (List.mem_cons_of_mem _ hMem) b hOld
        · rw [List.mem_singleton.mp hLast]
          exact hFirst k hMem

theorem merge_nil (hDistinct : upper.Distinct) :
    merge [] upper = upper.filter (!·.2.isNull) :=
  merge_of_new hDistinct fun _ _ _ hMem => absurd hMem List.not_mem_nil

end Settings

end AssetAudit
