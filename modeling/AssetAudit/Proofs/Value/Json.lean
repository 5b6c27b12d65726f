import AssetAudit.Proofs.Value.Orderly

/-!
# Values that JSON has a form for

Texts, truth values, numbers and nulls, and what is built of them by lists and by mappings from texts.
A float that is no number has a word in JSON, but it is not among these values: it is not equal to
itself.
-/
namespace AssetAudit

namespace Scalar

def IsJson : Scalar → Prop
  | .null | .bool _ | .int _ | .text _ => True
  | .float bits => Decimal.Parts.ofBits bits ≠ .nan
  | .bytes _ | .date _ _ _ | .moment _ => False

instance : DecidablePred IsJson
  | .null | .bool _ | .int _ | .text _ => inferInstanceAs (Decidable True)
  | .float bits => inferInstanceAs (Decidable (Decimal.Parts.ofBits bits ≠ .nan))
  | .bytes _ | .date _ _ _ | .moment _ => inferInstanceAs (Decidable False)

instance : DecidablePred IsText
  | .text t => isTrue ⟨t, rfl⟩
  | .null | .bool _ | .int _ | .float _ | .bytes _ | .date _ _ _ | .moment _ => isFalse nofun

end Scalar

namespace Entries

instance {α : Type} (entries : Entries α) : Decidable entries.Distinct :=
  inferInstanceAs (Decidable (entries.keys.Pairwise fun a b => a.same b = false))

end Entries

namespace Value

inductive IsJson : Value → Prop
  | scalar {s : Scalar} (h : s.IsJson) : IsJson (.scalar s)
  | list {items : List Value} (h : ∀ v ∈ items, IsJson v) : IsJson (.list items)
  | map {entries : Entries Value} (distinct : entries.Distinct)
      (texts : ∀ key ∈ entries.keys, key.IsText) (values : ∀ entry ∈ entries, IsJson entry.2) :
      IsJson (.map entries)

mutual

def isJson : Value → Bool
  | .scalar s => decide s.IsJson
  | .list items => areJson items
  | .map entries =>
    decide (Entries.Distinct entries) && decide (∀ key ∈ Entries.keys entries, key.IsText) &&
      entriesJson entries
  | .tuple _ | .set _ => false

def areJson : List Value → Bool
  | [] => true
  | v :: rest => isJson v && areJson rest

def entriesJson : List (Scalar × Value) → Bool
  | [] => true
  | (_, v) :: rest => isJson v && entriesJson rest

end

mutual

theorem isJson_sound {v : Value} (h : v.isJson = true) : v.IsJson := by
  cases v with
  | scalar s =>
    rw [isJson] at h
    exact .scalar (of_decide_eq_true h)
  | list items =>
    rw [isJson] at h
    exact .list (areJson_sound h)
  | tuple items => cases h
  | set items => cases h
  | map entries =>
    rw [isJson] at h
    obtain ⟨hKeys, hValues⟩ := (Bool.and_eq_true _ _).mp h
    obtain ⟨hDistinct, hTexts⟩ := (Bool.and_eq_true _ _).mp hKeys
    exact .map (of_decide_eq_true hDistinct) (of_decide_eq_true hTexts) (entriesJson_sound hValues)

theorem areJson_sound {items : List Value} (h : areJson items = true) : ∀ v ∈ items, v.IsJson := by
  cases items with
  | nil => exact nofun
  | cons v rest =>
    obtain ⟨hFirst, hRest⟩ := (Bool.and_eq_true _ _).mp h
    exact List.forall_mem_cons.mpr ⟨isJson_sound hFirst, areJson_sound hRest⟩

theorem entriesJson_sound {entries : List (Scalar × Value)} (h : entriesJson entries = true) :
    ∀ entry ∈ entries, entry.2.IsJson := by
  cases entries with
  | nil => exact nofun
  | cons entry rest =>
    obtain ⟨hFirst, hRest⟩ := (Bool.and_eq_true _ _).mp h
    exact List.forall_mem_cons.mpr ⟨isJson_sound hFirst, entriesJson_sound hRest⟩

end

theorem IsJson.values {entries : Entries Value} (h : IsJson (.map entries)) :
    ∀ entry ∈ entries, entry.2.IsJson := by
  cases h with
  | map _ _ values => exact values

theorem isJson_text (t : Text) : (Value.text t).IsJson :=
  .scalar trivial

abbrev recordEntries (fields : List (String × Value)) : Entries Value :=
  fields.map fun f => (.text f.1.toList, f.2)

variable {fields : List (String × Value)}

theorem keys_record (fields : List (String × Value)) :
    (recordEntries fields).keys = (fields.map fun f => f.1.toList).map .text := by
  unfold Entries.keys
  rw [List.map_map, List.map_map]
  rfl

theorem getText?_record (fields : List (String × Value)) (name : String) :
    Entries.getText? (recordEntries fields) name.toList =
      (fields.find? (·.1 == name)).map (·.2) := by
  have hSame : ∀ f : String × Value,
      (Scalar.text f.1.toList).same (.text name.toList) = (f.1 == name) := by
    intro f
    rw [Bool.eq_iff_iff, Scalar.same_text_iff, beq_iff_eq, Scalar.text.injEq, String.toList_inj]
  unfold Entries.getText? Entries.get?
  rw [List.find?_map, Option.map_map]
  simp only [Function.comp_def, hSame]

theorem distinct_record (h : (fields.map (·.1)).Nodup) : (recordEntries fields).Distinct := by
  unfold Entries.Distinct
  rw [keys_record]
  refine List.pairwise_map.mpr (List.pairwise_map.mpr ((List.pairwise_map.mp h).imp ?_))
  intro a b hNe
  refine Bool.eq_false_iff.mpr fun hSame => hNe ?_
  exact String.toList_inj.mp (Scalar.text.inj ((Scalar.same_text_iff _ _).mp hSame))

theorem isText_of_mem_keys_record (fields : List (String × Value)) :
    ∀ key ∈ (recordEntries fields).keys, key.IsText := by
  intro key hMem
  rw [keys_record] at hMem
  obtain ⟨name, -, rfl⟩ := List.mem_map.mp hMem
  exact ⟨name, rfl⟩

theorem isJson_record (hNames : (fields.map (·.1)).Nodup) (h : ∀ field ∈ fields, field.2.IsJson) :
    (record fields).IsJson :=
  .map (distinct_record hNames) (isText_of_mem_keys_record fields) (List.forall_mem_map.mpr h)

theorem IsJson.of_field? {v found : Value} (h : v.IsJson) {name : Text}
    (hField : v.field? name = some found) : found.IsJson := by
  cases v with
  | map entries =>
    obtain ⟨k, hMem, -⟩ := Entries.exists_of_get? hField
    exact h.values _ hMem
  | scalar s => cases hField
  | list items => cases hField
  | tuple items => cases hField
  | set items => cases hField

end Value

end AssetAudit
