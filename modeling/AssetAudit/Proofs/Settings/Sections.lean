import AssetAudit.Proofs.Settings.Layers

/-!
# Sections of merged layers

A layer is tidy if it has no nulls where settings are, spells every name in one way, and gives
mappings for its sections and no others for its settings. What tidy layers give goes over to the
merged mapping: a setting is that of the upper layer, or else that of the lower one.
-/
namespace AssetAudit.Settings

open Value (Orderly)
open Entries

def sectionOf (layer : Entries Value) (part : String) : Entries Value :=
  match layer.meant? meaning part.toList with
  | some (.map fields) => fields
  | _ => []

def patternsIn (layer : Entries Value) : Option Value :=
  Entries.getText? (sectionOf layer "whitelist") "patterns".toList

def productsGiven? (layer : Entries Value) : Option Value :=
  Entries.getText? (sectionOf layer "whitelist") "products".toList

def productsIn (layer : Entries Value) : Entries Value :=
  match productsGiven? layer with
  | some (.map products) => products
  | _ => []

def entryOf? (layer : Entries Value) (app : Text) : Option Value :=
  (productsIn layer).meant? Scalar.plain app

def Full (entries : Entries Value) : Prop :=
  ∀ entry ∈ entries, entry.2.isNull = false

/-- A layer without nulls, in which every name has one spelling, sections have small letters and are
mappings, and settings are not. -/
structure Tidy (layer : Entries Value) : Prop where
  full : Full layer
  once : Once meaning layer
  sections : ∀ part ∈ sectionNames, ∀ entry ∈ layer.under meaning part.toList,
    entry.1 = .text part.toList ∧ (asMapping? entry.2).isSome
  fullSections : ∀ part ∈ sectionNames, Full (sectionOf layer part)
  onceSections : ∀ part ∈ sectionNames, part ≠ "whitelist" → Once meaning (sectionOf layer part)
  flat : ∀ f ∈ knownFields, (f.given? layer).bind asMapping? = none
  fullProducts : Full (productsIn layer)
  onceProducts : Once Scalar.plain (productsIn layer)

instance (layer : Entries Value) : Decidable (Full layer) :=
  inferInstanceAs (Decidable (∀ entry ∈ layer, entry.2.isNull = false))

instance (layer : Entries Value) : Decidable (Tidy layer) :=
  decidable_of_iff (Full layer ∧ Once meaning layer ∧
      (∀ part ∈ sectionNames, ∀ entry ∈ layer.under meaning part.toList,
        entry.1 = .text part.toList ∧ (asMapping? entry.2).isSome) ∧
      (∀ part ∈ sectionNames, Full (sectionOf layer part)) ∧
      (∀ part ∈ sectionNames, part ≠ "whitelist" → Once meaning (sectionOf layer part)) ∧
      (∀ f ∈ knownFields, (f.given? layer).bind asMapping? = none) ∧
      Full (productsIn layer) ∧ Once Scalar.plain (productsIn layer))
    ⟨fun ⟨full, once, sections, fullSections, onceSections, flat, fullProducts, onceProducts⟩ =>
      { full, once, sections, fullSections, onceSections, flat, fullProducts, onceProducts },
    fun h => ⟨h.full, h.once, h.sections, h.fullSections, h.onceSections, h.flat, h.fullProducts,
      h.onceProducts⟩⟩

theorem given?_of_root {f : Field} (h : f.part = none) (layer : Entries Value) :
    f.given? layer = layer.meant? meaning f.name.toList := by
  unfold Field.given?
  rw [h]

theorem given?_of_part {f : Field} {part : String} (h : f.part = some part)
    (layer : Entries Value) :
    f.given? layer = (sectionOf layer part).meant? meaning f.name.toList := by
  unfold Field.given? sectionOf
  rw [h]
  dsimp only
  cases layer.meant? meaning part.toList with
  | none => rfl
  | some v =>
    cases v with
    | map fields => rfl
    | scalar s => rfl
    | list items => rfl
    | tuple items => rfl
    | set items => rfl

theorem Orderly.sectionOf {kind : Scalar → Prop} {layer : Entries Value}
    (h : Orderly kind (.map layer)) (part : String) :
    Orderly kind (.map (sectionOf layer part)) := by
  unfold Settings.sectionOf
  split
  · rename_i fields hMeant
    obtain ⟨key, hMem⟩ := mem_of_meant? hMeant
    exact h.values _ ((mem_under_iff _ _ _).mp hMem).1
  · exact Value.orderly_nil

theorem Orderly.productsIn {kind : Scalar → Prop} {layer : Entries Value}
    (h : Orderly kind (.map layer)) : Orderly kind (.map (productsIn layer)) := by
  unfold Settings.productsIn
  split
  · rename_i products hGet
    exact (Orderly.sectionOf h "whitelist").get? hGet
  · exact Value.orderly_nil

theorem agree_of_texts {α β : Type} {entries : Entries α} (h : ∀ k ∈ entries.keys, k.IsText)
    (meaning : Scalar → β) (key : Scalar) : Agree meaning entries key := by
  intro k hMem hSame
  obtain ⟨t, rfl⟩ := h k hMem
  rw [(Scalar.text_same_iff t key).mp hSame]

theorem part_of_knownFields :
    ∀ f ∈ knownFields, ∀ part, f.part = some part → part ∈ sectionNames ∧ part ≠ "whitelist" := by
  unfold knownFields
  repeat' refine List.forall_mem_cons.mpr ⟨?_, ?_⟩
  all_goals first
    | exact fun _ hMem => absurd hMem List.not_mem_nil
    | rintro _ ⟨⟩ <;> decide

theorem filter_getText?_of_full {upper : Entries Value} (h : Full upper) (name : Text) :
    (upper.getText? name).filter (!·.isNull) = upper.getText? name := by
  cases hGet : upper.getText? name with
  | none => rfl
  | some v =>
    obtain ⟨key, hMem, -⟩ := exists_of_get? hGet
    rw [Option.filter_some, h _ hMem]
    rfl

theorem filter_meant?_of_full {β : Type} [DecidableEq β] {meaning : Scalar → β}
    {upper : Entries Value} (h : Full upper) (name : β) :
    (upper.meant? meaning name).filter (!·.isNull) = upper.meant? meaning name := by
  cases hMeant : upper.meant? meaning name with
  | none => rfl
  | some v =>
    obtain ⟨key, hMem⟩ := mem_of_meant? hMeant
    rw [Option.filter_some, h _ ((mem_under_iff _ _ _).mp hMem).1]
    rfl

theorem merge_nil_of_full {upper : Entries Value} (hDistinct : upper.Distinct) (h : Full upper) :
    merge [] upper = upper := by
  rw [merge_nil hDistinct, List.filter_eq_self]
  intro entry hMem
  rw [h entry hMem]
  rfl

theorem Tidy.under_section {layer : Entries Value} (h : Tidy layer) {part : String}
    (hPart : part ∈ sectionNames) :
    (layer.under meaning part.toList = [] ∧ sectionOf layer part = []) ∨
      layer.under meaning part.toList = [(.text part.toList, .map (sectionOf layer part))] := by
  have hOnce := h.once.length_under_le part.toList
  have hSections := h.sections part hPart
  unfold sectionOf meant?
  match hThese : layer.under meaning part.toList, hOnce with
  | [], _ => exact .inl ⟨rfl, rfl⟩
  | [(key, v)], _ =>
    rw [hThese] at hSections
    obtain ⟨hKey, hMap⟩ := hSections _ List.mem_cons_self
    obtain rfl : key = .text part.toList := hKey
    obtain ⟨fields, rfl⟩ := exists_of_asMapping? hMap
    exact .inr rfl

theorem sectionOf_of_under {layer : Entries Value} {part : String} {key : Scalar}
    {fields : Entries Value} (h : layer.under meaning part.toList = [(key, .map fields)]) :
    sectionOf layer part = fields := by
  unfold sectionOf meant?
  rw [h]
  rfl

section

variable {below above : Entries Value} (hBelow : Orderly Scalar.IsText (.map below))
  (hAbove : Orderly (fun _ => True) (.map above)) (tidyBelow : Tidy below) (tidyAbove : Tidy above)

include hBelow hAbove tidyBelow tidyAbove

theorem under_merge_section {part : String} (hPart : part ∈ sectionNames) :
    (merge below above).under meaning part.toList = [] ∧
        sectionOf below part = [] ∧ sectionOf above part = [] ∨
      (merge below above).under meaning part.toList =
        [(.text part.toList, .map (merge (sectionOf below part) (sectionOf above part)))] := by
  have hAgree : ∀ key ∈ above.keys, Agree meaning below key := fun key _ =>
    agree_of_texts hBelow.kinds meaning key
  have hUnder := under_merge hAbove.distinct hAgree part.toList
  rcases tidyAbove.under_section hPart with ⟨hNone, hEmpty⟩ | hUpper
  · rw [hUnder, hNone, hEmpty, merge, merge]
    rcases tidyBelow.under_section hPart with ⟨hNone, hEmpty⟩ | hLower
    · exact .inl ⟨hNone, hEmpty, rfl⟩
    · exact .inr hLower
  · right
    rcases tidyBelow.under_section hPart with ⟨hNone, hEmpty⟩ | hLower
    · rw [hUnder, hNone, hUpper, hEmpty, merge_nil_of_full
        (Orderly.sectionOf hAbove part).distinct (tidyAbove.fullSections part hPart)]
      rfl
    · have hSame : (Scalar.text part.toList).same (.text part.toList) = true :=
        (Scalar.same_text_iff _ _).mpr rfl
      exact under_merge_map hAbove.distinct hAgree hSame hLower hUpper

theorem sectionOf_merge {part : String} (hPart : part ∈ sectionNames) :
    sectionOf (merge below above) part = merge (sectionOf below part) (sectionOf above part) := by
  rcases under_merge_section hBelow hAbove tidyBelow tidyAbove hPart with
    ⟨hNone, hLower, hUpper⟩ | hOne
  · rw [hLower, hUpper]
    unfold sectionOf meant?
    rw [hNone]
    rfl
  · exact sectionOf_of_under hOne

/-- A setting is what the upper layer gives for it, or else what the lower one does. -/
theorem given?_merge {f : Field} (hField : f ∈ knownFields) :
    f.given? (merge below above) = (f.given? above).or (f.given? below) := by
  have hFlat := tidyAbove.flat f hField
  cases hPart : f.part with
  | none =>
    simp only [given?_of_root hPart] at hFlat ⊢
    rw [meant?_merge hAbove.distinct (fun key _ => agree_of_texts hBelow.kinds meaning key)
      tidyBelow.once tidyAbove.once (.inl hFlat),
      filter_meant?_of_full tidyAbove.full]
  | some part =>
    obtain ⟨hSection, hOther⟩ := part_of_knownFields f hField part hPart
    simp only [given?_of_part hPart] at hFlat ⊢
    rw [sectionOf_merge hBelow hAbove tidyBelow tidyAbove hSection,
      meant?_merge (Orderly.sectionOf hAbove part).distinct
        (fun key _ => agree_of_texts (Orderly.sectionOf hBelow part).kinds meaning key)
        (tidyBelow.onceSections part hSection hOther)
        (tidyAbove.onceSections part hSection hOther) (.inl hFlat),
      filter_meant?_of_full (tidyAbove.fullSections part hSection)]

theorem patternsIn_merge (hPatterns : (patternsIn above).bind asMapping? = none ∨
      (patternsIn below).bind asMapping? = none) :
    patternsIn (merge below above) = (patternsIn above).or (patternsIn below) := by
  have hSection : "whitelist" ∈ sectionNames := List.mem_cons_self
  unfold patternsIn at hPatterns ⊢
  rw [sectionOf_merge hBelow hAbove tidyBelow tidyAbove hSection,
    getText?_merge (Orderly.sectionOf hAbove _).distinct,
    filter_getText?_of_full (tidyAbove.fullSections _ hSection)]
  cases hUpper : Entries.getText? (sectionOf above "whitelist") "patterns".toList with
  | none => rfl
  | some v =>
    rw [hUpper] at hPatterns
    exact congrArg some (overlay_of_not_map hPatterns)

theorem productsIn_merge (hProducts : ∀ v ∈ productsGiven? above, (asMapping? v).isSome) :
    productsIn (merge below above) = merge (productsIn below) (productsIn above) := by
  have hSection : "whitelist" ∈ sectionNames := List.mem_cons_self
  have hDistinct := (Orderly.productsIn hAbove).distinct
  have hFull := tidyAbove.fullProducts
  unfold productsIn productsGiven? at hDistinct hFull ⊢
  unfold productsGiven? at hProducts
  rw [sectionOf_merge hBelow hAbove tidyBelow tidyAbove hSection,
    getText?_merge (Orderly.sectionOf hAbove _).distinct,
    filter_getText?_of_full (tidyAbove.fullSections _ hSection)]
  cases hUpper : Entries.getText? (sectionOf above "whitelist") "products".toList with
  | none => rfl
  | some v =>
    obtain ⟨products, rfl⟩ := exists_of_asMapping? (hProducts v hUpper)
    rw [hUpper] at hDistinct hFull
    dsimp only at hDistinct hFull ⊢
    cases Entries.getText? (sectionOf below "whitelist") "products".toList with
    | none => exact (merge_nil_of_full hDistinct hFull).symm
    | some w =>
      cases w with
      | map lower => rfl
      | scalar s => exact (merge_nil_of_full hDistinct hFull).symm
      | list items => exact (merge_nil_of_full hDistinct hFull).symm
      | tuple items => exact (merge_nil_of_full hDistinct hFull).symm
      | set items => exact (merge_nil_of_full hDistinct hFull).symm

theorem entryOf?_merge {app : Text}
    (hProducts : ∀ v ∈ productsGiven? above, (asMapping? v).isSome)
    (hEntry : (entryOf? above app).bind asMapping? = none ∨
      (entryOf? below app).bind asMapping? = none) :
    entryOf? (merge below above) app = (entryOf? above app).or (entryOf? below app) := by
  unfold entryOf? at hEntry ⊢
  rw [productsIn_merge hBelow hAbove tidyBelow tidyAbove hProducts,
    meant?_merge (Orderly.productsIn hAbove).distinct
      (fun key _ => agree_of_texts (Orderly.productsIn hBelow).kinds Scalar.plain key)
      tidyBelow.onceProducts tidyAbove.onceProducts hEntry,
    filter_meant?_of_full tidyAbove.fullProducts]

end

end AssetAudit.Settings
