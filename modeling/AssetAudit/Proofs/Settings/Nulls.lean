import AssetAudit.Proofs.Settings.Sections
import AssetAudit.Proofs.Value.Identity

/-!
# Nulls in layers

A null changes nothing where merging comes by it: at the top of a layer, and in a mapping with which
the layer below has a mapping under the same key. A mapping that is new is taken over with its
nulls.
-/
namespace AssetAudit

namespace Entries

variable {α : Type}

theorem get?_insert_other {entries : Entries α} {key k : Scalar} (h : Agree id entries key)
    (hOther : key.same k = false) (value : α) :
    (entries.insert key value).get? k = entries.get? k := by
  induction entries with
  | nil =>
    rw [insert, get?_cons, hOther]
    rfl
  | cons entry rest ih =>
    obtain ⟨first, v⟩ := entry
    rw [insert_cons]
    cases hSame : first.same key with
    | true =>
      obtain rfl : first = key := h first List.mem_cons_self hSame
      rw [if_pos rfl, get?_cons, get?_cons, hOther]
      rfl
    | false => rw [if_neg Bool.false_ne_true, get?_cons, get?_cons, ih h.tail]

end Entries

namespace Settings

open Value (Orderly)
open Entries

/-- Nulls are left out of the upper layer where merging comes by them. -/
inductive Sheds : Entries Value → Entries Value → Entries Value → Prop
  | nil (below : Entries Value) : Sheds below [] []
  | null {below rest rest' : Entries Value} (key : Scalar) (h : Sheds below rest rest') :
      Sheds below ((key, .null) :: rest) rest'
  | keep {below rest rest' : Entries Value} (entry : Scalar × Value) (h : Sheds below rest rest') :
      Sheds below (entry :: rest) (entry :: rest')
  | inside {below rest rest' lower inner inner' : Entries Value} (key : Scalar)
      (hBelow : below.get? key = some (.map lower)) (hInner : Sheds lower inner inner')
      (h : Sheds below rest rest') :
      Sheds below ((key, .map inner) :: rest) ((key, .map inner') :: rest')

theorem get?_mergeEntry_other {base : Entries Value} {key k : Scalar} (h : Agree id base key)
    (hOther : key.same k = false) (value : Value) :
    (mergeEntry base key value).get? k = base.get? k := by
  rw [mergeEntry_eq]
  split
  · rfl
  · exact get?_insert_other h hOther _

/-- What the layer below has mappings for, the mapping that is merged into still has under the keys
that are to come. -/
structure Keeps (below base : Entries Value) (keys : List Scalar) : Prop where
  found : ∀ key ∈ keys, ∀ lower, below.get? key = some (.map lower) →
    base.get? key = some (.map lower)
  agree : ∀ key ∈ keys, Agree id base key

theorem keeps_of_texts {below : Entries Value} (h : Orderly Scalar.IsText (.map below))
    (keys : List Scalar) : Keeps below below keys where
  found _ _ _ hGet := hGet
  agree key _ := agree_of_texts h.kinds id key

theorem Keeps.tail {below base : Entries Value} {key : Scalar} {keys : List Scalar}
    (h : Keeps below base (key :: keys)) : Keeps below base keys where
  found k hMem := h.found k (List.mem_cons_of_mem _ hMem)
  agree k hMem := h.agree k (List.mem_cons_of_mem _ hMem)

theorem Keeps.mergeEntry {below base : Entries Value} {key : Scalar} {keys : List Scalar}
    (h : Keeps below base (key :: keys)) (hFirst : ∀ k ∈ keys, key.same k = false)
    (value : Value) : Keeps below (Settings.mergeEntry base key value) keys where
  found k hMem lower hLower := by
    rw [get?_mergeEntry_other (h.agree key List.mem_cons_self) (hFirst k hMem)]
    exact h.tail.found k hMem lower hLower
  agree := agree_mergeEntry hFirst h.tail.agree value

theorem merge_of_sheds {below upper upper' : Entries Value} (h : Sheds below upper upper')
    (hBelow : Orderly Scalar.IsText (.map below))
    (hUpper : Orderly (fun _ => True) (.map upper)) {base : Entries Value}
    (hKeeps : Keeps below base upper.keys) : merge base upper = merge base upper' := by
  induction h generalizing base with
  | nil => rfl
  | null key h ih =>
    rw [merge, mergeEntry]
    exact ih hBelow hUpper.tail hKeeps.tail
  | keep entry h ih =>
    obtain ⟨key, value⟩ := entry
    obtain ⟨hFirst, -⟩ := List.pairwise_cons.mp hUpper.distinct
    rw [merge, merge]
    exact ih hBelow hUpper.tail (hKeeps.mergeEntry hFirst value)
  | @inside below rest rest' lower inner inner' key hLower hInner h ihInner ih =>
    obtain ⟨hFirst, -⟩ := List.pairwise_cons.mp hUpper.distinct
    have hTexts := hBelow.get? hLower
    have hSection : merge lower inner = merge lower inner' :=
      ihInner hTexts (hUpper.values _ List.mem_cons_self) (keeps_of_texts hTexts _)
    -- the section comes to the same mapping, so that the rest is merged into one and the same
    have hHere := hKeeps.found key List.mem_cons_self lower hLower
    have hEntry : mergeEntry base key (.map inner) = mergeEntry base key (.map inner') := by
      rw [mergeEntry_eq, mergeEntry_eq, hHere]
      exact congrArg (fun fields => base.insert key (.map fields)) hSection
    rw [merge, merge, ← hEntry]
    exact ih hBelow hUpper.tail (hKeeps.mergeEntry hFirst (.map inner))

theorem merge_of_null {upper : Entries Value} (h : ∀ entry ∈ upper, entry.2.isNull)
    (base : Entries Value) : merge base upper = base := by
  induction upper with
  | nil => rfl
  | cons entry rest ih =>
    obtain ⟨hFirst, hRest⟩ := List.forall_mem_cons.mp h
    obtain ⟨key, value⟩ := entry
    rw [merge, mergeEntry_eq, if_pos hFirst]
    exact ih hRest

theorem full_merge {base upper : Entries Value} (h : Full base) : Full (merge base upper) := by
  induction upper generalizing base with
  | nil => exact h
  | cons entry rest ih =>
    obtain ⟨key, value⟩ := entry
    refine ih ?_
    rw [mergeEntry_eq]
    cases hNull : value.isNull with
    | true => exact h
    | false =>
      intro entry hMem
      rcases mem_insert hMem with hNew | hOld
      · rw [hNew]
        unfold overlay
        split
        · rfl
        · exact hNull
      · exact h entry hOld

theorem full_overlay {below : Option Value} {value : Value} {fields : Entries Value}
    (hBelow : ∀ lower, below.bind asMapping? = some lower → Full lower)
    (hValue : ∀ inner, asMapping? value = some inner →
      Full inner ∨ (below.bind asMapping?).isSome)
    (h : asMapping? (overlay below value) = some fields) : Full fields := by
  by_cases hMaps : asMapping? value = none ∨ below.bind asMapping? = none
  · rw [overlay_of_not_map hMaps] at h
    rcases hMaps with hNone | hNone
    · rw [hNone] at h
      cases h
    · rcases hValue fields h with hFull | hSome
      · exact hFull
      · rw [hNone] at hSome
        cases hSome
  · obtain ⟨hUpper, hLower⟩ := not_or.mp hMaps
    obtain ⟨inner, rfl⟩ := exists_of_asMapping? (Option.isSome_iff_ne_none.mpr hUpper)
    obtain ⟨lower, hLower⟩ := Option.ne_none_iff_exists'.mp hLower
    obtain ⟨v, rfl, hMap⟩ := Option.bind_eq_some_iff.mp hLower
    obtain rfl := eq_map_of_asMapping? hMap
    cases h
    exact full_merge (hBelow _ rfl)

def FullUnder (name : Text) (layer : Entries Value) : Prop :=
  ∀ entry ∈ layer.under meaning name, ∀ fields ∈ asMapping? entry.2, Full fields

/-- Under a name no null is out of the reach of merging: the lower layer has none there, and the
upper one only where the lower one has a mapping as well. -/
def Reached (name : Text) (below above : Entries Value) : Prop :=
  FullUnder name below ∧
    ∀ entry ∈ above.under meaning name, ∀ fields ∈ asMapping? entry.2,
      Full fields ∨ ((below.get? entry.1).bind asMapping?).isSome

instance (name : Text) (layer : Entries Value) : Decidable (FullUnder name layer) :=
  inferInstanceAs (Decidable (∀ entry ∈ layer.under meaning name,
    ∀ fields ∈ asMapping? entry.2, Full fields))

instance (name : Text) (below above : Entries Value) : Decidable (Reached name below above) :=
  inferInstanceAs (Decidable (FullUnder name below ∧
    ∀ entry ∈ above.under meaning name, ∀ fields ∈ asMapping? entry.2,
      Full fields ∨ ((below.get? entry.1).bind asMapping?).isSome))

theorem fullUnder_mergeEntry {name : Text} {base : Entries Value} {key : Scalar} {value : Value}
    (hBase : FullUnder name base) (hAgree : Agree meaning base key)
    (hValue : meaning key = name → ∀ fields, asMapping? value = some fields →
      Full fields ∨ ((base.get? key).bind asMapping?).isSome) :
    FullUnder name (mergeEntry base key value) := by
  unfold FullUnder
  rw [under_mergeEntry hAgree]
  split
  · rename_i hName
    subst hName
    rw [mergeEntry_eq]
    split
    · exact hBase
    · intro entry hMem fields hFields
      rcases mem_insert hMem with hNew | hOld
      · rw [hNew, get?_under hAgree] at hFields
        refine full_overlay (fun lower hLower => ?_) (hValue rfl) hFields
        obtain ⟨v, hGet, hMap⟩ := Option.bind_eq_some_iff.mp hLower
        obtain ⟨k, hEntry, hSame⟩ := exists_of_get? hGet
        have hMeans := hAgree k (List.mem_map_of_mem hEntry) hSame
        exact hBase _ ((mem_under_iff _ _ _).mpr ⟨hEntry, hMeans⟩) lower hMap
      · exact hBase entry hOld fields hFields
  · exact hBase

theorem fullUnder_merge {name : Text} {below above : Entries Value}
    (hBelow : ∀ key ∈ above.keys, Agree id below key) (hDistinct : above.Distinct)
    (hReached : Reached name below above) : FullUnder name (merge below above) := by
  induction above generalizing below with
  | nil => exact hReached.1
  | cons entry rest ih =>
    obtain ⟨key, value⟩ := entry
    obtain ⟨hFirst, hRest⟩ := List.pairwise_cons.mp hDistinct
    obtain ⟨hFull, hAbove⟩ := hReached
    have hKey := hBelow key List.mem_cons_self
    refine ih (agree_mergeEntry hFirst (fun k hMem => hBelow k (List.mem_cons_of_mem _ hMem)) value)
      hRest ⟨?_, ?_⟩
    · have hMeans : Agree meaning below key := fun k hMem hSame =>
        congrArg meaning (hKey k hMem hSame)
      refine fullUnder_mergeEntry hFull hMeans fun hName => ?_
      exact hAbove (key, value) ((mem_under_iff _ _ _).mpr ⟨List.mem_cons_self, hName⟩)
    · intro later hLater fields hFields
      obtain ⟨hMem, hName⟩ := (mem_under_iff _ _ _).mp hLater
      rw [get?_mergeEntry_other hKey (hFirst later.1 (List.mem_map_of_mem hMem))]
      exact hAbove later ((mem_under_iff _ _ _).mpr ⟨List.mem_cons_of_mem _ hMem, hName⟩) fields
        hFields

theorem given?_full {data : Entries Value} {f : Field} {part : String} (hPart : f.part = some part)
    (hFull : FullUnder part.toList data) {v : Value} (h : f.given? data = some v) :
    v.isNull = false := by
  rw [given?_of_part hPart] at h
  unfold sectionOf at h
  split at h
  · rename_i fields hFields
    obtain ⟨key, hKey⟩ := mem_of_meant? hFields
    obtain ⟨k, hEntry⟩ := mem_of_meant? h
    exact hFull _ hKey fields rfl _ ((mem_under_iff _ _ _).mp hEntry).1
  · cases h

theorem read_not_null : ∀ f ∈ knownFields, ∀ name read, f.setter? = some (name, read) →
    ∀ t v, read t = .ok v → v.isNull = false := by
  have hText : ∀ t v, asText t = .ok v → v.isNull = false := by
    rintro t _ ⟨⟩
    rfl
  have hList : ∀ t v, asList t = .ok v → v.isNull = false := by
    rintro t _ ⟨⟩
    rfl
  have hBool : ∀ t v, asBool t = .ok v → v.isNull = false := by
    rintro t _ ⟨⟩
    rfl
  have hFloat : ∀ t v, parseFloat t = .ok v → v.isNull = false := by
    intro t v h
    unfold parseFloat at h
    split at h
    · cases h
      rfl
    · cases h
  unfold knownFields
  repeat' refine List.forall_mem_cons.mpr ⟨?_, ?_⟩
  all_goals first
    | exact fun _ hMem => absurd hMem List.not_mem_nil
    | (rintro _ _ ⟨⟩; assumption)
    | (rintro _ _ ⟨⟩)

theorem merge_nil_of_texts {package : Entries Value} (h : Orderly Scalar.IsText (.map package))
    {key : Scalar} {lower : Entries Value} (hGet : package.get? key = some (.map lower)) :
    (merge [] package).get? key = some (.map lower) := by
  obtain ⟨k, hMem, hSame⟩ := exists_of_get? hGet
  obtain ⟨t, rfl⟩ : k.IsText := h.kinds k (List.mem_map_of_mem hMem)
  obtain rfl := (Scalar.text_same_iff _ _).mp hSame
  have hMerged : (merge [] package).getText? t = _ := getText?_merge h.distinct t
  rw [show Entries.getText? package t = some (.map lower) from hGet] at hMerged
  exact hMerged

theorem under_merge_nil {package : Entries Value} (h : package.Distinct) (name : Text) :
    (merge [] package).under meaning name =
      (package.under meaning name).filter (!·.2.isNull) := by
  rw [merge_nil h, under, under, List.filter_filter, List.filter_filter]
  exact List.filter_congr fun _ _ => Bool.and_comm _ _

theorem Reached.of_merge_nil {name : Text} {package file : Entries Value}
    (h : Orderly Scalar.IsText (.map package)) (hReached : Reached name package file) :
    Reached name (merge [] package) file := by
  constructor
  · intro entry hMem
    rw [under_merge_nil h.distinct] at hMem
    exact hReached.1 entry (List.mem_filter.mp hMem).1
  · intro entry hMem fields hFields
    rcases hReached.2 entry hMem fields hFields with hFull | hSome
    · exact .inl hFull
    · obtain ⟨lower, hLower⟩ := Option.isSome_iff_exists.mp hSome
      obtain ⟨v, hGet, hMap⟩ := Option.bind_eq_some_iff.mp hLower
      obtain rfl := eq_map_of_asMapping? hMap
      right
      rw [merge_nil_of_texts h hGet]
      rfl

theorem texts_merge_nil {package : Entries Value} (h : Orderly Scalar.IsText (.map package)) :
    ∀ k ∈ (merge [] package).keys, k.IsText := by
  intro k hMem
  rw [merge_nil h.distinct] at hMem
  exact h.kinds k ((List.filter_sublist.map _).subset hMem)

/-- Nulls for a field of a section that both layers give leave the field to the lower layer. -/
theorem given?_of_nulls {package file : Entries Value}
    (hPackage : Orderly Scalar.IsText (.map package)) (hFile : Orderly (fun _ => True) (.map file))
    {f : Field} {part : String} (hPart : f.part = some part) {key : Scalar}
    {lower inner : Entries Value}
    (hLower : package.under meaning part.toList = [(key, .map lower)])
    (hInner : file.under meaning part.toList = [(key, .map inner)])
    (hNulls : ∀ entry ∈ inner.under meaning f.name.toList, entry.2.isNull) :
    f.given? (merge (merge [] package) file) = f.given? package := by
  have hEntry := (mem_under_iff package _ _).mp (hLower ▸ List.mem_cons_self)
  obtain ⟨t, rfl⟩ : key.IsText := hPackage.kinds key (List.mem_map_of_mem hEntry.1)
  have hBase : (merge [] package).under meaning part.toList = [(.text t, .map lower)] := by
    rw [under_merge_nil hPackage.distinct, hLower]
    rfl
  have hMerged := under_merge_map hFile.distinct
    (fun k _ => agree_of_texts (texts_merge_nil hPackage) meaning k)
    ((Scalar.same_text_iff _ _).mpr rfl) hBase hInner
  have hUpper := (mem_under_iff file _ _).mp (hInner ▸ List.mem_cons_self)
  have hAgree : ∀ k ∈ keys inner, Agree meaning lower k := fun k _ =>
    agree_of_texts (hPackage.values _ hEntry.1).kinds meaning k
  rw [given?_of_part hPart, given?_of_part hPart, sectionOf_of_under hMerged,
    sectionOf_of_under hLower, meant?, meant?,
    under_merge (hFile.values _ hUpper.1).distinct hAgree, merge_of_null hNulls]

theorem get_not_null {tree : Files.Tree} {request : Request} {env : Environment}
    {package file : Entries Value} {s : Settings}
    (hLayers : layersOf tree request = .ok (package, file))
    (h : (load tree (pure standard) env request).outcome = .ok s) {f : Field}
    (hField : f ∈ knownFields) {part : String} (hPart : f.part = some part)
    (hReached : Reached part.toList package file)
    (hDefault : ∀ v, f.default? standard = some v → v.isNull = false) :
    (f.get s).isNull = false := by
  obtain ⟨hPackage, hFile⟩ := orderly_layersOf hLayers
  have hFull : FullUnder part.toList (merge (merge [] package) file) :=
    fullUnder_merge (fun k _ => agree_of_texts (texts_merge_nil hPackage) id k) hFile.distinct
      (hReached.of_merge_nil hPackage)
  have hValue := get_load hLayers h hField
  cases hSet : f.set? (request.environment env) with
  | some converted =>
    rw [hSet] at hValue
    obtain ⟨⟨name, read⟩, hVariable, hText⟩ := Option.bind_eq_some_iff.mp hSet
    obtain ⟨t, -, hRead⟩ := Option.map_eq_some_iff.mp hText
    exact read_not_null f hField name read hVariable t _ (hRead.trans hValue)
  | none =>
    rw [hSet] at hValue
    cases hGiven : f.given? (merge (merge [] package) file) with
    | some v =>
      rw [hGiven] at hValue
      obtain rfl : f.get s = v := Option.some.inj hValue
      exact given?_full hPart hFull hGiven
    | none =>
      rw [hGiven] at hValue
      exact hDefault _ hValue.symm

/-- Within the reach of merging nulls can be left out, and they leave settings to the layer below or
to the defaults. -/
theorem load_passes_nulls {tree : Files.Tree} {request : Request} {package file : Entries Value}
    (hLayers : layersOf tree request = .ok (package, file)) (env : Environment) :
    (∀ tree' package' file' sections, rootOf tree' request = rootOf tree request →
      layersOf tree' request = .ok (package', file') →
      Sheds [] package package' → Sheds package file file' →
      (load tree' sections env request).outcome = (load tree sections env request).outcome) ∧
    ∀ s, (load tree (pure standard) env request).outcome = .ok s →
      (∀ f ∈ knownFields, ∀ part key lower inner, f.part = some part →
        package.under meaning part.toList = [(key, .map lower)] →
        file.under meaning part.toList = [(key, .map inner)] →
        (∀ entry ∈ Entries.under meaning inner f.name.toList, entry.2.isNull) →
        f.set? (request.environment env) = none →
        some (f.get s) = (f.given? package).or (f.default? standard)) ∧
      (Reached "knip".toList package file →
        s.knip.commands.isNull = false ∧ s.knip.timeout.isNull = false) := by
  obtain ⟨hPackage, hFile⟩ := orderly_layersOf hLayers
  have hTexts := texts_merge_nil hPackage
  refine ⟨?_, fun s hLoad => ⟨?_, fun hReached => ?_⟩⟩
  · intro tree' package' file' sections hRoot hLayers' hSheds hSheds'
    have hBase : merge [] package = merge [] package' :=
      merge_of_sheds hSheds Value.orderly_nil (hPackage.of_kind fun _ _ => trivial)
        (keeps_of_texts Value.orderly_nil _)
    have hMerged : merge (merge [] package) file = merge (merge [] package) file' :=
      merge_of_sheds hSheds' hPackage hFile {
        found := fun _ _ _ hGet => merge_nil_of_texts hPackage hGet
        agree := fun k _ => agree_of_texts hTexts id k }
    refine outcome_load_congr hRoot ?_ sections env
    rw [hLayers, hLayers']
    refine congrArg Except.ok ?_
    dsimp only
    rw [← hBase, hMerged]
  · -- the values of the package file, where both files have the section
    intro f hField part key lower inner hPart hLower hInner hNulls hUnset
    have hValue := get_load hLayers hLoad hField
    rw [hUnset, given?_of_nulls hPackage hFile hPart hLower hInner hNulls] at hValue
    exact hValue
  · have hCommands : knownFields[10]? = some ⟨some "knip", "commands", (·.knip.commands), none⟩ :=
      rfl
    have hTimeout : knownFields[9]? = some ⟨some "knip", "timeout", (·.knip.timeout),
      some ("SWEEP_KNIP_TIMEOUT", parseFloat)⟩ := rfl
    constructor
    · refine get_not_null hLayers hLoad (List.mem_of_getElem? hCommands) rfl hReached ?_
      rintro _ ⟨⟩
      rfl
    · refine get_not_null hLayers hLoad (List.mem_of_getElem? hTimeout) rfl hReached ?_
      rintro _ ⟨⟩
      rfl

def treeWithNulls : Files.Tree := layeredTree
  "\x7b\"sweep\":\x7b\"srcDir\":null,\"knip\":\x7b\"timeout\":5\x7d\x7d\x7d"
  "\x7b\"appsDir\":null,\"knip\":\x7b\"timeout\":null\x7d\x7d"

def treeWithoutNulls : Files.Tree := layeredTree
  "\x7b\"sweep\":\x7b\"knip\":\x7b\"timeout\":5\x7d\x7d\x7d" "\x7b\"knip\":\x7b\x7d\x7d"

theorem load_passes_nulls_shop :
    (load treeWithoutNulls (pure standard) [] {}).outcome =
      (load treeWithNulls (pure standard) [] {}).outcome ∧
    ∃ s, (load treeWithNulls (pure standard) [] {}).outcome = .ok s ∧
      s.knip.timeout = .int 5 ∧ s.knip.commands.isNull = false := by
  have hLayers : layersOf treeWithNulls {} = .ok
      ([(.text "srcDir".toList, .null),
        (.text "knip".toList, .map [(.text "timeout".toList, .int 5)])],
      [(.text "appsDir".toList, .null),
        (.text "knip".toList, .map [(.text "timeout".toList, .null)])]) :=
    Outcome.eq_ok_of_toOption (by decide +kernel)
  have hLayers' : layersOf treeWithoutNulls {} = .ok
      ([(.text "knip".toList, .map [(.text "timeout".toList, .int 5)])],
      [(.text "knip".toList, .map [])]) :=
    Outcome.eq_ok_of_toOption (by decide +kernel)
  obtain ⟨s, hLoad, hTimeout⟩ := Outcome.exists_of_toOption_map (f := fun s => s.knip.timeout)
    (x := (load treeWithNulls (pure standard) [] {}).outcome) (b := .int 5) (by decide +kernel)
  obtain ⟨hSame, hValues⟩ := load_passes_nulls hLayers []
  constructor
  · have hRoot : rootOf treeWithoutNulls {} = rootOf treeWithNulls {} := by decide +kernel
    exact hSame treeWithoutNulls _ _ (pure standard) hRoot hLayers' (.null _ (.keep _ (.nil _)))
      (.null _ (.inside _ rfl (.null _ (.nil _)) (.nil _)))
  · exact ⟨s, hLoad, hTimeout, ((hValues s hLoad).2 (by decide +kernel)).1⟩

/-- A null in a section that is new in its layer takes the place of a default. -/
theorem nulls_stay :
    (∃ s s', (load (layeredTree "\x7b\x7d" "\x7b\"knip\":\x7b\"timeout\":null\x7d\x7d")
        (pure standard) [] {}).outcome = .ok s ∧
      (load (layeredTree "\x7b\x7d" "\x7b\"knip\":\x7b\x7d\x7d")
        (pure standard) [] {}).outcome = .ok s' ∧
      s.knip.timeout = .null ∧ s'.knip.timeout = oneMinute) ∧
    ∃ s, (load (layeredTree "\x7b\"sweep\":\x7b\"knip\":\x7b\"commands\":null\x7d\x7d\x7d"
        "\x7b\x7d") (pure standard) [] {}).outcome = .ok s ∧ s.knip.commands = .null := by
  constructor
  · obtain ⟨s, hLoad, hTimeout⟩ := Outcome.exists_of_toOption_map (f := fun s => s.knip.timeout)
      (x := (load (layeredTree "\x7b\x7d" "\x7b\"knip\":\x7b\"timeout\":null\x7d\x7d")
        (pure standard) [] {}).outcome) (b := .null) (by decide +kernel)
    obtain ⟨s', hLoad', hTimeout'⟩ := Outcome.exists_of_toOption_map (f := fun s => s.knip.timeout)
      (x := (load (layeredTree "\x7b\x7d" "\x7b\"knip\":\x7b\x7d\x7d")
        (pure standard) [] {}).outcome) (b := oneMinute) (by decide +kernel)
    exact ⟨s, s', hLoad, hLoad', hTimeout, hTimeout'⟩
  · exact Outcome.exists_of_toOption_map (by decide +kernel)

end Settings

end AssetAudit
