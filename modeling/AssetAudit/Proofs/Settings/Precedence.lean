import AssetAudit.Proofs.App.Session
import AssetAudit.Proofs.Settings.Sections
import AssetAudit.Proofs.Value.Identity

/-!
# Precedence of layers

The environment wins over the settings file, that over the package file, and that over the defaults.
This is told for tidy layers, setting by setting; the whitelist has its patterns for all apps and
those of each app from one layer.
-/
namespace AssetAudit.Settings

open Value (Orderly)
open Entries

theorem find?_setProduct (app : Text) (patterns : List Text) (got : List (Text × List Text))
    (name : Text) :
    (setProduct app patterns got).find? (·.1 == name) =
      if app = name then some (app, patterns) else got.find? (·.1 == name) := by
  induction got with
  | nil =>
    rw [setProduct, List.find?_cons]
    by_cases hName : app = name
    · rw [if_pos hName, beq_iff_eq.mpr hName]
    · rw [if_neg hName, beq_eq_false_iff_ne.mpr hName]
  | cons first rest ih =>
    obtain ⟨a, ps⟩ := first
    rw [setProduct]
    by_cases hApp : a = app
    · subst hApp
      rw [if_pos rfl, List.find?_cons, List.find?_cons]
      by_cases hName : a = name
      · rw [if_pos hName, beq_iff_eq.mpr hName]
      · rw [if_neg hName, beq_eq_false_iff_ne.mpr hName]
    · rw [if_neg hApp, List.find?_cons, List.find?_cons, ih]
      by_cases hName : a = name
      · have hOther : ¬app = name := fun hEq => hApp (hName.trans hEq.symm)
        rw [if_neg hOther, if_neg hOther, beq_iff_eq.mpr hName]
      · rw [beq_eq_false_iff_ne.mpr hName]

/-- Of several entries for an app the last one counts. -/
theorem ownPatterns_productsOf (patterns : List Text) {entries : Entries Value}
    {got out : List (Text × List Text)} (h : productsOf got entries = .ok out) (app : Text) :
    match entries.meant? Scalar.plain app with
    | some v => textsOf (orElse (some v) (.list [])) =
        .ok (WhitelistSettings.ownPatterns ⟨patterns, out⟩ app)
    | none => WhitelistSettings.ownPatterns ⟨patterns, out⟩ app =
        WhitelistSettings.ownPatterns ⟨patterns, got⟩ app := by
  induction entries generalizing got with
  | nil =>
    cases h
    rfl
  | cons entry rest ih =>
    obtain ⟨key, value⟩ := entry
    obtain ⟨texts, hTexts, hRest⟩ := (Outcome.bind_eq_ok_iff _ _ _).mp h
    have hLater := ih hRest
    rw [meant?_cons]
    cases hMeant : Entries.meant? Scalar.plain rest app with
    | some v =>
      rw [hMeant] at hLater
      exact hLater
    | none =>
      rw [hMeant] at hLater
      unfold WhitelistSettings.ownPatterns at hLater ⊢
      rw [find?_setProduct] at hLater
      by_cases hApp : key.plain = app
      · rw [if_pos hApp] at hLater ⊢
        exact hTexts.trans (congrArg Except.ok hLater.symm)
      · rw [if_neg hApp] at hLater ⊢
        exact hLater

theorem whitelistIn_eq_ok {data : Entries Value} {w : WhitelistSettings}
    (h : (whitelistIn (snakeKeys data)).outcome = .ok w)
    (hMap : data.meant? meaning "whitelist".toList = none ∨
      ∃ entries, data.meant? meaning "whitelist".toList = some (.map entries)) :
    textsOf (orElse (patternsIn data) (.list [])) = .ok w.patterns ∧
      productsOf [] (productsIn data) = .ok w.products := by
  unfold whitelistIn at h
  rw [getText?_snakeKeys] at h
  unfold productsIn patternsIn productsGiven? sectionOf
  rcases hMap with hNone | ⟨entries, hEntries⟩
  · rw [hNone] at h ⊢
    cases h
    exact ⟨rfl, rfl⟩
  · rw [hEntries] at h ⊢
    obtain ⟨patterns, hPatterns, h⟩ := (Attempt.bind_eq_ok_iff _ _ _).mp h
    cases hGiven : Entries.getText? entries "products".toList with
    | none =>
      rw [hGiven] at h
      cases h
      exact ⟨hPatterns, rfl⟩
    | some v =>
      rw [hGiven, orElse, Option.filter_some] at h
      cases hTruthy : v.isTruthy with
      | true =>
        rw [hTruthy] at h
        cases v with
        | map products =>
          obtain ⟨own, hOwn, h⟩ := (Attempt.bind_eq_ok_iff _ _ _).mp h
          cases h
          exact ⟨hPatterns, hOwn⟩
        | scalar s => cases h
        | list items => cases h
        | tuple items => cases h
        | set items => cases h
      | false =>
        rw [hTruthy] at h
        cases h
        refine ⟨hPatterns, ?_⟩
        cases v with
        | map products =>
          cases products with
          | nil => rfl
          | cons entry rest => cases hTruthy
        | scalar s => rfl
        | list items => rfl
        | tuple items => rfl
        | set items => rfl

theorem ownPatterns_of_productsOf {entries : Entries Value} {w : WhitelistSettings}
    (h : productsOf [] entries = .ok w.products) (app : Text) :
    textsOf (orElse (entries.meant? Scalar.plain app) (.list [])) = .ok (w.ownPatterns app) := by
  have hApp := ownPatterns_productsOf w.patterns h app
  cases hMeant : entries.meant? Scalar.plain app with
  | none =>
    rw [hMeant] at hApp
    exact congrArg Except.ok hApp.symm
  | some v =>
    rw [hMeant] at hApp
    exact hApp

theorem notBoth_of_entries {above below : Entries Value}
    (h : ∀ upper ∈ productsIn above, ∀ lower ∈ productsIn below,
      upper.1.plain = lower.1.plain → asMapping? upper.2 = none ∨ asMapping? lower.2 = none)
    (app : Text) : (entryOf? above app).bind asMapping? = none ∨
      (entryOf? below app).bind asMapping? = none := by
  cases hUpper : entryOf? above app with
  | none => exact .inl rfl
  | some v =>
    cases hLower : entryOf? below app with
    | none => exact .inr rfl
    | some w =>
      obtain ⟨key, hKey⟩ := mem_of_meant? hUpper
      obtain ⟨k, hK⟩ := mem_of_meant? hLower
      obtain ⟨hKey, hName⟩ := (mem_under_iff _ _ _).mp hKey
      obtain ⟨hK, hSame⟩ := (mem_under_iff _ _ _).mp hK
      exact h _ hKey _ hK (hName.trans hSame.symm)

/-- Tidy layers are taken in the order of their rank, setting by setting. -/
theorem load_precedence {tree : Files.Tree} {env : Environment} {request : Request} {s : Settings}
    {package file : Entries Value}
    (hLoad : (load tree (pure standard) env request).outcome = .ok s)
    (hLayers : layersOf tree request = .ok (package, file)) (tidyPackage : Tidy package)
    (tidyFile : Tidy file)
    (hPatterns : (patternsIn file).bind asMapping? = none ∨
      (patternsIn package).bind asMapping? = none)
    (hProducts : ∀ v ∈ productsGiven? file, (asMapping? v).isSome)
    (hEntries : ∀ above ∈ productsIn file, ∀ below ∈ productsIn package,
      above.1.plain = below.1.plain → asMapping? above.2 = none ∨ asMapping? below.2 = none) :
    (∀ f ∈ knownFields,
      match f.set? (request.environment env) with
      | some converted => converted = .ok (f.get s)
      | none => some (f.get s) =
          (f.given? file).or ((f.given? package).or (f.default? standard))) ∧
    textsOf (orElse ((patternsIn file).or (patternsIn package)) (.list [])) =
      .ok s.whitelist.patterns ∧
    ∀ app, textsOf (orElse ((entryOf? file app).or (entryOf? package app)) (.list [])) =
      .ok (s.whitelist.ownPatterns app) := by
  obtain ⟨hLower, hUpper⟩ := orderly_layersOf hLayers
  refine ⟨fun f hField => ?_, ?_⟩
  · -- a setting
    have hValue := get_load hLayers hLoad hField
    rw [merge_nil_of_full hLower.distinct tidyPackage.full,
      given?_merge hLower hUpper tidyPackage tidyFile hField, Option.or_assoc] at hValue
    exact hValue
  · -- the whitelist, which no variable sets
    obtain ⟨_, _, given, applied, hThese, hGiven, hApplied, rootDir, rfl⟩ := load_eq_ok hLoad
    cases hLayers.symm.trans hThese
    rw [merge_nil_of_full hLower.distinct tidyPackage.full] at hGiven
    obtain ⟨v, usual, -, -, hWhitelist, -⟩ := ofGiven_eq_ok hGiven
    have hMap : (merge package file).meant? meaning "whitelist".toList = none ∨
        ∃ entries,
          (merge package file).meant? meaning "whitelist".toList = some (.map entries) := by
      unfold meant?
      have hSection : "whitelist" ∈ sectionNames := List.mem_cons_self
      rcases under_merge_section hLower hUpper tidyPackage tidyFile hSection with
        ⟨hNone, -⟩ | hOne
      · rw [hNone]
        exact .inl rfl
      · rw [hOne]
        exact .inr ⟨_, rfl⟩
    obtain ⟨hTexts, hOwn⟩ := whitelistIn_eq_ok hWhitelist hMap
    rw [patternsIn_merge hLower hUpper tidyPackage tidyFile hPatterns] at hTexts
    have hSame : applied.whitelist = given.whitelist := whitelist_applyEnvironment hApplied
    rw [← hSame] at hTexts hOwn
    refine ⟨hTexts, fun app => ?_⟩
    rw [← entryOf?_merge hLower hUpper tidyPackage tidyFile hProducts
      (notBoth_of_entries hEntries app)]
    exact ownPatterns_of_productsOf hOwn app

def shopTree : Files.Tree := layeredTree
  ("\x7b\"sweep\":\x7b\"appsDir\":\"a\",\"srcDir\":\"b\"," ++
    "\"whitelist\":\x7b\"patterns\":[\"x\"]\x7d\x7d\x7d")
  "\x7b\"apps_dir\":\"c\",\"whitelist\":\x7b\"products\":\x7b\"web\":[\"y\"]\x7d\x7d\x7d"

def shopEnvironment : Environment :=
  [("SWEEP_KNIP_CWD".toList, "d".toList)]

def shopPackage : Entries Value :=
  [(.text "appsDir".toList, word "a"), (.text "srcDir".toList, word "b"),
    (.text "whitelist".toList, Value.record [("patterns", strings ["x"])])]

def shopFile : Entries Value :=
  [(.text "apps_dir".toList, word "c"),
    (.text "whitelist".toList, Value.record [("products", Value.record [("web", strings ["y"])])])]

theorem load_precedence_shop : ∃ s,
    (load shopTree (pure standard) shopEnvironment {}).outcome = .ok s ∧
    (s.appsDir, s.whitelist.patternsFor "web".toList) = (word "c", ["x".toList, "y".toList]) ∧
    layersOf shopTree {} = .ok (shopPackage, shopFile) ∧
    ∀ f ∈ knownFields,
      match f.set? shopEnvironment with
      | some converted => converted = .ok (f.get s)
      | none => some (f.get s) =
          (f.given? shopFile).or ((f.given? shopPackage).or (f.default? standard)) := by
  obtain ⟨s, hLoad, hValues⟩ := Outcome.exists_of_toOption_map
    (f := fun s : Settings => (s.appsDir, s.whitelist.patternsFor "web".toList))
    (x := (load shopTree (pure standard) shopEnvironment {}).outcome)
    (b := (word "c", ["x".toList, "y".toList])) (by decide +kernel)
  have hLayers : layersOf shopTree {} = .ok (shopPackage, shopFile) :=
    Outcome.eq_ok_of_toOption (by decide +kernel)
  have tidyPackage : Tidy shopPackage := by decide +kernel
  have tidyFile : Tidy shopFile := by decide +kernel
  exact ⟨s, hLoad, hValues, hLayers, (load_precedence hLoad hLayers tidyPackage tidyFile
    (by decide +kernel) (by decide +kernel) (by decide +kernel)).1⟩

def saidOf (package file : Entries Value) (app : Text) : Except Error (List Text × List Text) := do
  let patterns ← textsOf (orElse ((patternsIn file).or (patternsIn package)) (.list []))
  let own ← textsOf (orElse ((entryOf? file app).or (entryOf? package app)) (.list []))
  return (patterns, own)

/-- Tidy layers say one thing of the whitelist, and another is loaded. -/
def Mixes (tree : Files.Tree) (app : Text) (said loaded : List Text × List Text) : Prop :=
  said ≠ loaded ∧
    (∃ package file, layersOf tree {} = .ok (package, file) ∧ Tidy package ∧ Tidy file ∧
      saidOf package file app = .ok said) ∧
    ∃ s, (load tree (pure standard) [] {}).outcome = .ok s ∧
      (s.whitelist.patterns, s.whitelist.ownPatterns app) = loaded

theorem mixes_of_runs {tree : Files.Tree} {app : Text} {said loaded : List Text × List Text}
    (hOther : said ≠ loaded)
    (hLayers : (layersOf tree {}).toOption.map (fun layers =>
      (decide (Tidy layers.1 ∧ Tidy layers.2), (saidOf layers.1 layers.2 app).toOption)) =
        some (true, some said))
    (hLoad : (load tree (pure standard) [] {}).outcome.toOption.map (fun s =>
      (s.whitelist.patterns, s.whitelist.ownPatterns app)) = some loaded) :
    Mixes tree app said loaded := by
  obtain ⟨⟨package, file⟩, hThese, hBoth⟩ := Outcome.exists_of_toOption_map hLayers
  obtain ⟨hTidy, hSaid⟩ := Prod.mk.inj hBoth
  obtain ⟨tidyPackage, tidyFile⟩ := of_decide_eq_true hTidy
  refine ⟨hOther, ⟨package, file, hThese, tidyPackage, tidyFile, ?_⟩,
    Outcome.exists_of_toOption_map hLoad⟩
  cases hResult : saidOf package file app with
  | error e =>
    rw [hResult] at hSaid
    cases hSaid
  | ok got =>
    rw [hResult] at hSaid
    exact congrArg Except.ok (Option.some.inj hSaid)

/-- A list of apps that has none puts away those of the layer below, and mappings in the place of
lists of patterns are merged. -/
theorem mixes_whitelists :
    Mixes (layeredTree
        "\x7b\"sweep\":\x7b\"whitelist\":\x7b\"products\":\x7b\"web\":[\"a\"]\x7d\x7d\x7d\x7d"
        "\x7b\"whitelist\":\x7b\"products\":[]\x7d\x7d")
      "web".toList ([], ["a".toList]) ([], []) ∧
    Mixes (layeredTree
        ("\x7b\"sweep\":\x7b\"whitelist\":\x7b\"patterns\":\x7b\"a\":1\x7d," ++
          "\"products\":\x7b\"web\":\x7b\"c\":1\x7d\x7d\x7d\x7d\x7d")
        ("\x7b\"whitelist\":\x7b\"patterns\":\x7b\"b\":1\x7d," ++
          "\"products\":\x7b\"web\":\x7b\"d\":1\x7d\x7d\x7d\x7d"))
      "web".toList (["b".toList], ["d".toList])
      (["a".toList, "b".toList], ["c".toList, "d".toList]) := by
  constructor
  · exact mixes_of_runs (by decide +kernel) (by decide +kernel) (by decide +kernel)
  · exact mixes_of_runs (by decide +kernel) (by decide +kernel) (by decide +kernel)

end AssetAudit.Settings
