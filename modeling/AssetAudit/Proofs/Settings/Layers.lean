import AssetAudit.Proofs.Settings.Given

/-!
# Layers of settings

Settings are made from the mapping of the package file, with that of the settings file laid over it.
What the merged mapping gives for a name is told here by what the two layers give for it.
-/
namespace AssetAudit.Settings

open Value (Orderly)
open Entries

def readFile (tree : Files.Tree) (request : Request) : Except Error (Entries Value) :=
  fileOf tree request (rootOf tree request) >>= fun path? =>
    match path? with
    | some path => readEntries tree path
    | none => .ok []

def layersOf (tree : Files.Tree) (request : Request) :
    Except Error (Entries Value × Entries Value) :=
  (readPackage tree (rootOf tree request)).outcome >>= fun package =>
    (readFile tree request).map fun file => (package, file)

def Request.environment (request : Request) (env : Environment) : Environment :=
  if request.useEnvironment then env else []

theorem outcome_readLayers (tree : Files.Tree) (request : Request) :
    (readLayers tree request (rootOf tree request)).outcome =
      (layersOf tree request).map fun layers => merge (merge [] layers.1) layers.2 := by
  unfold readLayers layersOf readFile
  rw [Attempt.outcome_bind]
  cases (readPackage tree (rootOf tree request)).outcome with
  | error e => rfl
  | ok package =>
    refine (Attempt.outcome_bind _ _).trans ?_
    rw [Attempt.outcome_ofExcept]
    cases fileOf tree request (rootOf tree request) with
    | error e => rfl
    | ok path? =>
      cases path? with
      | none => rfl
      | some path =>
        refine (Attempt.outcome_bind _ _).trans ?_
        rw [Attempt.outcome_ofExcept]
        change _ = ((readEntries tree path).map _).map _
        cases readEntries tree path with
        | error e => rfl
        | ok file => rfl

/-- The trees count by their layers and their root alone. -/
theorem outcome_load_congr {tree tree' : Files.Tree} {request : Request}
    (hRoot : rootOf tree' request = rootOf tree request)
    (hData : (layersOf tree' request).map (fun layers => merge (merge [] layers.1) layers.2) =
      (layersOf tree request).map fun layers => merge (merge [] layers.1) layers.2)
    (sections : Attempt Error Value) (env : Environment) :
    (load tree' sections env request).outcome = (load tree sections env request).outcome := by
  unfold load
  dsimp only
  rw [Attempt.outcome_bind, Attempt.outcome_bind, outcome_readLayers, outcome_readLayers, hData,
    hRoot]

theorem ofValue_map (sections : Attempt Error Value) (data : Entries Value) :
    (ofValue sections (.map data)).outcome = (ofGiven sections (snakeKeys data)).outcome := by
  cases data with
  | nil => rfl
  | cons entry rest => rfl

theorem load_eq_ok {tree : Files.Tree} {sections : Attempt Error Value} {env : Environment}
    {request : Request} {s : Settings} (h : (load tree sections env request).outcome = .ok s) :
    ∃ package file given applied, layersOf tree request = .ok (package, file) ∧
      (ofGiven sections (snakeKeys (merge (merge [] package) file))).outcome = .ok given ∧
      applyEnvironment (request.environment env) given = .ok applied ∧
      ∃ rootDir, s = { applied with rootDir } := by
  obtain ⟨data, hData, h⟩ := (Attempt.bind_eq_ok_iff _ _ _).mp h
  rw [outcome_readLayers] at hData
  obtain ⟨⟨package, file⟩, hLayers, rfl⟩ := (Outcome.map_eq_ok_iff _ _ _).mp hData
  obtain ⟨given, hGiven, h⟩ := (Attempt.bind_eq_ok_iff _ _ _).mp h
  rw [ofValue_map] at hGiven
  unfold Request.environment
  cases hUse : request.useEnvironment with
  | true =>
    rw [hUse] at h
    obtain ⟨applied, hApplied, h⟩ := (Attempt.bind_eq_ok_iff _ _ _).mp h
    obtain ⟨rootDir, -, h⟩ := (Attempt.bind_eq_ok_iff _ _ _).mp h
    cases h
    exact ⟨package, file, given, applied, hLayers, hGiven, hApplied, rootDir, rfl⟩
  | false =>
    rw [hUse] at h
    obtain ⟨applied, hApplied, h⟩ := (Attempt.bind_eq_ok_iff _ _ _).mp h
    obtain ⟨rootDir, -, h⟩ := (Attempt.bind_eq_ok_iff _ _ _).mp h
    cases hApplied
    cases h
    exact ⟨package, file, given, given, hLayers, hGiven, rfl, rootDir, rfl⟩

theorem get_defaults : ∀ f ∈ knownFields, ∀ usual, defaults standard = .ok usual →
    some (f.get usual) = f.default? standard := by
  intro f hField usual hUsual
  rw [← default?_standard f hField, hUsual]
  rfl

/-- A setting that is loaded has the value of its variable, or what the merged layers give for it,
or its default. -/
theorem get_load {tree : Files.Tree} {request : Request} {env : Environment}
    {package file : Entries Value} {s : Settings}
    (hLayers : layersOf tree request = .ok (package, file))
    (h : (load tree (pure standard) env request).outcome = .ok s) {f : Field}
    (hField : f ∈ knownFields) :
    match f.set? (request.environment env) with
    | some converted => converted = .ok (f.get s)
    | none => some (f.get s) =
        (f.given? (merge (merge [] package) file)).or (f.default? standard) := by
  obtain ⟨_, _, given, applied, hThese, hGiven, hApplied, rootDir, rfl⟩ := load_eq_ok h
  cases hLayers.symm.trans hThese
  obtain ⟨v, usual, hSections, hUsual, hGet⟩ := get_ofGiven hGiven
  cases hSections
  have hEnvironment := get_applyEnvironment hApplied hField
  rw [get_rootDir applied rootDir f hField]
  cases hSet : f.set? (request.environment env) with
  | some converted =>
    rw [hSet] at hEnvironment
    exact hEnvironment
  | none =>
    rw [hSet] at hEnvironment
    dsimp only at hEnvironment ⊢
    rw [hEnvironment, hGet f hField, ← get_defaults f hField usual hUsual]
    cases f.given? (merge (merge [] package) file) with
    | some v => rfl
    | none => rfl

theorem orderly_readPackage {tree : Files.Tree} {root : FilePath} {package : Entries Value}
    (h : (readPackage tree root).outcome = .ok package) : Orderly Scalar.IsText (.map package) := by
  obtain ⟨present, -, h⟩ := (Attempt.bind_eq_ok_iff _ _ _).mp h
  cases present with
  | false =>
    cases h
    exact Value.orderly_nil
  | true =>
    rw [if_neg (by simp)] at h
    split at h
    · rename_i v hRead
      cases h
      obtain ⟨t, -, hRead⟩ := (Outcome.bind_eq_ok_iff _ _ _).mp hRead
      have hValue := Json.orderly_read ((Outcome.mapError_eq_ok_iff _ _ _).mp hRead)
      unfold packageSettings
      cases hFound : packageFields.findSome? fun name =>
          (v.field? name.toList).bind asMapping? with
      | none => exact Value.orderly_nil
      | some entries =>
        obtain ⟨name, -, hName⟩ := List.exists_of_findSome?_eq_some hFound
        obtain ⟨field, hField, hMap⟩ := Option.bind_eq_some_iff.mp hName
        obtain rfl := eq_map_of_asMapping? hMap
        cases v with
        | map all => exact hValue.get? hField
        | scalar s => cases hField
        | list items => cases hField
        | tuple items => cases hField
        | set items => cases hField
    · cases h
      exact Value.orderly_nil

theorem orderly_parse {format : Format} {document : Text} {v : Value}
    (h : format.parse document = .ok v) : Orderly (fun _ => True) v := by
  cases format with
  | yaml =>
    obtain ⟨got, hGot, rfl⟩ := (Outcome.map_eq_ok_iff _ _ _).mp h
    split
    · exact Yaml.orderly_read ((Outcome.mapError_eq_ok_iff _ _ _).mp hGot)
    · exact Value.orderly_nil
  | json =>
    unfold Format.parse at h
    dsimp only at h
    split at h
    · cases h
      exact Value.orderly_nil
    · exact (Json.orderly_read ((Outcome.mapError_eq_ok_iff _ _ _).mp h)).of_kind fun _ _ => trivial

theorem orderly_readFile {tree : Files.Tree} {request : Request} {file : Entries Value}
    (h : readFile tree request = .ok file) : Orderly (fun _ => True) (.map file) := by
  obtain ⟨path?, -, h⟩ := (Outcome.bind_eq_ok_iff _ _ _).mp h
  cases path? with
  | none =>
    cases h
    exact Value.orderly_nil
  | some path =>
    obtain ⟨present, -, h⟩ := (Outcome.bind_eq_ok_iff _ _ _).mp h
    cases present with
    | false => cases h
    | true =>
      rw [if_neg (by simp)] at h
      obtain ⟨document, -, h⟩ := (Outcome.bind_eq_ok_iff _ _ _).mp h
      obtain ⟨format, -, h⟩ := (Outcome.bind_eq_ok_iff _ _ _).mp h
      obtain ⟨v, hValue, h⟩ := (Outcome.bind_eq_ok_iff _ _ _).mp h
      cases v with
      | map entries =>
        cases h
        exact orderly_parse hValue
      | scalar s => cases h
      | list items => cases h
      | tuple items => cases h
      | set items => cases h

theorem orderly_layersOf {tree : Files.Tree} {request : Request} {package file : Entries Value}
    (h : layersOf tree request = .ok (package, file)) :
    Orderly Scalar.IsText (.map package) ∧ Orderly (fun _ => True) (.map file) := by
  obtain ⟨package, hPackage, h⟩ := (Outcome.bind_eq_ok_iff _ _ _).mp h
  obtain ⟨file, hFile, hEq⟩ := (Outcome.map_eq_ok_iff _ _ _).mp h
  cases hEq
  exact ⟨orderly_readPackage hPackage, orderly_readFile hFile⟩

def layeredTree (package file : String) : Files.Tree where
  root := .directory [("package.json".toList, .file (Text.utf8 package.toList)),
    ("sweep.config.json".toList, .file (Text.utf8 file.toList))]
  cwd := ⟨['/'], []⟩

end AssetAudit.Settings
