import AssetAudit.Proofs.Settings.Layers

/-!
# Faults that settings are told of

Whatever keeps the files of settings from being read has a text, but for some faults of YAML documents.
Of the values in them only the parts of the whitelist and the root directory can keep settings from
being made, and those faults have none.
-/
namespace AssetAudit.Settings

def IsIterable (v : Value) : Prop :=
  ∃ items, v.items? = some items

/-- The parts of a whitelist that is a mapping are of the kinds that they are gone through as. -/
structure FitsWhitelist (entries : Entries Value) : Prop where
  patterns : IsIterable (orElse (Entries.getText? entries "patterns".toList) (.list []))
  products : ∃ products, orElse (Entries.getText? entries "products".toList) (.map []) = .map products ∧
    ∀ product ∈ products, IsIterable (orElse (some product.2) (.list []))

theorem textsOf_eq (v : Value) : (IsIterable v ∧ ∃ ts, textsOf v = .ok ts) ∨
    ¬IsIterable v ∧ textsOf v = .error .notIterable := by
  unfold textsOf
  cases hItems : v.items? with
  | none =>
    refine .inr ⟨?_, rfl⟩
    rintro ⟨items, hSome⟩
    rw [hItems] at hSome
    cases hSome
  | some items => exact .inl ⟨⟨items, hItems⟩, _, rfl⟩

theorem exists_textsOf_iff (v : Value) : (∃ ts, textsOf v = .ok ts) ↔ IsIterable v := by
  rcases textsOf_eq v with ⟨hFits, hTexts⟩ | ⟨hNot, hError⟩
  · exact iff_of_true hTexts hFits
  · rw [hError]
    exact iff_of_false nofun hNot

theorem exists_productsOf_iff (got : List (Text × List Text)) (entries : Entries Value) :
    (∃ products, productsOf got entries = .ok products) ↔
      ∀ entry ∈ entries, IsIterable (orElse (some entry.2) (.list [])) := by
  induction entries generalizing got with
  | nil => exact iff_of_true ⟨got, rfl⟩ nofun
  | cons entry rest ih =>
    rw [List.forall_mem_cons, ← exists_textsOf_iff]
    unfold productsOf
    simp only [Outcome.bind_eq_ok_iff]
    constructor
    · rintro ⟨products, patterns, hPatterns, hRest⟩
      exact ⟨⟨patterns, hPatterns⟩, (ih _).mp ⟨products, hRest⟩⟩
    · rintro ⟨⟨patterns, hPatterns⟩, hRest⟩
      obtain ⟨products, hProducts⟩ := (ih (setProduct entry.1.plain patterns got)).mpr hRest
      exact ⟨products, patterns, hPatterns, hProducts⟩

theorem eq_notIterable_of_textsOf {v : Value} {e : Error} (h : textsOf v = .error e) :
    e = .notIterable := by
  rcases textsOf_eq v with ⟨-, ts, hTexts⟩ | ⟨-, hError⟩
  · cases h.symm.trans hTexts
  · exact Except.error.inj (h.symm.trans hError)

theorem eq_notIterable_of_productsOf {got : List (Text × List Text)} {entries : Entries Value}
    {e : Error} (h : productsOf got entries = .error e) : e = .notIterable := by
  induction entries generalizing got with
  | nil => cases h
  | cons entry rest ih =>
    rcases (Outcome.bind_eq_error_iff _ _ _).mp h with hTexts | ⟨patterns, -, hRest⟩
    · exact eq_notIterable_of_textsOf hTexts
    · exact ih hRest

/-- A whitelist is read unless it is a mapping with parts of other kinds. -/
theorem exists_whitelistOf_iff (v : Value) : (∃ w, (whitelistOf v).outcome = .ok w) ↔
    ∀ entries, v = .map entries → FitsWhitelist entries := by
  cases v with
  | map entries =>
    constructor
    · rintro ⟨w, h⟩ _ ⟨⟩
      obtain ⟨patterns, hPatterns, h⟩ := (Attempt.bind_eq_ok_iff _ _ _).mp h
      refine ⟨(exists_textsOf_iff _).mp ⟨patterns, hPatterns⟩, ?_⟩
      split at h
      · rename_i products hProducts
        obtain ⟨read, hRead, -⟩ := (Attempt.bind_eq_ok_iff _ _ _).mp h
        exact ⟨products, hProducts, (exists_productsOf_iff _ _).mp ⟨read, hRead⟩⟩
      · cases h
    · intro h
      obtain ⟨hTexts, products, hProducts, hEach⟩ := h entries rfl
      obtain ⟨patterns, hPatterns⟩ := (exists_textsOf_iff _).mpr hTexts
      obtain ⟨read, hRead⟩ := (exists_productsOf_iff [] products).mpr hEach
      refine ⟨{ patterns, products := read }, (Attempt.bind_eq_ok_iff _ _ _).mpr
        ⟨patterns, hPatterns, ?_⟩⟩
      rw [hProducts]
      exact (Attempt.bind_eq_ok_iff _ _ _).mpr ⟨read, hRead, rfl⟩
  | list items => exact iff_of_true ⟨_, rfl⟩ nofun
  | scalar s => exact iff_of_true ⟨_, rfl⟩ nofun
  | tuple items => exact iff_of_true ⟨_, rfl⟩ nofun
  | set items => exact iff_of_true ⟨_, rfl⟩ nofun

theorem not_isExplained_of_whitelistOf {v : Value} {e : Error} (h : (whitelistOf v).outcome = .error e) :
    e.isExplained = false := by
  cases v with
  | map entries =>
    rcases (Attempt.bind_eq_error_iff _ _ _).mp h with hTexts | ⟨patterns, -, h⟩
    · rw [eq_notIterable_of_textsOf hTexts]
      rfl
    · split at h
      · rcases (Attempt.bind_eq_error_iff _ _ _).mp h with hProducts | ⟨read, -, h⟩
        · rw [eq_notIterable_of_productsOf hProducts]
          rfl
        · cases h
      · cases h
        rfl
  | list items => cases h
  | scalar s => cases h
  | tuple items => cases h
  | set items => cases h

theorem exists_defaults_standard : ∃ usual, defaults standard = .ok usual :=
  ⟨_, rfl⟩

theorem outcome_ofGiven (given : Given) : ∃ build : WhitelistSettings → Settings,
    (ofGiven (pure standard) given).outcome = (whitelistIn given).outcome.map build := by
  obtain ⟨usual, hUsual⟩ := exists_defaults_standard
  refine ⟨fun whitelist => { overrideProject usual given with
    whitelist
    knip := (overrideSection given "knip" analyzerNames overrideAnalyzer usual.knip).value
    report := (overrideSection given "report" reportNames overrideReport usual.report).value
    logging := (overrideSection given "logging" loggingNames overrideLogging usual.logging).value }, ?_⟩
  unfold ofGiven whitelistIn
  refine (Attempt.outcome_bind _ _).trans ?_
  refine (Attempt.outcome_bind _ _).trans ?_
  refine (Attempt.outcome_bind _ _).trans ?_
  rw [Attempt.outcome_ofExcept]
  rw [hUsual]
  cases Entries.getText? given "whitelist".toList with
  | none => rfl
  | some v =>
    refine (Attempt.outcome_bind _ _).trans ?_
    cases (whitelistOf v).outcome <;> rfl

variable {tree : Files.Tree} {root : FilePath} {request : Request} {e : Error}

theorem isExplained_of_system {α : Type} {x : Except Files.Error α}
    (h : x.mapError Error.system = .error e) : e.isExplained = true := by
  obtain ⟨system, -, rfl⟩ := (Outcome.mapError_eq_error_iff _ _ _).mp h
  rfl

theorem isExplained_of_readPackage (h : (readPackage tree root).outcome = .error e) :
    e.isExplained = true := by
  rcases (Attempt.bind_eq_error_iff _ _ _).mp h with hFile | ⟨present, -, h⟩
  · exact isExplained_of_system hFile
  · split at h
    · cases h
    · split at h
      · cases h
      · cases h

theorem isExplained_of_findFile? {names : List String} (h : findFile? tree root names = .error e) :
    e.isExplained = true := by
  induction names with
  | nil => cases h
  | cons name rest ih =>
    rcases (Outcome.bind_eq_error_iff _ _ _).mp h with hFile | ⟨found, -, h⟩
    · exact isExplained_of_system hFile
    · cases found with
      | true => cases h
      | false => exact ih h

theorem isExplained_of_fileText {path : FilePath} (h : fileText tree path = .error e) :
    e.isExplained = true := by
  unfold fileText at h
  split at h
  · cases h
    rfl
  · split at h
    · cases h
    · cases h
      rfl

/-- Of the faults of a document, only those of YAML may have no text. -/
theorem isExplained_of_parse {format : Format} {document : Text}
    (h : format.parse document = .error e) : e.isExplained = true ∨ ∃ fault, e = .yaml fault := by
  cases format with
  | yaml =>
    unfold Format.parse at h
    dsimp only at h
    cases hRead : Yaml.read document with
    | ok v =>
      rw [hRead] at h
      cases h
    | error fault =>
      rw [hRead] at h
      cases h
      exact .inr ⟨fault, rfl⟩
  | json =>
    unfold Format.parse at h
    dsimp only at h
    split at h
    · cases h
    · obtain ⟨fault, -, rfl⟩ := (Outcome.mapError_eq_error_iff _ _ _).mp h
      exact .inl rfl

theorem isExplained_of_readEntries {path : FilePath} (h : readEntries tree path = .error e) :
    e.isExplained = true ∨ ∃ fault, e = .yaml fault := by
  rcases (Outcome.bind_eq_error_iff _ _ _).mp h with hPresent | ⟨present, -, h⟩
  · exact .inl (isExplained_of_system hPresent)
  split at h
  · cases h
    exact .inl rfl
  rcases (Outcome.bind_eq_error_iff _ _ _).mp h with hText | ⟨document, -, h⟩
  · exact .inl (isExplained_of_fileText hText)
  rcases (Outcome.bind_eq_error_iff _ _ _).mp h with hFormat | ⟨format, -, h⟩
  · unfold Format.ofPath? at hFormat
    dsimp only at hFormat
    split at hFormat
    · cases hFormat
    · split at hFormat
      · cases hFormat
      · cases hFormat
        exact .inl rfl
  rcases (Outcome.bind_eq_error_iff _ _ _).mp h with hParse | ⟨v, -, h⟩
  · exact isExplained_of_parse hParse
  split at h
  · cases h
  · cases h
    exact .inl rfl

theorem isExplained_of_readFile (h : readFile tree request = .error e) :
    e.isExplained = true ∨ ∃ fault, e = .yaml fault := by
  rcases (Outcome.bind_eq_error_iff _ _ _).mp h with hFile | ⟨path?, -, h⟩
  · left
    unfold fileOf at hFile
    split at hFile
    · cases hFile
    · exact isExplained_of_findFile? hFile
  · cases path? with
    | none => cases h
    | some path => exact isExplained_of_readEntries h

theorem isExplained_of_parseFloat {t : Text} (h : parseFloat t = .error e) : e.isExplained = true := by
  unfold parseFloat at h
  split at h
  · cases h
  · cases h
    rfl

theorem isExplained_of_read : ∀ v ∈ knownVariables, ∀ t e, v.read t = .error e →
    e.isExplained = true := by
  unfold knownVariables
  repeat' refine List.forall_mem_cons.mpr ⟨?_, ?_⟩
  all_goals first
    | exact fun _ hMem => absurd hMem List.not_mem_nil
    | exact fun _ _ h => isExplained_of_parseFloat h
    | exact fun _ _ h => nomatch h

theorem isExplained_of_applyEnvironment {env : Environment} {s : Settings}
    (h : applyEnvironment env s = .error e) : e.isExplained = true := by
  have hReads := isExplained_of_read
  unfold applyEnvironment at h
  generalize knownVariables = vs at h hReads
  induction vs generalizing s with
  | nil => cases h
  | cons v rest ih =>
    obtain ⟨hFirst, hRest⟩ := List.forall_mem_cons.mp hReads
    rw [List.foldlM_cons] at h
    rcases (Outcome.bind_eq_error_iff _ _ _).mp h with hVariable | ⟨next, -, h⟩
    · unfold applyVariable at hVariable
      split at hVariable
      · rename_i t hText
        cases hRead : v.read t with
        | ok x =>
          rw [hRead] at hVariable
          cases hVariable
        | error fault =>
          rw [hRead] at hVariable
          cases hVariable
          exact hFirst t _ hRead
      · cases hVariable
    · exact ih h hRest

/-- The root directory cannot be placed when something other than a text is given for it. -/
theorem placeRoot_spec (root : FilePath) (given : Value) :
    (∃ v, placeRoot root given = .ok v) ∧ (given.isTruthy = true → ∃ t, given = .text t) ∨
      placeRoot root given = .error .notAPath ∧ given.isTruthy = true ∧ ∀ t, given ≠ .text t := by
  unfold placeRoot
  split
  · rename_i hGiven
    split
    · exact .inl ⟨⟨_, rfl⟩, fun _ => ⟨_, rfl⟩⟩
    · rename_i hOther
      exact .inr ⟨rfl, hGiven, hOther⟩
  · rename_i hGiven
    exact .inl ⟨⟨_, rfl⟩, fun h => absurd h hGiven⟩

/-- What a project has to have in its settings for every fault of them to be told: its YAML document has
no fault but those of numbers, dates and characters, its whitelist fits, and its root directory is a
text if it is given. -/
structure Told (tree : Files.Tree) (request : Request) (env : Environment) : Prop where
  document : ∀ package fault, (readPackage tree (rootOf tree request)).outcome = .ok package →
    readFile tree request = .error (.yaml fault) → (Error.yaml fault).isExplained = true
  whitelist : ∀ package file, layersOf tree request = .ok (package, file) → ∀ entries,
    Entries.getText? (snakeKeys (merge (merge [] package) file)) "whitelist".toList =
      some (.map entries) → FitsWhitelist entries
  root : ∀ package file given applied, layersOf tree request = .ok (package, file) →
    (ofGiven (pure standard) (snakeKeys (merge (merge [] package) file))).outcome = .ok given →
      applyEnvironment (request.environment env) given = .ok applied →
        applied.rootDir.isTruthy = true → ∃ t, applied.rootDir = .text t

theorem outcome_load (tree : Files.Tree) (sections : Attempt Error Value) (env : Environment)
    (request : Request) : (load tree sections env request).outcome =
      layersOf tree request >>= fun layers =>
        (ofGiven sections (snakeKeys (merge (merge [] layers.1) layers.2))).outcome >>= fun given =>
          applyEnvironment (request.environment env) given >>= fun applied =>
            (placeRoot (rootOf tree request) applied.rootDir).map fun rootDir =>
              { applied with rootDir } := by
  unfold load
  dsimp only
  rw [Attempt.outcome_bind, outcome_readLayers]
  cases layersOf tree request with
  | error e => rfl
  | ok layers =>
    change (ofValue sections (.map (merge (merge [] layers.1) layers.2)) >>= _).outcome =
      (ofGiven sections (snakeKeys (merge (merge [] layers.1) layers.2))).outcome >>= _
    rw [Attempt.outcome_bind, ofValue_map]
    cases (ofGiven sections (snakeKeys (merge (merge [] layers.1) layers.2))).outcome with
    | error e => rfl
    | ok given =>
      unfold Request.environment
      cases request.useEnvironment with
      | true =>
        refine (Attempt.outcome_bind _ _).trans ?_
        rw [Attempt.outcome_ofExcept]
        change _ = applyEnvironment env given >>= _
        cases applyEnvironment env given with
        | error e => rfl
        | ok applied => exact Attempt.outcome_bind_pure _ _
      | false => exact Attempt.outcome_bind_pure _ _

/-- Over the usual sections, settings cannot be made when the whitelist cannot be read. -/
theorem ofGiven_eq_error_iff (given : Given) (e : Error) :
    (ofGiven (pure standard) given).outcome = .error e ↔
      ∃ v, Entries.getText? given "whitelist".toList = some v ∧ (whitelistOf v).outcome = .error e := by
  obtain ⟨build, hBuild⟩ := outcome_ofGiven given
  rw [hBuild]
  unfold whitelistIn
  cases Entries.getText? given "whitelist".toList with
  | none => exact iff_of_false nofun nofun
  | some v =>
    simp only [Option.some.injEq, exists_eq_left']
    cases (whitelistOf v).outcome <;> simp [Except.map]

/-- Every fault of the settings is told exactly when the project has what it has to have. -/
theorem load_told_iff (tree : Files.Tree) (env : Environment) (request : Request) :
    (∀ e, (load tree (pure standard) env request).outcome = .error e → e.isExplained = true) ↔
      Told tree request env := by
  simp only [outcome_load, Outcome.bind_eq_error_iff]
  constructor
  · intro h
    refine ⟨?_, ?_, ?_⟩
    · intro package fault hPackage hFile
      refine h _ (.inl ?_)
      unfold layersOf
      rw [hPackage]
      change (readFile tree request).map _ = _
      rw [hFile]
      rfl
    · intro package file hLayers entries hGiven
      by_cases hReads : ∃ w, (whitelistOf (.map entries)).outcome = .ok w
      · exact (exists_whitelistOf_iff _).mp hReads entries rfl
      · cases hError : (whitelistOf (.map entries)).outcome with
        | ok w => exact absurd ⟨w, hError⟩ hReads
        | error e =>
          have hTold := h e (.inr ⟨(package, file), hLayers, .inl
            ((ofGiven_eq_error_iff _ _).mpr ⟨_, hGiven, hError⟩)⟩)
          rw [not_isExplained_of_whitelistOf hError] at hTold
          cases hTold
    · intro package file given applied hLayers hGiven hApplied hTruthy
      rcases placeRoot_spec (rootOf tree request) applied.rootDir with ⟨-, hText⟩ | ⟨hError, -⟩
      · exact hText hTruthy
      · have hPlaced := h .notAPath (.inr ⟨(package, file), hLayers, .inr ⟨given, hGiven,
          .inr ⟨applied, hApplied, by rw [hError]; rfl⟩⟩⟩)
        cases hPlaced
  · rintro ⟨hDocument, hWhitelist, hRoot⟩ e h
    rcases h with hLayers | ⟨⟨package, file⟩, hLayers, hGiven | ⟨given, hGiven, hApplied |
      ⟨applied, hApplied, hPlaced⟩⟩⟩
    · rcases (Outcome.bind_eq_error_iff _ _ _).mp hLayers with hPackage | ⟨package, hPackage, hFile⟩
      · exact isExplained_of_readPackage hPackage
      · cases hRead : readFile tree request with
        | ok file =>
          rw [hRead] at hFile
          cases hFile
        | error fault =>
          rw [hRead] at hFile
          cases hFile
          rcases isExplained_of_readFile hRead with hTold | ⟨fault, rfl⟩
          · exact hTold
          · exact hDocument package fault hPackage hRead
    · obtain ⟨v, hSome, hError⟩ := (ofGiven_eq_error_iff _ _).mp hGiven
      obtain ⟨w, hOk⟩ := (exists_whitelistOf_iff v).mpr fun entries hMap =>
        hWhitelist package file hLayers entries (hMap ▸ hSome)
      rw [hOk] at hError
      cases hError
    · exact isExplained_of_applyEnvironment hApplied
    · rcases placeRoot_spec (rootOf tree request) applied.rootDir with
        ⟨⟨v, hOk⟩, -⟩ | ⟨-, hTruthy, hOther⟩
      · rw [hOk] at hPlaced
        cases hPlaced
      · obtain ⟨t, hText⟩ := hRoot package file given applied hLayers hGiven hApplied hTruthy
        exact absurd hText (hOther t)

end AssetAudit.Settings
