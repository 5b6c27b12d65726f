import AssetAudit.Proofs.App.Session
import AssetAudit.Proofs.Files.Walk
import AssetAudit.Proofs.Files.Whole
import AssetAudit.Proofs.Whitelist.Runs
import AssetAudit.Proofs.Whitelist.Spellings

/-!
# Keys of paths

The whitelist looks up every path by one key. All spellings of a path below the app have the same key, and
the key of a collected asset is the path that it is shown with.
-/
namespace AssetAudit

namespace FilePath

theorem IsSpelled.child {p : FilePath} (h : p.IsSpelled) {name : Text} (hPart : isPart name = true)
    (hSlash : '/' ∉ name) : (p.child name).IsSpelled := by
  refine ⟨h.root, fun part hMem => ?_⟩
  rcases List.mem_append.mp hMem with hMem | hMem
  · exact h.parts part hMem
  · obtain rfl := List.mem_singleton.mp hMem
    exact ⟨hPart, hSlash⟩

end FilePath

namespace Files

variable {tree : Tree} {c : Collector} {wanted : List Text} {root : FilePath}

/-- Walking adds the names in a tree to a path, which can still be read from its text. -/
theorem isSpelled_of_mem_walkFrom (hProper : tree.root.Proper) {fuel : Nat} {directory : FilePath}
    {visit : Visit} (hSpelled : directory.IsSpelled)
    (h : visit ∈ walkFrom tree c wanted root fuel directory) : visit.path.IsSpelled := by
  induction fuel generalizing directory with
  | zero => cases h
  | succ fuel ih =>
    unfold walkFrom at h
    cases hListing : listing tree directory with
    | error e =>
      rw [hListing] at h
      obtain rfl := List.mem_singleton.mp h
      exact hSpelled
    | ok kinds =>
      rw [hListing] at h
      obtain ⟨names, hNames, hDirectories, hOthers⟩ := listing_spec hListing
      have hEntry : ∀ path ∈ names.map directory.child, path.IsSpelled := by
        intro path hMem
        obtain ⟨name, hName, rfl⟩ := List.mem_map.mp hMem
        obtain ⟨place, entries, hAt, rfl⟩ := Tree.exists_names_eq hNames
        have hKnown := (Text.sort_perm _).mem_iff.mp hName
        obtain ⟨hPart, hSlash⟩ := (hProper place entries hAt).2 name hKnown
        exact hSpelled.child hPart hSlash
      rcases List.mem_append.mp h with hBelow | hHere
      · obtain ⟨next, hNext, hVisit⟩ := List.mem_flatMap.mp hBelow
        rw [hDirectories] at hNext
        exact ih (hEntry next (List.mem_of_mem_filter (List.mem_of_mem_filter hNext))) hVisit
      · obtain ⟨path, hPath, rfl⟩ := List.mem_map.mp hHere
        rw [hOthers] at hPath
        exact hEntry path (List.mem_of_mem_filter (List.mem_of_mem_filter hPath))

/-- A collected asset lies below the directory that was walked, and is shown as seen from the app. -/
theorem asset_of_collectAssets (hProper : tree.root.Proper) {directory app : FilePath}
    {extensions : Value} {assets : List Asset} (hSpelled : directory.IsSpelled)
    (h : (collectAssets tree c directory app extensions).outcome = .ok assets) {a : Asset}
    (hMem : a ∈ assets) :
    a.path.IsSpelled ∧ directory.Contains a.path ∧
      a.relative = ((a.path.relativeTo? app).getD a.path).text := by
  obtain ⟨visits, hVisits, hValue⟩ := (Attempt.bind_eq_ok_iff _ _ _).mp h
  cases hValue
  obtain ⟨hFile, -, hRelative⟩ := mem_assetsOf_iff.mp hMem
  rw [Attempt.outcome_ofExcept] at hVisits
  obtain ⟨-, wanted, -, rfl⟩ | ⟨-, rfl⟩ := walk_eq_ok_iff.mp hVisits
  · have hPath : (Visit.file a.path).path.IsSpelled := isSpelled_of_mem_walkFrom hProper hSpelled hFile
    exact ⟨hPath, contains_of_mem_walkFrom hFile, hRelative⟩
  · cases List.mem_singleton.mp hFile

end Files

namespace Whitelist.Matcher

variable {cwd app : Text} {entries : List Value} {m : Matcher} {names spellings : List Text}

/-- Spellings of one path below the app have one key, one verdict and, where there is anything to look
up, one entry. -/
theorem one_entry_for_spellings (h : create cwd app entries = .ok m) (calls : List Call)
    (hSome : names ≠ []) (hNames : ∀ name ∈ names, Path.IsName name ∧ '\\' ∉ name)
    (hAsked : spellings ≠ []) (hSpells : ∀ q ∈ spellings, Path.Spells cwd app names q) :
    ∃ latest, compile (inForce entries calls) = .ok latest ∧
      (∀ q ∈ spellings, ((m.run calls).value.2.normalize q).value.1 = Text.join ['/'] names) ∧
      ((m.run calls).value.2.run (spellings.map .check)).value.1 =
        spellings.map (fun _ => .listed (latest.accepts (Text.join ['/'] names))) ∧
      ((m.run calls).value.2.run (spellings.map .check)).value.2.verdicts.filter
          (·.1 == Text.join ['/'] names) =
        if latest.isEmpty then []
        else [(Text.join ['/'] names, latest.accepts (Text.join ['/'] names))] := by
  obtain ⟨c, hCompile, hServes⟩ := serves_create h
  obtain ⟨latest, hLatest, hFinal⟩ := hServes.run hCompile calls
  have hForm : ∀ q ∈ spellings,
      Path.normalize (Path.absolute cwd app) q = .form (Text.join ['/'] names) := fun q hMem =>
    Path.normalize_of_spells hSome (fun name hName => (hNames name hName).1)
      (fun name hName => (hNames name hName).2) (hSpells q hMem)
  have hKey : Text.join ['/'] names ≠ [] := by
    intro hNil
    have hSplit := Text.splitOn_join hSome fun name hName => (hNames name hName).1.slash
    rw [hNil] at hSplit
    exact nomatch (hNames [] (hSplit ▸ List.mem_singleton_self _)).1.part
  obtain ⟨p, hp⟩ := List.exists_mem_of_ne_nil spellings hAsked
  refine ⟨latest, hLatest, ?_, ?_, ?_⟩
  · intro q hq
    rw [normalize_value, hFinal.app_eq, hForm q hq]
  · rw [hFinal.run_spellings (hForm p hp) hAsked hForm, hFinal.check_value, verdict, hForm p hp]
    simp [hKey]
  · rw [hFinal.run_spellings (hForm p hp) hAsked hForm]
    refine hFinal.entry_after_check (hForm p hp) hKey fun hEmpty => ?_
    refine verdicts_run_of_isEmpty ?_ calls (hFinal.compiled_eq ▸ hEmpty)
    intro _
    obtain ⟨_, _, rfl⟩ := (create_eq_ok_iff _ _ _ _).mp h
    rfl

variable {tree : Files.Tree} {c : Files.Collector} {extensions : Value} {assets : List Files.Asset}

def placeOf (tree : Files.Tree) (app : Text) : FilePath :=
  (FilePath.ofText app).absolute tree.cwd

theorem key_of_asset (hReal : tree.IsReal) (hCwd : tree.cwd.IsSpelled)
    (h : create tree.cwd.text app entries = .ok m) (calls : List Call) {scan : FilePath}
    (hScan : scan.IsSpelled) (hInside : (placeOf tree app).Contains scan)
    (hAssets : (Files.collectAssets tree c scan (placeOf tree app) extensions).outcome = .ok assets)
    {a : Files.Asset} (hMem : a ∈ assets)
    (hNames : ∀ name ∈ a.path.parts.drop (placeOf tree app).parts.length,
      name ≠ ['.', '.'] ∧ '\\' ∉ name) :
    ((m.run calls).value.2.normalize a.path.text).value.1 = a.relative := by
  obtain ⟨c, hCompile, hServes⟩ := serves_create h
  obtain ⟨latest, -, hFinal⟩ := hServes.run hCompile calls
  obtain ⟨hSpelled, hBelow, hRelative⟩ := Files.asset_of_collectAssets hReal.proper hScan hAssets hMem
  obtain ⟨hRoot, names, hParts⟩ := hInside.trans hBelow
  rw [← hParts, List.drop_left] at hNames
  have hWay : a.path.relativeTo? (placeOf tree app) = some ⟨[], names⟩ := by
    rw [FilePath.relativeTo?, if_pos hRoot, ← hParts, FilePath.dropFront?_append]
    rfl
  have hPlain : ∀ name ∈ names, Path.IsName name := by
    intro name hName
    obtain ⟨hPart, hSlash⟩ := hSpelled.parts name (hParts ▸ List.mem_append_right _ hName)
    exact ⟨hPart, hSlash, (hNames name hName).1⟩
  have hAbsolute : a.path.isAbsolute = true := by
    have hStart : (placeOf tree app).isAbsolute = true := FilePath.isAbsolute_join hReal.start
    rwa [FilePath.isAbsolute, hRoot]
  have hResolve : Path.resolve ['/'] a.path.text =
      Path.resolve ['/'] (Path.absolute tree.cwd.text app) ++ names := by
    rw [Path.resolve_absolute, Path.resolve_ofText hCwd, Path.resolve_root,
      hSpelled.resolveBelow_text, ← hParts, List.foldl_append]
    exact FilePath.foldl_step_of_no_up
      (fun name hName => ⟨(hPlain name hName).part, (hPlain name hName).up⟩) _
  rw [normalize_value, hFinal.app_eq, Path.normalize_below (hSpelled.isAbsolute_text hAbsolute)
    hResolve hPlain fun name hName => (hNames name hName).2, hRelative, hWay]
  rfl

/-- All spellings of a path below an app have one key, with one verdict and one entry when there are
patterns in force and none otherwise; and for an asset collected inside the app it is the path that the
asset is shown with. -/
theorem keys_agree (hReal : tree.IsReal) (hCwd : tree.cwd.IsSpelled)
    (h : create tree.cwd.text app entries = .ok m) (calls : List Call) :
    (∀ names spellings : List Text, names ≠ [] → (∀ name ∈ names, Path.IsName name ∧ '\\' ∉ name) →
      spellings ≠ [] → (∀ q ∈ spellings, Path.Spells tree.cwd.text app names q) →
      ∃ latest, compile (inForce entries calls) = .ok latest ∧
        (∀ q ∈ spellings, ((m.run calls).value.2.normalize q).value.1 = Text.join ['/'] names) ∧
        ((m.run calls).value.2.run (spellings.map .check)).value.1 =
          spellings.map (fun _ => .listed (latest.accepts (Text.join ['/'] names))) ∧
        ((m.run calls).value.2.run (spellings.map .check)).value.2.verdicts.filter
            (·.1 == Text.join ['/'] names) =
          if latest.isEmpty then []
          else [(Text.join ['/'] names, latest.accepts (Text.join ['/'] names))]) ∧
    ∀ (c : Files.Collector) (scan : FilePath) (extensions : Value) (assets : List Files.Asset),
      scan.IsSpelled → (placeOf tree app).Contains scan →
      (Files.collectAssets tree c scan (placeOf tree app) extensions).outcome = .ok assets →
      ∀ a ∈ assets, (∀ name ∈ a.path.parts.drop (placeOf tree app).parts.length,
          name ≠ ['.', '.'] ∧ '\\' ∉ name) →
        ((m.run calls).value.2.normalize a.path.text).value.1 = a.relative := by
  constructor
  · intro names spellings hSome hNames hAsked hSpells
    exact one_entry_for_spellings h calls hSome hNames hAsked hSpells
  · intro c scan extensions assets hScan hInside hAssets a hMem hNames
    exact key_of_asset hReal hCwd h calls hScan hInside hAssets hMem hNames

def pictureTree : Files.Tree where
  root := .directory [("app".toList, .directory [("src".toList, .directory [("a.png".toList, .file [])])])]
  cwd := ⟨['/'], []⟩

def pictures (scan place : FilePath) : Except Files.CollectError (List Files.Asset) :=
  (Files.collectAssets pictureTree ⟨[], []⟩ scan place (.list [.text ".png".toList])).outcome

def shownPaths (assets : List Files.Asset) : List (FilePath × Text) :=
  assets.map fun a => (a.path, a.relative)

theorem keys_agree_picture :
    let m : Matcher := { app := "/app".toList, compiled := { names := ["a.png".toList] } }
    let p := "src/a.png".toList
    let spellings := [p, "./src/a.png".toList, ".\\src\\a.png".toList, "/app/src/a.png".toList]
    create ['/'] "/app".toList [.text "a.png".toList] = .ok m ∧
      (m.run (spellings.map .check)).value.2.verdicts.filter (·.1 == p) = [(p, true)] ∧
      ∃ assets, pictures (.ofText "/app/src".toList) (placeOf pictureTree "/app".toList) = .ok assets ∧
        shownPaths assets = [(.ofText "/app/src/a.png".toList, p)] ∧
        ∀ a ∈ assets, (m.normalize a.path.text).value.1 = a.relative := by
  intro m p spellings
  have hReal : pictureTree.IsReal :=
    ⟨Files.Node.proper_of_isProper (by decide +kernel), rfl, by decide⟩
  have hCwd : pictureTree.cwd.IsSpelled := FilePath.isSpelled_ofText ['/']
  have hCreate : create pictureTree.cwd.text "/app".toList [.text "a.png".toList] = .ok m := rfl
  obtain ⟨hSpellings, hKeys⟩ := keys_agree hReal hCwd hCreate []
  refine ⟨rfl, ?_, ?_⟩
  · have hNames : ∀ name ∈ ["src".toList, "a.png".toList], Path.IsName name ∧ '\\' ∉ name := by
      simp only [List.forall_mem_cons]
      exact ⟨⟨⟨by decide, by decide, by decide⟩, by decide⟩,
        ⟨⟨by decide, by decide, by decide⟩, by decide⟩, nofun⟩
    have hSpells : ∀ q ∈ spellings, Path.Spells ['/'] "/app".toList ["src".toList, "a.png".toList] q := by
      simp only [spellings, List.forall_mem_cons]
      exact ⟨.written (.inl rfl), .written (.inr rfl), .written (.inr rfl),
        .absolute (a := "/app".toList) rfl rfl, nofun⟩
    obtain ⟨latest, hLatest, -, -, hEntry⟩ := hSpellings ["src".toList, "a.png".toList] spellings
      (List.cons_ne_nil _ _) hNames (List.cons_ne_nil _ _) hSpells
    cases hLatest
    exact hEntry
  · obtain ⟨assets, hAssets, hShown⟩ := Outcome.exists_of_toOption_map (f := shownPaths)
      (x := pictures (.ofText "/app/src".toList) (placeOf pictureTree "/app".toList))
      (b := [(.ofText "/app/src/a.png".toList, p)]) (by decide +kernel)
    have hBelow : ∀ a ∈ assets, ∀ name ∈ a.path.parts.drop 1, name ≠ ['.', '.'] ∧ '\\' ∉ name := by
      intro a hMem
      have hPath : (a.path, a.relative) ∈ shownPaths assets := List.mem_map_of_mem hMem
      rw [hShown] at hPath
      obtain ⟨hPath, -⟩ := Prod.mk.inj (List.mem_singleton.mp hPath)
      rw [hPath]
      decide
    have hInside : (placeOf pictureTree "/app".toList).Contains (.ofText "/app/src".toList) :=
      ⟨rfl, by decide⟩
    refine ⟨assets, hAssets, hShown, fun a hMem => ?_⟩
    unfold pictures at hAssets
    exact hKeys _ _ _ assets (FilePath.isSpelled_ofText _) hInside hAssets a hMem (hBelow a hMem)

/-- Without patterns a path that is asked for has no entry. A picture of an app with two leading slashes
is shown with its whole path when the scan begins with one slash, and its key begins at the app. -/
theorem keys_apart :
    (∃ m, create ['/'] "/app".toList [] = .ok m ∧
      (m.run [.check "src/a.png".toList]).value.2.verdicts = []) ∧
    ∃ m assets, create ['/'] "//app".toList [] = .ok m ∧
      pictures (.ofText "/app/src".toList) (placeOf pictureTree "//app".toList) = .ok assets ∧
      shownPaths assets = [(.ofText "/app/src/a.png".toList, "/app/src/a.png".toList)] ∧
      (m.normalize "/app/src/a.png".toList).value.1 = "src/a.png".toList := by
  obtain ⟨assets, hAssets, hShown⟩ := Outcome.exists_of_toOption_map (f := shownPaths)
    (x := pictures (.ofText "/app/src".toList) (placeOf pictureTree "//app".toList))
    (b := [(.ofText "/app/src/a.png".toList, "/app/src/a.png".toList)]) (by decide +kernel)
  exact ⟨⟨_, rfl, rfl⟩, _, assets, rfl, hAssets, hShown, rfl⟩

end Whitelist.Matcher

end AssetAudit
