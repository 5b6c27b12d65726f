import AssetAudit.Proofs.Files.Saving
import AssetAudit.Proofs.Json.Documents
import AssetAudit.Proofs.Settings.Forms
import AssetAudit.Proofs.Value.Identity
import AssetAudit.Proofs.Yaml.Documents
import Mathlib.Data.List.TakeWhile

/-!
# Settings saved and read again

What settings a mapping gives can be saved at every path with the suffix of a format. The document is
read back from the file character by character, so that the same settings are read from it, and no
notice is given, wherever the format's reader takes its document for what was written.
-/
namespace AssetAudit

namespace Text

theorem trim_ne_nil {c : Char} {rest : Text} (h : isBlank c = false) : trim (c :: rest) ≠ [] := by
  intro hNone
  have hLeft : trimLeftBy isBlank (c :: rest) = c :: rest :=
    List.dropWhile_cons_of_neg (by simp [h])
  unfold trim trimBy trimRightBy at hNone
  rw [hLeft, List.reverse_eq_nil_iff, List.dropWhile_eq_nil_iff] at hNone
  have hBlank := hNone c (List.mem_reverse.mpr List.mem_cons_self)
  rw [h] at hBlank
  cases hBlank

end Text

namespace Settings

def Format.load (format : Format) (document : Text) : Except Error Value :=
  match format with
  | .yaml => (Yaml.read document).mapError .yaml
  | .json => (Json.read document).mapError (.json document)

theorem Format.exists_write (format : Format) {v : Value} (h : v.IsJson) :
    ∃ document, format.write v = .ok document ∧ document.Printed := by
  cases format with
  | yaml => exact ⟨_, rfl, Yaml.printed_write v⟩
  | json =>
    obtain ⟨document, hWrite, hPrinted⟩ := Json.writes_of_isJson h ⟨some 2⟩ 0
    refine ⟨document, ?_, hPrinted⟩
    unfold Format.write Json.pretty
    rw [hWrite]
    rfl

theorem head_of_pretty {entry : Scalar × Value} {entries : Entries Value} {document : Text}
    (h : Json.pretty (.map (entry :: entries)) = .ok document) :
    ∃ rest, document = '\x7b' :: rest := by
  obtain ⟨key, value⟩ := entry
  unfold Json.pretty at h
  rw [Json.write] at h
  obtain ⟨k, -, h⟩ := (Outcome.bind_eq_ok_iff _ _ _).mp h
  obtain ⟨first, -, h⟩ := (Outcome.bind_eq_ok_iff _ _ _).mp h
  obtain ⟨more, -, h⟩ := (Outcome.bind_eq_ok_iff _ _ _).mp h
  cases h
  exact ⟨_, rfl⟩

theorem Format.parse_eq_ok {format : Format} {entry : Scalar × Value} {entries : Entries Value}
    {document : Text} (hWrite : format.write (.map (entry :: entries)) = .ok document)
    (hLoad : format.load document = .ok (.map (entry :: entries))) :
    format.parse document = .ok (.map (entry :: entries)) := by
  cases format with
  | yaml =>
    unfold Format.parse
    dsimp only
    rw [show (Yaml.read document).mapError Error.yaml = _ from hLoad]
    rfl
  | json =>
    have hPretty := (Outcome.mapError_eq_ok_iff _ _ _).mp hWrite
    obtain ⟨rest, rfl⟩ := head_of_pretty hPretty
    have hBlank : (Text.trim ('\x7b' :: rest)).isEmpty = false := by
      refine Bool.eq_false_iff.mpr fun hEmpty => ?_
      exact Text.trim_ne_nil (by decide) (List.isEmpty_iff.mp hEmpty)
    unfold Format.parse
    dsimp only
    rw [hBlank, if_neg Bool.false_ne_true]
    exact hLoad

theorem fileText_of_node {tree : Files.Tree} {path : FilePath} {document : Text}
    (h : tree.node path = .ok (.file (Text.utf8 document))) (hPrinted : document.Printed) :
    fileText tree path = .ok document := by
  have hRead : tree.read path = .ok (Text.utf8 document) := by
    unfold Files.Tree.read
    rw [h]
  unfold fileText
  rw [hRead]
  dsimp only
  rw [Text.ofUtf8_utf8 hPrinted]
  exact congrArg Except.ok (Text.unifyLineEnds_eq_self hPrinted)

/-- What was saved is read as the mapping that was written. -/
theorem readEntries_of_save {tree saved : Files.Tree} {path : FilePath} {format : Format}
    {document : Text} {entry : Scalar × Value} {entries : Entries Value}
    (hFormat : Format.ofPath? path = .ok format)
    (hWrite : format.write (.map (entry :: entries)) = .ok document) (hPrinted : document.Printed)
    (hLoad : format.load document = .ok (.map (entry :: entries)))
    (hSave : tree.save path (Text.utf8 document) = .ok saved) :
    readEntries saved path = .ok (entry :: entries) := by
  have hNode := Files.Tree.node_of_save hSave
  have hPresent : isPresent saved path = .ok true := by
    unfold isPresent Files.Tree.pathExists Files.Tree.holds
    rw [hNode]
    rfl
  refine (Outcome.bind_eq_ok_iff _ _ _).mpr ⟨true, hPresent, ?_⟩
  rw [if_neg (by decide)]
  exact (Outcome.bind_eq_ok_iff _ _ _).mpr ⟨document, fileText_of_node hNode hPrinted,
    (Outcome.bind_eq_ok_iff _ _ _).mpr ⟨format, hFormat,
      (Outcome.bind_eq_ok_iff _ _ _).mpr ⟨_, Format.parse_eq_ok hWrite hLoad, rfl⟩⟩⟩

theorem save_eq {tree : Files.Tree} {path : FilePath} {s : Settings} {format : Format}
    {document : Text} (hFormat : Format.ofPath? path = .ok format)
    (hWrite : format.write s.toValue = .ok document) :
    save tree path s = (tree.save path (Text.utf8 document)).mapError .system := by
  unfold save
  rw [hFormat]
  change (format.write s.toValue >>= fun document => _) = _
  rw [hWrite]
  rfl

theorem exists_entries_of_ofValue {sections : Attempt Error Value} {data : Value}
    (hData : data.IsJson) {s : Settings} (h : (ofValue sections data).outcome = .ok s) :
    ∃ entries, (Value.map entries).IsJson ∧
      (ofGiven sections (snakeKeys entries)).outcome = .ok s := by
  obtain ⟨entries, hEntries, hGiven⟩ := (Attempt.bind_eq_ok_iff _ _ _).mp h
  refine ⟨entries, ?_, hGiven⟩
  have hOk : entriesOf data = .ok entries := hEntries
  unfold entriesOf at hOk
  split at hOk
  · split at hOk
    · cases hOk
      exact hData
    · cases hOk
  · cases hOk
    exact .map List.Pairwise.nil nofun nofun

def endings : List (String × Format) :=
  [(".yaml", .yaml), (".yml", .yaml), (".json", .json)]

/-- The name of a path is something followed by an ending of the format. -/
def Format.Names (format : Format) (path : FilePath) : Prop :=
  ∃ stem ending, stem ≠ [] ∧ (ending, format) ∈ endings ∧ path.name = stem ++ ending.toList

theorem nameSuffix_append {stem extension : Text} (hStem : stem ≠ []) (hGiven : extension ≠ [])
    (hDot : '.' ∉ extension) :
    FilePath.nameSuffix (stem ++ '.' :: extension) = '.' :: extension := by
  have hAll : ∀ c ∈ extension.reverse, (c != '.') = true := by
    intro c hMem
    refine bne_iff_ne.mpr ?_
    rintro rfl
    exact hDot (List.mem_reverse.mp hMem)
  have hLast : ((stem ++ '.' :: extension).reverse.takeWhile (· != '.')).reverse = extension := by
    rw [List.reverse_append, List.reverse_cons, List.append_assoc,
      List.takeWhile_append_of_pos hAll, List.reverse_append, List.reverse_reverse]
    rfl
  have hLength : 0 < stem.length := List.length_pos_of_ne_nil hStem
  unfold FilePath.nameSuffix
  rw [hLast]
  dsimp only
  rw [if_neg]
  rw [List.length_append, List.length_cons, Bool.or_eq_true, List.isEmpty_iff, decide_eq_true_iff]
  rintro (hNone | hShort)
  · exact hGiven hNone
  · omega

theorem Format.Names.ofPath?_eq {format : Format} {path : FilePath} (h : format.Names path) :
    Format.ofPath? path = .ok format := by
  obtain ⟨stem, ending, hStem, hEnding, hName⟩ := h
  have hSuffix : ∀ extension : Text, '.' :: extension = ending.toList → extension ≠ [] →
      '.' ∉ extension → path.suffix = ending.toList := by
    intro extension hEq hGiven hDot
    unfold FilePath.suffix
    rw [hName, ← hEq, nameSuffix_append hStem hGiven hDot]
  simp only [endings, List.mem_cons, Prod.mk.injEq, List.not_mem_nil, or_false] at hEnding
  unfold Format.ofPath?
  rcases hEnding with ⟨rfl, rfl⟩ | ⟨rfl, rfl⟩ | ⟨rfl, rfl⟩
  · rw [hSuffix "yaml".toList (by decide) (by decide) (by decide)]
    rfl
  · rw [hSuffix "yml".toList (by decide) (by decide) (by decide)]
    rfl
  · rw [hSuffix "json".toList (by decide) (by decide) (by decide)]
    rfl

/-- The settings of a mapping come back from their own mapping, and from every file that they were
saved to. They are saved wherever the file system takes a file. -/
theorem settings_come_back {data : Value} (hData : data.IsJson) {s : Settings}
    (h : (ofValue (pure standard) data).outcome = .ok s) :
    ofValue (pure standard) s.toValue = pure s ∧ s.toValue.IsJson ∧
      ∀ (path : FilePath) (format : Format), format.Names path →
        ∃ document, format.write s.toValue = .ok document ∧ ∀ tree : Files.Tree,
          (tree.Takes path → ∃ saved, save tree path s = .ok saved) ∧
          (∀ e, save tree path s = .error e → ∃ fault, e = .system fault) ∧
          ∀ saved, save tree path s = .ok saved → format.load document = .ok s.toValue →
            ofFile (pure standard) saved path = pure s := by
  obtain ⟨entries, hEntries, hGiven⟩ := exists_entries_of_ofValue hData h
  have hSame : ofValue (pure standard) s.toValue = pure s :=
    ofValue_toValue rfl (single_of_ofGiven hGiven)
  have hJson := isJson_toValue hEntries hGiven
  refine ⟨hSame, hJson, fun path format hNames => ?_⟩
  obtain ⟨document, hWrite, hPrinted⟩ := format.exists_write hJson
  refine ⟨document, hWrite, fun tree => ?_⟩
  rw [save_eq hNames.ofPath?_eq hWrite]
  refine ⟨?_, ?_, ?_⟩
  · intro hTakes
    obtain ⟨saved, hSaved⟩ := hTakes.exists_save (Text.utf8 document)
    exact ⟨saved, by rw [hSaved]; rfl⟩
  · intro e hError
    obtain ⟨fault, -, rfl⟩ := (Outcome.mapError_eq_error_iff _ _ _).mp hError
    exact ⟨fault, rfl⟩
  · intro saved hSaved hLoad
    have hTree := (Outcome.mapError_eq_ok_iff _ _ _).mp hSaved
    have hRead := readEntries_of_save hNames.ofPath?_eq hWrite hPrinted hLoad hTree
    unfold ofFile
    rw [hRead, Attempt.ofExcept_ok_bind]
    exact hSame

def someSettings : Value :=
  Value.record [("appsDir", .text "shops".toList), ("assetExtensions", textList [".svg".toList]),
    ("sourceExtensions", textList [".ts".toList]), ("excludeDirs", .list []),
    ("whitelist", textList ["*.svg".toList]), ("colour", .bool true),
    ("knip", Value.record [("timeout", .int 5), ("commands", .list [])])]

def treeWithSettings : Files.Tree where
  root := .directory [("a.json".toList, .file [])]
  cwd := ⟨['/'], []⟩

def ComeBack (s : Settings) (tree : Files.Tree) (path : FilePath) : Prop :=
  ∃ saved, save tree path s = .ok saved ∧ ofFile (pure standard) saved path = pure s

theorem settings_come_back_some : someSettings.IsJson ∧
    ∃ s, (ofValue (pure standard) someSettings).outcome = .ok s ∧
      s.ComeBack treeWithSettings (.ofText "a.json".toList) ∧
      s.ComeBack treeWithSettings (.ofText "b.yaml".toList) := by
  have hJson : someSettings.IsJson := Value.isJson_sound (by decide +kernel)
  obtain ⟨s, hGiven, hLoads⟩ := Outcome.exists_of_toOption_map
    (x := (ofValue (pure standard) someSettings).outcome) (b := true)
    (f := fun s : Settings => decide (∀ format ∈ [Format.json, .yaml],
      (format.write s.toValue >>= format.load).toOption = some s.toValue)) (by decide +kernel)
  obtain ⟨-, -, hComes⟩ := settings_come_back hJson hGiven
  have hBack : ∀ {format path}, format ∈ [Format.json, .yaml] → format.Names path →
      treeWithSettings.Takes path → s.ComeBack treeWithSettings path := by
    intro format path hFormat hNames hTakes
    obtain ⟨document, hWrite, hTree⟩ := hComes path format hNames
    obtain ⟨hSaves, -, hReads⟩ := hTree treeWithSettings
    obtain ⟨saved, hSaved⟩ := hSaves hTakes
    have hLoad := of_decide_eq_true hLoads format hFormat
    rw [hWrite] at hLoad
    exact ⟨saved, hSaved, hReads saved hSaved (Outcome.eq_ok_of_toOption hLoad)⟩
  refine ⟨hJson, s, hGiven, ?_, ?_⟩
  · refine hBack List.mem_cons_self ⟨['a'], ".json", by decide, by decide, by decide⟩ ?_
    exact ⟨FilePath.isSpelled_ofText _, by decide +kernel, by decide +kernel, by decide +kernel,
      by decide +kernel, by decide +kernel, [], _, rfl, by rintro child ⟨⟩; exact ⟨[], rfl⟩⟩
  · refine hBack (List.mem_cons_of_mem _ List.mem_cons_self)
      ⟨['b'], ".yaml", by decide, by decide, by decide⟩ ?_
    exact ⟨FilePath.isSpelled_ofText _, by decide +kernel, by decide +kernel, by decide +kernel,
      by decide +kernel, by decide +kernel, [], _, rfl, nofun⟩

/-- A name that is nothing but an ending has no suffix, and a directory is not written over. -/
theorem not_saved_everywhere :
    (Value.map []).IsJson ∧ ∃ s, (ofValue (pure standard) (.map [])).outcome = .ok s ∧
      (∀ tree, save tree (.ofText ".yaml".toList) s = .error (.unsupportedFormat [])) ∧
      save ⟨.directory [("a.json".toList, .directory [])], ⟨['/'], []⟩⟩ (.ofText "a.json".toList) s =
        .error (.system ⟨.isADirectory, "a.json".toList⟩) := by
  have hJson : (Value.map []).IsJson := Value.isJson_sound (by decide)
  obtain ⟨s, hGiven, -⟩ := Outcome.exists_of_toOption_map
    (x := (ofValue (pure standard) (.map [])).outcome) (b := ()) (f := fun _ => ())
    (by decide +kernel)
  obtain ⟨entries, hEntries, hThese⟩ := exists_entries_of_ofValue hJson hGiven
  obtain ⟨document, hWrite, -⟩ := Format.json.exists_write (isJson_toValue hEntries hThese)
  refine ⟨hJson, s, hGiven, fun tree => rfl, ?_⟩
  have hFormat : Format.ofPath? (.ofText "a.json".toList) = .ok .json := rfl
  rw [save_eq hFormat hWrite]
  rfl

end Settings

end AssetAudit
