import AssetAudit.Proofs.Findings.Reports
import AssetAudit.Proofs.Json.LineEnds
import AssetAudit.Proofs.Json.RoundTrip
import AssetAudit.Proofs.Path.Inside

/-!
# Reports in an output

A report stands behind a banner of other lines. The output is cut into lines, and what is joined again has
line feeds for all line ends. Between the parts of the report this makes no difference, but a string
that holds a line end as it is can no longer be read, and nothing is reported at all.
-/
namespace AssetAudit.Findings

open Json (IsLayout Spells isPlainEnd)

variable {banner t body after : Text} {report : Entries Value}

/-- A path lies in the sources when one of its directories has their name. -/
theorem inSources_iff (path : Text) : inSources path = true ↔
    "src".toList ∈ (Text.splitOn '/' (Path.toPosix path)).dropLast := by
  rw [inSources, Bool.or_eq_true, Text.occursIn_iff, Text.startsWith, List.isPrefixOf_iff_prefix,
    Text.mem_dropLast_splitOn_iff (by decide)]
  rfl

theorem keepsSource_iff (item : Value) : keepsSource item = true ↔
    ∀ path, path? item = some path →
      "src".toList ∈ (Text.splitOn '/' (Path.toPosix path)).dropLast := by
  simp only [← inSources_iff, keepsSource]
  cases path? item with
  | none => simp
  | some p => simp

/-- Complete lines before a report, none of which could begin one. -/
structure IsBanner (banner : Text) : Prop where
  complete : banner = [] ∨ banner.EndsLine
  quiet : ∀ line ∈ banner.lines, startsDocument line = false

theorem startsDocument_brace (t : Text) : startsDocument ('\x7b' :: t) = true := by
  obtain ⟨more, hTrim⟩ := Text.exists_trimRightBy_cons (p := Text.isBlank) (c := '\x7b') (by decide) t
  rw [startsDocument, Text.trim, Text.trimBy, Text.trimLeftBy_cons (by decide), hTrim]
  rfl

/-- The lines of a report are those behind the banner. -/
theorem documentLines_brace (hBanner : IsBanner banner) (t : Text) :
    documentLines (banner ++ '\x7b' :: t) = Text.lines ('\x7b' :: t) := by
  obtain ⟨more, others, hLines⟩ := Text.exists_lines_cons (c := '\x7b') (by decide) t
  have hSkipped : ∀ line ∈ banner.lines, (!startsDocument line) = true := fun line hMem => by
    rw [hBanner.quiet line hMem]
    rfl
  rw [documentLines, Text.lines_append hBanner.complete (by simp),
    List.dropWhile_append_of_pos hSkipped, hLines,
    List.dropWhile_cons_of_neg (by simp [startsDocument_brace])]

theorem isBlank_of_isLayout (h : IsLayout t) : ∀ c ∈ t, Text.isBlank c = true := by
  intro c hMem
  rcases Json.eq_of_isLayout (h c hMem) with rfl | rfl | rfl | rfl
  all_goals decide

/-- What is joined and trimmed is the report with one kind of line end. -/
theorem trim_join_lines (hAfter : IsLayout after) (body : Text) :
    (Text.join ['\n'] (Text.lines ('\x7b' :: (body ++ ['\x7d']) ++ after))).trim =
      Text.relined ('\x7b' :: (body ++ ['\x7d'])) := by
  obtain ⟨inside, hReport, hInside⟩ :=
    (Json.relined_relined ('\x7b' :: (body ++ ['\x7d']))).cons (by decide)
  obtain ⟨inner, _, rfl, -, hClose⟩ := hInside.append
  obtain rfl := hClose.eq (List.forall_mem_singleton.mpr (by decide))
  have hLast : ('\x7b' :: (body ++ ['\x7d'])).getLast? ≠ some '\r' := by
    rw [← List.cons_append, List.getLast?_concat]
    decide
  have hBlank := isBlank_of_isLayout ((Json.relined_relined after).isLayout hAfter)
  rw [Text.trim_join_lines, Text.relined_append hLast, Text.trim, Text.trimBy_append hBlank, hReport]
  -- neither end of the report is a blank
  refine Text.trimBy_eq_self ?_ ?_
  · rintro c hHead
    cases hHead
    decide
  · intro c hEnd
    rw [← List.cons_append, List.getLast?_concat] at hEnd
    cases hEnd
    decide

theorem exists_body (h : Spells (.map report) t) : ∃ body, t = '\x7b' :: (body ++ ['\x7d']) := by
  cases h with
  | emptyMap hLayout => exact ⟨_, rfl⟩
  | map hLayout hClosing hKeys h =>
    rename_i first more closing
    exact ⟨first.whole ++ (more.flatMap (',' :: ·.whole) ++ closing), by simp⟩

/-- The document behind a banner is the report, unless a string in it holds a line end as it is. -/
theorem document?_of_spells (hBanner : IsBanner banner) (h : Spells (.map report) t)
    (hAfter : IsLayout after) :
    document? (banner ++ (t ++ after)) = if t.any isPlainEnd then none else some (.map report) := by
  obtain ⟨body, rfl⟩ := exists_body h
  have hLines := documentLines_brace hBanner (body ++ ['\x7d'] ++ after)
  obtain ⟨more, others, hSome⟩ :=
    Text.exists_lines_cons (c := '\x7b') (by decide) (body ++ ['\x7d'] ++ after)
  rw [List.cons_append, document?, hLines, ← Json.read_relined h, ← trim_join_lines hAfter body,
    List.cons_append, hSome]

theorem category_of_list {name : String} {items : List Value}
    (h : report.getText? name.toList = some (.list items)) : category report name = .list items := by
  rw [category, h]
  cases items with
  | nil => rfl
  | cons item rest => rfl

theorem ofReport_of_lists {files dependencies devDependencies exports types : List Value}
    (hFiles : category report "files" = .list files)
    (hDependencies : category report "dependencies" = .list dependencies)
    (hDevDependencies : category report "devDependencies" = .list devDependencies)
    (hExports : category report "exports" = .list exports)
    (hTypes : category report "types" = .list types) :
    ofReport report = .ok {
      files := files.filter keepsSource
      dependencies, devDependencies
      exports := exports.filter keepsSource
      types := types.filter keepsSource } := by
  rw [ofReport, packages, packages, hFiles, hDependencies, hDevDependencies, hExports, hTypes]
  rfl

section Sample

variable {file : Text}

def sample (file : Text) : Entries Value :=
  [(.text "files".toList, .list [.text file, .text "lib/b.ts".toList]),
    (.text "dependencies".toList, .list [.text "left-pad".toList]),
    (.text "devDependencies".toList, .list []),
    (.text "exports".toList, .list [.map [(.text "name".toList, .text "go".toList)]]),
    (.text "types".toList, .list [])]

def sampleText (file : Text) : Text :=
  "\x7b\"files\": [\"".toList ++ (file ++
    ("\", \"lib/b.ts\"],\r\n\"dependencies\": [\"left-pad\"], \"devDependencies\": [ ], ".toList ++
    "\"exports\": [\x7b\"name\": \"go\"\x7d], \"types\": []\x7d".toList))

theorem spells_self (h : ∀ c ∈ file, 31 < c.toNat ∧ c ≠ '"' ∧ c ≠ '\\') :
    Spells (.text file) ('"' :: (file ++ ['"'])) :=
  .text (Json.isString_self h)

theorem spells_sample (h : ∀ c ∈ file, 31 < c.toNat ∧ c ≠ '"' ∧ c ≠ '\\') :
    Spells (.map (sample file)) (sampleText file) := by
  have hNone : IsLayout [] := Json.isLayout_nil
  have hSpace : IsLayout [' '] := List.forall_mem_singleton.mpr rfl
  have hLine : IsLayout ['\r', '\n'] :=
    List.forall_mem_cons.mpr ⟨rfl, List.forall_mem_singleton.mpr rfl⟩
  have hOther : Spells (.text "lib/b.ts".toList) "\"lib/b.ts\"".toList := spells_self (by simp)
  have hFiles := Json.spells_items hNone (spells_self h) (.cons hSpace hOther .nil) hNone
  have hPackage : Spells (.text "left-pad".toList) "\"left-pad\"".toList := spells_self (by simp)
  have hName : Spells (.text "go".toList) "\"go\"".toList := spells_self (by simp)
  have hExport := Json.spells_entries hNone "name".toList hName .nil hNone
  have hReport := Json.spells_entries hNone "files".toList hFiles
    (.cons hLine "dependencies".toList (Json.spells_items hNone hPackage .nil hNone)
      (.cons hSpace "devDependencies".toList (.emptyList hSpace)
        (.cons hSpace "exports".toList (Json.spells_items hNone hExport .nil hNone)
          (.cons hSpace "types".toList (.emptyList hNone) .nil)))) hNone
  simp only [List.append_assoc, List.cons_append, List.nil_append] at hReport
  exact hReport

end Sample

/-- A report with five lists is read as these lists, with what lies in the sources of three of them. One
line end in a string makes it none. -/
theorem report_behind_banner {files dependencies devDependencies exports types : List Value}
    (hBanner : IsBanner banner) (hReport : Spells (.map report) t) (hAfter : IsLayout after)
    (hFiles : report.getText? "files".toList = some (.list files))
    (hDependencies : report.getText? "dependencies".toList = some (.list dependencies))
    (hDevDependencies : report.getText? "devDependencies".toList = some (.list devDependencies))
    (hExports : report.getText? "exports".toList = some (.list exports))
    (hTypes : report.getText? "types".toList = some (.list types)) :
    read? (banner ++ (t ++ after)) = .ok (if t.any isPlainEnd then none else some {
        files := files.filter keepsSource
        dependencies, devDependencies
        exports := exports.filter keepsSource
        types := types.filter keepsSource }) ∧
      ∀ item, keepsSource item = true ↔ ∀ path, path? item = some path →
        "src".toList ∈ (Text.splitOn '/' (Path.toPosix path)).dropLast := by
  refine ⟨?_, keepsSource_iff⟩
  rw [read?, document?_of_spells hBanner hReport hAfter]
  cases t.any isPlainEnd with
  | true => rfl
  | false =>
    rw [if_neg Bool.false_ne_true, if_neg Bool.false_ne_true]
    dsimp only
    rw [ofReport_of_lists (category_of_list hFiles) (category_of_list hDependencies)
      (category_of_list hDevDependencies) (category_of_list hExports) (category_of_list hTypes)]
    rfl

theorem report_behind_banner_sample :
    read? ("> knip\r\n".toList ++ (sampleText "src/é.ts".toList ++ ['\n'])) = .ok (some {
      files := [.text "src/é.ts".toList]
      dependencies := [.text "left-pad".toList]
      devDependencies := []
      exports := [.map [(.text "name".toList, .text "go".toList)]]
      types := [] }) :=
  have hBanner : IsBanner "> knip\r\n".toList := ⟨.inr ⟨'\n', rfl, rfl⟩, by decide⟩
  (report_behind_banner hBanner (spells_sample (by simp)) (List.forall_mem_singleton.mpr rfl) rfl rfl
    rfl rfl rfl).1.trans rfl

/-- A name with a line separator in it makes the whole report none. -/
theorem line_separator_hides_report :
    Spells (.map (sample "src/a\u2028b.ts".toList)) (sampleText "src/a\u2028b.ts".toList) ∧
      read? (sampleText "src/a\u2028b.ts".toList) = .ok none := by
  have hSpells : Spells (.map (sample "src/a\u2028b.ts".toList)) (sampleText "src/a\u2028b.ts".toList) :=
    spells_sample (by simp)
  have hNoBanner : IsBanner [] := ⟨.inl rfl, List.forall_mem_nil _⟩
  have hPlain : (sampleText "src/a\u2028b.ts".toList).any isPlainEnd = true := by decide
  have hDocument := document?_of_spells hNoBanner hSpells Json.isLayout_nil
  rw [List.nil_append, List.append_nil, if_pos hPlain] at hDocument
  refine ⟨hSpells, ?_⟩
  rw [read?, hDocument]

end AssetAudit.Findings
