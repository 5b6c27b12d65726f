import AssetAudit.Proofs.Console.Marks
import AssetAudit.Proofs.Console.Printing
import AssetAudit.Report.View
import Mathlib.Data.List.Basic

/-!
# What a report shows

The names and messages of a report are read as marked-up text when it is shown, all but the paths that
the whitelist let pass. Which texts end the printing, and which paths are shown as they are, is told for
every report and every width.
-/
namespace AssetAudit

open Console

namespace Console

variable {s : Text}

theorem cells_dash : Text.cells "   - ".toList = 5 := by decide +kernel

theorem naturalWidth_path_pos : 0 < naturalWidth "Path".toList := by decide +kernel

theorem format?_four : FileSize.format? 4 = some "4 B".toList := by decide +kernel

theorem isBare_hundredths (n : Nat) : IsBare (FileSize.hundredths n) := by
  unfold FileSize.hundredths
  refine (isBare_ofNat _).append ?_
  split
  · exact nofun
  · split
    · exact IsBare.append (s := ['.']) (by decide) (isBare_ofNat _)
    · split
      · exact IsBare.append (s := ['.', '0']) (by decide) (isBare_ofNat _)
      · exact IsBare.append (s := ['.']) (by decide) (isBare_ofNat _)

theorem isBare_unit (k : Nat) : IsBare (FileSize.units.getD k []) := by
  rw [List.getD_eq_getElem?_getD]
  cases hUnit : FileSize.units[k]? with
  | none => exact nofun
  | some unit =>
    have hAll : ∀ unit ∈ FileSize.units, IsBare unit := by decide
    exact hAll unit (List.mem_of_getElem? hUnit)

theorem isBare_format? {bytes : Int} (h : FileSize.format? bytes = some s) : IsBare s := by
  unfold FileSize.format? at h
  split at h
  · dsimp only at h
    split at h
    · cases h
    · cases h
      unfold FileSize.formatRatio
      exact (isBare_hundredths _).append (IsBare.append (s := [' ']) (by decide) (isBare_unit _))
  · cases h
    decide

end Console

open Status (skipped)

namespace Report

variable {r : Report} {width : Nat} {blocks : List Block}

theorem mem_bySize (r : Report) (a : UnusedAsset) : a ∈ r.bySize ↔ a ∈ r.assets :=
  (List.mergeSort_perm _ _).mem_iff

theorem mem_assetRows_iff (r : Report) (row : List Text) :
    row ∈ r.assetRows ↔ ∃ i a, r.bySize[i]? = some a ∧ row = [Text.ofNat (i + 1), a.shown, a.sizeText] := by
  unfold assetRows
  simp only [List.mem_map, Prod.exists, List.mem_zipIdx_iff_getElem?]
  constructor
  · rintro ⟨a, i, hAt, rfl⟩
    exact ⟨i, a, hAt, rfl⟩
  · rintro ⟨i, a, hAt, rfl⟩
    exact ⟨a, i, hAt, rfl⟩

/-- The texts that are read as marked-up text can be read: the name of the app, the paths and sizes of
the assets where there is room for them, and the error of the analyzer when it was asked for. -/
structure Legible (r : Report) (width : Nat) : Prop where
  title : ∃ printed, marked r.title = .ok printed
  assets : 6 < width → ∀ a ∈ r.assets,
    (∃ printed, marked a.shown = .ok printed) ∧ ∃ printed, marked a.sizeText = .ok printed
  failure : r.status ≠ skipped → ∀ e, r.findings.failure? = some e →
    ∃ printed, marked ("[yellow]Knip: ".toList ++ e ++ "[/yellow]".toList) = .ok printed

theorem heading_eq (s : String) :
    heading s = .text (styled "\n".toList "bold cyan".toList s.toList []) := by
  unfold heading styled
  rw [List.append_assoc]
  rfl

theorem prints_heading (width : Nat) (s : String) (h : IsBare s.toList) :
    (heading s).Prints width := by
  rw [heading_eq]
  exact prints_styled width rfl (by decide) (by decide) h List.not_mem_nil

theorem prints_whitelistedView (r : Report) (width : Nat) :
    ∀ block ∈ r.whitelistedView, block.Prints width := by
  unfold whitelistedView
  split
  · exact nofun
  · rw [List.forall_mem_cons]
    constructor
    · have hStyled : "[yellow]Skipped ".toList ++ Text.ofNat r.whitelisted.length ++
          " whitelisted asset(s):[/yellow]".toList = styled [] "yellow".toList
            ("Skipped ".toList ++ Text.ofNat r.whitelisted.length ++
              " whitelisted asset(s):".toList) [] := by
        unfold styled
        simp
      exact prints_styled width hStyled (by decide) nofun
        (((by decide : IsBare "Skipped ".toList).append (isBare_ofNat _)).append (by decide))
        List.not_mem_nil
    · intro block hMem
      obtain ⟨path, -, rfl⟩ := List.mem_map.mp hMem
      exact prints_plain _ _

/-- The texts of the table of assets can be read when the paths and sizes can be. -/
theorem rows_legible_iff (r : Report) :
    (∀ row ∈ r.assetTable.rows, ∀ text ∈ row, ∃ printed, marked text = .ok printed) ↔
      ∀ a ∈ r.assets,
        (∃ printed, marked a.shown = .ok printed) ∧ ∃ printed, marked a.sizeText = .ok printed := by
  have hNumber : ∀ n, ∃ printed, marked (Text.ofNat n) = .ok printed := fun n =>
    ⟨_, marked_of_not_mem (isBare_ofNat n).not_mem⟩
  have hRows : ∀ row, row ∈ r.assetTable.rows ↔ _ := r.mem_assetRows_iff
  constructor
  · intro h a hMem
    obtain ⟨i, hAt⟩ := List.mem_iff_getElem?.mp ((r.mem_bySize a).mpr hMem)
    have hRow := h _ ((hRows _).mpr ⟨i, a, hAt, rfl⟩)
    exact ⟨hRow _ (by simp), hRow _ (by simp)⟩
  · intro h row hRow
    obtain ⟨i, a, hAt, rfl⟩ := (hRows row).mp hRow
    obtain ⟨hShown, hSize⟩ := h a ((r.mem_bySize a).mp (List.mem_of_getElem? hAt))
    rw [List.forall_mem_cons, List.forall_mem_cons, List.forall_mem_singleton]
    exact ⟨hNumber _, hShown, hSize⟩

/-- What is told of the assets can be printed when the paths and sizes can be read. -/
theorem prints_assetsView_iff (h : r.assetsView? = some blocks) (width : Nat) :
    (∀ block ∈ blocks, block.Prints width) ↔ (6 < width → ∀ a ∈ r.assets,
      (∃ printed, marked a.shown = .ok printed) ∧ ∃ printed, marked a.sizeText = .ok printed) := by
  have hHeading := prints_heading width "UNUSED ASSETS" (by decide)
  unfold assetsView? at h
  split at h
  · rename_i hNone
    rw [List.isEmpty_iff] at hNone
    obtain rfl := Option.some.inj h
    refine iff_of_true ?_ (hNone ▸ nofun)
    rw [List.forall_mem_cons, List.forall_mem_singleton]
    refine ⟨hHeading, ?_⟩
    have hStyled : "[green]No unused assets found![/green]".toList =
        styled [] "green".toList "No unused assets found!".toList [] := by
      unfold styled
      simp
    exact prints_styled width hStyled (by decide) nofun (by decide) List.not_mem_nil
  · obtain ⟨size, hSize, rfl⟩ := Option.map_eq_some_iff.mp h
    have hTotal : (Block.text ("Total: [bold]".toList ++ Text.ofNat r.assets.length ++
        "[/bold] assets | ".toList ++ size)).Prints width := by
      have hStyled : "Total: [bold]".toList ++ Text.ofNat r.assets.length ++
          "[/bold] assets | ".toList ++ size = styled "Total: ".toList "bold".toList
            (Text.ofNat r.assets.length) (" assets | ".toList ++ size) := by
        unfold styled
        simp
      refine prints_styled width hStyled (by decide) (by decide) (isBare_ofNat _) ?_
      exact ((by decide : IsBare " assets | ".toList).append (isBare_format? hSize)).not_mem
    rw [List.forall_mem_cons, List.forall_mem_cons, List.forall_mem_singleton, and_iff_right hHeading,
      and_iff_left hTotal, prints_table_iff, r.rows_legible_iff]
    have hRoom : width - (r.assetTable.columns.length + 1) ≤ cellPadding ↔ ¬6 < width := by
      change width - 4 ≤ 2 ↔ ¬6 < width
      omega
    rw [hRoom, ← imp_iff_not_or]

theorem isBare_category {findings : Findings} {c : Text × List Value} (h : c ∈ findings.categories) :
    IsBare c.1 := by
  have hKinds : ∀ kind ∈ findings.categories.map Prod.fst, IsBare kind := by
    change ∀ kind ∈ ["files".toList, "dependencies".toList, "devDependencies".toList,
      "exports".toList, "types".toList], IsBare kind
    decide
  exact hKinds _ (List.mem_map_of_mem h)

theorem prints_categoryView (width : Nat) {kind : Text} (h : IsBare kind) (items : List Value) :
    ∀ block ∈ categoryView kind items, block.Prints width := by
  unfold categoryView
  split
  · exact nofun
  · rw [List.cons_append, List.forall_mem_cons, List.forall_mem_append]
    refine ⟨?_, ?_, ?_⟩
    · have hStyled : "\n[magenta]".toList ++ kind ++ " (".toList ++ Text.ofNat items.length ++
          "):[/magenta]".toList = styled "\n".toList "magenta".toList
            (kind ++ (" (".toList ++ (Text.ofNat items.length ++ "):".toList))) [] := by
        unfold styled
        simp
      refine prints_styled width hStyled (by decide) (by decide) ?_ List.not_mem_nil
      exact h.append ((by decide : IsBare " (".toList).append ((isBare_ofNat _).append (by decide)))
    · intro block hMem
      obtain ⟨item, -, rfl⟩ := List.mem_map.mp hMem
      exact prints_plain _ _
    · split
      · rw [List.forall_mem_singleton]
        refine prints_of_not_mem width (IsBare.not_mem ?_)
        exact ((by decide : IsBare "  ... and ".toList).append (isBare_ofNat _)).append (by decide)
      · exact nofun

/-- The findings can be printed when the error of the analyzer can be read. -/
theorem prints_findingsView_iff (r : Report) (width : Nat) :
    (∀ block ∈ r.findingsView, block.Prints width) ↔ (r.status ≠ skipped →
      ∀ e, r.findings.failure? = some e →
        ∃ printed, marked ("[yellow]Knip: ".toList ++ e ++ "[/yellow]".toList) = .ok printed) := by
  have hHeading := prints_heading width "KNIP CODE ANALYSIS" (by decide)
  unfold findingsView
  rw [List.forall_mem_cons, and_iff_right hHeading]
  split
  · rename_i hSkipped
    refine iff_of_true ?_ fun hOther => absurd hSkipped hOther
    rw [List.forall_mem_singleton]
    have hStyled : "[dim]Knip: skipped (enable with --knip)[/dim]".toList =
        styled [] "dim".toList "Knip: skipped (enable with --knip)".toList [] := by
      unfold styled
      simp
    exact prints_styled width hStyled (by decide) nofun (by decide) List.not_mem_nil
  · rename_i hAsked
    split
    · rename_i error hError
      rw [List.forall_mem_singleton, prints_text_iff]
      constructor
      · intro hReads _ e hSome
        obtain rfl := Option.some.inj (hError.symm.trans hSome)
        exact hReads
      · intro hReads
        exact hReads hAsked error hError
    · rename_i hNone
      refine iff_of_true ?_ fun _ e hSome => by rw [hNone] at hSome; cases hSome
      split
      · rw [List.forall_mem_singleton]
        have hStyled : "[green]No unused files, deps, or exports[/green]".toList =
            styled [] "green".toList "No unused files, deps, or exports".toList [] := by
          unfold styled
          simp
        exact prints_styled width hStyled (by decide) nofun (by decide) List.not_mem_nil
      · intro block hMem
        obtain ⟨c, hCategory, hBlock⟩ := List.mem_flatMap.mp hMem
        exact prints_categoryView width (isBare_category hCategory) c.2 block hBlock

theorem prints_closing (r : Report) (width : Nat) : ∀ block ∈ r.closing, block.Prints width := by
  unfold closing
  split
  · rw [List.forall_mem_singleton]
    have hStyled : "\n[green]No cleanup needed![/green]".toList =
        styled "\n".toList "green".toList "No cleanup needed!".toList [] := by
      unfold styled
      simp
    exact prints_styled width hStyled (by decide) (by decide) (by decide) List.not_mem_nil
  · exact nofun

theorem view?_eq_none_iff (r : Report) : r.view? = none ↔ r.assets ≠ [] ∧ r.assetSize? = none := by
  unfold view? assetsView?
  rw [Option.map_eq_none_iff]
  split
  · rename_i hNone
    exact iff_of_false nofun fun h => h.1 (List.isEmpty_iff.mp hNone)
  · rename_i hSome
    rw [Option.map_eq_none_iff]
    exact (and_iff_right fun hNone => hSome (List.isEmpty_iff.mpr hNone)).symm

/-- A report is printed to its end when the texts that are read as marked-up text can be read. -/
theorem print_view_iff (h : r.view? = some blocks) (width : Nat) :
    (print width blocks).fault = none ↔ r.Legible width := by
  obtain ⟨assets, hAssets, rfl⟩ := Option.map_eq_some_iff.mp h
  have hEmpty : Block.empty.Prints width := prints_of_not_mem width List.not_mem_nil
  simp only [print_fault_eq_none_iff, List.forall_mem_append, List.forall_mem_cons]
  rw [prints_assetsView_iff hAssets, prints_findingsView_iff, prints_rule_iff]
  constructor
  · rintro ⟨⟨⟨⟨⟨-, hTitle, -⟩, -⟩, hAssets⟩, hFailure⟩, -⟩
    exact ⟨hTitle, hAssets, hFailure⟩
  · rintro ⟨hTitle, hAssets, hFailure⟩
    exact ⟨⟨⟨⟨⟨hEmpty, hTitle, nofun⟩, r.prints_whitelistedView width⟩, hAssets⟩, hFailure⟩,
      r.prints_closing width⟩

def Shows (lines : List Text) (s : Text) : Prop :=
  ∃ line ∈ lines, s <:+: line

theorem Shows.mono {lines others : List Text} {s : Text} (h : Shows lines s) (hSubset : lines ⊆ others) :
    Shows others s := by
  obtain ⟨line, hLine, hInside⟩ := h
  exact ⟨line, hSubset hLine, hInside⟩

theorem table_mem_view (h : r.view? = some blocks) (hSome : r.assets ≠ []) :
    .table r.assetTable ∈ blocks := by
  obtain ⟨assets, hAssets, rfl⟩ := Option.map_eq_some_iff.mp h
  unfold assetsView? at hAssets
  rw [if_neg (by simpa using hSome)] at hAssets
  obtain ⟨size, -, rfl⟩ := Option.map_eq_some_iff.mp hAssets
  simp

theorem whitelisted_mem_view (h : r.view? = some blocks) {path : Text} (hMem : path ∈ r.whitelisted) :
    .plain ("   - ".toList ++ path) ∈ blocks := by
  obtain ⟨assets, -, rfl⟩ := Option.map_eq_some_iff.mp h
  have hView : .plain ("   - ".toList ++ path) ∈ r.whitelistedView := by
    unfold whitelistedView
    rw [if_neg (by simpa using List.ne_nil_of_mem hMem)]
    exact List.mem_cons_of_mem _ (List.mem_map_of_mem hMem)
  exact List.mem_append_left _ (List.mem_append_left _ (List.mem_append_left _
    (List.mem_append_right _ hView)))

theorem printed_row {printed : List (List Text)}
    (hRows : (r.assetRows.mapM fun row => row.mapM marked) = .ok printed) {a : UnusedAsset}
    (hMem : a ∈ r.assets) {s : Text} (hReads : marked a.shown = .ok s) : ∃ x z, [x, s, z] ∈ printed := by
  obtain ⟨i, hAt⟩ := List.mem_iff_getElem?.mp ((r.mem_bySize a).mpr hMem)
  have hRow := (r.mem_assetRows_iff _).mpr ⟨i, a, hAt, rfl⟩
  rw [Outcome.mapM_eq_ok_iff] at hRows
  have hImage := List.mem_map_of_mem (f := fun row => row.mapM marked) hRow
  rw [hRows] at hImage
  obtain ⟨out, hOut, hEq⟩ := List.mem_map.mp hImage
  have hTexts := (Outcome.mapM_eq_ok_iff _ _ _).mp hEq.symm
  have hLength : out.length = 3 := by simpa using (congrArg List.length hTexts).symm
  obtain ⟨x, y, z, rfl⟩ := List.length_eq_three.mp hLength
  have hMiddle : marked a.shown = .ok y := (List.cons.inj (List.cons.inj hTexts).2).1
  obtain rfl := Except.ok.inj (hReads.symm.trans hMiddle)
  exact ⟨x, z, hOut⟩

/-- With room for the texts of the table, the path of every asset is shown as its marks leave it. -/
theorem shows_assets (h : r.view? = some blocks) : ∃ least, ∀ width, least ≤ width →
    (print width blocks).fault = none → ∀ a ∈ r.assets, ∀ s, marked a.shown = .ok s → s.IsOneLine →
      Shows (print width blocks).lines (Text.trimRightBy Text.isBlank s) := by
  cases hRows : r.assetRows.mapM fun row => row.mapM marked with
  | error fault =>
    -- no screen that has room for the table prints it
    refine ⟨7, ?_⟩
    intro width hWidth hEnds
    have hLegible := (r.rows_legible_iff).mpr (((print_view_iff h width).mp hEnds).assets hWidth)
    obtain ⟨printed, hPrinted⟩ := (Outcome.exists_mapM_iff _ _).mpr fun row hRow =>
      (Outcome.exists_mapM_iff _ _).mpr (hLegible row hRow)
    exact absurd (hRows.symm.trans hPrinted) nofun
  | ok printed =>
    refine ⟨neededRoom (columnTexts r.assetTable printed) + 4, ?_⟩
    intro width hWidth hEnds a hMem s hReads hOne
    obtain ⟨x, z, hRow⟩ := printed_row hRows hMem hReads
    obtain ⟨lines, hDraw, hShows⟩ := draw_shows rfl rfl naturalWidth_path_pos hRows hWidth hRow hOne
    exact Shows.mono hShows
      (lines_subset_print hEnds (table_mem_view h (List.ne_nil_of_mem hMem)) hDraw)

/-- With room for it, every whitelisted path is shown as it is, but for the names of pictures. -/
theorem shows_whitelisted (h : r.view? = some blocks) : ∃ least, ∀ width, least ≤ width →
    (print width blocks).fault = none → ∀ path ∈ r.whitelisted, (unmarked path).IsOneLine →
      Shows (print width blocks).lines (unmarked path) := by
  refine ⟨sumOf (r.whitelisted.map fun path => 5 + (unmarked path).cells + (unmarked path).length), ?_⟩
  intro width hWidth hEnds path hMem hOne
  have hRoom : 5 + (unmarked path).cells + (unmarked path).length ≤ width :=
    Nat.le_trans (le_sumOf (List.mem_map.mpr ⟨path, hMem, rfl⟩)) hWidth
  have hLines : (Block.plain ("   - ".toList ++ path)).lines width =
      .ok ["   - ".toList ++ unmarked path] := by
    rw [Block.lines, unmarked_append (by decide)]
    refine congrArg Except.ok (lines_of_fits ?_ ?_ ?_)
    · exact List.forall_mem_append.mpr ⟨(by decide : Text.IsOneLine "   - ".toList), hOne⟩
    · rw [Text.cells_append, cells_dash]
      omega
    · rw [List.length_append]
      have hLength : "   - ".toList.length = 5 := by decide
      omega
  exact ⟨_, lines_subset_print hEnds (whitelisted_mem_view h hMem) hLines List.mem_cons_self,
    (List.suffix_append _ _).isInfix⟩

def withAsset (path : String) : Report where
  app := "web".toList
  directory := FilePath.ofText "/web".toList
  assets := [{
    shown := path.toList
    path := FilePath.ofText ("/web/".toList ++ path.toList)
    size := 4
    sizeText := "4 B".toList }]
  time := "2024-02-03T04:05:06".toList

theorem view_withAsset (path : String) : (withAsset path).view? = some
    [.empty, .rule (withAsset path).title, heading "UNUSED ASSETS", .table (withAsset path).assetTable,
      .text ("Total: [bold]".toList ++ Text.ofNat 1 ++ "[/bold] assets | ".toList ++ "4 B".toList),
      heading "KNIP CODE ANALYSIS",
      .text "[dim]Knip: skipped (enable with --knip)[/dim]".toList] := by
  have hSize : (withAsset path).assetSize? = some "4 B".toList := format?_four
  have hAssets : (withAsset path).assetsView? = some [heading "UNUSED ASSETS",
      .table (withAsset path).assetTable, .text ("Total: [bold]".toList ++ Text.ofNat 1 ++
        "[/bold] assets | ".toList ++ "4 B".toList)] := by
    unfold assetsView?
    rw [hSize]
    rfl
  have hFindings : (withAsset path).findingsView = [heading "KNIP CODE ANALYSIS",
      .text "[dim]Knip: skipped (enable with --knip)[/dim]".toList] :=
    congrArg (List.cons _) (if_pos rfl)
  unfold view?
  rw [hAssets, hFindings]
  rfl

theorem title_withAsset (path : String) : (withAsset path).title =
    styled [] "bold cyan".toList "CLEANUP REPORT: WEB".toList [] := by
  have hUpper : Unicode.upper "web".toList = "WEB".toList := by decide
  change "[bold cyan]CLEANUP REPORT: ".toList ++ Unicode.upper "web".toList ++
    "[/bold cyan]".toList = _
  rw [hUpper]
  rfl

theorem legible_withAsset_iff (path : String) (width : Nat) : (withAsset path).Legible width ↔
    (6 < width → ∃ printed, marked path.toList = .ok printed) := by
  constructor
  · intro h hRoom
    exact (h.assets hRoom _ List.mem_cons_self).1
  · intro h
    refine ⟨?_, fun hRoom => ?_, fun hAsked => absurd rfl hAsked⟩
    · rw [title_withAsset]
      exact ⟨_, marked_styled (by decide : IsTag "bold cyan".toList) nofun (by decide) List.not_mem_nil⟩
    · exact List.forall_mem_singleton.mpr
        ⟨h hRoom, _, marked_of_not_mem (by decide : '[' ∉ "4 B".toList)⟩

theorem not_mem_lines_text {s printed : Text} (h : marked s = .ok printed)
    (hPrinted : ∀ line ∈ ({ width } : Layout).lines printed, '[' ∉ line) :
    ∀ lines, (Block.text s).lines width = .ok lines → ∀ line ∈ lines, '[' ∉ line := by
  intro lines hLines
  rw [Block.lines, h] at hLines
  obtain rfl := Except.ok.inj hLines
  exact hPrinted

theorem not_mem_lines_withAsset (h : (withAsset "app/[id]/logo.png").view? = some blocks) :
    ∀ line ∈ (print 80 blocks).lines, '[' ∉ line := by
  rw [view_withAsset] at h
  obtain rfl := Option.some.inj h
  have hTitle := marked_styled (by decide : IsTag "bold cyan".toList) (nofun : IsBare [])
    (by decide : IsBare "CLEANUP REPORT: WEB".toList) List.not_mem_nil
  have hAssets := marked_styled (by decide : IsTag "bold cyan".toList) (by decide : IsBare "\n".toList)
    (by decide : IsBare "UNUSED ASSETS".toList) List.not_mem_nil
  have hFindings := marked_styled (by decide : IsTag "bold cyan".toList) (by decide : IsBare "\n".toList)
    (by decide : IsBare "KNIP CODE ANALYSIS".toList) List.not_mem_nil
  have hTotal := marked_styled (by decide : IsTag "bold".toList) (by decide : IsBare "Total: ".toList)
    (by decide : IsBare "1".toList) (by decide : '[' ∉ " assets | 4 B".toList)
  have hSkipped := marked_styled (by decide : IsTag "dim".toList) (nofun : IsBare [])
    (by decide : IsBare "Knip: skipped (enable with --knip)".toList) List.not_mem_nil
  have hTable : (withAsset "app/[id]/logo.png").assetTable.draw 80 = .ok [
      "┏━━━┳━━━━━━━━━━━━━━━┳━━━━━━┓".toList, "┃ # ┃ Path          ┃ Size ┃".toList,
      "┡━━━╇━━━━━━━━━━━━━━━╇━━━━━━┩".toList, "│ 1 │ app//logo.png │  4 B │".toList,
      "└───┴───────────────┴──────┘".toList] := Outcome.eq_ok_of_toOption (by decide +kernel)
  apply forall_mem_print
  simp only [List.forall_mem_cons]
  refine ⟨?_, ?_, ?_, ?_, ?_, ?_, ?_, List.forall_mem_nil _⟩
  · exact not_mem_lines_text (marked_of_not_mem List.not_mem_nil) (by decide +kernel)
  · intro lines hLines
    rw [Block.lines, title_withAsset, hTitle] at hLines
    obtain rfl := Except.ok.inj hLines
    decide +kernel
  · rw [heading_eq]
    exact not_mem_lines_text hAssets (by decide +kernel)
  · intro lines hLines
    obtain rfl := Except.ok.inj (hTable.symm.trans hLines)
    decide +kernel
  · exact not_mem_lines_text hTotal (by decide +kernel)
  · rw [heading_eq]
    exact not_mem_lines_text hFindings (by decide +kernel)
  · exact not_mem_lines_text hSkipped (by decide +kernel)

end Report

end AssetAudit
