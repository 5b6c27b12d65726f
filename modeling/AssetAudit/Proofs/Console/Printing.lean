import AssetAudit.Console.Block
import AssetAudit.Proofs.Console.Lines
import AssetAudit.Proofs.Console.Marks
import AssetAudit.Proofs.Outcomes

/-!
# What is printed

Printing comes to its end when every block has lines, and then all of them are printed. A table with
room for its texts shows each text of a column to the left in one line.
-/
namespace AssetAudit.Console

variable {width : Nat}

def Block.Prints (width : Nat) (block : Block) : Prop :=
  ∃ lines, block.lines width = .ok lines

theorem prints_text_iff (width : Nat) (s : Text) :
    (Block.text s).Prints width ↔ ∃ printed, marked s = .ok printed :=
  Outcome.exists_map_iff _ _

theorem prints_rule_iff (width : Nat) (title : Text) :
    (Block.rule title).Prints width ↔ ∃ printed, marked title = .ok printed :=
  Outcome.exists_map_iff _ _

theorem prints_of_not_mem (width : Nat) {s : Text} (h : '[' ∉ s) : (Block.text s).Prints width :=
  (prints_text_iff _ _).mpr ⟨_, marked_of_not_mem h⟩

theorem prints_styled (width : Nat) {s lead tag body tail : Text} (h : s = styled lead tag body tail)
    (hTag : IsTag tag) (hLead : IsBare lead) (hBody : IsBare body) (hTail : '[' ∉ tail) :
    (Block.text s).Prints width := by
  rw [prints_text_iff, h]
  exact ⟨_, marked_styled hTag hLead hBody hTail⟩

theorem prints_plain (width : Nat) (s : Text) : (Block.plain s).Prints width :=
  ⟨_, rfl⟩

theorem prints_verbatim (width : Nat) (s : Text) : (Block.verbatim s).Prints width :=
  ⟨_, rfl⟩

theorem prints_panel (width : Nat) (title : String) (s : Text) : (Block.panel title s).Prints width :=
  ⟨_, rfl⟩

theorem exists_panel_cons {width : Nat} (h : 0 < width) (title text : Text) :
    ∃ first rest, panel width title text = ('╭' :: first) :: rest := by
  have hCorner : Unicode.cells '╭'.toNat ≤ width := by
    have hOne : Unicode.cells '╭'.toNat = 1 := by decide +kernel
    omega
  unfold panel
  dsimp only
  generalize min (width - 2) _ = inner
  rw [List.cons_append, List.map_cons]
  by_cases hNarrow : inner ≤ 2
  · rw [if_pos hNarrow]
    obtain ⟨first, hFirst⟩ := Text.exists_crop_cons h hCorner (line inner ++ ['╮'])
    exact ⟨first, _, congrArg (· :: _) hFirst⟩
  · rw [if_neg hNarrow]
    obtain ⟨first, hFirst⟩ := Text.exists_crop_cons h hCorner
      ('─' :: titled (inner - 2) (' ' :: title ++ [' ']) ++ ['─', '╮'])
    exact ⟨first, _, congrArg (· :: _) hFirst⟩
theorem print_fault_eq_none_iff (width : Nat) (blocks : List Block) :
    (print width blocks).fault = none ↔ ∀ block ∈ blocks, block.Prints width := by
  induction blocks with
  | nil => exact iff_of_true rfl nofun
  | cons block rest ih =>
    rw [List.forall_mem_cons, ← ih, print, Block.Prints]
    cases block.lines width with
    | error fault => simp
    | ok lines => simp

theorem lines_subset_print {blocks : List Block} (h : (print width blocks).fault = none)
    {block : Block} (hMem : block ∈ blocks) {lines : List Text} (hLines : block.lines width = .ok lines) :
    lines ⊆ (print width blocks).lines := by
  induction blocks with
  | nil => cases hMem
  | cons first rest ih =>
    rw [print] at h ⊢
    cases hFirst : first.lines width with
    | error fault =>
      rw [hFirst] at h
      cases h
    | ok others =>
      rw [hFirst] at h
      rcases List.mem_cons.mp hMem with rfl | hMem
      · obtain rfl := Except.ok.inj (hLines.symm.trans hFirst)
        exact List.subset_append_left _ _
      · exact List.Subset.trans (ih h hMem) (List.subset_append_right _ _)

theorem forall_mem_print {P : Text → Prop} {blocks : List Block}
    (h : ∀ block ∈ blocks, ∀ lines, block.lines width = .ok lines → ∀ line ∈ lines, P line) :
    ∀ line ∈ (print width blocks).lines, P line := by
  induction blocks with
  | nil => exact nofun
  | cons block rest ih =>
    obtain ⟨hFirst, hRest⟩ := List.forall_mem_cons.mp h
    rw [print]
    cases hLines : block.lines width with
    | error fault => exact nofun
    | ok lines => exact List.forall_mem_append.mpr ⟨hFirst lines hLines, ih hRest⟩

section Sums

variable {α : Type} {n : Nat} {ns : List Nat}

theorem foldl_add_eq (start : Nat) (ns : List Nat) : ns.foldl (· + ·) start = start + sumOf ns := by
  induction ns generalizing start with
  | nil => rfl
  | cons n rest ih =>
    rw [sumOf, List.foldl_cons, List.foldl_cons, ih, ih (0 + n)]
    omega

theorem sumOf_cons (n : Nat) (ns : List Nat) : sumOf (n :: ns) = n + sumOf ns := by
  rw [sumOf, List.foldl_cons, foldl_add_eq, Nat.zero_add]

theorem le_sumOf (h : n ∈ ns) : n ≤ sumOf ns := by
  induction ns with
  | nil => cases h
  | cons first rest ih =>
    rw [sumOf_cons]
    rcases List.mem_cons.mp h with rfl | hRest
    · exact Nat.le_add_right _ _
    · exact Nat.le_trans (ih hRest) (Nat.le_add_left _ _)

theorem sumOf_map_le {f g : α → Nat} {l : List α} (h : ∀ a ∈ l, f a ≤ g a) :
    sumOf (l.map f) ≤ sumOf (l.map g) := by
  induction l with
  | nil => exact Nat.le_refl _
  | cons a rest ih =>
    obtain ⟨hFirst, hRest⟩ := List.forall_mem_cons.mp h
    rw [List.map_cons, List.map_cons, sumOf_cons, sumOf_cons]
    exact Nat.add_le_add hFirst (ih hRest)

theorem foldl_max_le {start bound : Nat} (hStart : start ≤ bound) (h : ∀ n ∈ ns, n ≤ bound) :
    ns.foldl max start ≤ bound := by
  induction ns generalizing start with
  | nil => exact hStart
  | cons n rest ih =>
    obtain ⟨hFirst, hRest⟩ := List.forall_mem_cons.mp h
    exact ih (Nat.max_le.mpr ⟨hStart, hFirst⟩) hRest

theorem le_foldl_max {start : Nat} (h : n ≤ start ∨ n ∈ ns) : n ≤ ns.foldl max start := by
  induction ns generalizing start with
  | nil => exact h.resolve_right List.not_mem_nil
  | cons first rest ih =>
    rw [List.foldl_cons]
    apply ih
    rcases h with hStart | hMem
    · exact .inl (Nat.le_trans hStart (Nat.le_max_left _ _))
    · rcases List.mem_cons.mp hMem with rfl | hRest
      · exact .inl (Nat.le_max_right _ _)
      · exact .inr hRest

end Sums

/-- The room that the columns of a table need when none of their texts is cut. -/
def neededRoom (texts : List (List Text)) : Nat :=
  sumOf (texts.map fun ts => 1 + sumOf (ts.map fun t => naturalWidth t + cellPadding))

theorem wantedWidth_le (room : Nat) (t : Text) : wantedWidth room t ≤ naturalWidth t + cellPadding := by
  unfold wantedWidth
  split
  · omega
  · exact Nat.min_le_left _ _

theorem wantedWidth_of_le {room : Nat} {t : Text} (h : naturalWidth t + cellPadding ≤ room) :
    wantedWidth room t = naturalWidth t + cellPadding := by
  unfold wantedWidth
  split
  · omega
  · exact Nat.min_eq_left h

theorem columnWidth_le (room : Nat) (ts : List Text) :
    columnWidth room ts ≤ sumOf (ts.map fun t => naturalWidth t + cellPadding) := by
  refine foldl_max_le (Nat.zero_le _) ?_
  intro n hMem
  obtain ⟨t, ht, rfl⟩ := List.mem_map.mp hMem
  exact Nat.le_trans (wantedWidth_le room t) (le_sumOf (List.mem_map_of_mem ht))

theorem le_columnWidth {room : Nat} {ts : List Text} {t : Text} (ht : t ∈ ts)
    (h : naturalWidth t + cellPadding ≤ room) :
    naturalWidth t + cellPadding ≤ columnWidth room ts := by
  rw [← wantedWidth_of_le h]
  exact le_foldl_max (.inr (List.mem_map_of_mem ht))

/-- With room for all its texts every column is as wide as it wants to be. -/
theorem columnWidths_of_le {room : Nat} {texts : List (List Text)} (h : neededRoom texts ≤ room)
    (cuttable : List Bool) :
    columnWidths room cuttable texts = texts.map (fun ts => max 1 (columnWidth room ts)) ∧
      sumOf (columnWidths room cuttable texts) ≤ room := by
  have hSum : sumOf (texts.map fun ts => max 1 (columnWidth room ts)) ≤ room := by
    refine Nat.le_trans (sumOf_map_le fun ts _ => ?_) h
    have hColumn := columnWidth_le room ts
    omega
  have hWidths : columnWidths room cuttable texts =
      texts.map (fun ts => max 1 (columnWidth room ts)) := if_pos hSum
  exact ⟨hWidths, hWidths ▸ hSum⟩

/-- A table is printed when all its texts can be read, or when there is no room for any of them. -/
theorem prints_table_iff (width : Nat) (t : Table) :
    (Block.table t).Prints width ↔ width - (t.columns.length + 1) ≤ cellPadding ∨
      ∀ row ∈ t.rows, ∀ text ∈ row, ∃ printed, marked text = .ok printed := by
  have hPrinted : (Block.table t).Prints width ↔
      ∃ rows, t.printed (width - (t.columns.length + 1)) = .ok rows := by
    unfold Block.Prints Block.lines Table.draw
    simp only [Outcome.bind_eq_ok_iff]
    constructor
    · rintro ⟨lines, rows, hRows, -⟩
      exact ⟨rows, hRows⟩
    · rintro ⟨rows, hRows⟩
      exact ⟨_, rows, hRows, rfl⟩
  rw [hPrinted]
  unfold Table.printed
  split
  · rename_i hNone
    exact iff_of_true ⟨_, rfl⟩ (.inl hNone)
  · rename_i hRoom
    simp only [Outcome.exists_mapM_iff]
    exact (or_iff_right hRoom).symm

/-- A cell to the left that has room shows its text in its one line. -/
theorem cellLines_shows {column : Column} (hLeft : column.align = .left) (hWrap : column.wrap = true)
    {text : Text} (h : text.IsOneLine) {w : Nat} (hRoom : text.cells + cellPadding ≤ w)
    (hSome : cellPadding < w) :
    ∃ line, cellLines column w text = [line] ∧ Text.trimRightBy Text.isBlank text <:+: line ∧
      line.cells = w := by
  unfold cellPadding at hRoom hSome
  obtain ⟨line, hLines, hPrefix, hCells⟩ := lines_of_column h (Nat.le_sub_of_add_le hRoom)
  have hFit : line.fit (w - 2) = line := Text.fit_of_cells_eq (by omega) hCells
  refine ⟨' ' :: line ++ [' '], ?_, ?_, ?_⟩
  · unfold cellLines cellPadding
    rw [if_neg (by omega), hLeft, hWrap]
    dsimp only
    rw [hLines, List.map_singleton, hFit]
  · obtain ⟨rest, rfl⟩ := hPrefix
    exact ⟨[' '], rest ++ [' '], by simp⟩
  · have hSplit : ' ' :: line ++ [' '] = [' '] ++ (line ++ [' ']) := by simp
    rw [hSplit, Text.cells_append, Text.cells_append, Text.cells_blank, hCells]
    omega

/-- A row of three cells shows the line of its middle cell, and is as wide as its columns and the four
lines beside them. -/
theorem rowLines_shows (side : Char) {w₀ w₁ w₂ : Nat} {line : Text} (hSome : w₁ ≠ 0)
    (h : line.cells = w₁) (left right : List Text) :
    ∃ row ∈ rowLines side [w₀, w₁, w₂] (levelled true [left, [line], right]), line <:+: row ∧
      row.cells = w₀ + w₁ + w₂ + 4 * Text.cells [side] := by
  obtain ⟨left', more, right', hLevelled⟩ : ∃ left' more right',
      levelled true [left, [line], right] = [left', line :: more, right'] := ⟨_, _, _, rfl⟩
  have hHeight : 0 < (([left', line :: more, right'].map List.length).foldl max 0) :=
    Nat.lt_of_lt_of_le (Nat.succ_pos more.length) (le_foldl_max (.inr (by simp)))
  rw [hLevelled]
  refine ⟨_, List.mem_map.mpr ⟨0, List.mem_range.mpr hHeight, rfl⟩, ?_⟩
  change line <:+: side :: (Text.fit w₀ (left'.getD 0 []) ++ [side] ++
      (line.fit w₁ ++ [side] ++ Text.fit w₂ (right'.getD 0 []))) ++ [side] ∧
    Text.cells (side :: (Text.fit w₀ (left'.getD 0 []) ++ [side] ++
      (line.fit w₁ ++ [side] ++ Text.fit w₂ (right'.getD 0 []))) ++ [side]) = _
  rw [Text.fit_of_cells_eq hSome h]
  constructor
  · exact ⟨side :: (Text.fit w₀ (left'.getD 0 []) ++ [side]),
      [side] ++ Text.fit w₂ (right'.getD 0 []) ++ [side], by simp⟩
  · rw [List.cons_append, ← List.singleton_append]
    simp only [Text.cells_append, Text.cells_fit, h]
    omega

def columnTexts (t : Table) (printed : List (List Text)) : List (List Text) :=
  t.columns.zipIdx.map fun c =>
    ((t.columns.map fun column => column.heading.toList) :: printed).map fun row => row.getD c.2 []

theorem le_neededRoom {texts : List (List Text)} {ts : List Text} {t : Text} (hTexts : ts ∈ texts)
    (hText : t ∈ ts) : naturalWidth t + cellPadding ≤ neededRoom texts := by
  have hColumn : naturalWidth t + cellPadding ≤ sumOf (ts.map fun t => naturalWidth t + cellPadding) :=
    le_sumOf (List.mem_map_of_mem hText)
  have hAll : 1 + sumOf (ts.map fun t => naturalWidth t + cellPadding) ≤ neededRoom texts :=
    le_sumOf (List.mem_map_of_mem hTexts)
  omega

/-- The rows of a table with headings are among its lines. -/
theorem draw_of_printed {t : Table} (hHeadings : t.headings = true) {screen : Nat}
    {printed : List (List Text)} (h : t.printed (screen - (t.columns.length + 1)) = .ok printed) :
    ∃ lines, t.draw screen = .ok lines ∧ ∀ row ∈ printed,
      ∀ line ∈ drawRow t '│' true (columnWidths (screen - (t.columns.length + 1))
        (t.columns.map (·.wrap)) (columnTexts t printed)) row, line.crop screen ∈ lines := by
  unfold Table.draw
  dsimp only
  rw [h, hHeadings]
  refine ⟨_, rfl, ?_⟩
  intro row hRow line hLine
  refine List.mem_map_of_mem (List.mem_append_left _ (List.mem_append_right _ ?_))
  exact List.mem_flatMap.mpr ⟨row, hRow, hLine⟩

variable {a b c : Column} {rows printed : List (List Text)} {screen : Nat}

theorem cells_bar : Text.cells ['│'] = 1 := by
  decide +kernel

/-- A table of three columns with room for its texts shows every text of its middle column. -/
theorem draw_shows (hLeft : b.align = .left) (hWrap : b.wrap = true)
    (hHeading : 0 < naturalWidth b.heading.toList)
    (hPrinted : (rows.mapM fun row => row.mapM marked) = .ok printed)
    (hRoom : neededRoom (columnTexts { columns := [a, b, c], rows } printed) + 4 ≤ screen)
    {x y z : Text} (hRow : [x, y, z] ∈ printed) (hOne : y.IsOneLine) :
    ∃ lines, Table.draw { columns := [a, b, c], rows } screen = .ok lines ∧
      ∃ line ∈ lines, Text.trimRightBy Text.isBlank y <:+: line := by
  obtain ⟨ts₀, ts₁, ts₂, hTexts, hHeadingMem, hText⟩ : ∃ ts₀ ts₁ ts₂,
      columnTexts { columns := [a, b, c], rows } printed = [ts₀, ts₁, ts₂] ∧
        b.heading.toList ∈ ts₁ ∧ y ∈ ts₁ :=
    ⟨_, _, _, rfl, List.mem_cons_self, List.mem_cons_of_mem _ (List.mem_map.mpr ⟨_, hRow, rfl⟩)⟩
  have hMiddle : ts₁ ∈ [ts₀, ts₁, ts₂] := List.mem_cons_of_mem _ List.mem_cons_self
  rw [hTexts] at hRoom
  have hRoomHeading := le_neededRoom hMiddle hHeadingMem
  have hRoomText := le_neededRoom hMiddle hText
  have hRead : Table.printed { columns := [a, b, c], rows } (screen - 4) = .ok printed := by
    unfold Table.printed
    rw [if_neg (by omega)]
    exact hPrinted
  obtain ⟨hWidths, hSum⟩ := columnWidths_of_le (Nat.le_sub_of_add_le hRoom) [a.wrap, b.wrap, c.wrap]
  obtain ⟨w₀, w₁, w₂, hMap, hEq⟩ : ∃ w₀ w₁ w₂,
      [ts₀, ts₁, ts₂].map (fun ts => max 1 (columnWidth (screen - 4) ts)) = [w₀, w₁, w₂] ∧
        w₁ = max 1 (columnWidth (screen - 4) ts₁) := ⟨_, _, _, rfl, rfl⟩
  rw [hWidths, hMap] at hSum
  -- the middle column is as wide as its heading and the text want it
  have hWide : naturalWidth b.heading.toList + cellPadding ≤ w₁ := by
    have hColumn := le_columnWidth hHeadingMem (by omega : _ ≤ screen - 4)
    omega
  have hWideText : y.cells + cellPadding ≤ w₁ := by
    rw [← naturalWidth_of_isOneLine hOne]
    have hColumn := le_columnWidth hText (by omega : _ ≤ screen - 4)
    omega
  obtain ⟨cell, hCell, hShown, hCells⟩ := cellLines_shows hLeft hWrap hOne hWideText (by omega)
  obtain ⟨line, hLine, hInside, hAll⟩ := rowLines_shows '│' (by omega) hCells
    (cellLines a w₀ x) (cellLines c w₂ z)
  obtain ⟨lines, hDraw, hLines⟩ := draw_of_printed rfl hRead
  refine ⟨lines, hDraw, line, ?_, hShown.trans hInside⟩
  have hRowLine : line ∈ drawRow { columns := [a, b, c], rows } '│' true [w₀, w₁, w₂] [x, y, z] := by
    rw [← hCell] at hLine
    exact hLine
  have hFits : line.cells ≤ screen := by
    rw [hAll, cells_bar]
    simp only [sumOf_cons] at hSum
    omega
  have hDrawn := hLines _ hRow line (by
    rw [hTexts]
    change line ∈ drawRow _ _ _ (columnWidths (screen - 4) [a.wrap, b.wrap, c.wrap] _) _
    rw [hWidths, hMap]
    exact hRowLine)
  rwa [Text.crop_of_le hFits] at hDrawn

end AssetAudit.Console
