import AssetAudit.Console.Layout
import AssetAudit.Proofs.Text.Lines
import Mathlib.Data.List.TakeWhile

/-!
# Lines that fit

A text without line ends and tabs that fits into a layout is one line of it, and nothing of the text is
lost but blanks at its end.
-/
namespace AssetAudit

namespace Text

variable {s t : Text}

def IsOneLine (s : Text) : Prop :=
  ∀ c ∈ s, c ≠ '\t' ∧ Unicode.isLineEnd c.toNat = false

instance (s : Text) : Decidable (IsOneLine s) :=
  List.decidableBAll (fun c => c ≠ '\t' ∧ Unicode.isLineEnd c.toNat = false) s

theorem cells_append (s t : Text) : (s ++ t).cells = s.cells + t.cells := by
  induction s with
  | nil => simp [cells]
  | cons c rest ih => simp only [List.cons_append, cells, ih, Nat.add_assoc]

theorem cells_blank : cells [' '] = 1 := by
  decide +kernel

theorem cells_blanks (n : Nat) : (blanks n).cells = n := by
  induction n with
  | zero => rfl
  | succ n ih =>
    have hMore : blanks (n + 1) = [' '] ++ blanks n := rfl
    rw [hMore, cells_append, cells_blank, ih, Nat.add_comm]

theorem exists_trimRightBy (p : Char → Bool) (s : Text) : ∃ t, s = trimRightBy p s ++ t := by
  refine ⟨(s.reverse.takeWhile p).reverse, ?_⟩
  rw [trimRightBy, ← List.reverse_append, List.takeWhile_append_dropWhile, List.reverse_reverse]

theorem cells_trimRightBy_le (p : Char → Bool) (s : Text) : (trimRightBy p s).cells ≤ s.cells := by
  obtain ⟨t, hSplit⟩ := exists_trimRightBy p s
  have hCells := congrArg cells hSplit
  rw [cells_append] at hCells
  omega

theorem cells_take_le (n : Nat) (s : Text) : cells (s.take n) ≤ s.cells := by
  have hCells := congrArg cells (List.take_append_drop n s)
  rw [cells_append] at hCells
  omega

theorem crop_of_le {width : Nat} (h : s.cells ≤ width) : s.crop width = s :=
  if_neg (Nat.not_lt.mpr h)

theorem ellipsis_of_le {width : Nat} (h : s.cells ≤ width) : s.ellipsis width = s :=
  if_neg (Nat.not_lt.mpr h)

theorem cells_padRight {width : Nat} (h : s.cells ≤ width) : (s.padRight width).cells = width := by
  rw [padRight, cells_append, cells_blanks]
  omega

/-- The beginning of a text that has room, filled up with blanks. -/
theorem cells_cut_le (width : Nat) (s : Text) : (s.cut width).cells ≤ width := by
  induction s generalizing width with
  | nil => exact Nat.zero_le _
  | cons c rest ih =>
    unfold cut
    dsimp only
    split
    · rename_i hRoom
      have hRest := ih (width - Unicode.cells c.toNat)
      rw [cells]
      omega
    · exact Nat.zero_le _

theorem cells_cutBetween (width : Nat) (s : Text) (steps start stop : Nat) :
    (cutBetween width s steps start stop).cells = width := by
  induction steps generalizing start stop with
  | zero =>
    have hCut := cells_cut_le width s
    rw [cutBetween, cells_append, cells_blanks]
    omega
  | succ steps ih =>
    unfold cutBetween
    dsimp only
    split
    · rename_i hHalf
      obtain ⟨hWidth, hLast⟩ := hHalf
      have hSplit := congrArg cells (List.take_append_drop ((start + stop) / 2)
        (s.take ((start + stop) / 2 + 1)))
      rw [cells_append] at hSplit
      have hSome : (s.take ((start + stop) / 2 + 1)).length = (start + stop) / 2 + 1 := by
        have hMost : (s.take ((start + stop) / 2 + 1)).length ≤ (start + stop) / 2 + 1 :=
          List.length_take_le _ _
        by_cases hShort : (s.take ((start + stop) / 2 + 1)).length ≤ (start + stop) / 2
        · rw [List.drop_eq_nil_of_le hShort] at hLast
          cases hLast
        · omega
      -- the last character takes two cells, and a blank stands for its first half
      rw [cells_append, List.dropLast_eq_take, hSome, Nat.add_sub_cancel, cells_blank]
      omega
    · split
      · assumption
      · split
        · exact ih _ _
        · exact ih _ _

theorem cells_fit (width : Nat) (s : Text) : (s.fit width).cells = width := by
  unfold fit
  split
  · rename_i hNone
    rw [hNone]
    rfl
  · split
    · assumption
    · split
      · rw [cells_append, cells_blanks]
        omega
      · exact cells_cutBetween _ _ _ _ _

theorem fit_of_cells_eq {width : Nat} (hSome : width ≠ 0) (h : s.cells = width) : s.fit width = s := by
  rw [fit, if_neg hSome, if_pos h]

theorem exists_cutBetween_cons {c : Char} {width : Nat} (h : Unicode.cells c.toNat ≤ width) (s : Text)
    (steps start stop : Nat) : ∃ rest, cutBetween width (c :: s) steps start stop = c :: rest := by
  induction steps generalizing start stop with
  | zero =>
    unfold cutBetween cut
    rw [if_pos h]
    exact ⟨_, rfl⟩
  | succ steps ih =>
    unfold cutBetween
    dsimp only
    generalize (start + stop) / 2 = middle
    rw [List.take_succ_cons]
    split
    · rename_i hHalf
      cases hTaken : s.take middle with
      | nil =>
        rw [hTaken] at hHalf
        have hOne : cells [c] = Unicode.cells c.toNat := rfl
        omega
      | cons d more => exact ⟨_, rfl⟩
    · split
      · exact ⟨_, rfl⟩
      · split
        · exact ih start middle
        · exact ih middle stop

/-- A character that a width has room for stays where it is first. -/
theorem exists_crop_cons {c : Char} {width : Nat} (hPos : 0 < width)
    (h : Unicode.cells c.toNat ≤ width) (s : Text) : ∃ rest, crop width (c :: s) = c :: rest := by
  unfold crop
  split
  · rename_i hWide
    unfold fit
    rw [if_neg (by omega), if_neg (by omega), if_neg (by omega)]
    exact exists_cutBetween_cons h s _ _ _
  · exact ⟨s, rfl⟩
theorem splitOn_of_not_mem {sep : Char} (h : sep ∉ s) : splitOn sep s = [s] := by
  induction s with
  | nil => rfl
  | cons c rest ih =>
    have hFirst : ¬(c == sep) = true := fun hEq => h (beq_iff_eq.mp hEq ▸ List.mem_cons_self)
    rw [splitOn, if_neg hFirst, ih fun hMem => h (List.mem_cons_of_mem _ hMem)]

theorem IsOneLine.not_mem (h : IsOneLine s) : '\n' ∉ s := fun hMem =>
  absurd (h _ hMem).2 (by decide)

theorem lines_of_isOneLine (h : IsOneLine s) : lines s = if s.isEmpty then [] else [s] := by
  have hGather := go_gather (fun c hMem => (h c hMem).2) [] []
  rw [List.append_nil, List.append_nil] at hGather
  rw [lines, hGather, lines.go, List.isEmpty_reverse, List.reverse_reverse]

end Text

namespace Console

variable {s : Text} {layout : Layout}

theorem flatten_go {word : Text} (h : ¬(word ++ s).all Text.isBlank = true) (ended : Bool) :
    (words.go word ended s).flatten = word.reverse ++ s := by
  induction s generalizing word ended with
  | nil =>
    rw [List.append_nil] at h
    rw [words.go, if_neg h]
    simp
  | cons c rest ih =>
    have hBlank : ¬((c :: word) ++ rest).all Text.isBlank = true := by
      intro hAll
      refine h ?_
      simp only [List.all_append, List.all_cons, Bool.and_eq_true] at hAll ⊢
      exact ⟨hAll.1.2, hAll.1.1, hAll.2⟩
    have hMoved : (c :: word).reverse ++ rest = word.reverse ++ c :: rest := by simp
    unfold words.go
    split
    · rw [ih hBlank, hMoved]
    · rename_i hChar
      split
      · have hAlone : ¬([c] ++ rest).all Text.isBlank = true := by simp [hChar]
        rw [List.flatten_cons, ih hAlone]
        rfl
      · rw [ih hBlank, hMoved]

theorem flatten_words (h : ¬s.all Text.isBlank = true) : (words s).flatten = s := by
  unfold words
  split
  · exact absurd rfl h
  · dsimp only
    have hSplit := List.takeWhile_append_dropWhile (p := Text.isBlank) (l := s)
    have hRest : s.drop (s.takeWhile Text.isBlank).length = s.dropWhile Text.isBlank := by
      have hDrop : (s.takeWhile Text.isBlank ++ s.dropWhile Text.isBlank).drop
          (s.takeWhile Text.isBlank).length = s.dropWhile Text.isBlank := List.drop_left
      rwa [hSplit] at hDrop
    have hSome : ¬((s.takeWhile Text.isBlank).reverse ++ s.dropWhile Text.isBlank).all
        Text.isBlank = true := by
      rwa [List.all_append, List.all_reverse, ← List.all_append, hSplit]
    rw [hRest, flatten_go hSome, List.reverse_reverse, hSplit]

/-- Words that fit on the current line are added to it. -/
theorem foldl_addWord (layout : Layout) (words : List Text) (l : Lines)
    (h : l.used + Text.cells words.flatten ≤ layout.width) :
    words.foldl (Lines.addWord layout) l =
      { l with line := l.line ++ words.flatten, used := l.used + Text.cells words.flatten } := by
  induction words generalizing l with
  | nil => simp [Text.cells]
  | cons word rest ih =>
    rw [List.flatten_cons, Text.cells_append] at h
    have hWord := Text.cells_trimRightBy_le Text.isBlank word
    have hFits : l.addWord layout word = l.write word := by
      unfold Lines.addWord
      exact if_pos (by omega)
    rw [List.foldl_cons, hFits, ih]
    · simp only [Lines.write, List.flatten_cons, Text.cells_append, List.append_assoc, Nat.add_assoc]
    · simp only [Lines.write]
      omega

theorem wrapLine_of_le (h : s.cells ≤ layout.width) : wrapLine layout s = [s] := by
  unfold wrapLine
  split
  · rfl
  · rename_i hSome
    rw [foldl_addWord, flatten_words hSome]
    · rfl
    · rw [flatten_words hSome]
      simpa using h

theorem withoutTabs_go (h : Text.IsOneLine s) (used : Nat) : withoutTabs.go used s = s := by
  induction s generalizing used with
  | nil => rfl
  | cons c rest ih =>
    obtain ⟨⟨hTab, -⟩, hRest⟩ := List.forall_mem_cons.mp h
    rw [withoutTabs.go, if_neg (by simpa using hTab), ih hRest]

/-- Only blanks are left out at the end of a text. -/
theorem trim_prefix_trimEnd (width : Nat) (s : Text) :
    Text.trimRightBy Text.isBlank s <+: trimEnd width s := by
  obtain ⟨t, hSplit⟩ := Text.exists_trimRightBy Text.isBlank s
  have hLength := congrArg List.length (List.takeWhile_append_dropWhile (p := Text.isBlank)
    (l := s.reverse))
  rw [List.length_append, List.length_reverse] at hLength
  have hKept : (Text.trimRightBy Text.isBlank s).length = (s.reverse.dropWhile Text.isBlank).length := by
    rw [Text.trimRightBy, List.length_reverse]
  unfold trimEnd
  dsimp only
  refine List.prefix_of_prefix_length_le ⟨t, hSplit.symm⟩ (List.take_prefix _ _) ?_
  rw [List.length_take]
  omega

theorem trimEnd_of_le {width : Nat} (h : s.length ≤ width) : trimEnd width s = s := by
  unfold trimEnd
  dsimp only
  rw [Nat.sub_eq_zero_of_le h, Nat.min_zero, Nat.sub_zero, List.take_length]

theorem wrapped_of_isOneLine (h : Text.IsOneLine s) (hCells : s.cells ≤ layout.width)
    (hWrap : layout.wrap = true) :
    layout.lines s = [cutLine layout (alignLine layout (trimEnd layout.width s))] := by
  have hTabs : withoutTabs s = s := withoutTabs_go h 0
  unfold Layout.lines
  rw [Text.splitOn_of_not_mem h.not_mem, List.flatMap_singleton, hTabs]
  dsimp only
  rw [if_pos hWrap, wrapLine_of_le hCells, List.map_singleton]

/-- A text that fits on a screen is a line as it is. -/
theorem lines_of_fits {width : Nat} (h : Text.IsOneLine s) (hCells : s.cells ≤ width)
    (hLength : s.length ≤ width) : ({ width } : Layout).lines s = [s] := by
  rw [wrapped_of_isOneLine h hCells rfl, trimEnd_of_le hLength]
  exact congrArg (fun line => [line]) (Text.crop_of_le hCells)

/-- A text that fits into a column to the left fills it, and may lose blanks at its end only. -/
theorem lines_of_column {width : Nat} (h : Text.IsOneLine s) (hCells : s.cells ≤ width) :
    ∃ line, ({ width, align := .left, fold := false } : Layout).lines s = [line] ∧
      Text.trimRightBy Text.isBlank s <+: line ∧ line.cells = width := by
  have hTrimmed : (trimEnd width s).cells ≤ width :=
    Nat.le_trans (Text.cells_take_le _ s) hCells
  have hFilled := Text.cells_padRight hTrimmed
  refine ⟨(trimEnd width s).padRight width, ?_, ?_, hFilled⟩
  · rw [wrapped_of_isOneLine h hCells rfl]
    have hAligned : alignLine { width, align := .left, fold := false } (trimEnd width s) =
        (trimEnd width s).padRight width :=
      congrArg (Text.padRight width) (Text.ellipsis_of_le hTrimmed)
    rw [hAligned]
    exact congrArg (fun line => [line]) (Text.ellipsis_of_le (Nat.le_of_eq hFilled))
  · exact (trim_prefix_trimEnd width s).trans (List.prefix_append _ _)

theorem naturalWidth_of_isOneLine (h : Text.IsOneLine s) : naturalWidth s = s.cells := by
  unfold naturalWidth
  rw [Text.lines_of_isOneLine h]
  cases s with
  | nil => rfl
  | cons c rest => simp

end Console

end AssetAudit
