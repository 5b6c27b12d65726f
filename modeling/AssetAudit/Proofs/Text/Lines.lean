import AssetAudit.Text.Basic
import Mathlib.Data.List.DropRight

/-!
# Lines

The lines of a text joined by line feeds are the text with one kind of line end, without the last one if
it ends the text. Lines that are complete are the same whatever stands behind them, and rows with a line
feed behind each are cut apart again. Trimming leaves a text alone when neither end of it is to be trimmed.
-/
namespace AssetAudit.Text

def relined : Text → Text
  | [] => []
  | '\r' :: '\n' :: rest => '\n' :: relined rest
  | c :: rest => (if Unicode.isLineEnd c.toNat then '\n' else c) :: relined rest

def EndsLine (t : Text) : Prop :=
  ∃ c ∈ t.getLast?, Unicode.isLineEnd c.toNat = true

variable {c : Char} {s t rest line blanks : Text} {p : Char → Bool}

theorem EndsLine.tail (h : EndsLine (c :: t)) (hSome : t ≠ []) : EndsLine t := by
  obtain ⟨d, hLast, hEnd⟩ := h
  rw [List.getLast?_cons_of_ne_nil hSome] at hLast
  exact ⟨d, hLast, hEnd⟩

theorem go_append (line : Text) (hRest : rest.head? ≠ some '\n') (h : EndsLine t) :
    lines.go line (t ++ rest) = lines.go line t ++ lines.go [] rest := by
  have hNext : ∀ {t : Text}, (t ≠ [] → lines.go [] (t ++ rest) = lines.go [] t ++ lines.go [] rest) →
      lines.go [] (t ++ rest) = lines.go [] t ++ lines.go [] rest := by
    intro t ih
    cases t with
    | nil => rfl
    | cons c t => exact ih (List.cons_ne_nil c t)
  fun_induction lines.go line t with
  | case1 | case2 =>
    obtain ⟨c, hLast, -⟩ := h
    cases hLast
  | case3 line t ih =>
    rw [List.cons_append, List.cons_append, lines.go, List.cons_append]
    refine congrArg _ (hNext fun hSome => ih ?_)
    exact (h.tail (List.cons_ne_nil _ _)).tail hSome
  | case4 line c t hOther hEnd ih =>
    have hStill : ∀ more, c = '\r' → t ++ rest = '\n' :: more → False := by
      intro more hReturn hFeed
      cases t with
      | nil =>
        apply hRest
        rw [← List.nil_append rest, hFeed]
        rfl
      | cons d t => exact hOther t hReturn (by rw [(List.cons.inj hFeed).1])
    rw [List.cons_append, lines.go, if_pos hEnd, List.cons_append]
    · exact congrArg _ (hNext fun hSome => ih (h.tail hSome))
    · exact hStill
  | case5 line c t hOther hEnd ih =>
    have hSome : t ≠ [] := by
      rintro rfl
      obtain ⟨d, hLast, hOwn⟩ := h
      obtain rfl : c = d := Option.some.inj hLast
      exact hEnd hOwn
    have hStill : ∀ more, c = '\r' → t ++ rest = '\n' :: more → False := by
      rintro more rfl -
      exact hEnd rfl
    rw [List.cons_append, lines.go, if_neg hEnd, ih (h.tail hSome)]
    exact hStill

theorem lines_append (h : t = [] ∨ EndsLine t) (hRest : rest.head? ≠ some '\n') :
    lines (t ++ rest) = lines t ++ lines rest := by
  rcases h with rfl | h
  · rfl
  · exact go_append [] hRest h

theorem go_of_ne_nil (hLine : line ≠ []) (t : Text) :
    ∃ more others, lines.go line t = (line.reverse ++ more) :: others := by
  fun_induction lines.go line t with
  | case1 line hNone => exact absurd (List.isEmpty_iff.mp hNone) hLine
  | case2 line _ => exact ⟨[], [], by rw [List.append_nil]⟩
  | case3 line t _ => exact ⟨[], _, by rw [List.append_nil]⟩
  | case4 line c t _ _ _ => exact ⟨[], _, by rw [List.append_nil]⟩
  | case5 line c t _ _ ih =>
    obtain ⟨more, others, hGo⟩ := ih (List.cons_ne_nil c line)
    refine ⟨c :: more, others, ?_⟩
    rw [hGo, List.reverse_cons, List.append_assoc]
    rfl

/-- A text that begins with no line end begins its first line. -/
theorem exists_lines_cons (h : Unicode.isLineEnd c.toNat = false) (t : Text) :
    ∃ more others, lines (c :: t) = (c :: more) :: others := by
  have hNoReturn : ∀ more, c = '\r' → t = '\n' :: more → False := by
    rintro more rfl -
    cases h
  rw [lines, lines.go, if_neg (Bool.eq_false_iff.mp h)]
  · exact go_of_ne_nil (List.cons_ne_nil c []) t
  · exact hNoReturn

theorem join_cons {sep : Text} {pieces : List Text} (first : Text) (h : pieces ≠ []) :
    join sep (first :: pieces) = first ++ sep ++ join sep pieces := by
  rw [join]
  exact h

theorem go_eq_nil_iff (t : Text) : lines.go [] t = [] ↔ t = [] := by
  constructor
  · intro h
    fun_cases lines.go [] t with
    | case1 _ => rfl
    | case2 hSome => exact absurd rfl hSome
    | case3 t => cases h
    | case4 c t hOther hEnd =>
      rw [lines.go, if_pos hEnd] at h
      · cases h
      · exact hOther
    | case5 c t hOther hEnd =>
      rw [lines.go, if_neg hEnd] at h
      · obtain ⟨more, others, hGo⟩ := go_of_ne_nil (List.cons_ne_nil c []) t
        rw [hGo] at h
        cases h
      · exact hOther
  · rintro rfl
    rfl

/-- At most the last line end is missing from the joined lines. -/
theorem exists_relined_eq (line t : Text) : ∃ tail, (tail = [] ∨ tail = ['\n']) ∧
    line.reverse ++ relined t = join ['\n'] (lines.go line t) ++ tail := by
  have hBehind : ∀ {line t : Text}, (∃ tail, (tail = [] ∨ tail = ['\n']) ∧
      ([] : Text).reverse ++ relined t = join ['\n'] (lines.go [] t) ++ tail) →
        ∃ tail, (tail = [] ∨ tail = ['\n']) ∧ line.reverse ++ '\n' :: relined t =
          join ['\n'] (line.reverse :: lines.go [] t) ++ tail := by
    rintro line t ⟨tail, hTail, hJoin⟩
    cases t with
    | nil => exact ⟨['\n'], .inr rfl, rfl⟩
    | cons c t =>
      refine ⟨tail, hTail, ?_⟩
      have hSome : lines.go [] (c :: t) ≠ [] := mt (go_eq_nil_iff _).mp (List.cons_ne_nil c t)
      rw [join_cons _ hSome, List.append_assoc, ← hJoin]
      simp
  fun_induction lines.go line t with
  | case1 line hNone => exact ⟨[], .inl rfl, by rw [List.isEmpty_iff.mp hNone]; rfl⟩
  | case2 line _ => exact ⟨[], .inl rfl, rfl⟩
  | case3 line t ih => exact hBehind ih
  | case4 line c t hOther hEnd ih =>
    rw [relined, if_pos hEnd]
    · exact hBehind ih
    · exact hOther
  | case5 line c t hOther hEnd ih =>
    rw [relined, if_neg hEnd]
    · rw [List.reverse_cons, List.append_assoc] at ih
      exact ih
    · exact hOther

/-- Characters that end no line are gathered into the line that is being read. -/
theorem go_gather {row : Text} (hRow : ∀ c ∈ row, Unicode.isLineEnd c.toNat = false) (line t : Text) :
    lines.go line (row ++ t) = lines.go (row.reverse ++ line) t := by
  induction row generalizing line with
  | nil => rfl
  | cons c row ih =>
    obtain ⟨hFirst, hRow⟩ := List.forall_mem_cons.mp hRow
    rw [List.cons_append, lines.go, if_neg (Bool.eq_false_iff.mp hFirst), ih hRow, List.reverse_cons,
      List.append_assoc]
    · rfl
    · rintro more rfl
      cases hFirst

/-- A row behind which a line feed stands is one line, also when a line feed follows. -/
theorem go_row {row : Text} (hRow : ∀ c ∈ row, Unicode.isLineEnd c.toNat = false) (t : Text) :
    lines.go [] (row ++ '\n' :: t) = row :: lines.go [] t := by
  have hFeed : Unicode.isLineEnd '\n'.toNat = true := rfl
  rw [go_gather hRow, lines.go, if_pos hFeed, List.append_nil, List.reverse_reverse]
  intro more hReturn
  cases hReturn

/-- Rows with a line feed behind each are lines of their own, whatever follows. -/
theorem lines_rows {rows : List Text}
    (hRows : ∀ row ∈ rows, ∀ c ∈ row, Unicode.isLineEnd c.toNat = false) (t : Text) :
    lines (rows.flatMap (· ++ ['\n']) ++ t) = rows ++ lines t := by
  induction rows with
  | nil => rfl
  | cons row rows ih =>
    obtain ⟨hRow, hRows⟩ := List.forall_mem_cons.mp hRows
    rw [List.flatMap_cons, List.append_assoc, List.append_assoc, List.singleton_append, lines,
      go_row hRow, ← lines, ih hRows]
    rfl

theorem relined_append (h : t.getLast? ≠ some '\r') (rest : Text) :
    relined (t ++ rest) = relined t ++ relined rest := by
  fun_induction relined t with
  | case1 => rfl
  | case2 t ih =>
    rw [List.cons_append, List.cons_append, relined, ih]
    · rfl
    · intro hLast
      cases t with
      | nil => cases hLast
      | cons c t => exact h hLast
  | case3 c t hOther ih =>
    have hStill : ∀ more, c = '\r' → t ++ rest = '\n' :: more → False := by
      rintro more rfl hFeed
      cases t with
      | nil => exact h rfl
      | cons d t => exact hOther t rfl (by rw [(List.cons.inj hFeed).1])
    rw [List.cons_append, relined, ih]
    · rfl
    · intro hLast
      cases t with
      | nil => cases hLast
      | cons d t => exact h hLast
    · exact hStill

theorem trimRightBy_append (h : ∀ c ∈ blanks, p c = true) (t : Text) :
    trimRightBy p (t ++ blanks) = trimRightBy p t := by
  rw [trimRightBy, trimRightBy, List.reverse_append,
    List.dropWhile_append_of_pos fun c hMem => h c (List.mem_reverse.mp hMem)]

theorem trimBy_append (h : ∀ c ∈ blanks, p c = true) (t : Text) :
    trimBy p (t ++ blanks) = trimBy p t := by
  unfold trimBy trimLeftBy
  rw [List.dropWhile_append]
  split
  · rename_i hNone
    rw [List.dropWhile_eq_nil_iff.mpr h, List.isEmpty_iff.mp hNone]
  · exact trimRightBy_append h _

/-- Between the ends, cutting a text into lines and joining them changes its line ends only. -/
theorem trim_join_lines (t : Text) : (join ['\n'] (lines t)).trim = (relined t).trim := by
  obtain ⟨tail, hTail, hJoin⟩ := exists_relined_eq [] t
  have hBlank : ∀ c ∈ tail, isBlank c = true := by
    rcases hTail with rfl | rfl
    · exact List.forall_mem_nil _
    · exact List.forall_mem_singleton.mpr (by decide)
  rw [List.reverse_nil, List.nil_append] at hJoin
  rw [hJoin, trim, trim, trimBy_append hBlank]
  rfl

theorem trimLeftBy_cons (h : p c = false) (t : Text) : trimLeftBy p (c :: t) = c :: t :=
  List.dropWhile_cons_of_neg (Bool.eq_false_iff.mp h)

theorem exists_trimRightBy_cons (h : p c = false) (t : Text) :
    ∃ more, trimRightBy p (c :: t) = c :: more := by
  refine ⟨trimRightBy p t, ?_⟩
  rw [trimRightBy, trimRightBy, List.reverse_cons, List.dropWhile_append]
  split
  · rename_i hNone
    rw [List.isEmpty_iff.mp hNone, List.dropWhile_cons_of_neg (Bool.eq_false_iff.mp h)]
    rfl
  · rw [List.reverse_append]
    rfl

theorem trimBy_eq_self (hFirst : ∀ c, t.head? = some c → p c = false)
    (hLast : ∀ c, t.getLast? = some c → p c = false) : trimBy p t = t := by
  have hLeft : trimLeftBy p t = t := by
    cases t with
    | nil => rfl
    | cons c rest => exact trimLeftBy_cons (hFirst c rfl) rest
  have hRight : t.rdropWhile p = t :=
    List.rdropWhile_eq_self_iff.mpr fun hSome =>
      Bool.eq_false_iff.mp (hLast _ (List.getLast?_eq_some_getLast hSome))
  rw [trimBy, hLeft]
  exact hRight

theorem not_trimmed_of_head? (h : (trimBy p t).head? = some c) : p c = false := by
  obtain ⟨more, hMore⟩ : trimBy p t <+: t.dropWhile p := List.rdropWhile_prefix p _
  obtain ⟨rest, hRest⟩ := List.head?_eq_some_iff.mp h
  have hHead := List.head?_dropWhile_not p t
  rw [← hMore, hRest] at hHead
  simpa using hHead

theorem not_trimmed_of_getLast? (h : (trimBy p t).getLast? = some c) : p c = false := by
  have hSome : trimBy p t ≠ [] := by
    intro hNil
    rw [hNil] at h
    cases h
  rw [List.getLast?_eq_some_getLast hSome] at h
  obtain rfl := Option.some.inj h
  exact Bool.eq_false_iff.mpr (List.rdropWhile_last_not p (trimLeftBy p t) hSome)

theorem trimBy_trimBy (p : Char → Bool) (t : Text) : trimBy p (trimBy p t) = trimBy p t :=
  trimBy_eq_self (fun _ => not_trimmed_of_head?) fun _ => not_trimmed_of_getLast?

/-- Characters may be replaced before trimming or after it, when none is trimmed for its replacement. -/
theorem trimBy_map {f : Char → Char} (h : ∀ c, p (f c) = p c) (t : Text) :
    trimBy p (t.map f) = (trimBy p t).map f := by
  have hSame : p ∘ f = p := funext h
  unfold trimBy trimLeftBy trimRightBy
  rw [List.dropWhile_map, ← List.map_reverse, List.dropWhile_map, ← List.map_reverse, hSame]

end AssetAudit.Text
