import AssetAudit.Path.FilePath

/-!
# Paths and their texts

A path that is read from a text can be read again from its own text. Straightening such a path takes
the components behind `..` back by the text alone; a path without `..` is straight.
-/
namespace AssetAudit

namespace Text

theorem splitOn_eq (sep : Char) (t : Text) : splitOn sep t = List.splitOn sep t := by
  induction t with
  | nil => rfl
  | cons c rest ih =>
    rw [splitOn, ih, List.splitOn_cons_eq_if_modifyHead]
    by_cases hSep : (c == sep) = true
    · rw [if_pos hSep, if_pos hSep]
    · rw [if_neg hSep, if_neg hSep]
      cases hPieces : List.splitOn sep rest with
      | nil => exact absurd hPieces (List.splitOn_ne_nil sep rest)
      | cons piece pieces => rfl

theorem join_eq (sep : Text) (pieces : List Text) : join sep pieces = sep.intercalate pieces := by
  induction pieces with
  | nil => rfl
  | cons piece rest ih =>
    cases rest with
    | nil => simp [join, List.intercalate]
    | cons next rest =>
      rw [join, ih]
      · simp [List.intercalate]
      · exact nofun

theorem join_cons_cons (sep : Char) (piece next : Text) (rest : List Text) :
    join [sep] (piece :: next :: rest) = piece ++ sep :: join [sep] (next :: rest) := by
  simp [join]

theorem join_append (sep : Char) {a b : List Text} (ha : a ≠ []) (hb : b ≠ []) :
    join [sep] (a ++ b) = join [sep] a ++ sep :: join [sep] b := by
  induction a with
  | nil => exact absurd rfl ha
  | cons piece rest ih =>
    cases rest with
    | nil =>
      obtain ⟨next, others, rfl⟩ := List.exists_cons_of_ne_nil hb
      exact join_cons_cons sep piece next others
    | cons next rest =>
      rw [List.cons_append, List.cons_append, join_cons_cons, join_cons_cons, List.append_assoc,
        ← List.cons_append, ih (List.cons_ne_nil _ _)]
      rfl

theorem splitOn_join {sep : Char} {pieces : List Text} (hNone : pieces ≠ [])
    (h : ∀ piece ∈ pieces, sep ∉ piece) : splitOn sep (join [sep] pieces) = pieces := by
  rw [splitOn_eq, join_eq]
  exact List.splitOn_intercalate sep h hNone

theorem not_mem_of_mem_splitOn {sep : Char} {t piece : Text} (h : piece ∈ splitOn sep t) :
    sep ∉ piece := by
  rw [splitOn_eq] at h
  induction t generalizing piece with
  | nil =>
    obtain rfl := List.mem_singleton.mp h
    exact List.not_mem_nil
  | cons c rest ih =>
    rw [List.splitOn_cons_eq_if_modifyHead] at h
    split at h
    · rcases List.mem_cons.mp h with rfl | hRest
      · exact List.not_mem_nil
      · exact ih hRest
    · rename_i hOther
      cases hPieces : List.splitOn sep rest with
      | nil => exact absurd hPieces (List.splitOn_ne_nil sep rest)
      | cons first others =>
        rw [hPieces] at h ih
        rcases List.mem_cons.mp h with rfl | hRest
        · intro hMem
          rcases List.mem_cons.mp hMem with rfl | hMem
          · exact hOther (beq_self_eq_true sep)
          · exact ih List.mem_cons_self hMem
        · exact ih (List.mem_cons_of_mem _ hRest)

theorem occursIn_iff (needle t : Text) : needle.occursIn t = true ↔ needle <:+: t := by
  induction t with
  | nil => rw [occursIn, List.isEmpty_iff, List.infix_nil]
  | cons c rest ih =>
    rw [occursIn, Bool.or_eq_true, ih, List.isPrefixOf_iff_prefix, List.infix_cons_iff]

end Text

namespace FilePath

structure IsSpelled (p : FilePath) : Prop where
  root : p.root = [] ∨ p.root = ['/'] ∨ p.root = ['/', '/']
  parts : ∀ part ∈ p.parts, isPart part = true ∧ '/' ∉ part

theorem leadingSlashes_cases (t : Text) :
    Path.leadingSlashes t = ['/'] ∨ Path.leadingSlashes t = ['/', '/'] := by
  unfold Path.leadingSlashes
  split
  · exact .inl rfl
  · exact .inr rfl
  · exact .inl rfl

theorem isAbsolute_ofText (t : Text) : (ofText t).isAbsolute = Path.isAbsolute t := by
  unfold ofText
  cases Path.isAbsolute t with
  | false => rfl
  | true =>
    rw [if_pos rfl]
    rcases leadingSlashes_cases t with hRoot | hRoot
    · rw [hRoot]
      rfl
    · rw [hRoot]
      rfl

theorem isSpelled_ofText (t : Text) : (ofText t).IsSpelled where
  root := by
    unfold ofText
    split
    · exact .inr (leadingSlashes_cases t)
    · exact .inl rfl
  parts part hMem := by
    obtain ⟨hMem, hPart⟩ := List.mem_filter.mp hMem
    exact ⟨hPart, Text.not_mem_of_mem_splitOn hMem⟩

theorem IsSpelled.join {p q : FilePath} (hp : p.IsSpelled) (hq : q.IsSpelled) :
    (p.join q).IsSpelled := by
  unfold FilePath.join
  split
  · exact hq
  · refine ⟨hp.root, fun part hMem => ?_⟩
    rcases List.mem_append.mp hMem with hMem | hMem
    · exact hp.parts part hMem
    · exact hq.parts part hMem

theorem isAbsolute_join {p q : FilePath} (hp : p.isAbsolute = true) :
    (p.join q).isAbsolute = true := by
  unfold FilePath.join
  split
  · assumption
  · exact hp

theorem isPart_iff (part : Text) : isPart part = true ↔ part ≠ [] ∧ part ≠ ['.'] := by
  simp [isPart]

theorem mem_join_iff (parts : List Text) {c : Char} (h : c ≠ '/') :
    c ∈ Text.join ['/'] parts ↔ ∃ part ∈ parts, c ∈ part := by
  induction parts with
  | nil => exact iff_of_false List.not_mem_nil nofun
  | cons part rest ih =>
    cases rest with
    | nil => simp [Text.join]
    | cons next rest =>
      have hJoin : Text.join ['/'] (part :: next :: rest) =
          part ++ '/' :: Text.join ['/'] (next :: rest) := by simp [Text.join]
      rw [hJoin, List.mem_append, List.mem_cons, ih]
      simp [h]

theorem filter_splitOn_join {parts : List Text}
    (h : ∀ part ∈ parts, isPart part = true ∧ '/' ∉ part) :
    (Text.splitOn '/' (Text.join ['/'] parts)).filter isPart = parts := by
  cases parts with
  | nil => rfl
  | cons part rest =>
    rw [Text.splitOn_join (List.cons_ne_nil _ _) fun piece hMem => (h piece hMem).2]
    exact List.filter_eq_self.mpr fun piece hMem => (h piece hMem).1

theorem isAbsolute_joinParts {parts : List Text}
    (h : ∀ part ∈ parts, isPart part = true ∧ '/' ∉ part) :
    Path.isAbsolute (Text.join ['/'] parts) = false := by
  cases parts with
  | nil => rfl
  | cons part rest =>
    obtain ⟨hPart, hSlash⟩ := h part List.mem_cons_self
    cases part with
    | nil => exact absurd rfl ((isPart_iff _).mp hPart).1
    | cons c part =>
      have hOther : c ≠ '/' := fun hEq => hSlash (hEq ▸ List.mem_cons_self)
      have hText : ∃ more, Text.join ['/'] ((c :: part) :: rest) = c :: more := by
        cases rest with
        | nil => exact ⟨_, rfl⟩
        | cons next rest => exact ⟨_, rfl⟩
      obtain ⟨more, hText⟩ := hText
      rw [hText]
      have hSlash : ('/' == c) = false := by simpa using Ne.symm hOther
      rw [Path.isAbsolute, Text.startsWith, List.isPrefixOf, hSlash, Bool.false_and]

theorem text_of_absolute {p : FilePath} (h : p.isAbsolute = true) :
    p.text = p.root ++ Text.join ['/'] p.parts := by
  unfold isAbsolute at h
  unfold text
  rw [if_neg (by simp_all)]

theorem leadingSlashes_append {root t : Text} (hRoot : root = ['/'] ∨ root = ['/', '/'])
    (h : Path.isAbsolute t = false) : Path.leadingSlashes (root ++ t) = root := by
  unfold Path.isAbsolute Text.startsWith at h
  cases t with
  | nil => rcases hRoot with rfl | rfl <;> rfl
  | cons c t =>
    have hOther : c ≠ '/' := by
      rintro rfl
      simp at h
    rcases hRoot with rfl | rfl <;> simp [Path.leadingSlashes, hOther]

/-- A path that can be read from a text is read from its own. -/
theorem IsSpelled.ofText_text {p : FilePath} (h : p.IsSpelled) : ofText p.text = p := by
  obtain ⟨root, parts⟩ := p
  obtain ⟨hRoot, hParts⟩ := h
  dsimp only at hRoot hParts
  have hRelative := isAbsolute_joinParts hParts
  have hSplit := filter_splitOn_join hParts
  rcases hRoot with rfl | hRoot
  · cases parts with
    | nil => rfl
    | cons part rest =>
      have hText : (FilePath.mk [] (part :: rest)).text = Text.join ['/'] (part :: rest) := rfl
      rw [hText, ofText, hSplit, hRelative]
      rfl
  · have hAbsolute : (FilePath.mk root parts).isAbsolute = true := by
      rcases hRoot with rfl | rfl <;> rfl
    have hSlash : Path.isAbsolute (root ++ Text.join ['/'] parts) = true := by
      rcases hRoot with rfl | rfl <;> rfl
    have hPieces : (Text.splitOn '/' (root ++ Text.join ['/'] parts)).filter isPart = parts := by
      rcases hRoot with rfl | rfl
      · exact hSplit
      · exact hSplit
    rw [text_of_absolute hAbsolute, ofText, if_pos hSlash, leadingSlashes_append hRoot hRelative,
      hPieces]

/-- A path whose components behind `..` are taken back by the text alone. -/
def straightened (p : FilePath) : FilePath :=
  ⟨p.root, p.parts.foldl Path.step []⟩

theorem foldl_step_filter (base parts : List Text) :
    (parts.filter isPart).foldl Path.step base = parts.foldl Path.step base := by
  induction parts generalizing base with
  | nil => rfl
  | cons part rest ih =>
    by_cases hPart : isPart part = true
    · rw [List.filter_cons_of_pos hPart, List.foldl_cons, List.foldl_cons, ih]
    · have hSame : part = [] ∨ part = ['.'] := by
        rw [isPart_iff] at hPart
        by_cases hNone : part = []
        · exact .inl hNone
        · exact .inr (by simpa [hNone] using hPart)
      rw [List.filter_cons_of_neg hPart, List.foldl_cons, ih, Path.step, if_pos hSame]

theorem mem_foldl_step {base parts : List Text} {part : Text}
    (h : part ∈ parts.foldl Path.step base) : part ∈ base ∨ part ∈ parts := by
  induction parts generalizing base with
  | nil => exact .inl h
  | cons first rest ih =>
    rcases ih h with hBase | hRest
    · unfold Path.step at hBase
      split at hBase
      · exact .inl hBase
      · split at hBase
        · exact .inl (List.dropLast_subset _ hBase)
        · rcases List.mem_append.mp hBase with hBase | hFirst
          · exact .inl hBase
          · obtain rfl := List.mem_singleton.mp hFirst
            exact .inr List.mem_cons_self
    · exact .inr (List.mem_cons_of_mem _ hRest)

theorem mem_of_mem_straightened {p : FilePath} {part : Text} (h : part ∈ p.straightened.parts) :
    part ∈ p.parts := by
  rcases mem_foldl_step h with hNone | hMem
  · exact absurd hNone List.not_mem_nil
  · exact hMem

theorem IsSpelled.straightened {p : FilePath} (h : p.IsSpelled) : p.straightened.IsSpelled :=
  ⟨h.root, fun part hMem => h.parts part (mem_of_mem_straightened hMem)⟩

theorem IsSpelled.isAbsolute_text {p : FilePath} (h : p.IsSpelled) (hAbsolute : p.isAbsolute = true) :
    Path.isAbsolute p.text = true := by
  have hRead := h.ofText_text
  cases hText : Path.isAbsolute p.text with
  | true => rfl
  | false =>
    rw [ofText, hText] at hRead
    rw [← hRead] at hAbsolute
    cases hAbsolute

theorem IsSpelled.resolveBelow_text {p : FilePath} (h : p.IsSpelled) (base : List Text) :
    Path.resolveBelow base p.text = p.parts.foldl Path.step base := by
  have hParts : (Text.splitOn '/' p.text).filter isPart = p.parts :=
    congrArg FilePath.parts h.ofText_text
  rw [Path.resolveBelow, ← foldl_step_filter, hParts]

/-- Resolving the text of an absolute path straightens the path. -/
theorem IsSpelled.ofText_absolute {p : FilePath} (h : p.IsSpelled) (hAbsolute : p.isAbsolute = true) :
    ofText (Path.absolute [] p.text) = p.straightened := by
  have hSlash := h.isAbsolute_text hAbsolute
  have hRead := h.ofText_text
  rw [ofText, if_pos hSlash] at hRead
  have hRoot : Path.leadingSlashes p.text = p.root := congrArg FilePath.root hRead
  have hStraight : p.straightened.isAbsolute = true := hAbsolute
  have hText : Path.absolute [] p.text = p.straightened.text := by
    rw [Path.absolute, if_pos hSlash, hRoot, Path.resolve, if_pos hSlash, h.resolveBelow_text []]
    exact (text_of_absolute hStraight).symm
  rw [hText]
  exact h.straightened.ofText_text

theorem foldl_step_of_no_up {parts : List Text}
    (h : ∀ part ∈ parts, isPart part = true ∧ part ≠ ['.', '.']) (base : List Text) :
    parts.foldl Path.step base = base ++ parts := by
  induction parts generalizing base with
  | nil => simp
  | cons part rest ih =>
    obtain ⟨⟨hPart, hDown⟩, hRest⟩ := List.forall_mem_cons.mp h
    obtain ⟨hNone, hDot⟩ := (isPart_iff part).mp hPart
    rw [List.foldl_cons, Path.step, if_neg (by simp [hNone, hDot]), if_neg hDown, ih hRest,
      List.append_assoc, List.singleton_append]

theorem straightened_of_no_up {p : FilePath} (h : p.IsSpelled)
    (hUp : ∀ part ∈ p.parts, part ≠ ['.', '.']) : p.straightened = p := by
  obtain ⟨root, parts⟩ := p
  unfold straightened
  rw [foldl_step_of_no_up fun part hMem => ⟨(h.parts part hMem).1, hUp part hMem⟩, List.nil_append]

theorem dropLast_append_name {p : FilePath} (h : p.parts ≠ []) :
    p.parts.dropLast ++ [p.name] = p.parts := by
  rw [name, List.getLastD_eq_getLast?, List.getLast?_eq_some_getLast h]
  exact List.dropLast_concat_getLast h

theorem parent_eq_self {p : FilePath} (h : p.parts = []) : p.parent = p := by
  unfold parent
  rw [h]
  exact congrArg (FilePath.mk p.root) h.symm

end FilePath

end AssetAudit
