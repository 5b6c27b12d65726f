import AssetAudit.Proofs.Path.Outside
import AssetAudit.Proofs.Path.Spelling

/-!
# Paths inside an app

The names below an app can be spelled in many ways: with a dot in front, with backslashes for some of
the slashes, behind the app, and as the path object of any of these. All of them have one form.
-/
namespace AssetAudit

namespace Text

theorem join_splitOn (sep : Char) (t : Text) : join [sep] (splitOn sep t) = t := by
  rw [splitOn_eq, join_eq]
  exact List.intercalate_splitOn sep

theorem splitOn_append (sep : Char) (a b : Text) :
    splitOn sep (a ++ sep :: b) = splitOn sep a ++ splitOn sep b := by
  induction a with
  | nil => simp [splitOn]
  | cons c rest ih =>
    rw [List.cons_append, splitOn, splitOn, ih]
    split
    · rfl
    · cases hPieces : splitOn sep rest with
      | nil =>
        rw [splitOn_eq] at hPieces
        exact absurd hPieces (List.splitOn_ne_nil sep rest)
      | cons piece pieces => rfl

/-- The pieces that a separator ends, apart from the last one, which the text ends. -/
theorem mem_dropLast_splitOn_iff {sep : Char} {name : Text} (h : sep ∉ name) (t : Text) :
    name ∈ (splitOn sep t).dropLast ↔ name ++ [sep] <+: t ∨ sep :: (name ++ [sep]) <:+: t := by
  have hPieces : ∀ t, splitOn sep t ≠ [] := fun t => by
    rw [splitOn_eq]
    exact List.splitOn_ne_nil sep t
  have hName : splitOn sep name = [name] := splitOn_join (List.cons_ne_nil name [])
    (List.forall_mem_singleton.mpr h)
  have hBehind : ∀ before rest : List Text, rest ≠ [] → name ∈ (before ++ name :: rest).dropLast := by
    intro before rest hRest
    rw [List.dropLast_append_of_ne_nil (List.cons_ne_nil _ _), List.dropLast_cons_of_ne_nil hRest]
    exact List.mem_append_right _ List.mem_cons_self
  constructor
  · intro hMem
    obtain ⟨before, behind, hSplit⟩ := List.append_of_mem hMem
    have hWhole := List.dropLast_concat_getLast (hPieces t)
    rw [hSplit, List.append_assoc, List.cons_append] at hWhole
    have hSome : behind ++ [(splitOn sep t).getLast (hPieces t)] ≠ [] := by simp
    have hText := join_splitOn sep t
    obtain ⟨next, others, hNext⟩ := List.exists_cons_of_ne_nil hSome
    rw [← hWhole, hNext] at hText
    cases before with
    | nil =>
      rw [List.nil_append, join_cons_cons] at hText
      exact .inl ⟨join [sep] (next :: others), by rw [← hText, List.append_assoc]; rfl⟩
    | cons piece before =>
      rw [join_append sep (List.cons_ne_nil _ _) (List.cons_ne_nil _ _), join_cons_cons] at hText
      refine .inr ⟨join [sep] (piece :: before), join [sep] (next :: others), ?_⟩
      rw [← hText]
      simp
  · rintro (⟨rest, rfl⟩ | ⟨before, rest, rfl⟩)
    · rw [List.append_assoc, List.singleton_append, splitOn_append, hName]
      exact hBehind [] _ (hPieces rest)
    · have hCut : before ++ sep :: (name ++ [sep]) ++ rest = before ++ sep :: (name ++ sep :: rest) := by
        simp
      rw [hCut, splitOn_append, splitOn_append, hName]
      exact hBehind _ _ (hPieces rest)

end Text

namespace Path

structure IsName (name : Text) : Prop where
  part : FilePath.isPart name = true
  slash : '/' ∉ name
  up : name ≠ ['.', '.']

variable {names : List Text}

theorem resolveBelow_append (base : List Text) (a p : Text) :
    resolveBelow base (a ++ '/' :: p) = resolveBelow (resolveBelow base a) p := by
  unfold resolveBelow
  rw [Text.splitOn_append, List.foldl_append]

theorem resolveBelow_join (h : ∀ name ∈ names, IsName name) (base : List Text) :
    resolveBelow base (Text.join ['/'] names) = base ++ names := by
  have hSplit := FilePath.filter_splitOn_join fun name hMem => ⟨(h name hMem).part, (h name hMem).slash⟩
  rw [resolveBelow, ← FilePath.foldl_step_filter, hSplit]
  exact FilePath.foldl_step_of_no_up (fun name hMem => ⟨(h name hMem).part, (h name hMem).up⟩) base

theorem isName_foldl_step {base pieces : List Text} (hBase : ∀ part ∈ base, IsName part)
    (hPieces : ∀ piece ∈ pieces, '/' ∉ piece) : ∀ part ∈ pieces.foldl step base, IsName part := by
  induction pieces generalizing base with
  | nil => exact hBase
  | cons piece rest ih =>
    obtain ⟨hPiece, hRest⟩ := List.forall_mem_cons.mp hPieces
    refine ih ?_ hRest
    intro part hMem
    unfold step at hMem
    split at hMem
    · exact hBase part hMem
    · rename_i hKept
      split at hMem
      · exact hBase part (List.dropLast_subset _ hMem)
      · rename_i hDown
        rcases List.mem_append.mp hMem with hMem | hMem
        · exact hBase part hMem
        · obtain rfl := List.mem_singleton.mp hMem
          exact ⟨(FilePath.isPart_iff _).mpr (not_or.mp hKept), hPiece, hDown⟩

theorem isName_of_mem_resolve {cwd p part : Text} (h : part ∈ resolve cwd p) : IsName part := by
  have hBelow : ∀ (base : List Text) (t : Text), (∀ part ∈ base, IsName part) →
      ∀ part ∈ resolveBelow base t, IsName part := by
    intro base t hBase
    exact isName_foldl_step hBase fun _ => Text.not_mem_of_mem_splitOn
  unfold resolve at h
  split at h
  · exact hBelow [] p nofun part h
  · exact hBelow _ p (hBelow [] cwd nofun) part h

/-- Resolving a resolved path again changes nothing. -/
theorem resolve_absolute (cwd p : Text) : resolve ['/'] (absolute cwd p) = resolve cwd p := by
  have hNames : ∀ part ∈ resolve cwd p, IsName part := fun _ => isName_of_mem_resolve
  have hJoin := resolveBelow_join hNames []
  rw [resolve_root, absolute]
  rcases FilePath.leadingSlashes_cases (if isAbsolute p then p else cwd) with hRoot | hRoot
  · rw [hRoot]
    exact hJoin
  · rw [hRoot]
    exact hJoin

/-- Resolving a text from a directory straightens the path that is read from it. -/
theorem resolve_ofText {cwd : FilePath} (hCwd : cwd.IsSpelled) (t : Text) :
    resolve cwd.text t = ((FilePath.ofText t).absolute cwd).straightened.parts := by
  have hRead : ∀ base, resolveBelow base t = (FilePath.ofText t).parts.foldl step base := fun base =>
    (FilePath.foldl_step_filter base _).symm
  have hObject := FilePath.isAbsolute_ofText t
  unfold FilePath.absolute FilePath.join FilePath.straightened
  cases hAbsolute : isAbsolute t with
  | true =>
    rw [hAbsolute] at hObject
    rw [resolve_of_absolute _ hAbsolute, hRead, if_pos hObject]
  | false =>
    rw [hAbsolute] at hObject
    rw [resolve_of_relative _ hAbsolute, hRead, hCwd.resolveBelow_text, hObject,
      if_neg Bool.false_ne_true, ← List.foldl_append]

theorem dropCommon_append (start way : List Text) : dropCommon start (start ++ way) = ([], way) := by
  induction start with
  | nil => cases way <;> rfl
  | cons first rest ih => rw [List.cons_append, dropCommon, if_pos rfl, ih]

theorem toPosix_of_not_mem {t : Text} (h : '\\' ∉ t) : toPosix t = t := by
  unfold toPosix Text.replaceChar
  refine (List.map_congr_left fun c hMem => ?_).trans (List.map_id t)
  have hOther : c ≠ '\\' := fun hEq => h (hEq ▸ hMem)
  simp [hOther]

theorem toPosix_cons (c : Char) (t : Text) :
    toPosix (c :: t) = (if c = '\\' then '/' else c) :: toPosix t := by
  by_cases hBackslash : c = '\\'
  · simp [toPosix, Text.replaceChar, hBackslash]
  · simp [toPosix, Text.replaceChar, hBackslash]

theorem not_mem_toPosix (t : Text) : '\\' ∉ toPosix t := by
  induction t with
  | nil => exact List.not_mem_nil
  | cons c rest ih =>
    rw [toPosix_cons, List.mem_cons, not_or]
    refine ⟨?_, ih⟩
    split
    · decide
    · rename_i hOther
      exact Ne.symm hOther

theorem toPosix_toPosix (t : Text) : toPosix (toPosix t) = toPosix t :=
  toPosix_of_not_mem (not_mem_toPosix t)

theorem toPosix_eq_self {t : Text} (h : '/' ∉ toPosix t) : toPosix t = t := by
  refine toPosix_of_not_mem fun hBackslash => h ?_
  exact List.mem_map.mpr ⟨'\\', hBackslash, rfl⟩

theorem prefix_toPosix_iff (start t : Text) :
    start <+: toPosix t ↔ ∃ s, s <+: t ∧ toPosix s = start := by
  constructor
  · rintro ⟨rest, hRest⟩
    obtain ⟨s, more, rfl, hStart, -⟩ := List.map_eq_append_iff.mp hRest.symm
    exact ⟨s, List.prefix_append s more, hStart⟩
  · rintro ⟨s, ⟨more, rfl⟩, rfl⟩
    exact ⟨toPosix more, (List.map_append ..).symm⟩

theorem not_mem_text_below (hBackslash : ∀ name ∈ names, '\\' ∉ name) :
    '\\' ∉ (FilePath.mk [] names).text := by
  cases names with
  | nil => decide
  | cons name rest =>
    intro hMem
    obtain ⟨part, hPart, hMem⟩ := (FilePath.mem_join_iff _ (by decide)).mp hMem
    exact hBackslash part hPart hMem

/-- What leads out of an app begins with a step up or with a slash. -/
theorem exists_of_leadsOut {t : Text} (h : leadsOut t = true) :
    ∃ first rest, Text.splitOn '/' t = first :: rest ∧ ¬IsName first := by
  unfold leadsOut isAbsolute Text.startsWith at h
  simp only [Bool.or_eq_true, beq_iff_eq] at h
  rcases h with (rfl | hUp) | hSlash
  · exact ⟨['.', '.'], [], rfl, fun h => h.up rfl⟩
  · obtain ⟨rest, rfl⟩ := List.isPrefixOf_iff_prefix.mp hUp
    exact ⟨['.', '.'], Text.splitOn '/' rest, rfl, fun h => h.up rfl⟩
  · obtain ⟨rest, rfl⟩ := List.isPrefixOf_iff_prefix.mp hSlash
    exact ⟨[], Text.splitOn '/' rest, rfl, fun h => nomatch h.part⟩

theorem leadsOut_below (h : ∀ name ∈ names, IsName name) :
    leadsOut (FilePath.mk [] names).text = false := by
  cases names with
  | nil => rfl
  | cons name rest =>
    have hSplit := Text.splitOn_join (List.cons_ne_nil name rest) fun name hMem => (h name hMem).slash
    rw [Bool.eq_false_iff]
    intro hOut
    obtain ⟨first, others, hFirst, hBad⟩ := exists_of_leadsOut hOut
    obtain ⟨rfl, -⟩ := List.cons.inj (hSplit.symm.trans hFirst)
    exact hBad (h _ List.mem_cons_self)

theorem relative_below {app p : Text} (hBelow : resolve ['/'] p = resolve ['/'] app ++ names) :
    relative ['/'] p app = (FilePath.mk [] names).text := by
  rw [relative, hBelow, between, dropCommon_append]
  cases names with
  | nil => rfl
  | cons name rest => rfl

/-- The form of an absolute path is the names that it has behind those of the app. -/
theorem normalize_below {app p : Text} (hAbsolute : isAbsolute p = true)
    (hBelow : resolve ['/'] p = resolve ['/'] app ++ names) (hNames : ∀ name ∈ names, IsName name)
    (hBackslash : ∀ name ∈ names, '\\' ∉ name) :
    normalize app p = .form (FilePath.mk [] names).text := by
  have hPosix := toPosix_of_not_mem (not_mem_text_below hBackslash)
  rw [normalize, if_pos hAbsolute, relative_below hBelow, hPosix]
  exact if_neg (Bool.eq_false_iff.mp (leadsOut_below hNames))

theorem isAbsolute_toPosix {q : Text} (h : isAbsolute q = true) : isAbsolute (toPosix q) = true := by
  obtain ⟨rest, rfl⟩ := List.isPrefixOf_iff_prefix.mp h
  rfl

/-- Names with any kind of slashes between them, and with or without a dot in front. -/
def IsWritten (names : List Text) (q : Text) : Prop :=
  toPosix q = Text.join ['/'] names ∨ toPosix q = '.' :: '/' :: Text.join ['/'] names

def finer (pieces : List Text) : List Text :=
  pieces.flatMap fun piece => Text.splitOn '/' (toPosix piece)

theorem splitOn_toPosix_join {pieces : List Text} (h : pieces ≠ []) :
    Text.splitOn '/' (toPosix (Text.join ['/'] pieces)) = finer pieces := by
  induction pieces with
  | nil => exact absurd rfl h
  | cons piece rest ih =>
    cases rest with
    | nil => simp [finer, Text.join]
    | cons next rest =>
      have hMap : ∀ t, toPosix (piece ++ '/' :: t) = toPosix piece ++ '/' :: toPosix t := by
        intro t
        simp [toPosix, Text.replaceChar]
      rw [Text.join_cons_cons, hMap, Text.splitOn_append, ih (List.cons_ne_nil _ _)]
      rfl

theorem toPosix_join_of_finer {pieces : List Text} (hSome : names ≠ []) (h : finer pieces = names) :
    toPosix (Text.join ['/'] pieces) = Text.join ['/'] names := by
  have hPieces : pieces ≠ [] := by
    rintro rfl
    exact hSome h.symm
  rw [← h, ← splitOn_toPosix_join hPieces, Text.join_splitOn]

/-- A piece that a path object leaves out has no backslash. -/
theorem splitOn_toPosix_of_not_isPart {piece : Text} (h : ¬FilePath.isPart piece = true) :
    Text.splitOn '/' (toPosix piece) = [piece] := by
  have hCases : piece = [] ∨ piece = ['.'] := by
    rw [FilePath.isPart_iff] at h
    by_cases hNone : piece = []
    · exact .inl hNone
    · exact .inr (by simpa [hNone] using h)
  rcases hCases with rfl | rfl
  · rfl
  · rfl

theorem isPart_of_finer {pieces : List Text} (hNames : ∀ name ∈ finer pieces, IsName name) :
    ∀ piece ∈ pieces, FilePath.isPart piece = true := by
  intro piece hMem
  by_cases hPart : FilePath.isPart piece = true
  · exact hPart
  · have hSame : piece ∈ finer pieces := by
      refine List.mem_flatMap.mpr ⟨piece, hMem, ?_⟩
      rw [splitOn_toPosix_of_not_isPart hPart]
      exact List.mem_singleton_self piece
    exact (hNames piece hSame).part

/-- A path that is written with names has one form, without a dot in front. -/
theorem written_of_isWritten {q : Text} (hSome : names ≠ []) (hNames : ∀ name ∈ names, IsName name)
    (h : IsWritten names q) : isAbsolute q = false ∧ written q = Text.join ['/'] names := by
  have hRelative := FilePath.isAbsolute_joinParts fun name hMem =>
    ⟨(hNames name hMem).part, (hNames name hMem).slash⟩
  have hSplit := Text.splitOn_join hSome fun name hMem => (hNames name hMem).slash
  constructor
  · rw [Bool.eq_false_iff]
    intro hAbsolute
    have hPosix := isAbsolute_toPosix hAbsolute
    rcases h with h | h
    · rw [h, hRelative] at hPosix
      cases hPosix
    · rw [h] at hPosix
      cases hPosix
  · rcases h with h | h
    · unfold written
      split
      · rename_i rest hDot
        -- names do not begin with a dot alone
        rw [← h, hDot] at hSplit
        have hMem : ['.'] ∈ names := hSplit ▸ List.mem_cons_self
        exact absurd (hNames _ hMem).part (by decide)
      · exact h
    · unfold written
      rw [h]
      rfl

inductive Spells (cwd app : Text) (names : List Text) : Text → Prop
  | written {q : Text} (h : IsWritten names q) : Spells cwd app names q
  | absolute {a : Text} (hAbsolute : isAbsolute a = true) (hApp : resolve cwd a = resolve cwd app) :
    Spells cwd app names (a ++ '/' :: Text.join ['/'] names)
  | object {q : Text} (h : Spells cwd app names q) : Spells cwd app names (FilePath.ofText q).text

variable {cwd app q : Text}

theorem object_of_relative (h : isAbsolute q = false) :
    FilePath.ofText q = ⟨[], (Text.splitOn '/' q).filter FilePath.isPart⟩ := by
  rw [FilePath.ofText, h]
  rfl

/-- A path object keeps the names that it is written with. -/
theorem IsWritten.object (hSome : names ≠ []) (hNames : ∀ name ∈ names, IsName name)
    (h : IsWritten names q) : IsWritten names (FilePath.ofText q).text := by
  have hRelative := (written_of_isWritten hSome hNames h).1
  have hSplit := Text.splitOn_join hSome fun name hMem => (hNames name hMem).slash
  obtain ⟨first, rest, hPieces⟩ : ∃ first rest, Text.splitOn '/' q = first :: rest := by
    rw [Text.splitOn_eq]
    exact List.exists_cons_of_ne_nil (List.splitOn_ne_nil '/' q)
  have hQ : Text.join ['/'] (first :: rest) = q := hPieces ▸ Text.join_splitOn '/' q
  have hFiner : Text.splitOn '/' (toPosix q) = finer (first :: rest) := by
    rw [← hQ, splitOn_toPosix_join (List.cons_ne_nil _ _)]
  -- without empty pieces and single dots the object is the text itself
  have hKept : (∀ piece ∈ first :: rest, FilePath.isPart piece = true) →
      (FilePath.ofText q).text = q := by
    intro hParts
    rw [object_of_relative hRelative, hPieces, List.filter_eq_self.mpr hParts]
    exact hQ
  rcases h with h | h
  · rw [h, hSplit] at hFiner
    rw [hKept (isPart_of_finer (hFiner ▸ hNames))]
    exact .inl h
  · have hDotted : ['.'] :: names = Text.splitOn '/' (toPosix first) ++ finer rest := by
      rw [h] at hFiner
      exact (congrArg (['.'] :: ·) hSplit.symm).trans hFiner
    by_cases hFirst : FilePath.isPart first = true
    · obtain ⟨dot, below, hSplitFirst⟩ : ∃ dot below, Text.splitOn '/' (toPosix first) = dot :: below := by
        rw [Text.splitOn_eq]
        exact List.exists_cons_of_ne_nil (List.splitOn_ne_nil '/' _)
      rw [hSplitFirst] at hDotted
      obtain ⟨-, hBelow⟩ := List.cons.inj hDotted
      have hRest : ∀ name ∈ finer rest, IsName name := fun name hMem =>
        hNames name (hBelow ▸ List.mem_append_right below hMem)
      rw [hKept (List.forall_mem_cons.mpr ⟨hFirst, isPart_of_finer hRest⟩)]
      exact .inr h
    · -- the dot in front is a piece of its own, and the object leaves it out
      rw [splitOn_toPosix_of_not_isPart hFirst] at hDotted
      obtain ⟨-, hBelow⟩ := List.cons.inj hDotted
      change names = finer rest at hBelow
      have hText : (FilePath.ofText q).text = Text.join ['/'] rest := by
        rw [object_of_relative hRelative, hPieces, List.filter_cons_of_neg hFirst,
          List.filter_eq_self.mpr (isPart_of_finer (hBelow ▸ hNames))]
        cases rest with
        | nil => exact absurd hBelow hSome
        | cons next rest => rfl
      rw [hText]
      exact .inl (toPosix_join_of_finer hSome hBelow.symm)

/-- Where the spellings of names lead: they are written with the names, or lie that far below the app. -/
theorem Spells.leads (hSome : names ≠ []) (hNames : ∀ name ∈ names, IsName name)
    (h : Spells cwd app names q) :
    IsWritten names q ∨ isAbsolute q = true ∧ resolve ['/'] q = resolve cwd app ++ names := by
  induction h with
  | written h => exact .inl h
  | @absolute a hAbsolute hApp =>
    right
    have hStart : isAbsolute (a ++ '/' :: Text.join ['/'] names) = true := by
      obtain ⟨rest, rfl⟩ := List.isPrefixOf_iff_prefix.mp hAbsolute
      rfl
    rw [resolve_of_absolute cwd hAbsolute] at hApp
    rw [resolve_root, resolveBelow_append, resolveBelow_join hNames, hApp]
    exact ⟨hStart, rfl⟩
  | @object q _ ih =>
    rcases ih with hWritten | ⟨hAbsolute, hResolve⟩
    · exact .inl (hWritten.object hSome hNames)
    · right
      have hSpelled := FilePath.isSpelled_ofText q
      have hObject := (FilePath.isAbsolute_ofText q).trans hAbsolute
      refine ⟨hSpelled.isAbsolute_text hObject, ?_⟩
      rw [resolve_root] at hResolve ⊢
      rw [hSpelled.resolveBelow_text [], ← hResolve]
      exact FilePath.foldl_step_filter [] _

/-- All spellings of a path below an app have one form. -/
theorem normalize_of_spells (hSome : names ≠ []) (hNames : ∀ name ∈ names, IsName name)
    (hBackslash : ∀ name ∈ names, '\\' ∉ name) (h : Spells cwd app names q) :
    normalize (Path.absolute cwd app) q = .form (Text.join ['/'] names) := by
  rcases h.leads hSome hNames with hWritten | ⟨hAbsolute, hResolve⟩
  · obtain ⟨hRelative, hForm⟩ := written_of_isWritten hSome hNames hWritten
    rw [normalize_relative _ hRelative, hForm]
  · rw [normalize_below hAbsolute (by rw [resolve_absolute, hResolve]) hNames hBackslash]
    cases names with
    | nil => exact absurd rfl hSome
    | cons name rest => rfl

end Path

end AssetAudit
