import AssetAudit.Proofs.Whitelist.Buckets
import AssetAudit.Proofs.Whitelist.Kinds
import AssetAudit.Proofs.Whitelist.Meanings
import AssetAudit.Proofs.Whitelist.Places

/-!
# What one pattern covers

A literal is compared as it is written with the keys of paths, and with the names at their ends when it has no
slash. So it covers its relative spellings and, when it is made of names, its absolute ones. A folder covers
itself and what lies beneath it, as far as a glob reads: up to a line feed.
-/
namespace AssetAudit

namespace Path

variable {t : Text}

theorem basename_eq (t : Text) : basename t =
    if ((t.rdropWhile (· == '/')).rtakeWhile (· != '/')).isEmpty then t
    else (t.rdropWhile (· == '/')).rtakeWhile (· != '/') :=
  rfl

theorem basename_of_not_mem (h : '/' ∉ t) : basename t = t := by
  have hOther : ∀ c ∈ t, (c != '/') = true := by
    intro c hMem
    rw [bne_iff_ne]
    rintro rfl
    exact h hMem
  have hKept : t.rdropWhile (· == '/') = t := by
    refine List.rdropWhile_eq_self_iff.mpr fun hSome hSlash => h ?_
    exact beq_iff_eq.mp hSlash ▸ List.getLast_mem hSome
  rw [basename_eq, hKept, List.rtakeWhile_eq_self_iff.mpr hOther, ite_self]

/-- The name at the end of a path has no slash, unless the path is nothing but slashes. -/
theorem basename_cases (t : Text) : '/' ∉ basename t ∨ basename t = t := by
  rw [basename_eq]
  split
  · exact .inr rfl
  · exact .inl fun hMem => absurd (List.mem_rtakeWhile_imp hMem) (by decide)

theorem getLast?_basename (h : t.getLast? = some '\n') : (basename t).getLast? = some '\n' := by
  obtain ⟨front, rfl⟩ := List.getLast?_eq_some_iff.mp h
  have hKept : (front ++ ['\n']).rdropWhile (· == '/') = front ++ ['\n'] :=
    List.rdropWhile_concat_neg _ _ _ (by decide)
  rw [basename_eq, hKept, List.rtakeWhile_concat_pos _ _ _ (by decide), if_neg (by simp), List.getLast?_concat]

end Path

namespace Whitelist

variable {folder glob p t : Text}

/-- An entry that is used comes to the pattern that its text is read as. -/
theorem read_of_classify {pattern : Pattern} (hComment : isCommentText p = false)
    (h : classify (normalize (.text p)) = .ok pattern) : read (.text p) = .ok (.pattern pattern) := by
  have hForm : (normalize (.text p)).isEmpty = false := by
    rw [Bool.eq_false_iff]
    intro hNone
    rw [List.isEmpty_iff.mp hNone] at h
    cases h
  have hKept : isSkipped (.text p) = false := by
    cases p with
    | nil => cases hForm
    | cons c rest =>
      change (isCommentText (c :: rest) || (normalize (.text (c :: rest))).isEmpty) = false
      rw [hComment, hForm]
      rfl
  rw [read, if_neg (Bool.eq_false_iff.mp hKept), h]

theorem normalize_eq (hTrim : p.trim = p) :
    normalize (.text p) = if isExpression p then p else Path.toPosix p := by
  change normalizeText p = _
  rw [normalizeText, hTrim]

namespace Matcher

variable {cwd app : Text} {m : Matcher}

theorem app_of_create {entries : List Value} (h : create cwd app entries = .ok m) :
    m.app = Path.absolute cwd app := by
  obtain ⟨c, -, rfl⟩ := (create_eq_ok_iff _ _ _ _).mp h
  rfl

theorem key_congr {n : Matcher} (h : m.app = n.app) (path : Text) : m.key path = n.key path := by
  rw [key, key, normalize_value, normalize_value, h]

/-- With one entry a matcher lists the paths whose keys its pattern accepts. -/
theorem check_of_read {raw : Value} {pattern : Pattern} (cwd app : Text) (h : read raw = .ok (.pattern pattern)) :
    ∃ m, create cwd app [raw] = .ok m ∧ ∀ path,
      (m.check path).value.1 = true ↔ m.key path ≠ [] ∧ pattern.accepts (m.key path) = true := by
  have hCompile : compile [raw] = .ok (Compiled.take {} (.pattern pattern)) := by
    rw [compile_singleton, h]
    rfl
  obtain ⟨m, hCreate⟩ : ∃ m, create cwd app [raw] = .ok m :=
    ⟨_, (create_eq_ok_iff _ _ _ _).mpr ⟨_, hCompile, rfl⟩⟩
  obtain ⟨c, hSame, hServes⟩ := serves_create hCreate
  obtain rfl := Except.ok.inj (hCompile.symm.trans hSame)
  refine ⟨m, hCreate, fun path => ?_⟩
  have hAccepts : ∀ form, (Compiled.take {} (.pattern pattern)).accepts form = pattern.accepts form := by
    intro form
    rw [Compiled.accepts_take]
    rfl
  rw [hServes.check_value, verdict, key, normalize_value, hServes.app_eq]
  cases Path.normalize (Path.absolute cwd app) path with
  | form form => simp [hAccepts]
  | outside => simp

end Matcher

section Literal

/-- What a text is that is read as a literal, and what the literal accepts. -/
theorem classify_literal (h : classify t = .ok (.path p) ∨ classify t = .ok (.name p)) :
    p = t ∧ isExpression t = false ∧ ∃ pattern, classify t = .ok pattern ∧
      ∀ form, pattern.accepts form = true ↔ form = t ∨ '/' ∉ t ∧ Path.basename form = t := by
  have hSome : t ≠ [] := by
    rintro rfl
    rcases h with h | h <;> cases h
  rw [← isSome_expression?]
  rw [classify_eq hSome] at h ⊢
  cases hKind : expression? t with
  | some kind =>
    rw [hKind] at h
    have hOther : ∀ pattern, compileExpression t kind.1 kind.2 = .ok pattern →
        ∃ program, pattern = .expression t program := by
      intro pattern hRead
      obtain ⟨-, program, -, rfl⟩ := (compileExpression_eq_ok_iff _ _ _ _).mp hRead
      exact ⟨program, rfl⟩
    rcases h with h | h
    all_goals
      obtain ⟨_, hEq⟩ := hOther _ h
      cases hEq
  | none =>
    rw [hKind, compileGlob_eq] at h
    dsimp only at h ⊢
    by_cases hGlob : isGlob t = true
    · rw [if_pos hGlob] at h
      rcases h with h | h <;> cases h
    rw [if_neg hGlob] at h ⊢
    obtain rfl : t = p := by grind
    refine ⟨rfl, rfl, ?_⟩
    by_cases hSlash : '/' ∈ t
    · refine ⟨.path t, if_pos (List.contains_iff_mem.mpr hSlash), fun form => ?_⟩
      change (t == form) = true ↔ _
      rw [beq_iff_eq, eq_comm, or_iff_left fun h => h.1 hSlash]
    · refine ⟨.name t, if_neg (mt List.contains_iff_mem.mp hSlash), fun form => ?_⟩
      have hName : form = t → Path.basename form = t := by
        rintro rfl
        exact Path.basename_of_not_mem hSlash
      change (t == Path.basename form) = true ↔ _
      rw [beq_iff_eq, eq_comm]
      exact ⟨fun h => .inr ⟨hSlash, h⟩, fun h => h.elim hName And.right⟩

theorem written_of_toPosix {q : Text} (hStart : ¬ ['.', '/'] <+: t)
    (h : Path.toPosix q = t ∨ Path.toPosix q = '.' :: '/' :: t) : Path.written q = t := by
  unfold Path.written
  rcases h with h | h
  · rw [h]
    split
    · exact absurd ⟨_, rfl⟩ hStart
    · rfl
  · rw [h]
    rfl

/-- A text that is made of names is the key of an absolute path that has it behind the app, once the
backslashes there are slashes. -/
theorem Matcher.key_of_below (m : Matcher) {q : Text} {pieces : List Text} (hSome : t ≠ [])
    (hNames : ∀ name ∈ Text.splitOn '/' t, Path.IsName name) (hAbsolute : Path.isAbsolute q = true)
    (hPlace : Path.resolve ['/'] q = Path.resolve ['/'] m.app ++ pieces)
    (hText : Path.toPosix (Text.join ['/'] pieces) = t) : m.key q = t := by
  have hIn : Path.leadsOut t = false := by
    rw [Bool.eq_false_iff]
    intro hOut
    obtain ⟨first, rest, hSplit, hBad⟩ := Path.exists_of_leadsOut hOut
    exact hBad (hNames first (hSplit ▸ List.mem_cons_self))
  have hBelow : (FilePath.mk [] pieces).text = Text.join ['/'] pieces := by
    cases pieces with
    | nil => exact absurd hText.symm hSome
    | cons piece rest => rfl
  rw [key_of_absolute m hAbsolute, Path.relative_below hPlace, hBelow, hText,
    if_neg (Bool.eq_false_iff.mp hIn)]

/-- A literal lists the paths that have it for their key, or for the name at the end of their key when it has
no slash. So it lists its relative spellings when it does not begin with a dot and a slash, and its absolute
ones when it is made of names. -/
theorem literal_covers_iff (cwd app : Text) (hTrim : p.trim = p) (hComment : isCommentText p = false)
    (hLiteral : classify (normalize (.text p)) = .ok (.path t) ∨
      classify (normalize (.text p)) = .ok (.name t)) :
    ∃ m, Matcher.create cwd app [.text p] = .ok m ∧ t = Path.toPosix p ∧
      (∀ q, (m.check q).value.1 = true ↔ m.key q = t ∨ '/' ∉ t ∧ Path.basename (m.key q) = t) ∧
      (¬ ['.', '/'] <+: t → ∀ q, Path.isAbsolute q = false →
        (Path.toPosix q = t ∨ Path.toPosix q = '.' :: '/' :: t) → (m.check q).value.1 = true) ∧
      ((∀ name ∈ Text.splitOn '/' t, Path.IsName name) → ∀ q pieces, Path.isAbsolute q = true →
        Path.resolve ['/'] q = Path.resolve cwd app ++ pieces → Path.toPosix (Text.join ['/'] pieces) = t →
          (m.check q).value.1 = true) := by
  obtain ⟨hText, hPlain, pattern, hClassify, hAccepts⟩ := classify_literal hLiteral
  obtain ⟨m, hCreate, hCheck⟩ := Matcher.check_of_read cwd app (read_of_classify hComment hClassify)
  have hSome : t ≠ [] := by
    rintro rfl
    rw [← hText] at hClassify
    cases hClassify
  have hListed : ∀ q, (m.check q).value.1 = true ↔ m.key q = t ∨ '/' ∉ t ∧ Path.basename (m.key q) = t := by
    intro q
    rw [hCheck, hAccepts, ← hText]
    refine and_iff_right_of_imp fun hCovered hNone => hSome ?_
    rw [hNone] at hCovered
    exact hCovered.elim Eq.symm fun h => h.2.symm
  have hApp : Path.resolve ['/'] m.app = Path.resolve cwd app := by
    rw [Matcher.app_of_create hCreate, Path.resolve_absolute]
  have hPosix : normalize (.text p) = Path.toPosix p := by
    rw [normalize_eq hTrim] at hPlain ⊢
    refine if_neg fun hExpression => ?_
    rw [if_pos hExpression, hExpression] at hPlain
    cases hPlain
  refine ⟨m, hCreate, hText.trans hPosix, hListed, ?_, ?_⟩
  · intro hStart q hRelative hWritten
    rw [hListed, Matcher.key_of_relative m hRelative]
    exact .inl (written_of_toPosix hStart hWritten)
  · intro hNames q pieces hAbsolute hPlace hPieces
    rw [← hApp] at hPlace
    rw [hListed]
    exact .inl (m.key_of_below hSome hNames hAbsolute hPlace hPieces)

/-- A literal that is written with a backslash, and three spellings of its path. -/
theorem literal_covers_iff_backslash :
    let p : Text := "src\\logo.png".toList
    p.trim = p ∧ isCommentText p = false ∧
      classify (normalize (.text p)) = .ok (.path "src/logo.png".toList) ∧
      ∃ m, Matcher.create ['/'] "/app".toList [.text p] = .ok m ∧ (m.check p).value.1 = true ∧
        (m.check ".\\src/logo.png".toList).value.1 = true ∧
        (m.check "//app/lib/../src\\logo.png".toList).value.1 = true := by
  intro p
  have hLiteral : classify (normalize (.text p)) = .ok (.path "src/logo.png".toList) := rfl
  obtain ⟨m, hCreate, -, -, hRelative, hAbsolute⟩ :=
    literal_covers_iff ['/'] "/app".toList (p := p) rfl rfl (.inl hLiteral)
  have hNames : ∀ name ∈ Text.splitOn '/' "src/logo.png".toList, Path.IsName name := by
    have hPlace : Text.splitOn '/' "src/logo.png".toList = Path.resolve ['/'] "/src/logo.png".toList := rfl
    intro name hMem
    exact Path.isName_of_mem_resolve (hPlace ▸ hMem)
  refine ⟨rfl, rfl, hLiteral, m, hCreate, ?_, ?_, ?_⟩
  · exact hRelative (by decide) p rfl (.inl rfl)
  · exact hRelative (by decide) _ rfl (.inr rfl)
  · exact hAbsolute hNames _ ["src\\logo.png".toList] rfl rfl rfl

/-- A dot or a slash in front of a literal is kept, so the literal is not the key of the path that it spells;
and with an empty component it is not the key of an absolute one. -/
theorem literals_out_of_reach :
    (∃ m, Matcher.create ['/'] "/app".toList [.text "./src/logo.png".toList] = .ok m ∧
      (m.check "./src/logo.png".toList).value.1 = false) ∧
    (∃ m, Matcher.create ['/'] "/app".toList [.text "/app/src/logo.png".toList] = .ok m ∧
      (m.check "/app/src/logo.png".toList).value.1 = false) ∧
    ∃ m, Matcher.create ['/'] "/app".toList [.text "src//logo.png".toList] = .ok m ∧
      (m.check "src//logo.png".toList).value.1 = true ∧
      (m.check "/app/src//logo.png".toList).value.1 = false :=
  ⟨⟨_, rfl, rfl⟩, ⟨_, rfl, rfl⟩, _, rfl, rfl, rfl⟩

end Literal

section Folder

theorem means_folder_iff (hPlain : ∀ c ∈ folder, c ≠ '*' ∧ c ≠ '?') (t : Text) :
    Means (folder ++ ['/', '*', '*']) t ↔ t = folder ∨ ∃ u, '\n' ∉ u ∧ t = folder ++ '/' :: u := by
  induction folder generalizing t with
  | nil => exact means_below_iff t
  | cons c rest ih =>
    obtain ⟨⟨hStar, hMark⟩, hRest⟩ := List.forall_mem_cons.mp hPlain
    have hMore : rest ++ ['/', '*', '*'] ≠ ['*', '*'] := by
      intro hEq
      have hLength := congrArg List.length hEq
      simp at hLength
    rw [List.cons_append, means_itself_iff hStar hMark fun _ => hMore]
    simp only [ih hRest]
    constructor
    · rintro ⟨_, rfl, rfl | ⟨u, hLine, rfl⟩⟩
      · exact .inl rfl
      · exact .inr ⟨u, hLine, rfl⟩
    · rintro (rfl | ⟨u, hLine, rfl⟩)
      · exact ⟨rest, rfl, .inl rfl⟩
      · exact ⟨_, rfl, .inr ⟨u, hLine, rfl⟩⟩

/-- A text that names a folder: no part of it is read as a glob or as the mark of an expression. -/
structure IsFolder (folder : Text) : Prop where
  nonempty : folder ≠ []
  relative : Path.isAbsolute folder = false
  plain : ∀ c ∈ folder, c ≠ '*' ∧ c ≠ '?' ∧ c ≠ '\\'
  trimmed : folder.trim = folder
  unmarked : folder.startsWith expressionMark = false

/-- What the glob of a folder reads: the folder itself, or what begins with the folder and a slash and has no
line feed behind them; but one line feed may end the text. -/
inductive Covers (folder : Text) : Text → Prop
  | itself {tail : Text} (hTail : tail = [] ∨ tail = ['\n']) : Covers folder (folder ++ tail)
  | beneath {u tail : Text} (hLine : '\n' ∉ u) (hTail : tail = [] ∨ tail = ['\n']) :
      Covers folder (folder ++ '/' :: u ++ tail)

theorem Covers.refl (folder : Text) : Covers folder folder := by
  have hItself : Covers folder (folder ++ []) := .itself (.inl rfl)
  rwa [List.append_nil] at hItself

theorem Covers.below (folder : Text) {u : Text} (h : '\n' ∉ u) : Covers folder (folder ++ '/' :: u) := by
  have hBeneath : Covers folder (folder ++ '/' :: u ++ []) := .beneath h (.inl rfl)
  rwa [List.append_nil] at hBeneath

theorem Covers.cases (h : Covers folder t) :
    t = folder ∨ t = folder ++ ['\n'] ∨ folder ++ ['/'] <+: t := by
  cases h with
  | itself hTail =>
    rcases hTail with rfl | rfl
    · exact .inl (List.append_nil folder)
    · exact .inr (.inl rfl)
  | @beneath u tail _ _ => exact .inr (.inr ⟨u ++ tail, by simp⟩)

theorem means_or_line_iff (hPlain : ∀ c ∈ folder, c ≠ '*' ∧ c ≠ '?') (text : Text) :
    Means (folder ++ ['/', '*', '*']) text ∨
        (∃ t, text = t ++ ['\n'] ∧ Means (folder ++ ['/', '*', '*']) t) ↔ Covers folder text := by
  simp only [means_folder_iff hPlain]
  constructor
  · rintro ((rfl | ⟨u, hLine, rfl⟩) | ⟨_, rfl, rfl | ⟨u, hLine, rfl⟩⟩)
    · exact .refl text
    · exact .below folder hLine
    · exact .itself (.inr rfl)
    · exact .beneath hLine (.inr rfl)
  · intro h
    cases h with
    | itself hTail =>
      rcases hTail with rfl | rfl
      · exact .inl (.inl (List.append_nil _))
      · exact .inr ⟨folder, rfl, .inl rfl⟩
    | beneath hLine hTail =>
      rcases hTail with rfl | rfl
      · exact .inl (.inr ⟨_, hLine, List.append_nil _⟩)
      · exact .inr ⟨_, rfl, .inr ⟨_, hLine, rfl⟩⟩

variable {tail : Text}

/-- Both ways to write the glob of a folder come to the same. -/
theorem wholeGlob_folder (folder : Text) (hTail : tail = [] ∨ tail = ['*', '*']) :
    isGlob (folder ++ '/' :: tail) = true ∧ wholeGlob (folder ++ '/' :: tail) = folder ++ ['/', '*', '*'] := by
  rcases hTail with rfl | rfl
  · have hEnd : (folder ++ ['/']).endsWith ['/'] = true :=
      List.isSuffixOf_iff_suffix.mpr (List.suffix_append folder ['/'])
    constructor
    · rw [isGlob, hEnd, Bool.or_true]
    · rw [wholeGlob, if_pos hEnd, List.append_assoc]
      rfl
  · have hStar : (folder ++ ['/', '*', '*']).contains '*' = true := by simp
    have hEnd : ¬ (folder ++ ['/', '*', '*']).endsWith ['/'] = true := by
      intro hEnd
      obtain ⟨front, hFront⟩ := List.isSuffixOf_iff_suffix.mp hEnd
      have hLast := congrArg List.getLast? hFront
      simp at hLast
    constructor
    · rw [isGlob, hStar, Bool.true_or, Bool.true_or]
    · rw [wholeGlob, if_neg hEnd]

theorem IsFolder.head? (hFolder : IsFolder folder) (rest : Text) :
    ∃ c, (folder ++ rest).head? = some c ∧ c ≠ '/' ∧ Text.isBlank c = false := by
  have hTrim := hFolder.trimmed
  have hRelative := hFolder.relative
  cases folder with
  | nil => exact absurd rfl hFolder.nonempty
  | cons c more =>
    have hBlank : Text.isBlank c = false :=
      Text.not_trimmed_of_head? (t := c :: more) (congrArg List.head? hTrim)
    refine ⟨c, rfl, ?_, hBlank⟩
    rintro rfl
    cases hRelative

theorem IsFolder.trim_glob (hFolder : IsFolder folder) (hTail : tail = [] ∨ tail = ['*', '*']) :
    (folder ++ '/' :: tail).trim = folder ++ '/' :: tail := by
  obtain ⟨first, hFirst, -, hBlank⟩ := hFolder.head? ('/' :: tail)
  refine Text.trimBy_eq_self ?_ ?_
  · intro c hHead
    obtain rfl := Option.some.inj (hFirst.symm.trans hHead)
    exact hBlank
  · intro c hLast
    rcases hTail with rfl | rfl
    · obtain rfl : '/' = c := by simpa using hLast
      rfl
    · obtain rfl : '*' = c := by simpa using hLast
      rfl

theorem IsFolder.isExpression_glob (hFolder : IsFolder folder) (hTail : tail = [] ∨ tail = ['*', '*']) :
    isExpression (folder ++ '/' :: tail) = false := by
  obtain ⟨first, hFirst, hRelative, -⟩ := hFolder.head? ('/' :: tail)
  rw [Bool.eq_false_iff]
  intro hExpression
  rcases (isExpression_iff (hFolder.trim_glob hTail)).mp hExpression with hMark | hSlashes
  · -- the mark has no slash, so it would be the beginning of the folder
    have hSlash : '/' ∉ expressionMark := by decide
    have hGlob : folder ++ ['/'] <+: folder ++ '/' :: tail :=
      (List.prefix_append_right_inj folder).mpr (List.prefix_append ['/'] tail)
    rcases List.prefix_or_prefix_of_prefix (List.isPrefixOf_iff_prefix.mp hMark) hGlob with hStart | hStart
    · rcases List.prefix_concat_iff.mp hStart with hSame | hStart
      · exact hSlash (hSame ▸ List.mem_concat_self)
      · exact Bool.eq_false_iff.mp hFolder.unmarked (List.isPrefixOf_iff_prefix.mpr hStart)
    · exact hSlash (hStart.subset List.mem_concat_self)
  · exact hRelative (Option.some.inj (hFirst.symm.trans hSlashes.head?))

theorem IsFolder.isComment_glob (hFolder : IsFolder folder) (hTail : tail = [] ∨ tail = ['*', '*']) :
    isCommentText (folder ++ '/' :: tail) = false := by
  obtain ⟨first, hFirst, hRelative, -⟩ := hFolder.head? ('/' :: tail)
  rw [isCommentText, hFolder.trim_glob hTail, Bool.eq_false_iff]
  intro hSlashes
  obtain ⟨rest, hRest⟩ := List.isPrefixOf_iff_prefix.mp hSlashes
  rw [← hRest] at hFirst
  exact hRelative (Option.some.inj hFirst.symm)

theorem IsFolder.normalize_glob (hFolder : IsFolder folder) (hTail : tail = [] ∨ tail = ['*', '*']) :
    normalize (.text (folder ++ '/' :: tail)) = folder ++ '/' :: tail := by
  rw [normalize_eq (hFolder.trim_glob hTail), if_neg (Bool.eq_false_iff.mp (hFolder.isExpression_glob hTail))]
  refine Path.toPosix_of_not_mem fun hMem => ?_
  rcases List.mem_append.mp hMem with hMem | hMem
  · exact (hFolder.plain _ hMem).2.2 rfl
  · rcases hTail with rfl | rfl
    · exact absurd hMem (by decide)
    · exact absurd hMem (by decide)

/-- The glob of a folder is used, and its program finds what the folder covers. -/
theorem IsFolder.read_glob (hFolder : IsFolder folder) (hTail : tail = [] ∨ tail = ['*', '*']) :
    ∃ program, read (.text (folder ++ '/' :: tail)) =
        .ok (.pattern (.expression (folder ++ '/' :: tail) program)) ∧
      ∀ text, program.occursIn text = true ↔ Covers folder text := by
  obtain ⟨hGlob, hWhole⟩ := wholeGlob_folder folder hTail
  have hKind : expression? (folder ++ '/' :: tail) = none := by
    rw [← Option.not_isSome_iff_eq_none, isSome_expression?, hFolder.isExpression_glob hTail]
    exact Bool.false_ne_true
  have hSome : folder ++ '/' :: tail ≠ [] := List.append_ne_nil_of_right_ne_nil _ (List.cons_ne_nil _ _)
  have hClassify : classify (normalize (.text (folder ++ '/' :: tail))) =
      compileGlob (folder ++ '/' :: tail) := by
    rw [hFolder.normalize_glob hTail, classify_eq hSome, hKind]
    exact if_pos hGlob
  rw [compileGlob_eq, hWhole] at hClassify
  refine ⟨_, read_of_classify (hFolder.isComment_glob hTail) hClassify, fun text => ?_⟩
  have hPlain : ∀ c ∈ folder, c ≠ '*' ∧ c ≠ '?' := fun c hMem =>
    ⟨(hFolder.plain c hMem).1, (hFolder.plain c hMem).2.1⟩
  exact (search_globExpr_iff _ text).trans (means_or_line_iff hPlain text)

/-- Either glob of a folder lists a path when the folder covers its key or the name at the end of it. -/
theorem IsFolder.check_glob (cwd app : Text) (hFolder : IsFolder folder)
    (hTail : tail = [] ∨ tail = ['*', '*']) :
    ∃ m, Matcher.create cwd app [.text (folder ++ '/' :: tail)] = .ok m ∧ ∀ path,
      (m.check path).value.1 = true ↔
        Covers folder (m.key path) ∨ Covers folder (Path.basename (m.key path)) := by
  obtain ⟨program, hRead, hFinds⟩ := hFolder.read_glob hTail
  obtain ⟨m, hCreate, hCheck⟩ := Matcher.check_of_read cwd app hRead
  refine ⟨m, hCreate, fun path => ?_⟩
  rw [hCheck, Pattern.accepts, Bool.or_eq_true, hFinds, hFinds]
  refine and_iff_right_of_imp fun hCovered hNil => ?_
  rw [hNil] at hCovered
  rcases (hCovered.elim id id : Covers folder []).cases with hSame | hFeed | hBelow
  · exact hFolder.nonempty hSame.symm
  · exact absurd hFeed.symm (by simp)
  · exact absurd (List.prefix_nil.mp hBelow) (by simp)

/-- When no line feed stands behind a folder or ends the name, a folder covers itself and what begins with it
and a slash, and by its name what ends with it. -/
theorem covers_iff_of_line (hLine : ∀ u, t = folder ++ '/' :: u → '\n' ∉ u)
    (hLast : (Path.basename t).getLast? ≠ some '\n') :
    Covers folder t ∨ Covers folder (Path.basename t) ↔
      t = folder ∨ folder ++ ['/'] <+: t ∨ Path.basename t = folder := by
  constructor
  · rintro (hCovered | hCovered)
    · rcases hCovered.cases with hSame | hFeed | hBelow
      · exact .inl hSame
      · exact absurd (Path.getLast?_basename (hFeed ▸ List.getLast?_concat)) hLast
      · exact .inr (.inl hBelow)
    · rcases hCovered.cases with hSame | hFeed | hBelow
      · exact .inr (.inr hSame)
      · exact absurd (hFeed ▸ List.getLast?_concat) hLast
      · -- only a path of slashes has a slash in its name
        rcases Path.basename_cases t with hName | hSame
        · exact absurd (hBelow.subset List.mem_concat_self) hName
        · exact .inr (.inl (hSame ▸ hBelow))
  · rintro (rfl | ⟨u, hBelow⟩ | hName)
    · exact .inl (.refl t)
    · have hText : t = folder ++ '/' :: u := by
        rw [← hBelow, List.append_assoc]
        rfl
      exact .inl (hText ▸ .below folder (hLine u hText))
    · exact .inr (hName ▸ .refl folder)

/-- A folder lists itself and what lies beneath it, up to a line feed, and however it is written. -/
theorem folder_covers_iff (cwd app : Text) (hFolder : IsFolder folder) :
    ∃ m wide, Matcher.create cwd app [.text (folder ++ ['/'])] = .ok m ∧
      Matcher.create cwd app [.text (folder ++ ['/', '*', '*'])] = .ok wide ∧
      ∀ path, (wide.check path).value.1 = (m.check path).value.1 ∧
        ((m.check path).value.1 = true ↔
          Covers folder (m.key path) ∨ Covers folder (Path.basename (m.key path))) ∧
        ((∀ u, m.key path = folder ++ '/' :: u → '\n' ∉ u) →
          (Path.basename (m.key path)).getLast? ≠ some '\n' →
            ((m.check path).value.1 = true ↔ m.key path = folder ∨ folder ++ ['/'] <+: m.key path ∨
              Path.basename (m.key path) = folder)) := by
  obtain ⟨m, hCreate, hCheck⟩ := hFolder.check_glob cwd app (.inl rfl)
  obtain ⟨wide, hWide, hCheckWide⟩ := hFolder.check_glob cwd app (.inr rfl)
  refine ⟨m, wide, hCreate, hWide, fun path => ⟨?_, hCheck path, fun hLine hLast => ?_⟩⟩
  · have hApp : wide.app = m.app := (Matcher.app_of_create hWide).trans (Matcher.app_of_create hCreate).symm
    rw [Bool.eq_iff_iff, hCheck, hCheckWide, Matcher.key_congr hApp]
  · rw [hCheck, covers_iff_of_line hLine hLast]

/-- A folder with a dot in its name, a file two directories down, and a folder beside it. -/
theorem folder_covers_iff_dot :
    IsFolder "src/v1.2".toList ∧ ∃ m wide,
      Matcher.create ['/'] "/app".toList [.text "src/v1.2/".toList] = .ok m ∧
      Matcher.create ['/'] "/app".toList [.text "src/v1.2/**".toList] = .ok wide ∧
      (wide.check "/app/./src/v1.2/icons/a/b.svg".toList).value.1 = true ∧
      (m.check "src/v1x2/logo.png".toList).value.1 = false := by
  have hFolder : IsFolder "src/v1.2".toList := ⟨by decide, rfl, by simp, rfl, rfl⟩
  obtain ⟨m, wide, hCreate, hWide, hCheck⟩ := folder_covers_iff ['/'] "/app".toList hFolder
  refine ⟨hFolder, m, wide, hCreate, hWide, ?_, ?_⟩
  · obtain ⟨hSame, hCovers, -⟩ := hCheck "/app/./src/v1.2/icons/a/b.svg".toList
    have hKey : m.key "/app/./src/v1.2/icons/a/b.svg".toList = "src/v1.2/icons/a/b.svg".toList :=
      Matcher.key_congr (n := { app := "/app".toList }) (Matcher.app_of_create hCreate) _
    rw [hSame, hCovers, hKey]
    exact .inl (.below "src/v1.2".toList (u := "icons/a/b.svg".toList) (by decide))
  · obtain ⟨-, -, hListed⟩ := hCheck "src/v1x2/logo.png".toList
    have hKey : m.key "src/v1x2/logo.png".toList = "src/v1x2/logo.png".toList := m.key_of_relative rfl
    rw [hKey] at hListed
    have hLine : ∀ u, "src/v1x2/logo.png".toList = "src/v1.2".toList ++ '/' :: u → '\n' ∉ u := by
      intro u hText
      have hPrefix : "src/v1.2".toList <+: "src/v1x2/logo.png".toList := ⟨_, hText.symm⟩
      exact absurd hPrefix (by decide)
    rw [Bool.eq_false_iff, ne_eq, hListed hLine (by decide)]
    decide

/-- What has a line feed in its name beneath a folder is not listed, and the name of the folder with a line
feed behind it is. -/
theorem line_feeds_hide_files :
    ∃ m, Matcher.create ['/'] "/app".toList [.text "icons/".toList] = .ok m ∧
      m.key "icons/a\nb.svg".toList = "icons/a\nb.svg".toList ∧
      (m.check "icons/a\nb.svg".toList).value.1 = false ∧ (m.check "icons\n".toList).value.1 = true := by
  obtain ⟨m, hCreate, hChecks⟩ := Outcome.exists_of_toOption_map (b := (false, true))
    (f := fun m : Matcher => ((m.check "icons/a\nb.svg".toList).value.1, (m.check "icons\n".toList).value.1))
    (x := Matcher.create ['/'] "/app".toList [.text "icons/".toList]) (by decide +kernel)
  obtain ⟨hHidden, hListed⟩ := Prod.mk.inj hChecks
  exact ⟨m, hCreate, m.key_of_relative rfl, hHidden, hListed⟩

end Folder

end Whitelist

end AssetAudit
