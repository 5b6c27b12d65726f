import AssetAudit.Proofs.Outcomes
import AssetAudit.Proofs.Path.Inside
import AssetAudit.Proofs.Text.Lines
import AssetAudit.Proofs.Whitelist.Readings

/-!
# The kinds of patterns

A pattern is an expression behind a mark or between slashes, or else a glob, a path or a name. What
the program of an expression was compiled from can be read off its pattern. The kind is decided before the
backslashes of a pattern become slashes and again after it, and the two agree unless a backslash becomes one
of the slashes of an expression.
-/
namespace AssetAudit.Whitelist

def expression? (pattern : Text) : Option (Text × Regex.Flags) :=
  if pattern.startsWith expressionMark then some (pattern.drop expressionMark.length, {})
  else (splitLiteral? pattern).map fun (body, letters) => (body, flagsOf letters)

/-- The two ways to write an expression. One line feed may follow the flags of the second. -/
inductive Spells : Text → Text → Regex.Flags → Prop
  | marked (body : Text) : Spells (expressionMark ++ body) body {}
  | slashes (body letters tail : Text) (hLetters : ∀ c ∈ letters, isFlagLetter c = true)
      (hTail : tail = [] ∨ tail = ['\n']) :
      Spells ('/' :: body ++ '/' :: letters ++ tail) body (flagsOf letters)

theorem isSome_expression? (pattern : Text) :
    (expression? pattern).isSome = isExpression pattern := by
  unfold expression? isExpression
  split
  · rename_i hMark
    rw [hMark]
    rfl
  · rename_i hMark
    rw [Bool.eq_false_iff.mpr hMark, Bool.false_or, Option.isSome_map]

theorem exists_of_splitLiteral? {pattern body letters : Text}
    (h : splitLiteral? pattern = some (body, letters)) :
    (∀ c ∈ letters, isFlagLetter c = true) ∧ ∃ tail, (tail = [] ∨ tail = ['\n']) ∧
      pattern = '/' :: body ++ '/' :: letters ++ tail := by
  revert h
  fun_cases splitLiteral? pattern with
  | case1 rest backwards reversed hDrop =>
    intro h
    obtain ⟨rfl, rfl⟩ := Prod.mk.inj (Option.some.inj h)
    have hTail : ∃ tail, (tail = [] ∨ tail = ['\n']) ∧ rest.reverse = tail ++ backwards := by
      unfold backwards
      split
      · exact ⟨['\n'], .inr rfl, ‹_›⟩
      · exact ⟨[], .inl rfl, rfl⟩
    obtain ⟨tail, hTail, hReverse⟩ := hTail
    have hRest : rest = reversed.reverse ++ '/' :: (backwards.takeWhile isFlagLetter).reverse ++
        tail := by
      calc rest
          = (tail ++ (backwards.takeWhile isFlagLetter ++
              backwards.dropWhile isFlagLetter)).reverse := by
            rw [List.takeWhile_append_dropWhile, ← hReverse, List.reverse_reverse]
        _ = reversed.reverse ++ '/' :: (backwards.takeWhile isFlagLetter).reverse ++
              tail.reverse := by
            rw [hDrop]
            simp
        _ = _ := by
            rcases hTail with rfl | rfl <;> rfl
    have hLetters : ∀ c ∈ (backwards.takeWhile isFlagLetter).reverse, isFlagLetter c = true :=
      List.all_eq_true.mp (by rw [List.all_reverse, List.all_takeWhile])
    exact ⟨hLetters, tail, hTail, by rw [hRest]; rfl⟩
  | case2 | case3 => exact nofun

theorem splitLiteral?_spells {pattern body letters : Text}
    (h : splitLiteral? pattern = some (body, letters)) :
    Spells pattern body (flagsOf letters) := by
  obtain ⟨hLetters, tail, hTail, rfl⟩ := exists_of_splitLiteral? h
  exact .slashes body letters tail hLetters hTail

/-- Body and flags are found behind the line feed that may end the text, read from there. -/
theorem splitLiteral?_of_reverse {rest tail backwards reversed : Text} (hRest : rest.reverse = tail ++ backwards)
    (hTail : tail = ['\n'] ∨ tail = [] ∧ ∀ more, backwards ≠ '\n' :: more)
    (hDrop : backwards.dropWhile isFlagLetter = '/' :: reversed) :
    splitLiteral? ('/' :: rest) = some (reversed.reverse, (backwards.takeWhile isFlagLetter).reverse) := by
  rcases hTail with rfl | ⟨rfl, hKept⟩
  · simp only [splitLiteral?, hRest, List.cons_append, List.nil_append, hDrop]
  · simp only [splitLiteral?, hRest, List.nil_append, hDrop]

/-- However many slashes a body has, it ends at the last one before the flag letters. -/
theorem splitLiteral?_slashes (body : Text) {letters tail : Text}
    (hLetters : ∀ c ∈ letters, isFlagLetter c = true) (hTail : tail = [] ∨ tail = ['\n']) :
    splitLiteral? ('/' :: body ++ '/' :: letters ++ tail) = some (body, letters) := by
  have hReversed : ∀ c ∈ letters.reverse, isFlagLetter c = true := fun c hMem =>
    hLetters c (List.mem_reverse.mp hMem)
  have hSlash : ¬isFlagLetter '/' = true := by decide
  have hDrop : (letters.reverse ++ '/' :: body.reverse).dropWhile isFlagLetter = '/' :: body.reverse := by
    rw [List.dropWhile_append_of_pos hReversed, List.dropWhile_cons_of_neg hSlash]
  have hTake : (letters.reverse ++ '/' :: body.reverse).takeWhile isFlagLetter = letters.reverse := by
    rw [List.takeWhile_append_of_pos hReversed, List.takeWhile_cons_of_neg hSlash, List.append_nil]
  -- a line feed is no flag letter
  have hKept : ∀ more, letters.reverse ++ '/' :: body.reverse ≠ '\n' :: more := by
    intro more hFeed
    rw [hFeed, List.dropWhile_cons_of_neg (by decide)] at hDrop
    cases hDrop
  have hRest : (body ++ '/' :: letters ++ tail).reverse = tail ++ (letters.reverse ++ '/' :: body.reverse) := by
    rcases hTail with rfl | rfl
    all_goals simp
  have hSplit := splitLiteral?_of_reverse hRest (hTail.symm.imp_right fun h => ⟨h, hKept⟩) hDrop
  rw [hTake, List.reverse_reverse, List.reverse_reverse] at hSplit
  exact hSplit

theorem expression?_spells {pattern body : Text} {flags : Regex.Flags}
    (h : expression? pattern = some (body, flags)) : Spells pattern body flags := by
  unfold expression? at h
  split at h
  · rename_i hMark
    obtain ⟨rfl, rfl⟩ := Prod.mk.inj (Option.some.inj h)
    obtain ⟨rest, rfl⟩ := List.isPrefixOf_iff_prefix.mp hMark
    rw [List.drop_left]
    exact .marked rest
  · obtain ⟨⟨body, letters⟩, hSplit, hEq⟩ := Option.map_eq_some_iff.mp h
    obtain ⟨rfl, rfl⟩ := Prod.mk.inj hEq
    exact splitLiteral?_spells hSplit

theorem classify_eq {pattern : Text} (h : pattern ≠ []) :
    classify pattern = match expression? pattern with
      | some (body, flags) => compileExpression pattern body flags
      | none =>
        if isGlob pattern then compileGlob pattern
        else if pattern.contains '/' then .ok (.path pattern)
        else .ok (.name pattern) := by
  unfold classify expression?
  rw [if_neg (by rw [List.isEmpty_iff]; exact h)]
  split
  · rfl
  · cases splitLiteral? pattern with
    | none => rfl
    | some literal => rfl

/-- An expression is used when the gate lets it through and it can be compiled. -/
theorem compileExpression_eq_ok_iff (source body : Text) (flags : Regex.Flags) (p : Pattern) :
    compileExpression source body flags = .ok p ↔
      gate body = .ok () ∧ ∃ program, Regex.compile body flags = .ok program ∧
        .expression source program = p := by
  unfold compileExpression
  cases gate body with
  | error e => exact iff_of_false nofun (fun h => nomatch h.1)
  | ok =>
    cases Regex.compile body flags with
    | error e =>
      refine iff_of_false ?_ (fun ⟨_, _, h, _⟩ => nomatch h)
      dsimp only
      split <;> exact nofun
    | ok program => simp

theorem parse_of_compile {pattern : Text} {flags : Regex.Flags} {program : Regex.Program}
    (h : Regex.compile pattern flags = .ok program) :
    ∃ parsed, Regex.parse pattern flags = .ok parsed ∧
      program = { pattern, flags := parsed.flags, expr := parsed.expr } := by
  obtain ⟨parsed, hParse, h⟩ := (Outcome.bind_eq_ok_iff _ _ _).mp h
  refine ⟨parsed, hParse, ?_⟩
  dsimp only at h
  split at h
  · cases h
  · split at h
    · cases h
    · cases h
      rfl

theorem source_of_classify {pattern source : Text} {program : Regex.Program}
    (h : classify pattern = .ok (.expression source program)) : source = pattern := by
  have hSome : pattern ≠ [] := by
    rintro rfl
    cases h
  rw [classify_eq hSome] at h
  split at h
  · obtain ⟨-, _, -, hEq⟩ := (compileExpression_eq_ok_iff _ _ _ _).mp h
    cases hEq
    rfl
  · split at h
    · unfold compileGlob at h
      split at h <;> cases h
      rfl
    · split at h <;> cases h

theorem classify_of_read {raw : Value} {p : Pattern} (h : read raw = .ok (.pattern p)) :
    classify (normalize raw) = .ok p := by
  unfold read at h
  split at h
  · cases h
  · split at h
    · cases h
      assumption
    · split at h <;> cases h

theorem mem_expressions_foldl_take (readings : List Reading) (c : Compiled) (t : Tried) :
    t ∈ (readings.foldl Compiled.take c).expressions ↔
      t ∈ c.expressions ∨ .pattern (.expression t.source t.program) ∈ readings := by
  induction readings generalizing c with
  | nil => simp
  | cons r rest ih =>
    rw [List.foldl_cons, ih, List.mem_cons]
    cases r with
    | nothing => simp [Compiled.take]
    | rejection r => simp [Compiled.take, Compiled.reject]
    | pattern p =>
      cases p with
      | path p => simp only [Compiled.take, Compiled.add]; split <;> simp
      | name n => simp only [Compiled.take, Compiled.add]; split <;> simp
      | expression source program =>
        obtain ⟨tried, tries⟩ := t
        simp [Compiled.take, Compiled.add, or_assoc]

theorem exists_entry_of_mem_expressions {entries : List Value} {c : Compiled} {t : Tried}
    (h : compile entries = .ok c) (hMem : t ∈ c.expressions) :
    ∃ raw ∈ entries, normalize raw = t.source ∧
      classify t.source = .ok (.expression t.source t.program) := by
  obtain ⟨readings, hReads, rfl⟩ := (compile_eq_ok_iff entries c).mp h
  rw [mem_expressions_foldl_take] at hMem
  obtain ⟨raw, hRaw, hRead⟩ := (mem_readings_iff hReads _).mp (hMem.resolve_left List.not_mem_nil)
  have hClassify := classify_of_read hRead
  have hSource : normalize raw = t.source := (source_of_classify hClassify).symm
  exact ⟨raw, hRaw, hSource, hSource ▸ hClassify⟩

/-- Every expression of a compiled whitelist that is not a glob was let through by the gate and compiled
from the body that its pattern spells. -/
theorem exists_body_of_mem_expressions {entries : List Value} {c : Compiled} {t : Tried}
    (h : compile entries = .ok c) (hMem : t ∈ c.expressions)
    (hSyntax : isExpression t.source = true) :
    ∃ body flags, Spells t.source body flags ∧ gate body = .ok () ∧
      Regex.compile body flags = .ok t.program := by
  obtain ⟨raw, -, -, hClassify⟩ := exists_entry_of_mem_expressions h hMem
  rw [← isSome_expression?] at hSyntax
  obtain ⟨⟨body, flags⟩, hBody⟩ := Option.isSome_iff_exists.mp hSyntax
  have hSome : t.source ≠ [] := by
    intro hNil
    rw [hNil] at hBody
    cases hBody
  rw [classify_eq hSome, hBody] at hClassify
  obtain ⟨hGate, program, hProgram, hEq⟩ := (compileExpression_eq_ok_iff _ _ _ _).mp hClassify
  cases hEq
  exact ⟨body, flags, expression?_spells hBody, hGate, hProgram⟩

section Twice

inductive Encloses (first last : Char) : Text → Prop
  | intro (body letters : Text) (hLetters : ∀ c ∈ letters, isFlagLetter c = true) :
      Encloses first last (first :: body ++ last :: letters)

/-- A text between slashes and backslashes, with a backslash on one side at least: it has the form of an
expression only after its backslashes became slashes. -/
def TurnsExpression (t : Text) : Prop :=
  Encloses '\\' '/' t ∨ Encloses '/' '\\' t ∨ Encloses '\\' '\\' t

variable {t : Text} {first last : Char}

theorem trim_toPosix (t : Text) : (Path.toPosix t).trim = Path.toPosix t.trim := by
  refine Text.trimBy_map (fun c => ?_) t
  by_cases hBackslash : c = '\\'
  · rw [hBackslash]
    rfl
  · simp [hBackslash]

theorem startsWith_toPosix (t : Text) :
    (Path.toPosix t).startsWith expressionMark = t.startsWith expressionMark := by
  rw [Bool.eq_iff_iff, Text.startsWith, Text.startsWith, List.isPrefixOf_iff_prefix,
    List.isPrefixOf_iff_prefix, Path.prefix_toPosix_iff]
  constructor
  · rintro ⟨mark, hMark, hSame⟩
    have hSelf : Path.toPosix mark = mark := Path.toPosix_eq_self (by rw [hSame]; decide)
    rwa [← hSame, hSelf]
  · intro hMark
    exact ⟨expressionMark, hMark, rfl⟩

theorem Encloses.head? (h : Encloses first last t) : t.head? = some first := by
  cases h
  rfl

/-- What stands before the flag letters is told by the text. -/
theorem Encloses.head?_dropWhile (h : Encloses first last t) (hLast : isFlagLetter last = false) :
    (t.reverse.dropWhile isFlagLetter).head? = some last := by
  obtain ⟨body, letters, hLetters⟩ := h
  have hReverse : (first :: body ++ last :: letters).reverse =
      letters.reverse ++ last :: (first :: body).reverse := by simp
  rw [hReverse, List.dropWhile_append_of_pos fun c hMem => hLetters c (List.mem_reverse.mp hMem),
    List.dropWhile_cons_of_neg (Bool.eq_false_iff.mp hLast)]
  rfl

theorem isFlagLetter_toPosix (t : Text) :
    (Path.toPosix t).all isFlagLetter = t.all isFlagLetter := by
  unfold Path.toPosix Text.replaceChar
  rw [List.all_map]
  congr 1
  funext c
  by_cases hBackslash : c = '\\'
  · rw [hBackslash]
    rfl
  · simp [hBackslash]

/-- Which separators enclose a text once its backslashes are slashes. -/
theorem encloses_toPosix_iff (t : Text) :
    Encloses '/' '/' (Path.toPosix t) ↔ Encloses '/' '/' t ∨ TurnsExpression t := by
  constructor
  · generalize hPosix : Path.toPosix t = posix
    rintro ⟨body, letters, hLetters⟩
    obtain ⟨front, back, rfl, hFront, hBack⟩ := List.map_eq_append_iff.mp hPosix
    obtain ⟨first, body, rfl, hFirst, rfl⟩ := List.map_eq_cons_iff.mp hFront
    obtain ⟨last, letters, rfl, hLast, rfl⟩ := List.map_eq_cons_iff.mp hBack
    have hSlash : ∀ c : Char, (if c == '\\' then '/' else c) = '/' → c = '/' ∨ c = '\\' := by
      intro c h
      by_cases hBackslash : c = '\\'
      · exact .inr hBackslash
      · exact .inl (by simpa [hBackslash] using h)
    have hEnds : ∀ c ∈ letters, isFlagLetter c = true := by
      rw [← List.all_eq_true, ← isFlagLetter_toPosix]
      exact List.all_eq_true.mpr hLetters
    rcases hSlash first hFirst with rfl | rfl
    · rcases hSlash last hLast with rfl | rfl
      · exact .inl (.intro body letters hEnds)
      · exact .inr (.inr (.inl (.intro body letters hEnds)))
    · rcases hSlash last hLast with rfl | rfl
      · exact .inr (.inl (.intro body letters hEnds))
      · exact .inr (.inr (.inr (.intro body letters hEnds)))
  · have hTurned : ∀ {first last}, Encloses first last t → Path.toPosix [first, last] = ['/', '/'] →
        Encloses '/' '/' (Path.toPosix t) := by
      rintro first last ⟨body, letters, hLetters⟩ hSlashes
      have hPosix : Path.toPosix (first :: body ++ last :: letters) =
          '/' :: Path.toPosix body ++ '/' :: Path.toPosix letters := by
        obtain ⟨hFirst, hLast⟩ := List.cons.inj hSlashes
        simp only [Path.toPosix, Text.replaceChar, List.map_append, List.map_cons] at hFirst hLast ⊢
        rw [hFirst, (List.cons.inj hLast).1]
      rw [hPosix]
      refine .intro _ _ ?_
      rw [← List.all_eq_true, isFlagLetter_toPosix]
      exact List.all_eq_true.mpr hLetters
    rintro (h | h | h | h)
    · exact hTurned h rfl
    · exact hTurned h rfl
    · exact hTurned h rfl
    · exact hTurned h rfl

/-- Nothing stands behind the flag letters of a trimmed text. -/
theorem isExpression_iff (hTrim : t.trim = t) :
    isExpression t = true ↔ t.startsWith expressionMark = true ∨ Encloses '/' '/' t := by
  rw [isExpression, Bool.or_eq_true]
  refine or_congr_right ⟨fun hSplit => ?_, ?_⟩
  · obtain ⟨⟨body, letters⟩, hSplit⟩ := Option.isSome_iff_exists.mp hSplit
    obtain ⟨hLetters, tail, hTail, rfl⟩ := exists_of_splitLiteral? hSplit
    rcases hTail with rfl | rfl
    · rw [List.append_nil]
      exact .intro body letters hLetters
    · have hFeed : (Text.trim ('/' :: body ++ '/' :: letters ++ ['\n'])).getLast? = some '\n' := by
        rw [hTrim, List.getLast?_concat]
      have hBlank : Text.isBlank '\n' = false := Text.not_trimmed_of_getLast? hFeed
      cases hBlank
  · rintro ⟨body, letters, hLetters⟩
    have hSplit := splitLiteral?_slashes body hLetters (.inl rfl)
    rw [List.append_nil] at hSplit
    rw [hSplit]
    rfl

theorem not_isExpression_of_turns (h : TurnsExpression t) (hTrim : t.trim = t) :
    isExpression t = false := by
  have hOther : ∀ {first last}, Encloses first last t → [first, last] ≠ ['/', '/'] →
      isFlagLetter last = false → first ≠ 'r' → isExpression t = false := by
    intro first last hEncloses hBackslash hLast hMark
    rw [Bool.eq_false_iff]
    intro hExpression
    rcases (isExpression_iff hTrim).mp hExpression with hStart | hSlashes
    · obtain ⟨rest, hRest⟩ := List.isPrefixOf_iff_prefix.mp hStart
      have hHead : t.head? = some 'r' := by
        rw [← hRest]
        rfl
      exact hMark (Option.some.inj (hEncloses.head?.symm.trans hHead))
    · obtain rfl := Option.some.inj (hEncloses.head?.symm.trans hSlashes.head?)
      obtain rfl := Option.some.inj
        ((hEncloses.head?_dropWhile hLast).symm.trans (hSlashes.head?_dropWhile rfl))
      exact hBackslash rfl
  rcases h with h | h | h
  · exact hOther h (by decide) rfl (by decide)
  · exact hOther h (by decide) rfl (by decide)
  · exact hOther h (by decide) rfl (by decide)

/-- A trimmed text that is no expression becomes one with its backslashes exactly when one of them becomes a
slash of the expression. -/
theorem isExpression_toPosix_iff (hTrim : t.trim = t) (hPlain : isExpression t = false) :
    isExpression (Path.toPosix t) = true ↔ TurnsExpression t := by
  have hPosix : (Path.toPosix t).trim = Path.toPosix t := by rw [trim_toPosix, hTrim]
  have hNone := mt (isExpression_iff hTrim).mpr (Bool.eq_false_iff.mp hPlain)
  rw [isExpression_iff hPosix, startsWith_toPosix, encloses_toPosix_iff]
  constructor
  · rintro (hMark | hSlashes | hTurns)
    · exact absurd (.inl hMark) hNone
    · exact absurd (.inr hSlashes) hNone
    · exact hTurns
  · exact fun hTurns => .inr (.inr hTurns)

/-- Bringing a pattern to its form a second time changes nothing. -/
theorem normalizeText_normalizeText (raw : Text) : normalizeText (normalizeText raw) = normalizeText raw := by
  have hTrim : raw.trim.trim = raw.trim := Text.trimBy_trimBy _ raw
  have hForm : ∀ t, normalizeText t = if isExpression t.trim then t.trim else Path.toPosix t.trim :=
    fun _ => rfl
  rw [hForm raw]
  split
  · rename_i hExpression
    rw [hForm, hTrim, if_pos hExpression]
  · rw [hForm, trim_toPosix, hTrim]
    split
    · rfl
    · exact Path.toPosix_toPosix _

/-- The kind of a pattern is the same before and after its backslashes become slashes exactly when none of
them becomes a slash of an expression. Then a glob or a literal is read as one, and never as an expression;
and in any case bringing a pattern to its form again changes nothing. -/
theorem kind_stays_iff (raw : Value) :
    (isExpression (normalize raw) = isExpression raw.plain.trim ↔ ¬ TurnsExpression raw.plain.trim) ∧
    (isExpression raw.plain.trim = false → ¬ TurnsExpression raw.plain.trim →
      classify (normalize raw) =
        if (normalize raw).isEmpty then .error .empty
        else if isGlob (normalize raw) then compileGlob (normalize raw)
        else if (normalize raw).contains '/' then .ok (.path (normalize raw))
        else .ok (.name (normalize raw))) ∧
    normalize (.text (normalize raw)) = normalize raw := by
  have hTrim : raw.plain.trim.trim = raw.plain.trim := Text.trimBy_trimBy _ raw.plain
  have hForm : normalize raw =
      if isExpression raw.plain.trim then raw.plain.trim else Path.toPosix raw.plain.trim := rfl
  refine ⟨?_, ?_, normalizeText_normalizeText raw.plain⟩
  · cases hExpression : isExpression raw.plain.trim with
    | true =>
      rw [hForm, if_pos hExpression]
      refine iff_of_true hExpression fun hTurns => ?_
      rw [not_isExpression_of_turns hTurns hTrim] at hExpression
      cases hExpression
    | false =>
      rw [hForm, if_neg (Bool.eq_false_iff.mp hExpression), ← isExpression_toPosix_iff hTrim hExpression,
        Bool.not_eq_true]
  · intro hPlain hStays
    have hKind : expression? (normalize raw) = none := by
      rw [← Option.not_isSome_iff_eq_none, isSome_expression?, hForm,
        if_neg (Bool.eq_false_iff.mp hPlain), isExpression_toPosix_iff hTrim hPlain]
      exact hStays
    split
    · rename_i hNone
      rw [List.isEmpty_iff.mp hNone]
      rfl
    · rename_i hSome
      rw [classify_eq fun hNil => hSome (List.isEmpty_iff.mpr hNil), hKind]

/-- The backslashes of a folder become slashes, and it stays a folder. -/
theorem kind_stays_iff_folder :
    let raw : Value := .text " src\\icons\\ ".toList
    ¬ TurnsExpression raw.plain.trim ∧ isExpression (normalize raw) = isExpression raw.plain.trim ∧
      classify (normalize raw) = compileGlob "src/icons/".toList := by
  intro raw
  have hStays : ¬ TurnsExpression raw.plain.trim := by
    rintro (h | h | h)
    all_goals exact absurd h.head? (by decide)
  have hForm : normalize raw = "src/icons/".toList := rfl
  obtain ⟨hKind, hRead, -⟩ := kind_stays_iff raw
  refine ⟨hStays, hKind.mpr hStays, ?_⟩
  rw [hRead rfl hStays, hForm, if_neg (by decide), if_pos (by decide)]

/-- A folder that is written with a backslash in front and another behind is searched for in the middle of
names. -/
theorem backslashes_become_an_expression :
    ∃ program, isExpression (Text.trim "\\icons\\".toList) = false ∧
      isExpression (normalize (.text "\\icons\\".toList)) = true ∧
      classify (normalize (.text "\\icons\\".toList)) =
        .ok (.expression "/icons/".toList program) ∧
      program.occursIn "src/bigicons.png".toList = true := by
  obtain ⟨program, hProgram, hFound⟩ :=
    Outcome.exists_of_toOption_map (f := fun p : Regex.Program => p.occursIn "src/bigicons.png".toList)
      (x := Regex.compile "icons".toList {}) (b := true) (by decide +kernel)
  have hForm : normalize (.text "\\icons\\".toList) = "/icons/".toList := rfl
  have hKind : expression? "/icons/".toList = some ("icons".toList, {}) := rfl
  refine ⟨program, rfl, rfl, ?_, hFound⟩
  rw [hForm, classify_eq (by decide), hKind]
  exact (compileExpression_eq_ok_iff _ _ _ _).mpr ⟨rfl, program, hProgram, rfl⟩

end Twice

end AssetAudit.Whitelist
