import AssetAudit.Proofs.Regex.Reads
import AssetAudit.Proofs.Whitelist.Globs

/-!
# What globs mean

A glob means a set of texts, read off it from the left. The program of a glob accepts exactly those
texts, with or without one line feed behind them: each part of the glob reads the texts that it stands
for, and the anchors let a match begin only at the front and end only at the end.
-/
namespace AssetAudit.Whitelist

open Regex (Expr Flags Reads)

/-- The texts that a glob stands for: `**` stands for characters of one line, a lone `*` for characters
of one directory, `?` for one such character, and a `/**` at the end also for nothing. -/
inductive Means : Text → Text → Prop
  | done : Means [] []
  | folder : Means ['/', '*', '*'] []
  | inside {u : Text} (h : '\n' ∉ u) : Means ['/', '*', '*'] ('/' :: u)
  | anything {glob u t : Text} (h : '\n' ∉ u) (hRest : Means glob t) :
      Means ('*' :: '*' :: glob) (u ++ t)
  | within {glob u t : Text} (hLone : glob.head? ≠ some '*') (h : '/' ∉ u) (hRest : Means glob t) :
      Means ('*' :: glob) (u ++ t)
  | one {glob t : Text} {c : Char} (h : c ≠ '/') (hRest : Means glob t) :
      Means ('?' :: glob) (c :: t)
  | itself {glob t : Text} {c : Char} (hStar : c ≠ '*') (hMark : c ≠ '?')
      (hFolder : c = '/' → glob ≠ ['*', '*']) (hRest : Means glob t) : Means (c :: glob) (c :: t)

/-! What a glob means by its front. -/

theorem means_nil_iff (t : Text) : Means [] t ↔ t = [] := by
  constructor
  · intro h
    cases h
    rfl
  · rintro rfl
    exact .done

theorem means_below_iff (t : Text) :
    Means ['/', '*', '*'] t ↔ t = [] ∨ ∃ u, '\n' ∉ u ∧ t = '/' :: u := by
  constructor
  · intro h
    cases h with
    | folder => exact .inl rfl
    | inside hLine => exact .inr ⟨_, hLine, rfl⟩
    | itself _ _ hFolder _ => exact absurd rfl (hFolder rfl)
  · rintro (rfl | ⟨u, hLine, rfl⟩)
    · exact .folder
    · exact .inside hLine

theorem means_anything_iff (glob t : Text) :
    Means ('*' :: '*' :: glob) t ↔ ∃ u v, '\n' ∉ u ∧ Means glob v ∧ t = u ++ v := by
  constructor
  · intro h
    cases h with
    | anything hLine hRest => exact ⟨_, _, hLine, hRest, rfl⟩
    | within hLone _ _ => exact absurd rfl hLone
    | itself hStar _ _ _ => exact absurd rfl hStar
  · rintro ⟨u, v, hLine, hRest, rfl⟩
    exact .anything hLine hRest

theorem means_within_iff {glob : Text} (hLone : glob.head? ≠ some '*') (t : Text) :
    Means ('*' :: glob) t ↔ ∃ u v, '/' ∉ u ∧ Means glob v ∧ t = u ++ v := by
  constructor
  · intro h
    cases h with
    | anything _ _ => exact absurd rfl hLone
    | within _ hInside hRest => exact ⟨_, _, hInside, hRest, rfl⟩
    | itself hStar _ _ _ => exact absurd rfl hStar
  · rintro ⟨u, v, hInside, hRest, rfl⟩
    exact .within hLone hInside hRest

theorem means_one_iff (glob t : Text) :
    Means ('?' :: glob) t ↔ ∃ c rest, c ≠ '/' ∧ Means glob rest ∧ t = c :: rest := by
  constructor
  · intro h
    cases h with
    | one hOther hRest => exact ⟨_, _, hOther, hRest, rfl⟩
    | itself _ hMark _ _ => exact absurd rfl hMark
  · rintro ⟨c, rest, hOther, hRest, rfl⟩
    exact .one hOther hRest

theorem means_itself_iff {c : Char} {glob t : Text} (hStar : c ≠ '*') (hMark : c ≠ '?')
    (hFolder : c = '/' → glob ≠ ['*', '*']) :
    Means (c :: glob) t ↔ ∃ rest, t = c :: rest ∧ Means glob rest := by
  constructor
  · intro h
    cases h with
    | folder => exact absurd rfl (hFolder rfl)
    | inside _ => exact absurd rfl (hFolder rfl)
    | anything _ _ => exact absurd rfl hStar
    | within _ _ _ => exact absurd rfl hStar
    | one _ _ => exact absurd rfl hMark
    | itself _ _ _ hRest => exact ⟨_, rfl, hRest⟩
  · rintro ⟨rest, rfl, hRest⟩
    exact .itself hStar hMark hFolder hRest

namespace GlobPart

def Holds : GlobPart → Text → Prop
  | .anything, u => '\n' ∉ u
  | .withinDirectory, u => '/' ∉ u
  | .oneCharacter, u => ∃ c, c ≠ '/' ∧ u = [c]
  | .slash, u => u = ['/']
  | .directoryAndBelow, u => u = [] ∨ ∃ v, '\n' ∉ v ∧ u = '/' :: v
  | .literal c, u => u = [c]

end GlobPart

def globFlags : Flags :=
  { unicode := true }

section Parts

variable {kept : List Nat}

theorem reads_anyChar :
    Reads kept globFlags .anyChar fun u => ∃ x : Char, u = [x] ∧ (x.toNat != '\n'.toNat) = true :=
  Regex.reads_of_accept (p := fun n => n != '\n'.toNat) fun _ _ => Regex.run_anyChar ..

theorem reads_anything : Reads kept globFlags (.many .greedy 0 none .anyChar) fun u => '\n' ∉ u :=
  reads_anyChar.manyOther

/-- A part is compiled to an item that reads what the part stands for. -/
theorem reads_expr (part : GlobPart) : Reads kept globFlags part.expr part.Holds := by
  cases part with
  | anything => exact reads_anything
  | withinDirectory => exact (Regex.reads_allBut rfl '/').manyOther
  | oneCharacter =>
    apply (Regex.reads_allBut rfl '/').congr
    intro u
    simp only [Regex.toNat_bne, bne_iff_ne]
    constructor
    · rintro ⟨x, rfl, hOther⟩
      exact ⟨x, hOther, rfl⟩
    · rintro ⟨x, hOther, rfl⟩
      exact ⟨x, rfl, hOther⟩
  | slash => exact Regex.reads_code rfl '/'
  | directoryAndBelow =>
    apply ((Regex.reads_code rfl '/').seq reads_anything).group.optional.congr
    intro u
    constructor
    · rintro (rfl | ⟨_, v, rfl, rfl, hLine⟩)
      · exact .inl rfl
      · exact .inr ⟨v, hLine, rfl⟩
    · rintro (rfl | ⟨v, hLine, rfl⟩)
      · exact .inl rfl
      · exact .inr ⟨['/'], v, rfl, rfl, hLine⟩
  | literal c => exact Regex.reads_code rfl c

end Parts

def Splits (parts : List GlobPart) (t : Text) : Prop :=
  ∃ pieces, List.Forall₂ GlobPart.Holds parts pieces ∧ t = pieces.flatten

theorem splits_nil_iff (t : Text) : Splits [] t ↔ t = [] := by
  constructor
  · rintro ⟨_, ⟨⟩, rfl⟩
    rfl
  · rintro rfl
    exact ⟨[], .nil, rfl⟩

theorem splits_cons_iff (part : GlobPart) (parts : List GlobPart) (t : Text) :
    Splits (part :: parts) t ↔ ∃ u v, part.Holds u ∧ Splits parts v ∧ t = u ++ v := by
  constructor
  · rintro ⟨_, hAll, rfl⟩
    cases hAll with
    | cons hFirst hRest => exact ⟨_, _, hFirst, ⟨_, hRest, rfl⟩, rfl⟩
  · rintro ⟨u, _, hFirst, ⟨pieces, hRest, rfl⟩, rfl⟩
    exact ⟨u :: pieces, .cons hFirst hRest, rfl⟩

theorem splits_itself_iff {part : GlobPart} {c : Char} (h : part.Holds = (· = [c]))
    (parts : List GlobPart) (t : Text) :
    Splits (part :: parts) t ↔ ∃ rest, t = c :: rest ∧ Splits parts rest := by
  rw [splits_cons_iff, h]
  constructor
  · rintro ⟨_, rest, rfl, hRest, rfl⟩
    exact ⟨rest, rfl, hRest⟩
  · rintro ⟨rest, rfl, hRest⟩
    exact ⟨[c], rest, rfl, hRest, rfl⟩

/-- The meaning of a glob, part by part. -/
theorem splits_globParts_iff (glob t : Text) : Splits (globParts glob) t ↔ Means glob t := by
  fun_induction globParts glob generalizing t with
  | case1 =>
    simp only [splits_cons_iff, splits_nil_iff, means_below_iff]
    constructor
    · rintro ⟨_, _, hHolds, rfl, rfl⟩
      rwa [List.append_nil]
    · exact fun h => ⟨t, [], h, rfl, (List.append_nil t).symm⟩
  | case2 rest ih =>
    simp only [splits_cons_iff, ih, means_anything_iff]
    exact Iff.rfl
  | case3 rest hLone ih =>
    have hAlone : rest.head? ≠ some '*' := by
      intro hHead
      obtain ⟨tail, rfl⟩ := List.head?_eq_some_iff.mp hHead
      exact hLone tail rfl
    simp only [splits_cons_iff, ih, means_within_iff hAlone]
    exact Iff.rfl
  | case4 rest ih =>
    simp only [splits_cons_iff, ih, means_one_iff]
    constructor
    · rintro ⟨_, v, ⟨c, hOther, rfl⟩, hRest, rfl⟩
      exact ⟨c, v, hOther, hRest, rfl⟩
    · rintro ⟨c, v, hOther, hRest, rfl⟩
      exact ⟨[c], v, ⟨c, hOther, rfl⟩, hRest, rfl⟩
  | case5 rest hFolder ih =>
    rw [splits_itself_iff rfl, means_itself_iff (by decide) (by decide) fun _ hEnd => hFolder hEnd]
    simp only [ih]
  | case6 c rest _ _ hStar hMark hSlash ih =>
    rw [splits_itself_iff rfl, means_itself_iff hStar hMark fun hEq => absurd hEq hSlash]
    simp only [ih]
  | case7 => rw [splits_nil_iff, means_nil_iff]

/-- The tree of a glob accepts what the glob means, and a line feed may stand behind it. -/
theorem search_globExpr_iff (glob text : Text) :
    Regex.search (globExpr glob) globFlags text = true ↔
      Means glob text ∨ ∃ t, text = t ++ ['\n'] ∧ Means glob t := by
  have hReads : ∀ kept,
      Reads kept globFlags (Expr.sequence ((globParts glob).map GlobPart.expr)) (Means glob) := by
    intro kept
    have hParts : List.Forall₂ (Reads kept globFlags) ((globParts glob).map GlobPart.expr)
        ((globParts glob).map GlobPart.Holds) := by
      apply List.forall₂_map_left_iff.mpr
      apply List.forall₂_map_right_iff.mpr
      exact List.forall₂_same.mpr fun part _ => reads_expr part
    apply (Regex.reads_sequence hParts).congr
    intro u
    rw [← splits_globParts_iff]
    simp only [List.forall₂_map_left_iff]
    rfl
  exact Regex.search_line_iff rfl hReads text

/-- A glob is always compiled, and its program accepts exactly the texts that the glob means. -/
theorem globs_accept_what_they_mean {pattern : Text} (hPlain : isExpression pattern = false)
    (hGlob : isGlob pattern = true) :
    ∃ program, Regex.compile ('^' :: globExpression (wholeGlob pattern) ++ ['$']) {} = .ok program ∧
      classify pattern = .ok (.expression pattern program) ∧
      ∀ text, program.occursIn text = true ↔
        Means (wholeGlob pattern) text ∨
          ∃ t, text = t ++ ['\n'] ∧ Means (wholeGlob pattern) t := by
  obtain ⟨hMark, hSlashes⟩ := Bool.or_eq_false_iff.mp hPlain
  have hSome : ¬pattern.isEmpty = true := by
    rintro hNone
    rw [List.isEmpty_iff.mp hNone] at hGlob
    exact absurd hGlob (by decide)
  have hLiteral : splitLiteral? pattern = none := by
    simpa using hSlashes
  refine ⟨_, compile_glob _, ?_, search_globExpr_iff _⟩
  rw [classify, if_neg hSome, if_neg (Bool.eq_false_iff.mp hMark), hLiteral]
  dsimp only
  rw [if_pos hGlob, compileGlob_eq]

/-- A directory stands for itself and for all below it, and the dot in its name for a dot only. -/
theorem globs_accept_what_they_mean_directory :
    ∃ program, classify "a.b/".toList = .ok (.expression "a.b/".toList program) ∧
      program.occursIn "a.b".toList = true ∧ program.occursIn "a.b/c\n".toList = true ∧
      program.occursIn "axb".toList = false := by
  have hPlain : isExpression "a.b/".toList = false := rfl
  obtain ⟨program, -, hRead, hAccepts⟩ := globs_accept_what_they_mean hPlain rfl
  have hName : ∀ {t}, Means ['/', '*', '*'] t →
      Means (wholeGlob "a.b/".toList) ('a' :: '.' :: 'b' :: t) := by
    intro t h
    iterate 3 refine .itself (by decide) (by decide) nofun ?_
    exact h
  refine ⟨program, hRead, ?_, ?_, ?_⟩
  · exact (hAccepts _).mpr (.inl (hName .folder))
  · exact (hAccepts _).mpr (.inr ⟨"a.b/c".toList, rfl, hName (.inside (by decide))⟩)
  · apply Bool.eq_false_iff.mpr
    intro hFound
    rcases (hAccepts _).mp hFound with h | ⟨t, hText, -⟩
    · cases h with
      | itself _ _ _ h => cases h
    · have hLast : some 'b' = some '\n' :=
        (congrArg List.getLast? hText).trans List.getLast?_concat
      cases hLast

end AssetAudit.Whitelist
