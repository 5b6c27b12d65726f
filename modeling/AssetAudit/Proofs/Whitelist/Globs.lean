import AssetAudit.Proofs.Regex.Steps
import AssetAudit.Whitelist.Pattern

/-!
# Every glob can be compiled

The expression that a glob is written as is read part by part, each part as one item between the
anchors. So there is a program for every glob, with a tree that follows from its parts.
-/
namespace AssetAudit.Whitelist

open Regex (Expr Reading sequenceItems)

/-- What may stand behind a part of a glob: it does not change how the part is read. -/
structure Follows (rest : Text) : Prop where
  backslash : rest ≠ ['\\']
  reluctant : rest.head? ≠ some '?'
  possessive : rest.head? ≠ some '+'

namespace GlobPart

def expr : GlobPart → Expr
  | .anything => .many .greedy 0 none .anyChar
  | .withinDirectory => .many .greedy 0 none (.set true [.code 47])
  | .oneCharacter => .set true [.code 47]
  | .slash => .code 47
  | .directoryAndBelow =>
    .many .greedy 0 (some 1)
      (.group none {} {} (.seq (.code 47) (.many .greedy 0 none .anyChar)))
  | .literal c => .code c.toNat

theorem expression_anything : anything.expression = ['.', '*'] :=
  rfl

theorem expression_withinDirectory : withinDirectory.expression = ['[', '^', '/', ']', '*'] :=
  rfl

theorem expression_oneCharacter : oneCharacter.expression = ['[', '^', '/', ']'] :=
  rfl

theorem expression_slash : slash.expression = ['/'] :=
  rfl

theorem expression_directoryAndBelow :
    directoryAndBelow.expression = ['(', '?', ':', '/', '.', '*', ')', '?'] :=
  rfl

theorem expression_literal (c : Char) : (literal c).expression = Regex.escapeChar c :=
  rfl

theorem isPlain_expr (part : GlobPart) : part.expr.IsPlain := by
  unfold Expr.IsPlain
  cases part with
  | literal c => exact List.forall_mem_singleton.mpr rfl
  | _ => decide

end GlobPart

theorem head?_expression (part : GlobPart) :
    ∃ c rest, part.expression = c :: rest ∧ c ≠ '?' ∧ c ≠ '+' := by
  cases part with
  | anything => exact ⟨_, _, GlobPart.expression_anything, by decide, by decide⟩
  | withinDirectory => exact ⟨_, _, GlobPart.expression_withinDirectory, by decide, by decide⟩
  | oneCharacter => exact ⟨_, _, GlobPart.expression_oneCharacter, by decide, by decide⟩
  | slash => exact ⟨_, _, GlobPart.expression_slash, by decide, by decide⟩
  | directoryAndBelow => exact ⟨_, _, GlobPart.expression_directoryAndBelow, by decide, by decide⟩
  | literal c =>
    rw [GlobPart.expression_literal, Regex.escapeChar]
    split
    · exact ⟨'\\', [c], rfl, by decide, by decide⟩
    · rename_i hSpecial
      refine ⟨c, [], rfl, ?_, ?_⟩
      all_goals
        rintro rfl
        exact hSpecial rfl

theorem follows_expressions (parts : List GlobPart) :
    Follows (parts.flatMap GlobPart.expression ++ ['$']) where
  backslash h := by
    have hLast := congrArg List.getLast? h
    simp at hLast
  reluctant := by
    cases parts with
    | nil => decide
    | cons part parts =>
      obtain ⟨c, rest, hExpression, hReluctant, -⟩ := head?_expression part
      simp [hExpression, hReluctant]
  possessive := by
    cases parts with
    | nil => decide
    | cons part parts =>
      obtain ⟨c, rest, hExpression, -, hPossessive⟩ := head?_expression part
      simp [hExpression, hPossessive]

variable {first : Bool} {items : List Expr} {r : Reading}

/-- A slash and what is below it are read inside a group that may be missing. -/
theorem sequenceItems_directoryAndBelow {rest : Text} {fuel : Nat}
    (h : r.rest = '(' :: '?' :: ':' :: '/' :: '.' :: '*' :: ')' :: '?' :: rest)
    (hRest : Follows rest) :
    sequenceItems first false items (fuel + 6) r =
      sequenceItems first false (GlobPart.directoryAndBelow.expr :: items) (fuel + 4)
        (r.past 8) := by
  have hSlash : (r.past 3).rest = '/' :: '.' :: '*' :: ')' :: '?' :: rest :=
    Reading.rest_past (t := ['(', '?', ':']) h
  have hDot : (r.past 4).rest = '.' :: '*' :: ')' :: '?' :: rest :=
    Reading.rest_past (t := ['(', '?', ':', '/']) h
  have hStar : (r.past 5).rest = '*' :: ')' :: '?' :: rest :=
    Reading.rest_past (t := ['(', '?', ':', '/', '.']) h
  have hClosed : (r.past 6).rest = ')' :: '?' :: rest :=
    Reading.rest_past (t := ['(', '?', ':', '/', '.', '*']) h
  have hQuestion : (r.past 7).rest = '?' :: rest :=
    Reading.rest_past (t := ['(', '?', ':', '/', '.', '*', ')']) h
  have hInside : sequenceItems false false [] (fuel + 4) (r.past 3) =
      .ok ([.many .greedy 0 none .anyChar, .code 47], r.past 6) := by
    rw [Regex.sequenceItems_ordinary (by decide) hSlash (by simp), Reading.past_past,
      Regex.sequenceItems_dot hDot (by simp), Reading.past_past,
      Regex.sequenceItems_repeat rfl '*' (.inl rfl) hStar (by simp) (by simp) (by simp),
      Reading.past_past]
    exact Regex.sequenceItems_closed hClosed
  rw [Regex.sequenceItems_group h (by simp) hInside hClosed (by simp), Reading.past_past,
    Regex.sequenceItems_repeat rfl '?' (.inr rfl) hQuestion hRest.backslash hRest.reluctant
      hRest.possessive, Reading.past_past]
  rfl

/-- A part in front is read as its item, and there is fuel enough left for the rest. -/
theorem sequenceItems_expression (part : GlobPart) {rest : Text} {fuel : Nat}
    (h : r.rest = part.expression ++ rest) (hRest : Follows rest)
    (hFuel : part.expression.length + rest.length < fuel) :
    ∃ left, rest.length < left ∧ sequenceItems first false items fuel r =
      sequenceItems first false (part.expr :: items) left (r.past part.expression.length) := by
  cases part with
  | anything =>
    rw [GlobPart.expression_anything] at h hFuel ⊢
    simp only [List.length_cons, List.length_nil] at hFuel
    obtain ⟨fuel, rfl⟩ : ∃ n, fuel = n + 2 := ⟨fuel - 2, by omega⟩
    refine ⟨fuel, by omega, ?_⟩
    have hStar : (r.past 1).rest = '*' :: rest := Reading.rest_past (t := ['.']) h
    rw [Regex.sequenceItems_dot h (by simp), Regex.sequenceItems_repeat rfl '*' (.inl rfl) hStar
      hRest.backslash hRest.reluctant hRest.possessive, Reading.past_past]
    rfl
  | withinDirectory =>
    rw [GlobPart.expression_withinDirectory] at h hFuel ⊢
    simp only [List.length_cons, List.length_nil] at hFuel
    obtain ⟨fuel, rfl⟩ : ∃ n, fuel = n + 2 := ⟨fuel - 2, by omega⟩
    exact ⟨fuel, by omega, Regex.sequenceItems_allButMany (by decide) h hRest.backslash
      hRest.reluctant hRest.possessive⟩
  | oneCharacter =>
    rw [GlobPart.expression_oneCharacter] at h hFuel ⊢
    simp only [List.length_cons, List.length_nil] at hFuel
    obtain ⟨fuel, rfl⟩ : ∃ n, fuel = n + 1 := ⟨fuel - 1, by omega⟩
    exact ⟨fuel, by omega, Regex.sequenceItems_allBut (by decide) h hRest.backslash⟩
  | slash =>
    rw [GlobPart.expression_slash] at h hFuel ⊢
    simp only [List.length_cons, List.length_nil] at hFuel
    obtain ⟨fuel, rfl⟩ : ∃ n, fuel = n + 1 := ⟨fuel - 1, by omega⟩
    exact ⟨fuel, by omega, Regex.sequenceItems_ordinary (by decide) h hRest.backslash⟩
  | directoryAndBelow =>
    rw [GlobPart.expression_directoryAndBelow] at h hFuel ⊢
    simp only [List.length_cons, List.length_nil] at hFuel
    obtain ⟨fuel, rfl⟩ : ∃ n, fuel = n + 6 := ⟨fuel - 6, by omega⟩
    exact ⟨fuel + 4, by omega, sequenceItems_directoryAndBelow h hRest⟩
  | literal c =>
    obtain ⟨fuel, rfl⟩ : ∃ n, fuel = n + 1 := ⟨fuel - 1, by omega⟩
    have hLength : 0 < (GlobPart.literal c).expression.length := by
      obtain ⟨_, _, hExpression, -, -⟩ := head?_expression (.literal c)
      rw [hExpression]
      exact Nat.succ_pos _
    exact ⟨fuel, by omega, Regex.sequenceItems_escapeChar c h hRest.backslash⟩

/-- The parts of a glob are read one after the other, up to the anchor at the end. -/
theorem sequenceItems_expressions (parts : List GlobPart) {items : List Expr} {r : Reading}
    {fuel : Nat} (h : r.rest = parts.flatMap GlobPart.expression ++ ['$'])
    (hFuel : r.rest.length < fuel) :
    sequenceItems first false items fuel r =
      .ok (.anchor .lineEnd :: ((parts.map GlobPart.expr).reverse ++ items),
        r.past r.rest.length) := by
  induction parts generalizing items r fuel with
  | nil =>
    rw [List.flatMap_nil, List.nil_append] at h
    rw [h] at hFuel ⊢
    simp only [List.length_cons, List.length_nil] at hFuel
    obtain ⟨fuel, rfl⟩ : ∃ n, fuel = n + 2 := ⟨fuel - 2, by omega⟩
    rw [Regex.sequenceItems_lineEnd h (by simp)]
    exact Regex.sequenceItems_end (Reading.rest_past (t := ['$']) h)
  | cons part parts ih =>
    rw [List.flatMap_cons, List.append_assoc] at h
    rw [h, List.length_append] at hFuel
    obtain ⟨left, hLeft, hRead⟩ : ∃ left, (parts.flatMap GlobPart.expression ++ ['$']).length < left ∧
        sequenceItems first false items fuel r = sequenceItems first false (part.expr :: items) left
          (r.past part.expression.length) :=
      sequenceItems_expression part h (follows_expressions parts) hFuel
    have hPast := Reading.rest_past h
    rw [hRead, ih hPast (by rw [hPast]; exact hLeft), Reading.past_past, hPast, h,
      ← List.length_append, List.map_cons, List.reverse_cons, List.append_assoc]
    rfl

def globExpr (glob : Text) : Expr :=
  Expr.sequence (.anchor .lineStart :: (globParts glob).map GlobPart.expr ++ [.anchor .lineEnd])

theorem isPlain_globItems (glob : Text) {e : Expr}
    (h : e ∈ .anchor .lineStart :: (globParts glob).map GlobPart.expr ++ [.anchor .lineEnd]) :
    e.IsPlain := by
  have hAnchor : ∀ a, (Expr.anchor a).IsPlain := fun a => Expr.isPlain_of_isSingle rfl
  rcases List.mem_append.mp h with hMem | hMem
  · rcases List.mem_cons.mp hMem with rfl | hMem
    · exact hAnchor _
    · obtain ⟨part, -, rfl⟩ := List.mem_map.mp hMem
      exact part.isPlain_expr
  · rw [List.mem_singleton.mp hMem]
    exact hAnchor _

/-- A glob always has a program, and what it was compiled from follows from its parts. -/
theorem compile_glob (glob : Text) :
    Regex.compile ('^' :: globExpression glob ++ ['$']) {} =
      .ok { pattern := '^' :: globExpression glob ++ ['$'], flags := { unicode := true },
            expr := globExpr glob } := by
  let start : Reading := { rest := '^' :: globExpression glob ++ ['$'], position := 0, flags := {} }
  have hPast : (start.past 1).rest = (globParts glob).flatMap GlobPart.expression ++ ['$'] :=
    Reading.rest_past (r := start) (t := ['^']) rfl
  have hItems : sequenceItems true false [] (3 * start.rest.length + 2) start =
      .ok (.anchor .lineEnd :: (((globParts glob).map GlobPart.expr).reverse ++
        [.anchor .lineStart]), start.past start.rest.length) := by
    have hLength : start.rest.length = 1 + (start.past 1).rest.length := by
      rw [hPast]
      exact Nat.add_comm _ _
    rw [Regex.sequenceItems_lineStart rfl (follows_expressions (globParts glob)).backslash,
      sequenceItems_expressions (globParts glob) hPast (by omega), Reading.past_past, hLength]
  have hExpr : (Expr.anchor .lineEnd :: (((globParts glob).map GlobPart.expr).reverse ++
      [.anchor .lineStart])).reverse =
        .anchor .lineStart :: (globParts glob).map GlobPart.expr ++ [.anchor .lineEnd] := by
    simp
  have hStart : '^' :: globExpression glob ++ ['$'] ≠ ['\\'] := by simp
  rw [Regex.compile_of_items hStart hItems, hExpr]
  · rfl
  · intro e hMem
    exact isPlain_globItems glob (hExpr ▸ List.mem_reverse.mpr hMem)

theorem compileGlob_eq (pattern : Text) :
    compileGlob pattern = .ok (.expression pattern {
      pattern := '^' :: globExpression (wholeGlob pattern) ++ ['$'],
      flags := { unicode := true }
      expr := globExpr (wholeGlob pattern) }) := by
  unfold compileGlob
  rw [compile_glob]

end AssetAudit.Whitelist
