import AssetAudit.Proofs.Regex.Parts
import AssetAudit.Proofs.Whitelist.Kinds
import AssetAudit.Proofs.Whitelist.Shapes

/-!
# Repetitions inside repetitions

The gate looks for a group with a quantifier in it and one behind it, and sees through one level of
parentheses in between. In an expression that it lets through, a repeated group repeats nothing by
`*` or `+` itself, unless there are more parentheses in it. A repetition that stands deeper, that is
written with bounds, or that is told from its group by a comment is not seen.
-/
namespace AssetAudit.Whitelist

open Regex (Expr GroupKind Piece Sign Greed Writes)
open Regex.Piece (listText branchesText)

def isUnbounded : Expr → Bool
  | .many _ _ none _ => true
  | _ => false

/-- Is a group that repeats something without bound repeated without bound? -/
def nestsRepetition (e : Expr) : Bool :=
  e.parts.any fun
    | .many _ _ none (.group _ _ _ inside) => inside.parts.any isUnbounded
    | _ => false

def Flat (t : Text) : Prop :=
  '(' ∉ t ∧ ')' ∉ t

def label : GroupKind → Text
  | .capture name _ => name.getD []
  | .flagged letters _ _ => letters
  | .condition name _ => name
  | .atomic | .look _ _ => []

/-- The parentheses of a piece are those of one group, if any. -/
def IsShallow : Piece → Prop
  | .group kind branches => Flat (kind.opening ++ branchesText branches)
  | piece => Flat piece.text

def showsQuantifier : Piece → Bool
  | .group _ _ => false
  | piece => piece.text.any isQuantifier

inductive IsBranch (branches : List (List Piece)) : List Piece → Prop
  | outer {branch : List Piece} (h : branch ∈ branches) : IsBranch branches branch
  | inner {kind : GroupKind} {inside : List (List Piece)} {outer branch : List Piece}
      (hOuter : IsBranch branches outer) (hGroup : .group kind inside ∈ outer)
      (h : branch ∈ inside) : IsBranch branches branch

/-- A group and the sign of repetition directly behind it. The group has a piece `*` or `+`, and no
parentheses but those of groups without parentheses. -/
structure NestsInSight (kind : GroupKind) (inside : List (List Piece)) (sign : Sign) : Prop where
  repeated : sign ≠ .optional
  label : Flat (label kind)
  shallow : ∀ branch ∈ inside, ∀ piece ∈ branch, IsShallow piece
  nested : ∃ branch ∈ inside, ∃ inner greed, (inner = .star ∨ inner = .plus) ∧
    .repetition inner greed ∈ branch

theorem closesNested_flat {inner seen : Bool} {t : Text} (h : Flat t) (rest : Text) :
    closesNested inner seen (t ++ rest) =
      closesNested inner (seen || (!inner && t.any isQuantifier)) rest := by
  induction t generalizing seen with
  | nil => simp
  | cons c t ih =>
    obtain ⟨hOpen, hClose⟩ := h
    rw [List.mem_cons, not_or] at hOpen hClose
    rw [List.cons_append, closesNested, if_neg (Ne.symm hOpen.1), if_neg (Ne.symm hClose.1),
      ih ⟨hOpen.2, hClose.2⟩, List.any_cons, Bool.or_assoc, Bool.and_or_distrib_left]

/-- Parentheses one deep are passed over with what is in them. -/
theorem closesNested_group {seen : Bool} {t : Text} (h : Flat t) (rest : Text) :
    closesNested false seen ('(' :: t ++ ')' :: rest) = closesNested false seen rest := by
  rw [List.cons_append, closesNested, if_pos rfl, closesNested_flat h, closesNested,
    if_neg (by decide), if_pos rfl]
  simp

theorem closesNested_text {seen : Bool} {piece : Piece} (h : IsShallow piece) (rest : Text) :
    closesNested false seen (piece.text ++ rest) =
      closesNested false (seen || showsQuantifier piece) rest := by
  cases piece with
  | group kind branches =>
    have hText : (Piece.group kind branches).text ++ rest =
        '(' :: (kind.opening ++ branchesText branches) ++ ')' :: rest := by
      simp [Piece.text]
    rw [hText, showsQuantifier, Bool.or_false]
    exact closesNested_group h rest
  | _ => exact closesNested_flat h rest

theorem closesNested_listText {seen : Bool} {pieces : List Piece}
    (h : ∀ piece ∈ pieces, IsShallow piece) (rest : Text) :
    closesNested false seen (listText pieces ++ rest) =
      closesNested false (seen || pieces.any showsQuantifier) rest := by
  induction pieces generalizing seen with
  | nil => simp [listText]
  | cons piece pieces ih =>
    obtain ⟨hPiece, hPieces⟩ := List.forall_mem_cons.mp h
    rw [listText, List.append_assoc, closesNested_text hPiece, ih hPieces, List.any_cons,
      Bool.or_assoc]

theorem closesNested_branchesText {seen : Bool} {branches : List (List Piece)}
    (h : ∀ branch ∈ branches, ∀ piece ∈ branch, IsShallow piece) (rest : Text) :
    closesNested false seen (branchesText branches ++ rest) =
      closesNested false (seen || branches.any (·.any showsQuantifier)) rest := by
  induction branches generalizing seen with
  | nil => simp [branchesText]
  | cons branch branches ih =>
    obtain ⟨hBranch, hBranches⟩ := List.forall_mem_cons.mp h
    cases branches with
    | nil => rw [branchesText, closesNested_listText hBranch, List.any_cons, List.any_nil,
        Bool.or_false]
    | cons second branches =>
      rw [branchesText, List.append_assoc, closesNested_listText hBranch, List.cons_append,
        closesNested, if_neg (by decide), if_neg (by decide), ih hBranches, List.any_cons]
      · simp [isQuantifier, Bool.or_assoc]
      · exact List.cons_ne_nil _ _

/-- Only the opening of a condition has parentheses of its own. -/
theorem flat_opening {kind : GroupKind} (h : Flat (label kind))
    (hKind : ∀ name index, kind ≠ .condition name index) : Flat kind.opening := by
  obtain ⟨hOpen, hClose⟩ := h
  cases kind with
  | capture name index =>
    cases name with
    | none => exact ⟨List.not_mem_nil, List.not_mem_nil⟩
    | some name =>
      rw [label, Option.getD_some] at hOpen hClose
      constructor <;> simp [GroupKind.opening, hOpen, hClose]
  | flagged letters on off =>
    rw [label] at hOpen hClose
    constructor <;> simp [GroupKind.opening, hOpen, hClose]
  | atomic => exact ⟨by decide, by decide⟩
  | look behind negated => cases behind <;> cases negated <;> exact ⟨by decide, by decide⟩
  | condition name index => exact absurd rfl (hKind name index)

/-- The opening of a group may at most show a quantifier. -/
theorem closesNested_opening {kind : GroupKind} (h : Flat (label kind)) (seen : Bool) (rest : Text) :
    ∃ more, closesNested false seen (kind.opening ++ rest) =
      closesNested false (seen || more) rest := by
  by_cases hKind : ∃ name index, kind = .condition name index
  · obtain ⟨name, index, rfl⟩ := hKind
    have hOpening : (GroupKind.condition name index).opening ++ rest =
        '?' :: ('(' :: name ++ ')' :: rest) := by
      simp [GroupKind.opening]
    refine ⟨isQuantifier '?', ?_⟩
    rw [hOpening, closesNested, if_neg (by decide), if_neg (by decide)]
    exact closesNested_group h rest
  · have hFlat := flat_opening h fun name index hEq => hKind ⟨name, index, hEq⟩
    exact ⟨_, closesNested_flat hFlat rest⟩

theorem opensRepeat_of_sign {sign : Sign} (h : sign ≠ .optional) (rest : Text) :
    (sign.text ++ rest).head?.any opensRepeat = true := by
  cases sign with
  | star => rfl
  | plus => rfl
  | optional => exact absurd rfl h
  | counted low high => cases high <;> rfl

/-- A repetition of a group that repeats in sight has the shape that the gate refuses. -/
theorem beginsAt_of_nestsInSight {kind : GroupKind} {inside : List (List Piece)} {sign : Sign}
    (h : NestsInSight kind inside sign) (rest : Text) :
    Shape.nestedQuantifier.beginsAt ((Piece.group kind inside).text ++ (sign.text ++ rest)) =
      true := by
  have hQuantifier : inside.any (·.any showsQuantifier) = true := by
    obtain ⟨branch, hBranch, inner, greed, hSign, hPiece⟩ := h.nested
    refine List.any_eq_true.mpr ⟨branch, hBranch, List.any_eq_true.mpr ⟨_, hPiece, ?_⟩⟩
    rcases hSign with rfl | rfl <;> rfl
  obtain ⟨more, hOpening⟩ := closesNested_opening h.label false
    (branchesText inside ++ ')' :: (sign.text ++ rest))
  have hText : (Piece.group kind inside).text ++ (sign.text ++ rest) =
      '(' :: (kind.opening ++ (branchesText inside ++ ')' :: (sign.text ++ rest))) := by
    simp [Piece.text]
  rw [hText]
  change closesNested false false _ = true
  rw [hOpening, closesNested_branchesText h.shallow, hQuantifier, closesNested, if_neg (by decide),
    if_pos rfl, Bool.or_true]
  exact opensRepeat_of_sign h.repeated rest

theorem IsBranch.text_within {branches : List (List Piece)} {branch : List Piece}
    (h : IsBranch branches branch) : listText branch <:+: branchesText branches := by
  induction h with
  | outer h => exact Piece.listText_within_of_mem h
  | inner hOuter hGroup h ih =>
    exact (((Piece.listText_within_of_mem h).trans (Piece.branchesText_within _ _)).trans
      (Piece.text_within_of_mem hGroup)).trans ih

/-- What the gate lets through and the reader accepts was written in pieces, and however it is taken
apart into pieces that give its tree, no group in it, at any depth, is repeated and repeats in
sight. -/
theorem no_nesting_in_sight {body : Text} {flags : Regex.Flags} {program : Regex.Program}
    (hGate : gate body = .ok ()) (hCompile : Regex.compile body flags = .ok program) :
    (∃ branches, Writes branches body program.expr) ∧
      ∀ branches, Writes branches body program.expr → ∀ branch, IsBranch branches branch →
        ∀ before kind inside sign greed after,
          branch = before ++ .group kind inside :: .repetition sign greed :: after →
            ¬ NestsInSight kind inside sign := by
  obtain ⟨parsed, hParse, rfl⟩ := parse_of_compile hCompile
  refine ⟨Regex.exists_writes_of_parse hParse, ?_⟩
  rintro branches hWrites branch hBranch before kind inside sign greed after rfl hNests
  obtain ⟨-, -, hShapes⟩ := (gate_eq_ok_iff body).mp hGate
  have hPart : (Piece.group kind inside).text ++ (sign.text ++ (greed.suffix ++ listText after)) <:+:
      body := by
    refine List.IsInfix.trans ⟨listText before, [], ?_⟩ (hWrites.text ▸ hBranch.text_within)
    rw [Piece.listText_append, listText, listText, List.append_nil]
    simp [Piece.text]
  have hOccurs := Shape.occursIn_of_part hPart
    (Shape.occursIn_of_beginsAt (beginsAt_of_nestsInSight hNests _))
  rw [hShapes .nestedQuantifier] at hOccurs
  cases hOccurs

/-- A repetition in a group of a repeated group is not in sight. -/
theorem no_nesting_in_sight_shallow :
    let body := "(?i:a(b+)c)*d+".toList
    gate body = .ok () ∧ ∃ program, Regex.compile body {} = .ok program ∧
      (∃ branches, Writes branches body program.expr) ∧
      ∀ branches, Writes branches body program.expr → ∀ branch, IsBranch branches branch →
        ∀ before kind inside sign greed after,
          branch = before ++ .group kind inside :: .repetition sign greed :: after →
            ¬ NestsInSight kind inside sign := by
  intro body
  have hGate : gate body = .ok () := rfl
  obtain ⟨program, hCompile, -⟩ : ∃ program, Regex.compile body {} = .ok program ∧
      nestsRepetition program.expr = true :=
    Outcome.exists_of_toOption_map (by decide +kernel)
  exact ⟨hGate, program, hCompile, no_nesting_in_sight hGate hCompile⟩

def SlipsThrough (body : Text) : Prop :=
  gate body = .ok () ∧ ∃ program, Regex.compile body {} = .ok program ∧
    nestsRepetition program.expr = true

/-- Nested repetitions that nobody sees: one group deeper, with bounds, behind an escaped
parenthesis, and behind a comment. -/
theorem nested_repetitions_let_through :
    SlipsThrough "((a+))+".toList ∧ SlipsThrough "(a\x7b2,\x7d)+".toList ∧
      SlipsThrough "(a+\\))+".toList ∧ SlipsThrough "(a+)(?#)+".toList := by
  refine ⟨⟨rfl, ?_⟩, ⟨rfl, ?_⟩, ⟨rfl, ?_⟩, ⟨rfl, ?_⟩⟩
  all_goals exact Outcome.exists_of_toOption_map (by decide +kernel)

end AssetAudit.Whitelist
