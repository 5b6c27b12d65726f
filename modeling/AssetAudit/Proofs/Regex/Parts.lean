import AssetAudit.Proofs.Regex.Written
import AssetAudit.Regex.Compile

/-!
# The parts of an expression

An expression looks nothing up when none of its parts is a back reference or a look-around assertion.
Pieces that are no references and open no look-around stand for such an expression.
-/
namespace AssetAudit.Regex

namespace Expr

def parts : Expr → List Expr
  | .seq a b => .seq a b :: (a.parts ++ b.parts)
  | .alt a b => .alt a b :: (a.parts ++ b.parts)
  | .ifGroup n a b => .ifGroup n a b :: (a.parts ++ b.parts)
  | .group index on off body => .group index on off body :: body.parts
  | .many greed least most body => .many greed least most body :: body.parts
  | .atomic body => .atomic body :: body.parts
  | .look behind negated body => .look behind negated body :: body.parts
  | .empty => [.empty]
  | .code c => [.code c]
  | .anyChar => [.anyChar]
  | .set negated items => [.set negated items]
  | .anchor a => [.anchor a]
  | .backref n => [.backref n]

def isLookup : Expr → Bool
  | .backref _ | .look _ _ _ => true
  | _ => false

def IsPlain (e : Expr) : Prop :=
  ∀ part ∈ e.parts, part.isLookup = false

theorem isPlain_of_two {e a b : Expr} (hParts : e.parts = e :: (a.parts ++ b.parts))
    (hLookup : e.isLookup = false) (ha : a.IsPlain) (hb : b.IsPlain) : e.IsPlain := by
  intro part hPart
  rw [hParts] at hPart
  rcases List.mem_cons.mp hPart with rfl | hPart
  · exact hLookup
  · exact (List.mem_append.mp hPart).elim (ha part) (hb part)

theorem isPlain_group {e : Expr} (index : Option Nat) (on off : Flags) (h : e.IsPlain) :
    (Expr.group index on off e).IsPlain :=
  List.forall_mem_cons.mpr ⟨rfl, h⟩

theorem isPlain_many {e : Expr} (greed : Greed) (least : Nat) (most : Option Nat) (h : e.IsPlain) :
    (Expr.many greed least most e).IsPlain :=
  List.forall_mem_cons.mpr ⟨rfl, h⟩

theorem isPlain_atomic {e : Expr} (h : e.IsPlain) : (Expr.atomic e).IsPlain :=
  List.forall_mem_cons.mpr ⟨rfl, h⟩

theorem isPlain_of_isSingle {e : Expr} (h : e.isSingle = true) : e.IsPlain := by
  cases e <;> first | exact List.forall_mem_singleton.mpr rfl | cases h

theorem isPlain_empty : Expr.empty.IsPlain :=
  List.forall_mem_singleton.mpr rfl

theorem isPlain_sequence {items : List Expr} (h : ∀ e ∈ items, e.IsPlain) :
    (sequence items).IsPlain := by
  induction items with
  | nil => exact isPlain_empty
  | cons first rest ih =>
    obtain ⟨hFirst, hRest⟩ := List.forall_mem_cons.mp h
    cases rest with
    | nil => exact hFirst
    | cons second rest => exact isPlain_of_two rfl rfl hFirst (ih hRest)

theorem isPlain_choice {branches : List Expr} (h : ∀ e ∈ branches, e.IsPlain) :
    (choice branches).IsPlain := by
  induction branches with
  | nil => exact isPlain_empty
  | cons first rest ih =>
    obtain ⟨hFirst, hRest⟩ := List.forall_mem_cons.mp h
    cases rest with
    | nil => exact hFirst
    | cons second rest => exact isPlain_of_two rfl rfl hFirst (ih hRest)

theorem isPlain_headD {branches : List Expr} (h : ∀ e ∈ branches, e.IsPlain) :
    (branches.headD .empty).IsPlain := by
  cases branches with
  | nil => exact isPlain_empty
  | cons first rest => exact h first List.mem_cons_self

/-- Only a look-behind has to know how far to step back. -/
theorem fixedLookbehind_of_isPlain {groups : Nat → Nat × Option Nat} {e : Expr} (h : e.IsPlain) :
    e.fixedLookbehind groups = true := by
  induction e with
  | empty | code _ | anyChar | set _ _ | anchor _ | backref _ => rfl
  | seq a b iha ihb | alt a b iha ihb | ifGroup _ a b iha ihb =>
    obtain ⟨-, hBoth⟩ := List.forall_mem_cons.mp h
    obtain ⟨ha, hb⟩ := List.forall_mem_append.mp hBoth
    rw [fixedLookbehind, iha ha, ihb hb]
    rfl
  | group _ _ _ body ih | many _ _ _ body ih | atomic body ih =>
    rw [fixedLookbehind]
    exact ih (List.forall_mem_cons.mp h).2
  | look behind negated body ih => cases (List.forall_mem_cons.mp h).1

end Expr

/-- Every group but a look-around is plain when its branches are. -/
theorem GroupKind.isPlain_expr {kind : GroupKind} {branches : List Expr}
    (hKind : ∀ behind negated, kind ≠ .look behind negated) (h : ∀ e ∈ branches, e.IsPlain) :
    (kind.expr branches).IsPlain := by
  cases kind with
  | capture name index => exact Expr.isPlain_group _ _ _ (Expr.isPlain_choice h)
  | flagged letters on off => exact Expr.isPlain_group _ _ _ (Expr.isPlain_choice h)
  | atomic => exact Expr.isPlain_atomic (Expr.isPlain_choice h)
  | look behind negated => exact absurd rfl (hKind behind negated)
  | condition name index =>
    exact Expr.isPlain_of_two rfl rfl (Expr.isPlain_headD h)
      (Expr.isPlain_headD fun e hMem => h e (List.mem_of_mem_tail hMem))

namespace Piece

theorem text_within_of_mem {piece : Piece} {pieces : List Piece} (h : piece ∈ pieces) :
    piece.text <:+: listText pieces := by
  induction pieces with
  | nil => cases h
  | cons first rest ih =>
    rw [listText]
    rcases List.mem_cons.mp h with rfl | h
    · exact (List.prefix_append _ _).isInfix
    · exact (ih h).trans (List.suffix_append _ _).isInfix

theorem listText_append (pieces more : List Piece) :
    listText (pieces ++ more) = listText pieces ++ listText more := by
  induction pieces with
  | nil => rfl
  | cons piece pieces ih => rw [List.cons_append, listText, listText, ih, List.append_assoc]

theorem listText_within_of_mem {branch : List Piece} {branches : List (List Piece)}
    (h : branch ∈ branches) : listText branch <:+: branchesText branches := by
  induction branches with
  | nil => cases h
  | cons first rest ih =>
    cases rest with
    | nil =>
      rw [List.mem_singleton.mp h]
      exact List.infix_rfl
    | cons second rest =>
      rw [branchesText]
      · rcases List.mem_cons.mp h with rfl | h
        · exact (List.prefix_append _ _).isInfix
        · exact (ih h).trans ⟨listText first ++ ['|'], [], by simp⟩
      · exact List.cons_ne_nil _ _

theorem branchesText_within (kind : GroupKind) (branches : List (List Piece)) :
    branchesText branches <:+: (Piece.group kind branches).text :=
  ⟨'(' :: kind.opening, [')'], by rw [text]⟩

end Piece

end AssetAudit.Regex
