import AssetAudit.Proofs.Regex.Parts
import AssetAudit.Proofs.Whitelist.Kinds
import AssetAudit.Proofs.Whitelist.Shapes

/-!
# Expressions of a whitelist look nothing up

Whatever is read as a back reference or as a look-around assertion is written with the marks that the
gate looks for, behind any flags and at any depth. So no expression that the gate lets through has
one.
-/
namespace AssetAudit.Whitelist

open Regex (Expr GroupKind Piece)
open Regex.Piece (listText branchesText addList branchExprs)

structure Unmarked (t : Text) : Prop where
  backreference : Shape.backreference.occursIn t = false
  lookaround : Shape.lookaround.occursIn t = false

theorem Unmarked.of_part {part whole : Text} (h : Unmarked whole) (hPart : part <:+: whole) :
    Unmarked part where
  backreference := Shape.not_occursIn_of_part hPart h.backreference
  lookaround := Shape.not_occursIn_of_part hPart h.lookaround

theorem not_unmarked_reference (r : Regex.Reference) : ¬ Unmarked r.text := by
  intro h
  have hBegins : Shape.backreference.beginsAt r.text = true := by
    rcases r.marked with ⟨d, more, hText, hDigit⟩ | ⟨more, hText⟩
    · rw [hText]
      exact hDigit
    · rw [hText]
      rfl
  exact Bool.false_ne_true (h.backreference ▸ Shape.occursIn_of_beginsAt hBegins)

theorem not_unmarked_look (behind negated : Bool) (branches : List (List Piece)) :
    ¬ Unmarked (Piece.group (.look behind negated) branches).text := by
  intro h
  have hBegins : Shape.lookaround.beginsAt
      (Piece.group (.look behind negated) branches).text = true := by
    rw [Piece.text]
    cases behind <;> cases negated <;> rfl
  exact Bool.false_ne_true (h.lookaround ▸ Shape.occursIn_of_beginsAt hBegins)

mutual

theorem isPlain_addTo (piece : Piece) {items : List Expr} (h : Unmarked piece.text)
    (hItems : ∀ e ∈ items, e.IsPlain) : ∀ e ∈ piece.addTo items, e.IsPlain := by
  cases piece with
  | atom a => exact List.forall_mem_cons.mpr ⟨Expr.isPlain_of_isSingle a.single, hItems⟩
  | reference r => exact absurd (by simpa [Piece.text] using h) (not_unmarked_reference r)
  | silent t => exact hItems
  | repetition sign greed =>
    cases items with
    | nil => exact hItems
    | cons item before =>
      obtain ⟨hItem, hBefore⟩ := List.forall_mem_cons.mp hItems
      exact List.forall_mem_cons.mpr ⟨Expr.isPlain_many _ _ _ hItem, hBefore⟩
  | group kind branches =>
    refine List.forall_mem_cons.mpr ⟨GroupKind.isPlain_expr ?_ ?_, hItems⟩
    · rintro behind negated rfl
      exact not_unmarked_look behind negated branches h
    · exact isPlain_branchExprs branches fun branch hMem => h.of_part
        ((Piece.listText_within_of_mem hMem).trans (Piece.branchesText_within kind branches))

theorem isPlain_addList (pieces : List Piece) {items : List Expr}
    (h : ∀ piece ∈ pieces, Unmarked piece.text) (hItems : ∀ e ∈ items, e.IsPlain) :
    ∀ e ∈ addList items pieces, e.IsPlain := by
  cases pieces with
  | nil => exact hItems
  | cons piece rest =>
    obtain ⟨hPiece, hRest⟩ := List.forall_mem_cons.mp h
    exact isPlain_addList rest hRest (isPlain_addTo piece hPiece hItems)

theorem isPlain_branchExprs (branches : List (List Piece))
    (h : ∀ branch ∈ branches, Unmarked (listText branch)) :
    ∀ e ∈ branchExprs branches, e.IsPlain := by
  cases branches with
  | nil => exact List.forall_mem_nil _
  | cons branch rest =>
    obtain ⟨hBranch, hRest⟩ := List.forall_mem_cons.mp h
    have hItems := isPlain_addList branch
      (fun piece hMem => hBranch.of_part (Piece.text_within_of_mem hMem)) (List.forall_mem_nil _)
    exact List.forall_mem_cons.mpr ⟨Expr.isPlain_sequence fun e hMem =>
      hItems e (List.mem_reverse.mp hMem), isPlain_branchExprs rest hRest⟩

end

/-- An expression that the gate lets through is parsed to a tree that looks nothing up. -/
theorem isPlain_of_gate {body : Text} {flags : Regex.Flags} {parsed : Regex.Parsed}
    (hGate : gate body = .ok ()) (hParse : Regex.parse body flags = .ok parsed) :
    parsed.expr.IsPlain := by
  obtain ⟨branches, hWrites⟩ := Regex.exists_writes_of_parse hParse
  obtain ⟨-, -, hShapes⟩ := (gate_eq_ok_iff body).mp hGate
  have hUnmarked : Unmarked body := ⟨hShapes .backreference, hShapes .lookaround⟩
  rw [← hWrites.text] at hUnmarked
  rw [← hWrites.expr]
  exact Expr.isPlain_choice (isPlain_branchExprs branches fun branch hMem =>
    hUnmarked.of_part (Piece.listText_within_of_mem hMem))

/-- Every expression of a compiled whitelist that is written as one was parsed from a body of 1 to 300
characters to a tree without back references and look-around assertions. -/
theorem expressions_look_nothing_up {entries : List Value} {c : Compiled} {t : Tried}
    (h : compile entries = .ok c) (hMem : t ∈ c.expressions)
    (hSyntax : isExpression t.source = true) :
    ∃ body flags parsed, Spells t.source body flags ∧ 1 ≤ body.length ∧ body.length ≤ 300 ∧
      Regex.parse body flags = .ok parsed ∧
      t.program = { pattern := body, flags := parsed.flags, expr := parsed.expr } ∧
      ∀ part ∈ parsed.expr.parts,
        (∀ group, part ≠ .backref group) ∧ ∀ behind negated e, part ≠ .look behind negated e := by
  obtain ⟨body, flags, hSpells, hGate, hProgram⟩ := exists_body_of_mem_expressions h hMem hSyntax
  obtain ⟨parsed, hParse, hEq⟩ := parse_of_compile hProgram
  obtain ⟨hShort, hLong, -⟩ := (gate_eq_ok_iff body).mp hGate
  refine ⟨body, flags, parsed, hSpells, hShort, hLong, hParse, hEq, fun part hPart => ?_⟩
  have hPlain := isPlain_of_gate hGate hParse part hPart
  constructor
  · rintro group rfl
    cases hPlain
  · rintro behind negated e rfl
    cases hPlain

/-- Verbose by its own flags, with a named group, a bracket, an escape and a comment. -/
theorem expressions_look_nothing_up_verbose :
    let source := "regex:(?x) (?P<n> a [(?] \\x31 )+ # (?".toList
    ∃ c t, compile [.text source, .text "/^b/i".toList] = .ok c ∧ t ∈ c.expressions ∧
      t.source = source ∧ ∃ body flags parsed, Spells t.source body flags ∧
        1 ≤ body.length ∧ body.length ≤ 300 ∧ Regex.parse body flags = .ok parsed ∧
        t.program = { pattern := body, flags := parsed.flags, expr := parsed.expr } ∧
        ∀ part ∈ parsed.expr.parts,
          (∀ group, part ≠ .backref group) ∧ ∀ behind negated e, part ≠ .look behind negated e := by
  intro source
  obtain ⟨c, hCompile, hSources⟩ : ∃ c, compile [.text source, .text "/^b/i".toList] = .ok c ∧
      c.expressions.map (·.source) = [source, "/^b/i".toList] :=
    Outcome.exists_of_toOption_map (by decide +kernel)
  have hMem : source ∈ c.expressions.map (·.source) := by
    rw [hSources]
    exact .head _
  obtain ⟨t, hMem, hSource⟩ := List.mem_map.mp hMem
  have hSyntax : isExpression t.source = true := by
    rw [hSource]
    rfl
  exact ⟨c, t, hCompile, hMem, hSource, expressions_look_nothing_up hCompile hMem hSyntax⟩

end AssetAudit.Whitelist
