import AssetAudit.Proofs.Regex.Leaves
import AssetAudit.Proofs.Regex.Openings

/-!
# Every expression that is read was written in pieces

The reader takes a piece at a time: what it has consumed is the text of the piece, and what it has
added to its items is what the piece stands for. So an expression that is read as a whole has pieces
whose text is the expression as it was given and whose tree is the tree that was read.
-/
namespace AssetAudit.Regex

open Piece (listText branchesText addList branchExprs)

/-- The items of a branch are read piece by piece, with enough fuel for every token. -/
def ReadsSequences (fuel : Nat) : Prop :=
  ∀ {first verbose : Bool} {items all : List Expr} {r r' : Reading},
    2 * r.rest.length + 1 ≤ fuel → sequenceItems first verbose items fuel r = .ok (all, r') →
      ∃ pieces, r.rest = listText pieces ++ r'.rest ∧ all = addList items pieces

def ReadsAlternatives (fuel : Nat) : Prop :=
  ∀ {top verbose : Bool} {before : List Expr} {e : Expr} {r r' : Reading},
    2 * r.rest.length + 2 ≤ fuel → alternatives top verbose before fuel r = .ok (e, r') →
      ∃ branches, branches ≠ [] ∧ r.rest = branchesText branches ++ r'.rest ∧
        e = Expr.choice (before ++ branchExprs branches)

/-- One step of reading items: a piece is added, and the rest is read with less fuel. -/
def Adds (fuel : Nat) (items all : List Expr) (r r' : Reading) : Prop :=
  ∃ (piece : Piece) (first verbose : Bool) (next : Reading),
    r.rest = piece.text ++ next.rest ∧ next.rest.length < r.rest.length ∧
      sequenceItems first verbose (piece.addTo items) fuel next = .ok (all, r')

theorem adds_of_piece {fuel : Nat} {items all : List Expr} {r next r' : Reading}
    {first verbose : Bool} (piece : Piece) (hNonempty : piece.text ≠ [])
    (hRest : r.rest = piece.text ++ next.rest)
    (h : sequenceItems first verbose (piece.addTo items) fuel next = .ok (all, r')) :
    Adds fuel items all r r' := by
  refine ⟨piece, first, verbose, next, hRest, ?_, h⟩
  have hPositive := List.length_pos_iff.mpr hNonempty
  rw [hRest, List.length_append]
  omega

theorem adds_of_group {fuel : Nat} {items all : List Expr} {r next r' : Reading}
    {first verbose : Bool} (kind : GroupKind) (branches : List (List Piece))
    (h : sequenceItems first verbose (kind.expr (branchExprs branches) :: items) fuel next =
      .ok (all, r'))
    (hRest : r.rest = '(' :: (kind.opening ++ (branchesText branches ++ ')' :: next.rest))) :
    Adds fuel items all r r' := by
  refine adds_of_piece (.group kind branches) ?_ ?_ h
  · simp [Piece.text]
  · rw [hRest, Piece.text]
    simp

theorem adds_of_escape {fuel : Nat} {first verbose : Bool} {c : Char} {items all : List Expr}
    {r r' : Reading} (hNext : r.next? = some (.escaped c))
    (h : sequenceItems first verbose items (fuel + 1) r = .ok (all, r')) :
    Adds fuel items all r r' := by
  rw [sequenceItems, hNext] at h
  obtain ⟨read, hSkip, h⟩ := (Outcome.bind_eq_ok_iff _ _ _).mp h
  obtain ⟨⟨item, next⟩, hItem, h⟩ := (Outcome.bind_eq_ok_iff _ _ _).mp h
  have hRest : r.rest = '\\' :: c :: read.rest := Reading.rest_of_skip hNext hSkip
  obtain ⟨hExpr, more, hMore⟩ := exprEscape_eq_ok hItem
  rw [← hMore] at hRest
  rcases hExpr with hSingle | ⟨hDigit, n, rfl⟩
  · exact adds_of_piece (.atom ⟨'\\' :: c :: more, item, hSingle⟩) (List.cons_ne_nil _ _) hRest h
  · exact adds_of_piece (.reference ⟨'\\' :: c :: more, n, .inl ⟨c, more, rfl, hDigit⟩⟩)
      (List.cons_ne_nil _ _) hRest h

/-! Branches are separated by bars. -/

theorem branchesText_cons {branch : List Piece} {branches : List (List Piece)}
    (hSome : branches ≠ []) :
    branchesText (branch :: branches) = listText branch ++ '|' :: branchesText branches := by
  cases branches with
  | nil => exact absurd rfl hSome
  | cons next rest => rw [branchesText]; exact hSome

theorem length_behind_bar {r behind bar : Reading} {text : Text}
    (hText : r.rest = text ++ behind.rest) (hBar : behind.takeIf '|' = .ok (true, bar)) :
    bar.rest.length < r.rest.length := by
  rw [hText, List.length_append, Reading.rest_of_takeIf hBar, List.length_cons]
  omega

theorem branches_of_alternatives {fuel : Nat} (hAlternatives : ReadsAlternatives fuel)
    {verbose : Bool} {body : Expr} {r closed next : Reading}
    (hBody : alternatives false verbose [] fuel r = .ok (body, closed))
    (hFuel : 2 * r.rest.length + 2 ≤ fuel) (hClose : closed.rest = ')' :: next.rest) :
    ∃ branches, r.rest = branchesText branches ++ ')' :: next.rest ∧
      body = Expr.choice (branchExprs branches) := by
  obtain ⟨branches, -, hBranches, hExpr⟩ := hAlternatives hFuel hBody
  exact ⟨branches, by rw [hBranches, hClose], hExpr⟩

/-- A condition has one branch, or two with a bar between them. -/
theorem branches_of_condition {fuel : Nat} (hSequences : ReadsSequences fuel)
    {verbose other : Bool} {yes no : List Expr} {r behindYes behindBar behindNo : Reading}
    (hFuel : 2 * r.rest.length + 1 ≤ fuel)
    (hYes : sequenceItems false verbose [] fuel r = .ok (yes, behindYes))
    (hBar : behindYes.takeIf '|' = .ok (other, behindBar))
    (hNo : (if other then sequenceItems false verbose [] fuel behindBar
      else .ok ([], behindBar)) = .ok (no, behindNo)) (name : Text) (group : Nat) :
    ∃ branches, r.rest = branchesText branches ++ behindNo.rest ∧
      .ifGroup group (Expr.sequence yes.reverse) (Expr.sequence no.reverse) =
        (GroupKind.condition name group).expr (branchExprs branches) := by
  obtain ⟨yesPieces, hYesText, rfl⟩ := hSequences hFuel hYes
  cases other with
  | false =>
    cases hNo
    rw [Reading.eq_of_takeIf_false hBar]
    exact ⟨[yesPieces], hYesText, rfl⟩
  | true =>
    have hShort := length_behind_bar hYesText hBar
    obtain ⟨noPieces, hNoText, rfl⟩ := hSequences (by omega) hNo
    refine ⟨[yesPieces, noPieces], ?_, rfl⟩
    rw [hYesText, Reading.rest_of_takeIf hBar, hNoText, branchesText_cons (List.cons_ne_nil _ _),
      List.append_assoc]
    rfl

/-- What a parenthesis begins is a group, a reference, or a piece that stands for nothing. -/
theorem adds_of_parenthesis {fuel : Nat} (hSequences : ReadsSequences fuel)
    (hAlternatives : ReadsAlternatives fuel) {first verbose : Bool} {items all : List Expr}
    {r r' : Reading} (hFuel : 2 * r.rest.length + 1 ≤ fuel + 1)
    (hNext : r.next? = some (.plain '('))
    (h : sequenceItems first verbose items (fuel + 1) r = .ok (all, r')) :
    Adds fuel items all r r' := by
  rw [sequenceItems, hNext] at h
  dsimp only at h
  rw [if_neg (by decide)] at h
  obtain ⟨read, hSkip, h⟩ := (Outcome.bind_eq_ok_iff _ _ _).mp h
  rw [if_neg (by simp [isLayout]), if_neg (by simp), if_neg (by decide), if_neg (by decide),
    if_neg (by decide), if_neg (by decide), if_neg (by decide), if_pos rfl] at h
  obtain ⟨⟨opened, inner⟩, hOpened, h⟩ := (Outcome.bind_eq_ok_iff _ _ _).mp h
  obtain ⟨text, hOpening, hWritten⟩ := opening_eq_ok hOpened
  have hRest : r.rest = '(' :: (text ++ inner.rest) := by
    rw [← hOpening]
    exact Reading.rest_of_skip hNext hSkip
  -- what is left inside the group is short enough for the fuel that is left
  have hInner : 2 * inner.rest.length + 2 ≤ fuel := by
    rw [hRest, List.length_cons, List.length_append] at hFuel
    omega
  have hSilent : ∀ inVerbose : Bool,
      sequenceItems first inVerbose items fuel inner = .ok (all, r') → Adds fuel items all r r' :=
    fun _ h => adds_of_piece (.silent ('(' :: text)) (List.cons_ne_nil _ _) hRest h
  cases opened with
  | done item? =>
    cases item? with
    | none => exact hSilent _ h
    | some item =>
      obtain ⟨n, more, rfl, rfl⟩ := hWritten
      exact adds_of_piece (.reference ⟨_, n, .inr ⟨more, rfl⟩⟩) (List.cons_ne_nil _ _) hRest h
  | globalFlags =>
    dsimp only at h
    split at h
    · cases h
    · exact hSilent _ h
  | capture name =>
    obtain ⟨⟨index, counted⟩, hIndex, h⟩ := (Outcome.bind_eq_ok_iff _ _ _).mp h
    obtain ⟨⟨body, closed⟩, hBody, h⟩ := (Outcome.bind_eq_ok_iff _ _ _).mp h
    obtain ⟨next, hClose, h⟩ := (Outcome.bind_eq_ok_iff _ _ _).mp h
    have hCounted : counted.rest = inner.rest := rest_of_openGroup hIndex
    obtain ⟨branches, hBranches, rfl⟩ := branches_of_alternatives hAlternatives hBody
      (by rw [hCounted]; exact hInner) (rest_of_closeParenthesis hClose)
    have hKind : text = (GroupKind.capture name index).opening := by
      cases name <;> exact hWritten
    rw [hKind, ← hCounted, hBranches] at hRest
    exact adds_of_group (.capture name index) branches h hRest
  | plain on off =>
    obtain ⟨⟨body, closed⟩, hBody, h⟩ := (Outcome.bind_eq_ok_iff _ _ _).mp h
    obtain ⟨next, hClose, h⟩ := (Outcome.bind_eq_ok_iff _ _ _).mp h
    obtain ⟨branches, hBranches, rfl⟩ :=
      branches_of_alternatives hAlternatives hBody hInner (rest_of_closeParenthesis hClose)
    obtain ⟨letters, rfl⟩ := hWritten
    rw [hBranches] at hRest
    exact adds_of_group (.flagged letters on off) branches h hRest
  | atomic =>
    obtain ⟨⟨body, closed⟩, hBody, h⟩ := (Outcome.bind_eq_ok_iff _ _ _).mp h
    obtain ⟨next, hClose, h⟩ := (Outcome.bind_eq_ok_iff _ _ _).mp h
    obtain ⟨branches, hBranches, rfl⟩ :=
      branches_of_alternatives hAlternatives hBody hInner (rest_of_closeParenthesis hClose)
    rw [hWritten, hBranches] at hRest
    exact adds_of_group .atomic branches h hRest
  | look behind negated =>
    obtain ⟨⟨body, closed⟩, hBody, h⟩ := (Outcome.bind_eq_ok_iff _ _ _).mp h
    obtain ⟨next, hClose, h⟩ := (Outcome.bind_eq_ok_iff _ _ _).mp h
    have hClosed := rest_of_closeParenthesis hClose
    obtain ⟨branches, hBranches, rfl⟩ :=
      branches_of_alternatives hAlternatives hBody hInner hClosed
    -- the limit that holds inside a look-behind leaves what there is to read as it is
    rw [hWritten] at hRest
    dsimp only at hBranches
    rw [hBranches] at hRest
    exact adds_of_group (.look behind negated) branches h hRest
  | condition group =>
    obtain ⟨name, rfl⟩ := hWritten
    obtain ⟨⟨yes, behindYes⟩, hYes, h⟩ := (Outcome.bind_eq_ok_iff _ _ _).mp h
    obtain ⟨⟨other, behindBar⟩, hBar, h⟩ := (Outcome.bind_eq_ok_iff _ _ _).mp h
    cases other
    all_goals
      obtain ⟨⟨no, behindNo⟩, hNo, h⟩ := (Outcome.bind_eq_ok_iff _ _ _).mp h
      obtain ⟨branches, hBranches, hExpr⟩ :=
        branches_of_condition hSequences (Nat.le_of_succ_le hInner) hYes hBar hNo name group
      dsimp only at h
      split at h
      · cases h
      obtain ⟨next, hClose, h⟩ := (Outcome.bind_eq_ok_iff _ _ _).mp h
      rw [hBranches, rest_of_closeParenthesis hClose] at hRest
      rw [hExpr] at h
      exact adds_of_group (.condition name group) branches h hRest

theorem adds_of_plain {fuel : Nat} {first verbose : Bool} {c : Char} {items all : List Expr}
    {r r' : Reading} (hNext : r.next? = some (.plain c)) (hGroup : c ≠ '(')
    (h : sequenceItems first verbose items (fuel + 1) r = .ok (all, r')) :
    (all = items ∧ r' = r) ∨ Adds fuel items all r r' := by
  rw [sequenceItems, hNext] at h
  simp only [if_neg hGroup] at h
  split at h
  · cases h
    exact .inl ⟨rfl, rfl⟩
  refine .inr ?_
  obtain ⟨read, hSkip, h⟩ := (Outcome.bind_eq_ok_iff _ _ _).mp h
  have hRest : r.rest = c :: read.rest := Reading.rest_of_skip hNext hSkip
  have hAtom : ∀ e : Expr, e.isSingle = true →
      sequenceItems first verbose (e :: items) fuel read = .ok (all, r') →
        Adds fuel items all r r' := fun e hSingle h =>
    adds_of_piece (.atom ⟨[c], e, hSingle⟩) (List.cons_ne_nil _ _) hRest h
  split at h
  · exact adds_of_piece (.silent [c]) (List.cons_ne_nil _ _) hRest h
  split at h
  · -- a comment
    obtain ⟨next, hLine, h⟩ := (Outcome.bind_eq_ok_iff _ _ _).mp h
    obtain ⟨line, hLine⟩ := suffix_of_skipLine hLine
    exact adds_of_piece (.silent (c :: line)) (List.cons_ne_nil _ _) (by rw [hRest, ← hLine]; rfl) h
  split at h
  · obtain ⟨⟨item, next⟩, hSet, h⟩ := (Outcome.bind_eq_ok_iff _ _ _).mp h
    obtain ⟨hSingle, more, hMore⟩ := atom_of_charSet hSet
    exact adds_of_piece (.atom ⟨c :: more, item, hSingle⟩) (List.cons_ne_nil _ _)
      (by rw [hRest, ← hMore]; rfl) h
  split at h
  next hSign =>
    obtain ⟨⟨bounds, next⟩, hBounds, h⟩ := (Outcome.bind_eq_ok_iff _ _ _).mp h
    rcases quantifier_cases (by simpa [or_assoc] using hSign) hBounds with
      ⟨rfl, rfl⟩ | ⟨sign, rfl, hSign⟩
    · exact hAtom _ rfl h
    · obtain ⟨⟨wrapped, last⟩, hRepeat, h⟩ := (Outcome.bind_eq_ok_iff _ _ _).mp h
      obtain ⟨item, before, greed, rfl, rfl, hGreed⟩ := repeatLast_eq_ok hRepeat
      refine adds_of_piece (.repetition sign greed) ?_ ?_ h
      · exact fun hNil => sign.text_ne_nil (List.append_eq_nil_iff.mp hNil).1
      · rw [hRest, hSign, hGreed, Piece.text, List.append_assoc]
  split at h
  · exact hAtom _ rfl h
  split at h
  · exact hAtom _ rfl h
  split at h
  · exact hAtom _ rfl h
  · exact hAtom _ rfl h

theorem adds_of_sequenceItems {fuel : Nat} (hSequences : ReadsSequences fuel)
    (hAlternatives : ReadsAlternatives fuel) {first verbose : Bool} {items all : List Expr}
    {r r' : Reading} (hFuel : 2 * r.rest.length + 1 ≤ fuel + 1)
    (h : sequenceItems first verbose items (fuel + 1) r = .ok (all, r')) :
    (all = items ∧ r' = r) ∨ Adds fuel items all r r' := by
  match hNext : r.next? with
  | none =>
    rw [sequenceItems, hNext] at h
    cases h
    exact .inl ⟨rfl, rfl⟩
  | some (.escaped c) => exact .inr (adds_of_escape hNext h)
  | some (.plain c) =>
    by_cases hGroup : c = '('
    · subst hGroup
      exact .inr (adds_of_parenthesis hSequences hAlternatives hFuel hNext h)
    · exact adds_of_plain hNext hGroup h

theorem readsSequences_succ {fuel : Nat} (hSequences : ReadsSequences fuel)
    (hAlternatives : ReadsAlternatives fuel) : ReadsSequences (fuel + 1) := by
  intro first verbose items all r r' hFuel h
  rcases adds_of_sequenceItems hSequences hAlternatives hFuel h with ⟨rfl, rfl⟩ | hAdds
  · exact ⟨[], rfl, rfl⟩
  · obtain ⟨piece, first, verbose, next, hRest, hShorter, h⟩ := hAdds
    obtain ⟨pieces, hPieces, hAll⟩ := hSequences (by omega) h
    exact ⟨piece :: pieces, by rw [hRest, hPieces, listText, List.append_assoc], hAll⟩

theorem readsAlternatives_succ {fuel : Nat} (hSequences : ReadsSequences fuel)
    (hAlternatives : ReadsAlternatives fuel) : ReadsAlternatives (fuel + 1) := by
  intro top verbose before e r r' hFuel h
  rw [alternatives] at h
  obtain ⟨⟨items, behindItems⟩, hItems, h⟩ := (Outcome.bind_eq_ok_iff _ _ _).mp h
  obtain ⟨⟨more, behindBar⟩, hBar, h⟩ := (Outcome.bind_eq_ok_iff _ _ _).mp h
  obtain ⟨pieces, hPieces, rfl⟩ := hSequences (by omega) hItems
  cases more with
  | false =>
    rw [Reading.eq_of_takeIf_false hBar] at h
    cases h
    exact ⟨[pieces], List.cons_ne_nil _ _, hPieces, rfl⟩
  | true =>
    have hShort := length_behind_bar hPieces hBar
    obtain ⟨branches, hSome, hBranches, hExpr⟩ := hAlternatives (by omega) h
    refine ⟨pieces :: branches, List.cons_ne_nil _ _, ?_, ?_⟩
    · rw [hPieces, Reading.rest_of_takeIf hBar, hBranches, branchesText_cons hSome,
        List.append_assoc]
      rfl
    · rw [hExpr, branchExprs, List.append_assoc]
      rfl

theorem reads_pieces (fuel : Nat) : ReadsSequences fuel ∧ ReadsAlternatives fuel := by
  induction fuel with
  | zero => exact ⟨fun hFuel => absurd hFuel (by omega), fun hFuel => absurd hFuel (by omega)⟩
  | succ fuel ih => exact ⟨readsSequences_succ ih.1 ih.2, readsAlternatives_succ ih.1 ih.2⟩

/-- Branches of pieces that an expression is written in. -/
structure Writes (branches : List (List Piece)) (pattern : Text) (e : Expr) : Prop where
  text : branchesText branches = pattern
  expr : Expr.choice (branchExprs branches) = e

/-- An expression that can be parsed was written in pieces. -/
theorem exists_writes_of_parse {pattern : Text} {flags : Flags} {parsed : Parsed}
    (h : parse pattern flags = .ok parsed) : ∃ branches, Writes branches pattern parsed.expr := by
  obtain ⟨start, hStart, h⟩ := (Outcome.bind_eq_ok_iff _ _ _).mp h
  obtain ⟨⟨e, last⟩, hRead, h⟩ := (Outcome.bind_eq_ok_iff _ _ _).mp h
  have hPattern : start.rest = pattern := by
    unfold Reading.begin at hStart
    split at hStart
    · cases hStart
    · cases hStart
      rfl
  obtain ⟨branches, -, hBranches, hExpr⟩ := (reads_pieces _).2 (by rw [hPattern]; omega) hRead
  dsimp only at h
  split at h
  · cases h
  split at h
  · cases h
  rename_i hEnd
  have hDone : last.rest = [] := by
    refine Reading.rest_of_next?_none ?_
    cases hNext : last.next? with
    | none => rfl
    | some t => exact absurd (by rw [hNext]; rfl) hEnd
  split at h
  · cases h
  · cases h
    exact ⟨branches, by rw [← hPattern, hBranches, hDone, List.append_nil], hExpr.symm⟩

end AssetAudit.Regex
