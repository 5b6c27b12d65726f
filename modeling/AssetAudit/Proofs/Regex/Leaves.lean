import AssetAudit.Proofs.Regex.Pieces
import AssetAudit.Proofs.Regex.Tokens

/-!
# Escapes and sets as atoms

What a backslash begins is a single character, set or place, but for one case: a digit from 1 on may
refer back to a group. A set is a single character whatever it holds.
-/
namespace AssetAudit.Regex

theorem suffix_of_hexEscape {c : Char} {digits code : Nat} {r r' : Reading}
    (h : hexEscape c digits r = .ok (code, r')) : r'.rest <:+ r.rest := by
  obtain ⟨⟨more, next⟩, hMore, h⟩ := (Outcome.bind_eq_ok_iff _ _ _).mp h
  dsimp only at h
  split at h
  · cases h
  · split at h
    · cases h
    · split at h
      · cases h
      · cases h
        exact Reading.suffix_of_takeWhile hMore

theorem suffix_of_namedEscape {code : Nat} {r r' : Reading}
    (h : namedEscape r = .ok (code, r')) : r'.rest <:+ r.rest := by
  obtain ⟨⟨opened, next⟩, hOpened, h⟩ := (Outcome.bind_eq_ok_iff _ _ _).mp h
  dsimp only at h
  split at h
  · cases h
  · obtain ⟨⟨name, last⟩, hName, h⟩ := (Outcome.bind_eq_ok_iff _ _ _).mp h
    dsimp only at h
    split at h
    · cases h
      exact (Reading.suffix_of_name hName).trans (Reading.suffix_of_takeIf hOpened)
    · cases h

theorem suffix_of_octalEscape {c : Char} {code : Nat} {r r' : Reading}
    (h : octalEscape c r = .ok (code, r')) : r'.rest <:+ r.rest := by
  obtain ⟨⟨more, next⟩, hMore, h⟩ := (Outcome.bind_eq_ok_iff _ _ _).mp h
  dsimp only at h
  split at h
  · cases h
  · cases h
    exact Reading.suffix_of_takeWhile hMore

theorem suffix_of_plainEscape {c : Char} {code : Nat} {r r' : Reading}
    (h : plainEscape c r = .ok (code, r')) : r'.rest <:+ r.rest := by
  unfold plainEscape at h
  split at h
  · cases h
  · cases h
    exact List.suffix_rfl

theorem suffix_of_codeEscape? {c : Char} {e : Outcome (Nat × Reading)} {code : Nat}
    {r r' : Reading} (hEscape : codeEscape? c r = some e) (h : e = .ok (code, r')) :
    r'.rest <:+ r.rest := by
  unfold codeEscape? at hEscape
  split at hEscape
  · cases hEscape
    exact suffix_of_hexEscape h
  · cases hEscape
    exact suffix_of_hexEscape h
  · cases hEscape
    exact suffix_of_hexEscape h
  · cases hEscape
    exact suffix_of_namedEscape h
  · cases hEscape

theorem suffix_of_setEscape {c : Char} {item : SetItem} {r r' : Reading}
    (h : setEscape c r = .ok (item, r')) : r'.rest <:+ r.rest := by
  unfold setEscape at h
  dsimp only at h
  split at h
  · cases h
    exact List.suffix_rfl
  split at h
  · cases h
    exact List.suffix_rfl
  split at h
  · cases h
    exact List.suffix_rfl
  split at h
  · rename_i e hEscape
    obtain ⟨⟨code, next⟩, hCode, hPair⟩ := (Outcome.map_eq_ok_iff _ _ _).mp h
    cases hPair
    exact suffix_of_codeEscape? hEscape hCode
  split at h
  · obtain ⟨⟨code, next⟩, hCode, hPair⟩ := (Outcome.map_eq_ok_iff _ _ _).mp h
    cases hPair
    exact suffix_of_octalEscape hCode
  · obtain ⟨⟨code, next⟩, hCode, hPair⟩ := (Outcome.map_eq_ok_iff _ _ _).mp h
    cases hPair
    exact suffix_of_plainEscape hCode

theorem suffix_of_setToken {t : Token} {item : SetItem} {r r' : Reading}
    (h : setToken t r = .ok (item, r')) : r'.rest <:+ r.rest := by
  cases t with
  | escaped c => exact suffix_of_setEscape h
  | plain c =>
    cases h
    exact List.suffix_rfl

theorem suffix_of_setItems {start fuel : Nat} {items all : List SetItem} {r r' : Reading}
    (h : setItems start fuel items r = .ok (all, r')) : r'.rest <:+ r.rest := by
  induction fuel generalizing items r with
  | zero =>
    cases h
    exact List.suffix_rfl
  | succ fuel ih =>
    obtain ⟨⟨token, opened⟩, hToken, h⟩ := (Outcome.bind_eq_ok_iff _ _ _).mp h
    have hOpened := Reading.suffix_of_take hToken
    cases token with
    | none => cases h
    | some low =>
      dsimp only at h
      split at h
      · cases h
        exact hOpened
      obtain ⟨⟨item, behind⟩, hItem, h⟩ := (Outcome.bind_eq_ok_iff _ _ _).mp h
      have hBehind := (suffix_of_setToken hItem).trans hOpened
      obtain ⟨⟨dash, dashed⟩, hDash, h⟩ := (Outcome.bind_eq_ok_iff _ _ _).mp h
      have hDashed := (Reading.suffix_of_takeIf hDash).trans hBehind
      dsimp only at h
      split at h
      · exact (ih h).trans hDashed
      obtain ⟨⟨token, ended⟩, hToken, h⟩ := (Outcome.bind_eq_ok_iff _ _ _).mp h
      have hEnded := (Reading.suffix_of_take hToken).trans hDashed
      cases token with
      | none => cases h
      | some high =>
        dsimp only at h
        split at h
        · cases h
          exact hEnded
        obtain ⟨⟨last, read⟩, hLast, h⟩ := (Outcome.bind_eq_ok_iff _ _ _).mp h
        have hRead := (suffix_of_setToken hLast).trans hEnded
        dsimp only at h
        split at h
        · split at h
          · cases h
          · exact (ih h).trans hRead
        · cases h

theorem atom_of_charSet {e : Expr} {r r' : Reading} (h : charSet r = .ok (e, r')) :
    e.isSingle = true ∧ r'.rest <:+ r.rest := by
  obtain ⟨⟨negated, opened⟩, hOpened, h⟩ := (Outcome.bind_eq_ok_iff _ _ _).mp h
  obtain ⟨⟨items, last⟩, hItems, h⟩ := (Outcome.bind_eq_ok_iff _ _ _).mp h
  cases h
  exact ⟨rfl, (suffix_of_setItems hItems).trans (Reading.suffix_of_takeIf hOpened)⟩

theorem digitEscape_eq_ok {c : Char} {e : Expr} {r r' : Reading}
    (h : digitEscape c r = .ok (e, r')) :
    (e.isSingle = true ∨ ∃ n, e = .backref n) ∧ r'.rest <:+ r.rest := by
  obtain ⟨⟨second, next⟩, hSecond, h⟩ := (Outcome.bind_eq_ok_iff _ _ _).mp h
  have hNext := Reading.suffix_of_takeWhile hSecond
  dsimp only at h
  -- whether a third digit is looked for is decided first, and the rest is the same for both
  split at h
  all_goals
    obtain ⟨⟨third, last⟩, hThird, h⟩ := (Outcome.bind_eq_ok_iff _ _ _).mp h
    have hRest : last.rest <:+ r.rest := by
      first
      | exact (Reading.suffix_of_takeWhile hThird).trans hNext
      | cases hThird; exact hNext
    dsimp only at h
    split at h
    · split at h
      · cases h
      · cases h
        exact ⟨.inl rfl, hRest⟩
    · split at h
      · split at h
        · cases h
        · obtain ⟨⟨⟩, -, h⟩ := (Outcome.bind_eq_ok_iff _ _ _).mp h
          cases h
          exact ⟨.inr ⟨_, rfl⟩, hRest⟩
      · cases h

/-- An escape is an atom, unless it is a digit from 1 on that refers back. -/
theorem exprEscape_eq_ok {c : Char} {e : Expr} {r r' : Reading}
    (h : exprEscape c r = .ok (e, r')) :
    (e.isSingle = true ∨ ('1' ≤ c && c ≤ '9') = true ∧ ∃ n, e = .backref n) ∧
      r'.rest <:+ r.rest := by
  unfold exprEscape at h
  dsimp only at h
  split at h
  · cases h
    exact ⟨.inl rfl, List.suffix_rfl⟩
  split at h
  · cases h
    exact ⟨.inl rfl, List.suffix_rfl⟩
  split at h
  · cases h
    exact ⟨.inl rfl, List.suffix_rfl⟩
  split at h
  · rename_i escape hEscape
    obtain ⟨⟨code, next⟩, hCode, hPair⟩ := (Outcome.map_eq_ok_iff _ _ _).mp h
    cases hPair
    exact ⟨.inl rfl, suffix_of_codeEscape? hEscape hCode⟩
  split at h
  · obtain ⟨⟨code, next⟩, hCode, hPair⟩ := (Outcome.map_eq_ok_iff _ _ _).mp h
    cases hPair
    exact ⟨.inl rfl, suffix_of_octalEscape hCode⟩
  rename_i hZero
  split at h
  · rename_i hDecimal
    obtain ⟨hExpr, hRest⟩ := digitEscape_eq_ok h
    refine ⟨hExpr.imp_right fun hBack => ⟨?_, hBack⟩, hRest⟩
    -- the digits are those from 1 on, because 0 begins an octal code
    simp only [isDecimal, Bool.and_eq_true, decide_eq_true_eq] at hDecimal ⊢
    refine ⟨?_, hDecimal.2⟩
    simp only [Char.le_def, UInt32.le_iff_toNat_le] at hDecimal ⊢
    have hNotZero : c.val.toNat ≠ 48 := fun hEq => hZero (Char.ext (UInt32.toNat_inj.mp hEq))
    have hLow : 48 ≤ c.val.toNat := hDecimal.1
    change 49 ≤ c.val.toNat
    omega
  · obtain ⟨⟨code, next⟩, hCode, hPair⟩ := (Outcome.map_eq_ok_iff _ _ _).mp h
    cases hPair
    exact ⟨.inl rfl, suffix_of_plainEscape hCode⟩

end AssetAudit.Regex
