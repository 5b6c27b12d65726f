import AssetAudit.Proofs.Outcomes
import AssetAudit.Regex.Parse

/-!
# What reading a token consumes

Every reader gives the reading that is left, and what it has read is the text in front of it. The
lemmas say which text that is, token by token; where it does not matter, that nothing is put back.
-/
namespace AssetAudit.Regex.Reading

theorem text_ne_nil (t : Token) : t.text ≠ [] := by
  cases t <;> exact List.cons_ne_nil _ _

theorem rest_of_next? {r : Reading} {t : Token} (h : r.next? = some t) :
    r.rest = t.text ++ r.rest.drop t.text.length := by
  unfold next? at h
  split at h
  · cases h
  · rename_i hRest
    cases h
    rw [hRest]
    rfl
  · rename_i hRest
    cases h
    rw [hRest]
    rfl

theorem rest_of_next?_none {r : Reading} (h : r.next? = none) : r.rest = [] := by
  unfold next? at h
  split at h
  · assumption
  · cases h
  · cases h

theorem rest_of_move {r r' : Reading} {n : Nat} (h : r.move n = .ok r') :
    r'.rest = r.rest.drop n := by
  unfold move at h
  dsimp only at h
  split at h
  · cases h
  · cases h
    rfl

theorem rest_of_skip {r r' : Reading} {t : Token} (hNext : r.next? = some t)
    (h : r.skip = .ok r') : r.rest = t.text ++ r'.rest := by
  unfold skip at h
  rw [hNext] at h
  rw [rest_of_move h]
  exact rest_of_next? hNext

theorem skip_of_next?_none {r : Reading} (hNext : r.next? = none) : r.skip = .ok r := by
  unfold skip
  rw [hNext]

theorem take_eq_ok {r r' : Reading} {token : Option Token} (h : r.take = .ok (token, r')) :
    token = r.next? ∧ r.skip = .ok r' := by
  obtain ⟨skipped, hSkip, hPair⟩ := (Outcome.map_eq_ok_iff _ _ _).mp h
  cases hPair
  exact ⟨rfl, hSkip⟩

theorem rest_of_take {r r' : Reading} {t : Token} (h : r.take = .ok (some t, r')) :
    r.rest = t.text ++ r'.rest := by
  obtain ⟨hNext, hSkip⟩ := take_eq_ok h
  exact rest_of_skip hNext.symm hSkip

theorem rest_of_takeIf {r r' : Reading} {c : Char} (h : r.takeIf c = .ok (true, r')) :
    r.rest = c :: r'.rest := by
  unfold takeIf at h
  split at h
  · rename_i hNext
    obtain ⟨skipped, hSkip, hPair⟩ := (Outcome.map_eq_ok_iff _ _ _).mp h
    cases hPair
    exact rest_of_skip hNext hSkip
  · cases h

theorem eq_of_takeIf_false {r r' : Reading} {c : Char} (h : r.takeIf c = .ok (false, r')) :
    r' = r := by
  unfold takeIf at h
  split at h
  · obtain ⟨skipped, -, hPair⟩ := (Outcome.map_eq_ok_iff _ _ _).mp h
    cases hPair
  · cases h
    rfl

theorem rest_of_takeWhile {p : Char → Bool} {n : Nat} {r r' : Reading} {t : Text}
    (h : r.takeWhile p n = .ok (t, r')) : r.rest = t ++ r'.rest := by
  induction n generalizing r t with
  | zero =>
    cases h
    rfl
  | succ n ih =>
    unfold takeWhile at h
    split at h
    · rename_i c hNext
      split at h
      · obtain ⟨next, hSkip, h⟩ := (Outcome.bind_eq_ok_iff _ _ _).mp h
        obtain ⟨⟨more, last⟩, hMore, h⟩ := (Outcome.bind_eq_ok_iff _ _ _).mp h
        cases h
        rw [rest_of_skip hNext hSkip, ih hMore]
        rfl
      · cases h
        rfl
    · cases h
      rfl

/-- The fuel of a name lasts: every round reads a token. -/
theorem rest_of_takeUntil {terminator : Char} {what : Text} {fuel : Nat} {got name : Text}
    {r r' : Reading} (hFuel : r.rest.length < fuel)
    (h : takeUntil terminator what fuel got r = .ok (name, r')) :
    ∃ more, name = got ++ more ∧ r.rest = more ++ terminator :: r'.rest := by
  induction fuel generalizing got r with
  | zero => exact absurd hFuel (Nat.not_lt_zero _)
  | succ fuel ih =>
    unfold takeUntil at h
    split at h
    · split at h <;> cases h
    · rename_i t hNext
      obtain ⟨next, hSkip, h⟩ := (Outcome.bind_eq_ok_iff _ _ _).mp h
      have hRest := rest_of_skip hNext hSkip
      split at h
      · rename_i hStop
        split at h
        · cases h
        · cases h
          rw [hStop] at hRest
          exact ⟨[], (List.append_nil _).symm, hRest⟩
      · have hShorter : next.rest.length < fuel := by
          have hLength := congrArg List.length hRest
          have hPositive := List.length_pos_iff.mpr (text_ne_nil t)
          rw [List.length_append] at hLength
          omega
        obtain ⟨more, hName, hMore⟩ := ih hShorter h
        exact ⟨t.text ++ more, by rw [hName, List.append_assoc], by
          rw [hRest, hMore, List.append_assoc]⟩

theorem rest_of_name {terminator : Char} {what name : Text} {r r' : Reading}
    (h : r.name terminator what = .ok (name, r')) : r.rest = name ++ terminator :: r'.rest := by
  obtain ⟨more, hName, hRest⟩ := rest_of_takeUntil (Nat.lt_succ_self _) h
  rw [hName]
  exact hRest

/-! Readers that put nothing back. -/

theorem suffix_of_skip {r r' : Reading} (h : r.skip = .ok r') : r'.rest <:+ r.rest := by
  cases hNext : r.next? with
  | none =>
    rw [skip_of_next?_none hNext] at h
    cases h
    exact List.suffix_rfl
  | some t => exact ⟨_, (rest_of_skip hNext h).symm⟩

theorem suffix_of_take {r r' : Reading} {token : Option Token} (h : r.take = .ok (token, r')) :
    r'.rest <:+ r.rest :=
  suffix_of_skip (take_eq_ok h).2

theorem suffix_of_takeIf {r r' : Reading} {c : Char} {found : Bool}
    (h : r.takeIf c = .ok (found, r')) : r'.rest <:+ r.rest := by
  cases found with
  | true => exact ⟨[c], (rest_of_takeIf h).symm⟩
  | false =>
    obtain rfl := eq_of_takeIf_false h
    exact List.suffix_rfl

theorem suffix_of_takeWhile {p : Char → Bool} {n : Nat} {r r' : Reading} {t : Text}
    (h : r.takeWhile p n = .ok (t, r')) : r'.rest <:+ r.rest :=
  ⟨t, (rest_of_takeWhile h).symm⟩

theorem suffix_of_name {terminator : Char} {what name : Text} {r r' : Reading}
    (h : r.name terminator what = .ok (name, r')) : r'.rest <:+ r.rest :=
  ⟨name ++ [terminator], by rw [rest_of_name h, List.append_assoc]; rfl⟩

end AssetAudit.Regex.Reading
