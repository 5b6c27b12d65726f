import AssetAudit.Proofs.Regex.Pieces
import AssetAudit.Proofs.Regex.Tokens

/-!
# Signs of repetition and openings of groups

A quantifier that is read was written as its sign, and what an opening parenthesis begins was written
as the opening of a group of its kind, a named reference, a comment, or flags.
-/
namespace AssetAudit.Regex

/-! Quantifiers. -/

/-- A brace begins a repetition that was written as its sign, or is left where it was. -/
theorem braces_cases {b? : Option (Nat × Option Nat)} {r r' : Reading}
    (h : braces r = .ok (b?, r')) : (b? = none ∧ r' = r) ∨
      ∃ sign : Sign, b? = some sign.bounds ∧ '\x7b' :: r.rest = sign.text ++ r'.rest := by
  unfold braces at h
  dsimp only at h
  split at h
  · cases h
    exact .inl ⟨rfl, rfl⟩
  obtain ⟨⟨low, behindLow⟩, hLow, h⟩ := (Outcome.bind_eq_ok_iff _ _ _).mp h
  obtain ⟨⟨comma, behindComma⟩, hComma, h⟩ := (Outcome.bind_eq_ok_iff _ _ _).mp h
  have hRest : r.rest = low ++ behindLow.rest := Reading.rest_of_takeWhile hLow
  -- without a comma both bounds are the low one; what follows is the same
  cases comma
  all_goals
    obtain ⟨⟨high, behindHigh⟩, hHigh, h⟩ := (Outcome.bind_eq_ok_iff _ _ _).mp h
    obtain ⟨⟨closed, last⟩, hClosed, h⟩ := (Outcome.bind_eq_ok_iff _ _ _).mp h
    have hBounds : (b? = none ∧ r' = r) ∨
        b? = some (readBase 10 low, Sign.bound high) ∧ closed = true ∧ last = r' := by
      cases closed with
      | false =>
        cases h
        exact .inl ⟨rfl, rfl⟩
      | true =>
        simp only [Bool.not_true, Bool.false_eq_true, if_false] at h
        split at h
        · cases h
        split at h
        next hNone =>
          cases h
          exact .inr ⟨by rw [Sign.bound, hNone], rfl, rfl⟩
        next hSome =>
          split at h
          · cases h
          split at h
          · cases h
          · cases h
            exact .inr ⟨by rw [Sign.bound, hSome], rfl, rfl⟩
    refine hBounds.imp_right ?_
    rintro ⟨rfl, rfl, rfl⟩
    have hEnd : behindHigh.rest = '\x7d' :: last.rest := Reading.rest_of_takeIf hClosed
  case false =>
    obtain ⟨rfl, rfl⟩ : low = high ∧ behindComma = behindHigh := by
      cases hHigh
      exact ⟨rfl, rfl⟩
    have hSame : behindComma = behindLow := Reading.eq_of_takeIf_false hComma
    exact ⟨.counted low none, rfl, by simp [Sign.text, hRest, ← hSame, hEnd]⟩
  case true =>
    have hMiddle : behindLow.rest = ',' :: behindComma.rest := Reading.rest_of_takeIf hComma
    have hUpper : behindComma.rest = high ++ behindHigh.rest := Reading.rest_of_takeWhile hHigh
    exact ⟨.counted low (some high), rfl, by simp [Sign.text, hRest, hMiddle, hUpper, hEnd]⟩

theorem quantifier_cases {c : Char} {b? : Option (Nat × Option Nat)} {r r' : Reading}
    (hOpens : c = '*' ∨ c = '+' ∨ c = '?' ∨ c = '\x7b') (h : quantifier c r = .ok (b?, r')) :
    (b? = none ∧ r' = r) ∨
      ∃ sign : Sign, b? = some sign.bounds ∧ c :: r.rest = sign.text ++ r'.rest := by
  unfold quantifier at h
  split at h
  next hChar =>
    cases h
    exact .inr ⟨.optional, rfl, by rw [hChar]; rfl⟩
  split at h
  next hChar =>
    cases h
    exact .inr ⟨.star, rfl, by rw [hChar]; rfl⟩
  split at h
  next hChar =>
    cases h
    exact .inr ⟨.plus, rfl, by rw [hChar]; rfl⟩
  next hOptional hStar hPlus =>
    obtain rfl : c = '\x7b' := ((hOpens.resolve_left hStar).resolve_left hPlus).resolve_left hOptional
    exact braces_cases h

theorem repeatLast_eq_ok {here r r' : Reading} {b : Nat × Option Nat} {items all : List Expr}
    (h : repeatLast here b items r = .ok (all, r')) :
    ∃ item before greed, items = item :: before ∧ all = .many greed b.1 b.2 item :: before ∧
      r.rest = Greed.suffix greed ++ r'.rest := by
  unfold repeatLast at h
  dsimp only at h
  split at h
  · cases h
  · cases h
  · cases h
  rename_i item before hAnchor hMany
  obtain ⟨⟨reluctant, behind⟩, hReluctant, h⟩ := (Outcome.bind_eq_ok_iff _ _ _).mp h
  cases reluctant with
  | true =>
    cases h
    exact ⟨item, before, .reluctant, rfl, rfl, Reading.rest_of_takeIf hReluctant⟩
  | false =>
    rw [Reading.eq_of_takeIf_false hReluctant] at h
    obtain ⟨⟨possessive, last⟩, hPossessive, h⟩ := (Outcome.bind_eq_ok_iff _ _ _).mp h
    cases h
    cases possessive with
    | true => exact ⟨item, before, .possessive, rfl, rfl, Reading.rest_of_takeIf hPossessive⟩
    | false =>
      rw [Reading.eq_of_takeIf_false hPossessive]
      exact ⟨item, before, .greedy, rfl, rfl, rfl⟩

/-! Flags. -/

theorem length_rest_of_take {r r' : Reading} {t : Token} {fuel : Nat}
    (hFuel : r.rest.length < fuel + 1) (h : r.take = .ok (some t, r')) :
    r'.rest.length < fuel := by
  have hLength := congrArg List.length (Reading.rest_of_take h)
  have hPositive := List.length_pos_iff.mpr (Reading.text_ne_nil t)
  rw [List.length_append] at hLength
  omega

/-- Flags that are turned on are written up to the character that stops them. -/
theorem flagsOn_eq_ok {c stop : Char} {flag on all : Flags} {fuel : Nat} {r r' : Reading}
    (hFuel : r.rest.length < fuel) (h : flagsOn c flag on fuel r = .ok ((all, stop), r')) :
    (stop = ')' ∨ stop = '-' ∨ stop = ':') ∧ ∃ letters, r.rest = letters ++ stop :: r'.rest := by
  induction fuel generalizing c flag on r with
  | zero => exact absurd hFuel (Nat.not_lt_zero _)
  | succ fuel ih =>
    unfold flagsOn at h
    dsimp only at h
    split at h
    · cases h
    split at h
    · cases h
    obtain ⟨⟨token, next⟩, hToken, h⟩ := (Outcome.bind_eq_ok_iff _ _ _).mp h
    cases token with
    | none => cases h
    | some t =>
      have hRest := Reading.rest_of_take hToken
      dsimp only at h
      split at h
      · rename_i hStop
        cases h
        rw [hStop] at hRest
        exact ⟨.inl rfl, [], hRest⟩
      split at h
      · rename_i hStop
        cases h
        rw [hStop] at hRest
        exact ⟨.inr (.inl rfl), [], hRest⟩
      split at h
      · rename_i hStop
        cases h
        rw [hStop] at hRest
        exact ⟨.inr (.inr rfl), [], hRest⟩
      split at h
      · obtain ⟨hStop, letters, hLetters⟩ := ih (length_rest_of_take hFuel hToken) h
        exact ⟨hStop, t.text ++ letters, by rw [hRest, hLetters, List.append_assoc]⟩
      · cases h

theorem flagsOff_eq_ok {c : Char} {flag off all : Flags} {fuel : Nat} {r r' : Reading}
    (hFuel : r.rest.length < fuel) (h : flagsOff c flag off fuel r = .ok (all, r')) :
    ∃ letters, r.rest = letters ++ ':' :: r'.rest := by
  induction fuel generalizing c flag off r with
  | zero => exact absurd hFuel (Nat.not_lt_zero _)
  | succ fuel ih =>
    unfold flagsOff at h
    dsimp only at h
    split at h
    · cases h
    obtain ⟨⟨token, next⟩, hToken, h⟩ := (Outcome.bind_eq_ok_iff _ _ _).mp h
    cases token with
    | none => cases h
    | some t =>
      have hRest := Reading.rest_of_take hToken
      dsimp only at h
      split at h
      · rename_i hStop
        cases h
        rw [hStop] at hRest
        exact ⟨[], hRest⟩
      split at h
      · obtain ⟨letters, hLetters⟩ := ih (length_rest_of_take hFuel hToken) h
        exact ⟨t.text ++ letters, by rw [hRest, hLetters, List.append_assoc]⟩
      · cases h

/-- Flags of a group end with a colon, flags for the whole expression with a parenthesis. -/
theorem inlineFlags_eq_ok {first : Char} {flags? : Option (Flags × Flags)} {r r' : Reading}
    (hFirst : first = '-' ∨ (flagOf? first).isSome = true)
    (h : inlineFlags first r = .ok (flags?, r')) :
    ∃ letters, first :: r.rest = letters ++ (if flags?.isSome then ':' else ')') :: r'.rest := by
  unfold inlineFlags at h
  dsimp only at h
  cases hFlag : flagOf? first
  all_goals
    rw [hFlag] at h
    dsimp only at h
    obtain ⟨⟨⟨on, stop⟩, behindOn⟩, hOn, h⟩ := (Outcome.bind_eq_ok_iff _ _ _).mp h
    obtain ⟨hStop, letters, hLetters⟩ : (stop = ')' ∨ stop = '-' ∨ stop = ':') ∧
        ∃ letters, first :: r.rest = letters ++ stop :: behindOn.rest := by
      first
      | cases hOn
        obtain rfl := hFirst.resolve_right (by simp [hFlag])
        exact ⟨.inr (.inl rfl), [], rfl⟩
      | obtain ⟨hStop, letters, hRest⟩ := flagsOn_eq_ok (Nat.lt_succ_self _) hOn
        exact ⟨hStop, first :: letters, congrArg _ hRest⟩
    dsimp only at h
    split at h
    · rename_i hClose
      cases h
      exact ⟨letters, by rw [hLetters, hClose]; rfl⟩
    rename_i hOpen
    split at h
    · cases h
    split at h
    · obtain ⟨⟨token, behindDash⟩, hToken, h⟩ := (Outcome.bind_eq_ok_iff _ _ _).mp h
      cases token with
      | none => cases h
      | some t =>
        dsimp only at h
        split at h
        · obtain ⟨⟨off, behindOff⟩, hOff, h⟩ := (Outcome.bind_eq_ok_iff _ _ _).mp h
          have hFuel : behindDash.rest.length < r.rest.length + 1 := by
            have hOn := congrArg List.length hLetters
            have hDash := (Reading.suffix_of_take hToken).length_le
            simp only [List.length_append, List.length_cons] at hOn
            omega
          obtain ⟨more, hMore⟩ := flagsOff_eq_ok hFuel hOff
          dsimp only at h
          split at h
          · cases h
          split at h
          · cases h
          · cases h
            refine ⟨letters ++ stop :: t.text ++ more, ?_⟩
            rw [hLetters, Reading.rest_of_take hToken, hMore]
            simp
        · cases h
    · rename_i hDash
      obtain rfl := (hStop.resolve_left hOpen).resolve_left hDash
      obtain ⟨⟨off, behindOff⟩, hOff, h⟩ := (Outcome.bind_eq_ok_iff _ _ _).mp h
      dsimp only at h
      split at h
      · cases h
      split at h
      · cases h
      · cases hOff
        cases h
        exact ⟨letters, hLetters⟩

/-! Groups. -/

/-- The text behind the parenthesis that begins what was opened. -/
def Opening.IsWritten (text : Text) : Opening → Prop
  | .capture name => text = (GroupKind.capture name 0).opening
  | .plain on off => ∃ letters, text = (GroupKind.flagged letters on off).opening
  | .atomic => text = GroupKind.atomic.opening
  | .look behind negated => text = (GroupKind.look behind negated).opening
  | .condition group => ∃ name, text = (GroupKind.condition name group).opening
  | .done (some item) => ∃ n more, item = .backref n ∧ text = '?' :: 'P' :: '=' :: more
  | .done none | .globalFlags => True

theorem conditionGroup_eq_ok {group : Nat} {r r' : Reading}
    (h : conditionGroup r = .ok (group, r')) : ∃ name, r.rest = name ++ ')' :: r'.rest := by
  obtain ⟨⟨name, next⟩, hName, h⟩ := (Outcome.bind_eq_ok_iff _ _ _).mp h
  have hRest := Reading.rest_of_name hName
  dsimp only at h
  split at h
  · split at h
    · cases h
      exact ⟨name, hRest⟩
    · cases h
  split at h
  · cases h
  · split at h
    · cases h
    split at h
    · cases h
      exact ⟨name, hRest⟩
    · cases h
      exact ⟨name, hRest⟩
  · cases h

theorem namedReference_eq_ok {e : Expr} {r r' : Reading} (h : namedReference r = .ok (e, r')) :
    (∃ n, e = .backref n) ∧ ∃ name, r.rest = name ++ ')' :: r'.rest := by
  obtain ⟨⟨name, next⟩, hName, h⟩ := (Outcome.bind_eq_ok_iff _ _ _).mp h
  have hRest := Reading.rest_of_name hName
  obtain ⟨⟨⟩, -, h⟩ := (Outcome.bind_eq_ok_iff _ _ _).mp h
  split at h
  · cases h
  split at h
  · cases h
  · obtain ⟨⟨⟩, -, h⟩ := (Outcome.bind_eq_ok_iff _ _ _).mp h
    cases h
    exact ⟨⟨_, rfl⟩, name, hRest⟩

theorem suffix_of_skipLine {fuel : Nat} {r r' : Reading} (h : skipLine fuel r = .ok r') :
    r'.rest <:+ r.rest := by
  induction fuel generalizing r with
  | zero =>
    cases h
    exact List.suffix_rfl
  | succ fuel ih =>
    obtain ⟨⟨token, next⟩, hToken, h⟩ := (Outcome.bind_eq_ok_iff _ _ _).mp h
    have hNext := Reading.suffix_of_take hToken
    dsimp only at h
    split at h
    · cases h
      exact hNext
    · exact (ih h).trans hNext

theorem suffix_of_skipComment {start fuel : Nat} {r r' : Reading}
    (h : skipComment start fuel r = .ok r') : r'.rest <:+ r.rest := by
  induction fuel generalizing r with
  | zero =>
    cases h
    exact List.suffix_rfl
  | succ fuel ih =>
    obtain ⟨⟨token, next⟩, hToken, h⟩ := (Outcome.bind_eq_ok_iff _ _ _).mp h
    have hNext := Reading.suffix_of_take hToken
    dsimp only at h
    split at h
    · cases h
    split at h
    · cases h
      exact hNext
    · exact (ih h).trans hNext

theorem rest_of_openGroup {name : Option Text} {index : Nat} {r r' : Reading}
    (h : openGroup name r = .ok (index, r')) : r'.rest = r.rest := by
  unfold openGroup at h
  dsimp only at h
  split at h
  · cases h
    rfl
  split at h
  · cases h
  · cases h
    rfl

theorem rest_of_closeParenthesis {start : Nat} {r r' : Reading}
    (h : closeParenthesis start r = .ok r') : r.rest = ')' :: r'.rest := by
  obtain ⟨⟨closed, next⟩, hClosed, h⟩ := (Outcome.bind_eq_ok_iff _ _ _).mp h
  cases closed with
  | false => cases h
  | true =>
    cases h
    exact Reading.rest_of_takeIf hClosed

/-- Behind a `P` stands the name of a group, or a reference to one. -/
theorem named_of_opening {start : Nat} {opened : Opening} {r marked next r' : Reading}
    (hMark : r.takeIf '?' = .ok (true, marked))
    (hToken : marked.take = .ok (some (.plain 'P'), next))
    (h : opening start r = .ok (opened, r')) :
    ∃ text, next.rest = text ++ r'.rest ∧ opened.IsWritten ('?' :: 'P' :: text) := by
  simp only [opening, hMark, hToken, Outcome.ok_bind, Bool.not_true, Bool.false_eq_true,
    if_false] at h
  obtain ⟨⟨named, behindAngle⟩, hAngle, h⟩ := (Outcome.bind_eq_ok_iff _ _ _).mp h
  cases named with
  | true =>
    obtain ⟨⟨name, last⟩, hName, h⟩ := (Outcome.bind_eq_ok_iff _ _ _).mp h
    obtain ⟨⟨⟩, -, h⟩ := (Outcome.bind_eq_ok_iff _ _ _).mp h
    cases h
    refine ⟨'<' :: name ++ ['>'], ?_, rfl⟩
    rw [Reading.rest_of_takeIf hAngle, Reading.rest_of_name hName]
    simp
  | false =>
    obtain ⟨⟨reference, behindEqual⟩, hEqual, h⟩ := (Outcome.bind_eq_ok_iff _ _ _).mp h
    cases reference with
    | true =>
      obtain ⟨⟨item, last⟩, hItem, h⟩ := (Outcome.bind_eq_ok_iff _ _ _).mp h
      obtain ⟨⟨n, hBack⟩, name, hName⟩ := namedReference_eq_ok hItem
      cases h
      refine ⟨'=' :: name ++ [')'], ?_, n, name ++ [')'], hBack, rfl⟩
      rw [← Reading.eq_of_takeIf_false hAngle, Reading.rest_of_takeIf hEqual, hName]
      simp
    | false =>
      obtain ⟨⟨token, last⟩, -, h⟩ := (Outcome.bind_eq_ok_iff _ _ _).mp h
      dsimp only at h
      split at h <;> cases h

/-- Behind an angle stands the sign of what may not, or has to, come before. -/
theorem behind_of_opening {start : Nat} {opened : Opening} {r marked next r' : Reading}
    (hMark : r.takeIf '?' = .ok (true, marked))
    (hToken : marked.take = .ok (some (.plain '<'), next))
    (h : opening start r = .ok (opened, r')) :
    ∃ text, next.rest = text ++ r'.rest ∧ opened.IsWritten ('?' :: '<' :: text) := by
  simp only [opening, hMark, hToken, Outcome.ok_bind, Bool.not_true, Bool.false_eq_true,
    if_false] at h
  obtain ⟨⟨token, last⟩, hSide, h⟩ := (Outcome.bind_eq_ok_iff _ _ _).mp h
  cases token with
  | none => cases h
  | some t =>
    dsimp only at h
    split at h
    next hLook =>
      cases h
      exact ⟨['='], by rw [Reading.rest_of_take hSide, hLook]; rfl, rfl⟩
    split at h
    next hLook =>
      cases h
      exact ⟨['!'], by rw [Reading.rest_of_take hSide, hLook]; rfl, rfl⟩
    next => cases h

/-- What is opened was written as it says. -/
theorem opening_eq_ok {start : Nat} {opened : Opening} {r r' : Reading}
    (h : opening start r = .ok (opened, r')) :
    ∃ text, r.rest = text ++ r'.rest ∧ opened.IsWritten text := by
  have hWhole := h
  obtain ⟨⟨extended, marked⟩, hMark, h⟩ := (Outcome.bind_eq_ok_iff _ _ _).mp h
  cases extended with
  | false =>
    cases h
    rw [Reading.eq_of_takeIf_false hMark]
    exact ⟨[], rfl, rfl⟩
  | true =>
    obtain ⟨⟨token, next⟩, hToken, h⟩ := (Outcome.bind_eq_ok_iff _ _ _).mp h
    have hRest : ∀ c, token = some (.plain c) → r.rest = '?' :: c :: next.rest := fun c hc => by
      rw [hc] at hToken
      rw [Reading.rest_of_takeIf hMark, Reading.rest_of_take hToken]
      rfl
    dsimp only at h
    split at h
    · cases h
    · cases h
    · obtain ⟨text, hNext, hWritten⟩ := named_of_opening hMark hToken hWhole
      exact ⟨'?' :: 'P' :: text, by rw [hRest _ rfl, hNext]; rfl, hWritten⟩
    · cases h
      exact ⟨['?', ':'], hRest _ rfl, [], rfl⟩
    · obtain ⟨last, hComment, h⟩ := (Outcome.bind_eq_ok_iff _ _ _).mp h
      cases h
      obtain ⟨text, hText⟩ := suffix_of_skipComment hComment
      exact ⟨'?' :: '#' :: text, by rw [hRest _ rfl, ← hText]; rfl, trivial⟩
    · cases h
      exact ⟨['?', '='], hRest _ rfl, rfl⟩
    · cases h
      exact ⟨['?', '!'], hRest _ rfl, rfl⟩
    · obtain ⟨text, hNext, hWritten⟩ := behind_of_opening hMark hToken hWhole
      exact ⟨'?' :: '<' :: text, by rw [hRest _ rfl, hNext]; rfl, hWritten⟩
    · obtain ⟨⟨group, last⟩, hGroup, h⟩ := (Outcome.bind_eq_ok_iff _ _ _).mp h
      obtain ⟨⟨⟩, -, h⟩ := (Outcome.bind_eq_ok_iff _ _ _).mp h
      cases h
      obtain ⟨name, hName⟩ := conditionGroup_eq_ok hGroup
      exact ⟨'?' :: '(' :: name ++ [')'], by rw [hRest _ rfl, hName]; simp, name, rfl⟩
    · cases h
      exact ⟨['?', '>'], hRest _ rfl, rfl⟩
    split at h
    next hFlag =>
      obtain ⟨⟨flags?, last⟩, hFlags, h⟩ := (Outcome.bind_eq_ok_iff _ _ _).mp h
      obtain ⟨letters, hLetters⟩ := inlineFlags_eq_ok (by simpa using hFlag) hFlags
      refine ⟨'?' :: letters ++ [if flags?.isSome then ':' else ')'], ?_, ?_⟩
      · rw [hRest _ rfl, hLetters]
        cases flags? <;> cases h <;> simp
      · cases flags? with
        | none =>
          cases h
          exact trivial
        | some flags =>
          cases h
          exact ⟨letters, rfl⟩
    next => cases h

end AssetAudit.Regex
