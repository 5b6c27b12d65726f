import AssetAudit.Proofs.Outcomes
import AssetAudit.Proofs.Regex.Parts
import AssetAudit.Regex.Compile

/-!
# Reading what has been written

Reading forward: what the reader makes of a text that stands in front of more. Characters, escapes,
repetitions and groups each add one item and leave the rest, when the rest is not a single backslash
and does not go on with the item.
-/
namespace AssetAudit.Regex

namespace Reading

def past (r : Reading) (n : Nat) : Reading :=
  { r with rest := r.rest.drop n, position := r.position + n }

theorem past_past (r : Reading) (m n : Nat) : (r.past m).past n = r.past (m + n) := by
  simp [past, Nat.add_assoc]

theorem rest_past {r : Reading} {t rest : Text} (h : r.rest = t ++ rest) :
    (r.past t.length).rest = rest := by
  rw [past, h, List.drop_left]

theorem move_eq {r : Reading} {n : Nat} (h : r.rest.drop n ≠ ['\\']) : r.move n = .ok (r.past n) :=
  if_neg h

theorem next?_plain {r : Reading} {c : Char} {rest : Text} (h : r.rest = c :: rest)
    (hPlain : c ≠ '\\') : r.next? = some (.plain c) := by
  unfold next?
  rw [h]
  split
  · rename_i hNil
    cases hNil
  · rename_i hCons
    exact absurd (List.cons.inj hCons).1 hPlain
  · rename_i hCons
    rw [(List.cons.inj hCons).1]

theorem next?_escaped {r : Reading} {c : Char} {rest : Text} (h : r.rest = '\\' :: c :: rest) :
    r.next? = some (.escaped c) := by
  rw [next?, h]
  rfl

theorem skip_eq {r : Reading} {t : Token} {rest : Text} (hNext : r.next? = some t)
    (h : r.rest = t.text ++ rest) (hRest : rest ≠ ['\\']) : r.skip = .ok (r.past t.text.length) := by
  rw [skip, hNext]
  exact move_eq (by rw [h, List.drop_left]; exact hRest)

theorem skip_plain {r : Reading} {c : Char} {rest : Text} (h : r.rest = c :: rest)
    (hPlain : c ≠ '\\') (hRest : rest ≠ ['\\']) : r.skip = .ok (r.past 1) :=
  skip_eq (next?_plain h hPlain) h hRest

theorem take_plain {r : Reading} {c : Char} {rest : Text} (h : r.rest = c :: rest)
    (hPlain : c ≠ '\\') (hRest : rest ≠ ['\\']) : r.take = .ok (some (.plain c), r.past 1) := by
  rw [take, skip_plain h hPlain hRest, next?_plain h hPlain]
  rfl

theorem takeIf_eq {r : Reading} {c : Char} {rest : Text} (h : r.rest = c :: rest)
    (hPlain : c ≠ '\\') (hRest : rest ≠ ['\\']) : r.takeIf c = .ok (true, r.past 1) := by
  rw [takeIf, if_pos (next?_plain h hPlain), skip_plain h hPlain hRest]
  rfl

theorem takeIf_of_head_ne {r : Reading} {c : Char} (h : r.rest.head? ≠ some c) :
    r.takeIf c = .ok (false, r) := by
  refine if_neg fun hNext => h ?_
  rw [rest_of_next? hNext]
  rfl

end Reading

def isOrdinary (c : Char) : Bool :=
  !"\\|)[*+?\x7b.^$(".toList.contains c

variable {first : Bool} {items : List Expr} {fuel : Nat} {r : Reading} {rest : Text}

theorem sequenceItems_ordinary {c : Char} (hOrdinary : isOrdinary c = true)
    (h : r.rest = c :: rest) (hRest : rest ≠ ['\\']) :
    sequenceItems first false items (fuel + 1) r =
      sequenceItems first false (.code c.toNat :: items) fuel (r.past 1) := by
  simp [isOrdinary] at hOrdinary
  rw [sequenceItems, Reading.next?_plain h hOrdinary.1, Reading.skip_plain h hOrdinary.1 hRest]
  simp [hOrdinary, bind, Except.bind]

theorem exprEscape_special {c : Char} (h : isSpecial c = true) (r : Reading) :
    exprEscape c r = .ok (.code c.toNat, r) := by
  have hSpecial : ("()[]\x7b\x7d?*+-|^$\\.&~# \t\n\r\x0b\x0c".toList.all fun c =>
      anchor? c = none ∧ category? c = none ∧
        (controlCode? c = none ∨ controlCode? c = some c.toNat) ∧
          isAsciiLetter c = false ∧ isDecimal c = false) = true := by
    decide
  obtain ⟨hAnchor, hCategory, hControl, hLetter, hDigit⟩ :=
    of_decide_eq_true (List.all_eq_true.mp hSpecial c (List.contains_iff_mem.mp h))
  have hCode : codeEscape? c r = none := by
    unfold codeEscape?
    split <;> first | rfl | exact absurd hLetter (by decide)
  have hZero : c ≠ '0' := by
    rintro rfl
    cases hDigit
  unfold exprEscape
  rw [hAnchor, hCategory]
  rcases hControl with hControl | hControl
  · rw [hControl, hCode]
    dsimp only
    rw [if_neg hZero, hDigit, plainEscape, hLetter, hDigit]
    rfl
  · rw [hControl]

theorem sequenceItems_special {c : Char} (hSpecial : isSpecial c = true)
    (h : r.rest = '\\' :: c :: rest) (hRest : rest ≠ ['\\']) :
    sequenceItems first false items (fuel + 1) r =
      sequenceItems first false (.code c.toNat :: items) fuel (r.past 2) := by
  have hNext := Reading.next?_escaped h
  rw [sequenceItems, hNext]
  dsimp only
  rw [Reading.skip_eq hNext h hRest]
  change (exprEscape c (r.past 2) >>= _) = _
  rw [exprEscape_special hSpecial]
  rfl

theorem isOrdinary_of_not_isSpecial {c : Char} (h : isSpecial c = false) : isOrdinary c = true := by
  have hOperators : "\\|)[*+?\x7b.^$(".toList.all isSpecial = true := by
    decide
  rw [isOrdinary, Bool.not_eq_true', ← Bool.not_eq_true]
  intro hOperator
  rw [List.all_eq_true.mp hOperators c (List.contains_iff_mem.mp hOperator)] at h
  cases h

theorem sequenceItems_escapeChar (c : Char) (h : r.rest = escapeChar c ++ rest)
    (hRest : rest ≠ ['\\']) :
    sequenceItems first false items (fuel + 1) r =
      sequenceItems first false (.code c.toNat :: items) fuel (r.past (escapeChar c).length) := by
  cases hSpecial : isSpecial c with
  | true =>
    have hEscape : escapeChar c = ['\\', c] := if_pos hSpecial
    rw [hEscape] at h ⊢
    exact sequenceItems_special hSpecial h hRest
  | false =>
    have hEscape : escapeChar c = [c] := if_neg (Bool.eq_false_iff.mp hSpecial)
    rw [hEscape] at h ⊢
    exact sequenceItems_ordinary (isOrdinary_of_not_isSpecial hSpecial) h hRest

theorem escape_append_ne (t : Text) (hRest : rest ≠ ['\\']) : escape t ++ rest ≠ ['\\'] := by
  cases t with
  | nil => exact hRest
  | cons c t =>
    rw [escape, List.flatMap_cons, escapeChar]
    split
    · simp
    · rename_i hPlain
      intro h
      obtain ⟨rfl, -⟩ := List.cons.inj h
      exact hPlain rfl

theorem head?_escape_append (t : Text) {c : Char} (hSpecial : isSpecial c = true) (hPlain : c ≠ '\\')
    (hRest : rest.head? ≠ some c) : (escape t ++ rest).head? ≠ some c := by
  cases t with
  | nil => exact hRest
  | cons d t =>
    rw [escape, List.flatMap_cons, escapeChar]
    intro h
    split at h
    · exact hPlain (Option.some.inj h).symm
    · rename_i hOrdinary
      obtain rfl : d = c := Option.some.inj h
      exact hOrdinary hSpecial

theorem length_le_length_escape (t : Text) : t.length ≤ (escape t).length := by
  induction t with
  | nil => exact Nat.le_refl 0
  | cons c t ih =>
    have hChar : 0 < (escapeChar c).length := by
      rw [escapeChar]
      split <;> exact Nat.succ_pos _
    rw [escape, List.flatMap_cons, List.length_append, List.length_cons]
    change t.length + 1 ≤ (escapeChar c).length + (escape t).length
    omega

theorem sequenceItems_escape (t : Text) (h : r.rest = escape t ++ rest) (hRest : rest ≠ ['\\']) :
    sequenceItems first false items (fuel + t.length) r =
      sequenceItems first false ((t.map fun c => .code c.toNat).reverse ++ items) fuel
        (r.past (escape t).length) := by
  induction t generalizing r items with
  | nil => rfl
  | cons c t ih =>
    have hEscape : escape (c :: t) = escapeChar c ++ escape t := rfl
    rw [hEscape, List.append_assoc] at h
    rw [List.length_cons, ← Nat.add_assoc,
      sequenceItems_escapeChar c h (escape_append_ne t hRest), ih (Reading.rest_past h),
      Reading.past_past, hEscape, List.length_append]
    simp

theorem sequenceItems_dot (h : r.rest = '.' :: rest) (hRest : rest ≠ ['\\']) :
    sequenceItems first false items (fuel + 1) r =
      sequenceItems first false (.anyChar :: items) fuel (r.past 1) := by
  rw [sequenceItems, Reading.next?_plain h (by decide), Reading.skip_plain h (by decide) hRest]
  rfl

theorem sequenceItems_lineStart (h : r.rest = '^' :: rest) (hRest : rest ≠ ['\\']) :
    sequenceItems first false items (fuel + 1) r =
      sequenceItems first false (.anchor .lineStart :: items) fuel (r.past 1) := by
  rw [sequenceItems, Reading.next?_plain h (by decide), Reading.skip_plain h (by decide) hRest]
  rfl

theorem sequenceItems_lineEnd (h : r.rest = '$' :: rest) (hRest : rest ≠ ['\\']) :
    sequenceItems first false items (fuel + 1) r =
      sequenceItems first false (.anchor .lineEnd :: items) fuel (r.past 1) := by
  rw [sequenceItems, Reading.next?_plain h (by decide), Reading.skip_plain h (by decide) hRest]
  rfl

def Expr.isRepeatable : Expr → Bool
  | .anchor _ | .many _ _ _ _ => false
  | _ => true

theorem repeatLast_eq {item : Expr} (hItem : item.isRepeatable = true) (here : Reading)
    (bounds : Nat × Option Nat) (before : List Expr) (hReluctant : r.rest.head? ≠ some '?')
    (hPossessive : r.rest.head? ≠ some '+') :
    repeatLast here bounds (item :: before) r =
      .ok (.many .greedy bounds.1 bounds.2 item :: before, r) := by
  unfold repeatLast
  split
  · rename_i hNil
    cases hNil
  · rename_i hAnchor
    obtain ⟨rfl, -⟩ := List.cons.inj hAnchor
    cases hItem
  · rename_i hMany
    obtain ⟨rfl, -⟩ := List.cons.inj hMany
    cases hItem
  · rename_i hCons
    obtain ⟨rfl, rfl⟩ := List.cons.inj hCons
    rw [Reading.takeIf_of_head_ne hReluctant]
    change (r.takeIf '+' >>= _) = _
    rw [Reading.takeIf_of_head_ne hPossessive]
    rfl

theorem sequenceItems_repeat {item : Expr} (hItem : item.isRepeatable = true) (sign : Char)
    (hSign : sign = '*' ∨ sign = '?') (h : r.rest = sign :: rest) (hRest : rest ≠ ['\\'])
    (hReluctant : rest.head? ≠ some '?') (hPossessive : rest.head? ≠ some '+') :
    sequenceItems first false (item :: items) (fuel + 1) r =
      sequenceItems first false
        (.many .greedy 0 (if sign = '?' then some 1 else none) item :: items) fuel (r.past 1) := by
  have hPast : (r.past 1).rest = rest := Reading.rest_past (t := [sign]) h
  have hPlain : sign ≠ '\\' := by rcases hSign with rfl | rfl <;> decide
  rw [sequenceItems, Reading.next?_plain h hPlain, Reading.skip_plain h hPlain hRest]
  rcases hSign with rfl | rfl
  all_goals
    change (repeatLast (r.past 1) _ (item :: items) (r.past 1) >>= _) = _
    rw [repeatLast_eq hItem _ _ _ (hPast ▸ hReluctant) (hPast ▸ hPossessive)]
    rfl

theorem sequenceItems_allBut {c : Char} (hPlain : c ≠ '\\')
    (h : r.rest = '[' :: '^' :: c :: ']' :: rest) (hRest : rest ≠ ['\\']) :
    sequenceItems first false items (fuel + 1) r =
      sequenceItems first false (.set true [.code c.toNat] :: items) fuel (r.past 4) := by
  have hCaret : (r.past 1).rest = '^' :: c :: ']' :: rest := Reading.rest_past (t := ['[']) h
  have hFirst : (r.past 2).rest = c :: ']' :: rest := Reading.rest_past (t := ['[', '^']) h
  have hClose : (r.past 3).rest = ']' :: rest := Reading.rest_past (t := ['[', '^', c]) h
  have hSet : charSet (r.past 1) = .ok (.set true [.code c.toNat], r.past 4) := by
    unfold charSet
    rw [Reading.takeIf_eq hCaret (by decide) (by simp), Reading.past_past]
    change (setItems _ ((r.past 2).rest.length + 1) [] (r.past 2) >>= _) = _
    rw [hFirst, List.length_cons, setItems, Reading.take_plain hFirst hPlain (by simp),
      Reading.past_past]
    dsimp only [bind, Except.bind]
    rw [if_neg (by simp), setToken]
    dsimp only
    rw [Reading.takeIf_of_head_ne (by rw [hClose]; simp)]
    dsimp only
    change (setItems _ ((']' :: rest).length + 1) [.code c.toNat] (r.past 3) >>= _) = _
    rw [setItems, Reading.take_plain hClose (by decide) hRest, Reading.past_past]
    rfl
  rw [sequenceItems, Reading.next?_plain h (by decide), Reading.skip_plain h (by decide) (by simp)]
  change (charSet (r.past 1) >>= _) = _
  rw [hSet]
  rfl

theorem sequenceItems_allButMany {c : Char} (hPlain : c ≠ '\\')
    (h : r.rest = '[' :: '^' :: c :: ']' :: '*' :: rest) (hRest : rest ≠ ['\\'])
    (hReluctant : rest.head? ≠ some '?') (hPossessive : rest.head? ≠ some '+') :
    sequenceItems first false items (fuel + 2) r =
      sequenceItems first false (.many .greedy 0 none (.set true [.code c.toNat]) :: items) fuel
        (r.past 5) := by
  have hStar : (r.past 4).rest = '*' :: rest := Reading.rest_past (t := ['[', '^', c, ']']) h
  rw [sequenceItems_allBut hPlain h (by simp),
    sequenceItems_repeat rfl '*' (.inl rfl) hStar hRest hReluctant hPossessive, Reading.past_past]
  rfl

/-- Any number of other characters, and an escaped text behind them. -/
theorem sequenceItems_allButManyThen {c : Char} (t : Text) (hPlain : c ≠ '\\')
    (h : r.rest = '[' :: '^' :: c :: ']' :: '*' :: (escape t ++ rest)) (hRest : rest ≠ ['\\'])
    (hReluctant : rest.head? ≠ some '?') (hPossessive : rest.head? ≠ some '+') :
    sequenceItems first false items (fuel + t.length + 2) r =
      sequenceItems first false ((t.map fun c => .code c.toNat).reverse ++
        .many .greedy 0 none (.set true [.code c.toNat]) :: items) fuel
          (r.past (5 + (escape t).length)) := by
  have hText : (r.past 5).rest = escape t ++ rest :=
    Reading.rest_past (t := ['[', '^', c, ']', '*']) h
  rw [sequenceItems_allButMany hPlain h (escape_append_ne t hRest)
      (head?_escape_append t (by decide) (by decide) hReluctant)
      (head?_escape_append t (by decide) (by decide) hPossessive),
    sequenceItems_escape t hText hRest, Reading.past_past]

theorem sequenceItems_closed {verbose : Bool} (h : r.rest = ')' :: rest) :
    sequenceItems first verbose items (fuel + 1) r = .ok (items, r) := by
  rw [sequenceItems, Reading.next?_plain h (by decide)]
  rfl

theorem sequenceItems_end {verbose : Bool} (h : r.rest = []) :
    sequenceItems first verbose items (fuel + 1) r = .ok (items, r) := by
  rw [sequenceItems, Reading.next?, h]

theorem alternatives_eq {top verbose : Bool} {inside : List Expr} {closed : Reading}
    (h : sequenceItems top verbose [] fuel r = .ok (inside, closed))
    (hBar : closed.rest.head? ≠ some '|') :
    alternatives top verbose [] (fuel + 1) r = .ok (Expr.sequence inside.reverse, closed) := by
  rw [alternatives]
  change (sequenceItems (top && true) verbose [] fuel r >>= _) = _
  rw [Bool.and_true, h]
  change (closed.takeIf '|' >>= _) = _
  rw [Reading.takeIf_of_head_ne hBar]
  rfl

/-- A text without alternatives is compiled to what its items make in sequence. -/
theorem compile_of_items {t : Text} (hStart : t ≠ ['\\'])
    (hItems : sequenceItems true false [] (3 * t.length + 2) { rest := t, position := 0, flags := {} } =
      .ok (items, Reading.past { rest := t, position := 0, flags := {} } t.length))
    (hPlain : ∀ e ∈ items, e.IsPlain) :
    compile t {} =
      .ok { pattern := t, flags := { unicode := true }, expr := Expr.sequence items.reverse } := by
  have hBegin : Reading.begin t {} = .ok { rest := t, position := 0, flags := {} } := if_neg hStart
  have hDone : (Reading.past { rest := t, position := 0, flags := {} } t.length).rest = [] :=
    List.drop_length
  have hNext : (Reading.past { rest := t, position := 0, flags := {} } t.length).next? = none := by
    rw [Reading.next?, hDone]
  have hParse : parse t {} =
      .ok { expr := Expr.sequence items.reverse, flags := { unicode := true }, closed := [] } := by
    unfold parse
    rw [hBegin]
    change (alternatives true false [] (3 * t.length + 3) _ >>= _) = _
    rw [alternatives_eq hItems (by simp [hDone])]
    dsimp only [bind, Except.bind]
    rw [hNext]
    rfl
  have hSequence : (Expr.sequence items.reverse).IsPlain :=
    Expr.isPlain_sequence fun e hMem => hPlain e (List.mem_reverse.mp hMem)
  unfold compile
  rw [hParse]
  dsimp only [bind, Except.bind]
  rw [Expr.fixedLookbehind_of_isPlain hSequence]
  rfl

/-- A group without a number, with one alternative. -/
theorem sequenceItems_group {body : Text} {inside : List Expr} {closed : Reading}
    (h : r.rest = '(' :: '?' :: ':' :: body) (hBody : body ≠ ['\\'])
    (hInside : sequenceItems false false [] fuel (r.past 3) = .ok (inside, closed))
    (hClosed : closed.rest = ')' :: rest) (hRest : rest ≠ ['\\']) :
    sequenceItems first false items (fuel + 2) r =
      sequenceItems first false (.group none {} {} (Expr.sequence inside.reverse) :: items)
        (fuel + 1) (closed.past 1) := by
  have hQuestion : (r.past 1).rest = '?' :: ':' :: body := Reading.rest_past (t := ['(']) h
  have hColon : (r.past 2).rest = ':' :: body := Reading.rest_past (t := ['(', '?']) h
  have hOpening : ∀ start, opening start (r.past 1) = .ok (.plain {} {}, r.past 3) := by
    intro start
    unfold opening
    rw [Reading.takeIf_eq hQuestion (by decide) (by simp), Reading.past_past]
    change ((r.past 2).take >>= _) = _
    rw [Reading.take_plain hColon (by decide) hBody, Reading.past_past]
    rfl
  rw [sequenceItems, Reading.next?_plain h (by decide), Reading.skip_plain h (by decide) (by simp)]
  change (opening _ (r.past 1) >>= _) = _
  rw [hOpening]
  change (alternatives false false [] (fuel + 1) (r.past 3) >>= _) = _
  rw [alternatives_eq hInside (by rw [hClosed]; simp)]
  change (closeParenthesis _ closed >>= _) = _
  rw [closeParenthesis, Reading.takeIf_eq hClosed (by decide) hRest]
  rfl

end AssetAudit.Regex
