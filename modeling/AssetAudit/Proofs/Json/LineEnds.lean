import AssetAudit.Proofs.Json.Spellings
import AssetAudit.Proofs.Text.Lines

/-!
# Spellings with other line ends

Most line ends are control characters, which JSON allows in the layout alone: there any of them may stand
for another. A few are none, and a string may hold them as they are; a line feed in their place
ends the reading. So a spelling whose line ends become line feeds spells the same value or is none.
-/
namespace AssetAudit.Json

def isPlainEnd (c : Char) : Bool :=
  Unicode.isLineEnd c.toNat && 31 < c.toNat

/-- The second text has layout for control characters of the first, and line feeds for its other line
ends. -/
inductive Relined : Text → Text → Prop
  | nil : Relined [] []
  | keep {c : Char} {t u : Text} (hc : Unicode.isLineEnd c.toNat = false) (h : Relined t u) :
      Relined (c :: t) (c :: u)
  | control {c : Char} {l t u : Text} (hc : c.toNat ≤ 31) (hl : IsLayout l) (h : Relined t u) :
      Relined (c :: t) (l ++ u)
  | plain {c : Char} {t u : Text} (hc : isPlainEnd c = true) (h : Relined t u) :
      Relined (c :: t) ('\n' :: u)

structure IsFixed (c : Char) : Prop where
  noControl : 31 < c.toNat
  noEnd : Unicode.isLineEnd c.toNat = false

instance (c : Char) : Decidable (IsFixed c) :=
  decidable_of_iff (31 < c.toNat ∧ Unicode.isLineEnd c.toNat = false)
    ⟨fun h => ⟨h.1, h.2⟩, fun h => ⟨h.noControl, h.noEnd⟩⟩

section Texts

variable {c : Char} {a b l t u w : Text}

theorem relined_relined (t : Text) : Relined t t.relined := by
  have hFeed : IsLayout ['\n'] := by
    intro c hMem
    rw [List.mem_singleton.mp hMem]
    rfl
  fun_induction Text.relined t with
  | case1 => exact .nil
  | case2 t ih => exact .control (by decide) isLayout_nil (.control (by decide) hFeed ih)
  | case3 c t _ ih =>
    split
    · rename_i hEnd
      by_cases hControl : c.toNat ≤ 31
      · exact .control hControl hFeed ih
      · exact .plain (by simp [isPlainEnd, hEnd, Nat.lt_of_not_le hControl]) ih
    · rename_i hKept
      exact .keep (Bool.eq_false_iff.mpr hKept) ih

theorem Relined.append (h : Relined (a ++ b) w) :
    ∃ u v, w = u ++ v ∧ Relined a u ∧ Relined b v := by
  induction a generalizing w with
  | nil => exact ⟨[], w, rfl, .nil, h⟩
  | cons c a ih =>
    cases h with
    | keep hc h =>
      obtain ⟨u, v, rfl, hu, hv⟩ := ih h
      exact ⟨c :: u, v, rfl, .keep hc hu, hv⟩
    | control hc hl h =>
      obtain ⟨u, v, rfl, hu, hv⟩ := ih h
      exact ⟨_ ++ u, v, (List.append_assoc ..).symm, .control hc hl hu, hv⟩
    | plain hc h =>
      obtain ⟨u, v, rfl, hu, hv⟩ := ih h
      exact ⟨'\n' :: u, v, rfl, .plain hc hu, hv⟩

theorem isFixed_of_small (hNoControl : 31 < c.toNat) (hSmall : c.toNat < 128) : IsFixed c := by
  refine ⟨hNoControl, Bool.eq_false_iff.mpr fun hEnd => ?_⟩
  simp only [Unicode.isLineEnd, Bool.or_eq_true, Bool.and_eq_true, decide_eq_true_eq,
    beq_iff_eq] at hEnd
  omega

theorem IsFixed.isPlainEnd (h : IsFixed c) : isPlainEnd c = false := by
  rw [Json.isPlainEnd, h.noEnd, Bool.false_and]

theorem Relined.cons (hc : IsFixed c) (h : Relined (c :: t) w) : ∃ u, w = c :: u ∧ Relined t u := by
  cases h with
  | keep _ h => exact ⟨_, rfl, h⟩
  | control hControl => exact absurd hc.noControl (Nat.not_lt.mpr hControl)
  | plain hPlain =>
    rw [hc.isPlainEnd] at hPlain
    cases hPlain

theorem Relined.eq (h : Relined t u) (hFixed : ∀ c ∈ t, IsFixed c) : u = t := by
  induction t generalizing u with
  | nil =>
    cases h
    rfl
  | cons c t ih =>
    obtain ⟨hFirst, hRest⟩ := List.forall_mem_cons.mp hFixed
    obtain ⟨v, rfl, hMore⟩ := h.cons hFirst
    rw [ih hMore hRest]

theorem any_isPlainEnd_of_isFixed (h : ∀ c ∈ t, IsFixed c) : t.any isPlainEnd = false :=
  List.any_eq_false.mpr fun c hMem => Bool.eq_false_iff.mp (h c hMem).isPlainEnd

theorem isPlainEnd_of_isLayout (h : Source.isLayout c = true) : isPlainEnd c = false := by
  rcases eq_of_isLayout h with rfl | rfl | rfl | rfl
  all_goals rfl

theorem IsLayout.any_isPlainEnd (h : IsLayout l) : l.any isPlainEnd = false :=
  List.any_eq_false.mpr fun c hMem => Bool.eq_false_iff.mp (isPlainEnd_of_isLayout (h c hMem))

theorem Relined.isLayout (h : Relined l u) (hl : IsLayout l) : IsLayout u := by
  induction h with
  | nil => exact isLayout_nil
  | keep _ _ ih =>
    obtain ⟨hFirst, hRest⟩ := List.forall_mem_cons.mp hl
    exact List.forall_mem_cons.mpr ⟨hFirst, ih hRest⟩
  | control _ hNew _ ih => exact hNew.append (ih (List.forall_mem_cons.mp hl).2)
  | plain hc =>
    rw [isPlainEnd_of_isLayout (List.forall_mem_cons.mp hl).1] at hc
    cases hc

end Texts

section Strings

variable {c : Char} {s t u rest got : Text} {start fuel p : Nat}

theorem isFixed_of_hexDigit (h : (hexDigit? c).isSome = true) : IsFixed c := by
  have hRange : 48 ≤ c.toNat ∧ c.toNat ≤ 102 := by
    unfold hexDigit? at h
    split at h
    · rename_i hDigit
      simp only [Bool.and_eq_true, decide_eq_true_eq] at hDigit
      have hLow : '0'.toNat ≤ c.toNat := hDigit.1
      have hHigh : c.toNat ≤ '9'.toNat := hDigit.2
      exact ⟨hLow, hHigh.trans (by decide)⟩
    · split at h
      · rename_i hDigit
        simp only [Bool.and_eq_true, decide_eq_true_eq] at hDigit
        have hLow : 'a'.toNat ≤ c.toNat := hDigit.1
        have hHigh : c.toNat ≤ 'f'.toNat := hDigit.2
        exact ⟨Nat.le_trans (by decide) hLow, hHigh⟩
      · split at h
        · rename_i hDigit
          simp only [Bool.and_eq_true, decide_eq_true_eq] at hDigit
          have hLow : 'A'.toNat ≤ c.toNat := hDigit.1
          have hHigh : c.toNat ≤ 'F'.toNat := hDigit.2
          exact ⟨Nat.le_trans (by decide) hLow, hHigh.trans (by decide)⟩
        · cases h
  exact isFixed_of_small (by omega) (by omega)

theorem isFixed_of_fourHex {ds : Text} {unit : Nat} (hLength : ds.length = 4)
    (h : fourHex? ds = some unit) : ∀ c ∈ ds, IsFixed c := by
  match ds, hLength with
  | [a, b, c, d], _ =>
    unfold fourHex? at h
    simp only [bind, Option.bind_eq_some_iff, pure] at h
    obtain ⟨_, ha, _, hb, _, hc, _, hd, -⟩ := h
    have hFixed : ∀ {x : Char} {n : Nat}, hexDigit? x = some n → IsFixed x := fun hx =>
      isFixed_of_hexDigit (by rw [hx]; rfl)
    simp only [List.forall_mem_cons]
    exact ⟨hFixed ha, hFixed hb, hFixed hc, hFixed hd, List.forall_mem_nil _⟩

theorem isFixed_of_escaped {e : Char} (h : escaped? e = some c) : IsFixed e := by
  unfold escaped? at h
  split at h
  all_goals first | decide | cases h

/-- A character is spelled by itself, or by characters that are changed nowhere. -/
theorem IsChar.cases_fixed (h : IsChar c t) :
    (t = [c] ∧ 31 < c.toNat) ∨ ∀ x ∈ t, IsFixed x := by
  have hSlash : IsFixed '\\' := by decide
  have hUnit : IsFixed 'u' := by decide
  cases h with
  | plain hControl _ _ => exact .inl ⟨rfl, hControl⟩
  | short h =>
    simp only [List.forall_mem_cons]
    exact .inr ⟨hSlash, isFixed_of_escaped h, List.forall_mem_nil _⟩
  | unit hLength h _ =>
    simp only [List.forall_mem_cons]
    exact .inr ⟨hSlash, hUnit, isFixed_of_fourHex hLength h⟩
  | pair hHighLength hHigh hLowLength hLow _ _ =>
    simp only [List.forall_mem_cons, List.forall_mem_append]
    exact .inr ⟨hSlash, hUnit, isFixed_of_fourHex hHighLength hHigh, hSlash, hUnit,
      isFixed_of_fourHex hLowLength hLow⟩

theorem IsChar.isFixed (h : IsChar c t) (hNone : t.any isPlainEnd = false) : ∀ x ∈ t, IsFixed x := by
  rcases h.cases_fixed with ⟨rfl, hControl⟩ | hFixed
  · intro x hMem
    rw [List.mem_singleton.mp hMem]
    refine ⟨hControl, Bool.eq_false_iff.mpr fun hEnd => ?_⟩
    simp [Json.isPlainEnd, hEnd, hControl] at hNone
  · exact hFixed

/-- A string without plain line ends is changed nowhere. -/
theorem IsString.isFixed (h : IsString s t) (hNone : t.any isPlainEnd = false) :
    ∀ x ∈ t, IsFixed x := by
  induction h with
  | nil => exact List.forall_mem_nil _
  | cons hFirst _ ih =>
    rw [List.any_append, Bool.or_eq_false_iff] at hNone
    exact List.forall_mem_append.mpr ⟨hFirst.isFixed hNone.1, ih hNone.2⟩

/-- A line feed in the place of a plain line end ends the reading. -/
theorem stringBody_fails (h : IsString s t) (hRelined : Relined t u) (hSome : t.any isPlainEnd = true)
    (hFuel : u.length < fuel) :
    ∃ e, stringBody start fuel got ⟨u ++ '"' :: rest, p⟩ = .error e := by
  induction h generalizing u got fuel p with
  | nil => cases hSome
  | @cons c s t₁ t₂ hFirst hRest ih =>
    obtain ⟨fuel, rfl⟩ : ∃ k, fuel = k + 1 := ⟨fuel - 1, by omega⟩
    obtain ⟨u, v, rfl, hu, hv⟩ := hRelined.append
    cases hHere : t₁.any isPlainEnd with
    | true =>
      rcases hFirst.cases_fixed with ⟨rfl, hControl⟩ | hFixed
      · cases hu with
        | keep hc hNil =>
          simp [isPlainEnd, hc] at hHere
        | control hc => exact absurd hControl (Nat.not_lt.mpr hc)
        | plain _ hNil =>
          rw [stringBody]
          exact ⟨_, rfl⟩
      · rw [any_isPlainEnd_of_isFixed hFixed] at hHere
        cases hHere
    | false =>
      obtain rfl := hu.eq (hFirst.isFixed hHere)
      have hLength := List.length_pos_iff.mpr hFirst.ne_nil
      rw [List.any_append, hHere, Bool.false_or] at hSome
      rw [List.length_append] at hFuel
      rw [List.append_assoc, stringBody_char hFirst (by simp)]
      exact ih hv hSome (by omega)

def FailsInQuotes (u : Text) : Prop :=
  ∀ rest p, ∃ e, readString ⟨'"' :: (u ++ '"' :: rest), p⟩ = .error e

theorem IsString.relined (h : IsString s t) (hRelined : Relined t u) :
    (t.any isPlainEnd = false → IsString s u) ∧ (t.any isPlainEnd = true → FailsInQuotes u) := by
  constructor
  · intro hNone
    rw [hRelined.eq (h.isFixed hNone)]
    exact h
  · intro hSome rest p
    apply stringBody_fails h hRelined hSome
    rw [List.length_cons, List.length_append]
    omega

end Strings

section Scalars

variable {c : Char} {t u w : Text} {s : Scalar}

theorem isFixed_of_digit (h : c.isDigit = true) : IsFixed c := by
  have hRange : 48 ≤ c.toNat ∧ c.toNat ≤ 57 := Char.isDigit_iff_toNat.mp h
  exact isFixed_of_small (by omega) (by omega)

theorem isFixed_word (h : (w, s) ∈ words) : ∀ c ∈ w, IsFixed c := by
  have hAll : words.all (·.1.all (decide <| IsFixed ·)) = true := by decide
  intro c hMem
  exact of_decide_eq_true (List.all_eq_true.mp (List.all_eq_true.mp hAll _ h) c hMem)

theorem isFixed_exponent {e : Text} {n : Option Int} (h : IsExponent e n) : ∀ c ∈ e, IsFixed c := by
  have hMark : ∀ {mark : Char}, mark = 'e' ∨ mark = 'E' → IsFixed mark := by
    rintro _ (rfl | rfl)
    all_goals decide
  have hPlus : IsFixed '+' := by decide
  have hMinus : IsFixed '-' := by decide
  cases h with
  | none => exact List.forall_mem_nil _
  | plain h _ hDigits =>
    exact List.forall_mem_cons.mpr ⟨hMark h, fun c hMem => isFixed_of_digit (hDigits c hMem)⟩
  | positive h _ hDigits =>
    exact List.forall_mem_cons.mpr ⟨hMark h, List.forall_mem_cons.mpr
      ⟨hPlus, fun c hMem => isFixed_of_digit (hDigits c hMem)⟩⟩
  | negative h _ hDigits =>
    exact List.forall_mem_cons.mpr ⟨hMark h, List.forall_mem_cons.mpr
      ⟨hMinus, fun c hMem => isFixed_of_digit (hDigits c hMem)⟩⟩

theorem isFixed_number (h : IsNumber s t) : ∀ c ∈ t, IsFixed c := by
  obtain ⟨n, hText, -⟩ := h
  obtain ⟨e, hExponent, rfl⟩ := hText.text
  have hPoint : IsFixed '.' := by decide
  have hMinus : IsFixed '-' := by decide
  simp only [List.forall_mem_append]
  refine ⟨?_, fun c hMem => isFixed_of_digit (hText.wholeDigits c hMem), ?_,
    isFixed_exponent hExponent⟩
  · unfold signText
    split
    · exact List.forall_mem_singleton.mpr hMinus
    · exact List.forall_mem_nil _
  · unfold fractionText
    split
    · exact List.forall_mem_nil _
    · exact List.forall_mem_cons.mpr
        ⟨hPoint, fun c hMem => isFixed_of_digit (hText.fractionDigits c hMem)⟩

theorem exists_starts_relined {v : Value} (h : Spells v t) (hRelined : Relined t u) :
    ∃ c r, u = c :: r ∧ Starts c := by
  obtain ⟨c, r, rfl, hStart⟩ := exists_starts h
  have hFixed : IsFixed c := by
    cases h with
    | word h => exact isFixed_word h c List.mem_cons_self
    | number h => exact isFixed_number h c List.mem_cons_self
    | text | emptyList | list | emptyMap | map => decide
  obtain ⟨r, rfl, -⟩ := hRelined.cons hFixed
  exact ⟨c, r, rfl, hStart⟩

end Scalars

def FailsAsValue (u : Text) : Prop :=
  ∀ fuel, 2 * u.length ≤ fuel → ∀ rest p, ∃ e, readValue fuel ⟨u ++ rest, p⟩ = .error e

section Parts

variable {α β : Type} {R : α → α → Prop} {as bs : List α}

theorem exists_left_of_mem (h : List.Forall₂ R as bs) : ∀ b ∈ bs, ∃ a ∈ as, R a b := by
  induction h with
  | nil => exact List.forall_mem_nil _
  | @cons a b as bs hFirst _ ih =>
    refine List.forall_mem_cons.mpr ⟨⟨a, List.mem_cons_self, hFirst⟩, fun b hMem => ?_⟩
    obtain ⟨a, hMem, hRel⟩ := ih b hMem
    exact ⟨a, List.mem_cons_of_mem _ hMem, hRel⟩

theorem exists_right_of_mem (h : List.Forall₂ R as bs) {a : α} (hMem : a ∈ as) : ∃ b ∈ bs, R a b :=
  exists_left_of_mem h.flip a hMem

theorem map_eq_of_forall₂ {f : α → β} (h : List.Forall₂ R as bs) (hSame : ∀ a b, R a b → f b = f a) :
    bs.map f = as.map f := by
  induction h with
  | nil => rfl
  | cons hFirst _ ih => rw [List.map_cons, List.map_cons, hSame _ _ hFirst, ih]

/-- The plain line ends of a list or a mapping are those of its parts. -/
theorem any_parts {whole : α → Text} {inner : α → Bool} {first : α} {more : List α} {closing : Text}
    (hWhole : ∀ i ∈ first :: more, (whole i).any isPlainEnd = inner i) (hClosing : IsLayout closing)
    {opening close : Char} (hOpening : IsFixed opening) (hClose : IsFixed close) :
    (opening :: (whole first ++ (more.flatMap (fun i => ',' :: whole i) ++ (closing ++ [close])))).any
      isPlainEnd = (first :: more).any inner := by
  have hComma : isPlainEnd ',' = false := rfl
  have hMore : (more.flatMap fun i => ',' :: whole i).any isPlainEnd = more.any inner := by
    rw [List.any_flatMap, Bool.eq_iff_iff, List.any_eq_true, List.any_eq_true]
    refine exists_congr fun i => and_congr_right fun hMem => ?_
    rw [List.any_cons, hComma, Bool.false_or, hWhole i (List.mem_cons_of_mem _ hMem)]
  simp only [List.any_cons, List.any_append, List.any_nil, Bool.false_or, Bool.or_false,
    hOpening.isPlainEnd, hClose.isPlainEnd, hClosing.any_isPlainEnd, hMore,
    hWhole first List.mem_cons_self]

/-- Behind commas each part becomes a part. -/
theorem Relined.parts {whole : α → Text} {more : List α} {w : Text}
    (hWhole : ∀ {a w}, Relined (whole a) w → ∃ b, w = whole b ∧ R a b)
    (h : Relined (more.flatMap fun i => ',' :: whole i) w) :
    ∃ others : List α, w = (others.flatMap fun i => ',' :: whole i) ∧ List.Forall₂ R more others := by
  induction more generalizing w with
  | nil =>
    cases h
    exact ⟨[], rfl, .nil⟩
  | cons i more ih =>
    obtain ⟨_, rest, rfl, hFirst, hRest⟩ := h.append
    obtain ⟨_, rfl, hPart⟩ := hFirst.cons (by decide)
    obtain ⟨j, rfl, hRel⟩ := hWhole hPart
    obtain ⟨others, rfl, hOthers⟩ := ih hRest
    exact ⟨j :: others, rfl, .cons hRel hOthers⟩

/-- A list or a mapping of some parts becomes one of as many. -/
theorem Relined.enclosed {whole : α → Text} {first : α} {more : List α} {closing w : Text}
    {opening close : Char} (hWhole : ∀ {a w}, Relined (whole a) w → ∃ b, w = whole b ∧ R a b)
    (hOpening : IsFixed opening) (hClose : IsFixed close)
    (h : Relined (opening :: (whole first ++
      ((more.flatMap fun i => ',' :: whole i) ++ (closing ++ [close])))) w) :
    ∃ (j : α) (others : List α) (last : Text),
      w = opening :: (whole j ++ ((others.flatMap fun i => ',' :: whole i) ++ (last ++ [close]))) ∧
        List.Forall₂ R (first :: more) (j :: others) ∧ Relined closing last := by
  obtain ⟨_, rfl, hInside⟩ := h.cons hOpening
  obtain ⟨_, _, rfl, hFirst, hBehind⟩ := hInside.append
  obtain ⟨j, rfl, hRel⟩ := hWhole hFirst
  obtain ⟨_, _, rfl, hMore, hEnd⟩ := hBehind.append
  obtain ⟨others, rfl, hOthers⟩ := hMore.parts hWhole
  obtain ⟨last, _, rfl, hLast, hClosed⟩ := hEnd.append
  obtain rfl := hClosed.eq (List.forall_mem_singleton.mpr hClose)
  exact ⟨j, others, last, rfl, .cons hRel hOthers, hLast⟩

end Parts

section Lists

structure Item.Relined (i j : Item) : Prop where
  before : Json.Relined i.before j.before
  text : Json.Relined i.text j.text
  after : Json.Relined i.after j.after
  value : j.value = i.value

variable {first i j : Item} {more others : List Item} {closing rest w : Text} {fuel p : Nat}

theorem Item.Relined.hasLayout (h : i.Relined j) (hLayout : i.HasLayout) : j.HasLayout where
  before := h.before.isLayout hLayout.before
  after := h.after.isLayout hLayout.after

theorem Item.HasLayout.any_whole (h : i.HasLayout) :
    i.whole.any isPlainEnd = i.text.any isPlainEnd := by
  rw [Item.whole, List.any_append, List.any_append, h.before.any_isPlainEnd, h.after.any_isPlainEnd,
    Bool.false_or, Bool.or_false]

theorem Relined.item (h : Relined i.whole w) : ∃ j : Item, w = j.whole ∧ i.Relined j := by
  obtain ⟨before, _, rfl, hBefore, h⟩ := h.append
  obtain ⟨text, after, rfl, hText, hAfter⟩ := h.append
  exact ⟨⟨before, text, after, i.value⟩, rfl, hBefore, hText, hAfter, rfl⟩

theorem readItems_error {got : List Value} {s : Source} {e : ReadError}
    (h : readValue fuel s = .error e) : readItems (fuel + 1) got s = .error e := by
  rw [readItems, h]
  rfl

theorem readItems_fails (hLayout : ∀ i ∈ first :: more, i.HasLayout) (hClosing : IsLayout closing)
    (hStarts : ∀ i ∈ first :: more, ∃ c r, i.text = c :: r ∧ Starts c)
    (hEach : ∀ i ∈ first :: more, ReadsAs i.value i.text ∨ FailsAsValue i.text)
    (hSome : ∃ i ∈ first :: more, FailsAsValue i.text) (got : List Value)
    (hFuel : 2 * (first.text.length + (more.flatMap (',' :: ·.whole)).length) + 1 ≤ fuel)
    (rest : Text) (p : Nat) :
    ∃ e, readItems fuel got ⟨first.text ++ behindItem first more closing rest, p⟩ = .error e := by
  induction more generalizing first got fuel p with
  | nil =>
    obtain ⟨fuel, rfl⟩ : ∃ k, fuel = k + 1 := ⟨fuel - 1, by omega⟩
    obtain ⟨i, hMem, hFails⟩ := hSome
    obtain rfl := List.mem_singleton.mp hMem
    obtain ⟨e, hError⟩ := hFails fuel (by omega) (behindItem i [] closing rest) p
    exact ⟨e, readItems_error hError⟩
  | cons i others ih =>
    obtain ⟨fuel, rfl⟩ : ∃ k, fuel = k + 1 := ⟨fuel - 1, by omega⟩
    by_cases hFirstFails : FailsAsValue first.text
    · obtain ⟨e, hError⟩ := hFirstFails fuel (by omega) (behindItem first (i :: others) closing rest) p
      exact ⟨e, readItems_error hError⟩
    · have hFirst := hLayout first List.mem_cons_self
      have hReads := (hEach first List.mem_cons_self).resolve_right hFirstFails
      have hItem := hReads fuel (by omega) (behindItem first (i :: others) closing rest) p
        (endsNumber_behindItem (i :: others) hFirst hClosing rest)
      obtain ⟨q, hNext⟩ := readItems_next hFirst (hLayout i (List.mem_cons_of_mem _ List.mem_cons_self))
        (hStarts i (List.mem_cons_of_mem _ List.mem_cons_self)) hItem got
      have hLength := length_flatMap_items i others
      have hLater : ∃ j ∈ i :: others, FailsAsValue j.text := by
        obtain ⟨j, hMem, hFails⟩ := hSome
        rcases List.mem_cons.mp hMem with rfl | hMem
        · exact absurd hFails hFirstFails
        · exact ⟨j, hMem, hFails⟩
      rw [hNext]
      exact ih (fun j hMem => hLayout j (List.mem_cons_of_mem _ hMem))
        (fun j hMem => hStarts j (List.mem_cons_of_mem _ hMem))
        (fun j hMem => hEach j (List.mem_cons_of_mem _ hMem)) hLater (first.value :: got) (by omega) q

end Lists

section Maps

structure Member.Relined (m n : Member) : Prop where
  before : Json.Relined m.before n.before
  keyText : Json.Relined m.keyText n.keyText
  beforeColon : Json.Relined m.beforeColon n.beforeColon
  afterColon : Json.Relined m.afterColon n.afterColon
  text : Json.Relined m.text n.text
  after : Json.Relined m.after n.after
  key : n.key = m.key
  value : n.value = m.value

def Member.Fails (m : Member) : Prop :=
  FailsInQuotes m.keyText ∨ IsString m.key m.keyText ∧ FailsAsValue m.text

def Member.Reads (m : Member) : Prop :=
  IsString m.key m.keyText ∧ ReadsAs m.value m.text

variable {first m n : Member} {more others : List Member} {closing rest w : Text} {fuel p : Nat}
  {got : Entries Value}

theorem Member.Relined.hasLayout (h : m.Relined n) (hLayout : m.HasLayout) : n.HasLayout where
  before := h.before.isLayout hLayout.before
  beforeColon := h.beforeColon.isLayout hLayout.beforeColon
  afterColon := h.afterColon.isLayout hLayout.afterColon
  after := h.after.isLayout hLayout.after

theorem Member.Relined.entry (h : m.Relined n) : n.entry = m.entry := by
  rw [Member.entry, Member.entry, h.key, h.value]

theorem Member.HasLayout.any_whole (h : m.HasLayout) :
    m.whole.any isPlainEnd = (m.keyText.any isPlainEnd || m.text.any isPlainEnd) := by
  have hQuote : isPlainEnd '"' = false := rfl
  have hColon : isPlainEnd ':' = false := rfl
  simp [Member.whole, h.before.any_isPlainEnd, h.beforeColon.any_isPlainEnd,
    h.afterColon.any_isPlainEnd, h.after.any_isPlainEnd, hQuote, hColon]

theorem Relined.member (h : Relined m.whole w) : ∃ n : Member, w = n.whole ∧ m.Relined n := by
  have hQuote : IsFixed '"' := by decide
  obtain ⟨before, _, rfl, hBefore, hQuoted⟩ := h.append
  obtain ⟨_, rfl, hInside⟩ := hQuoted.cons hQuote
  obtain ⟨keyText, _, rfl, hKey, hClosed⟩ := hInside.append
  obtain ⟨_, rfl, hBehindKey⟩ := hClosed.cons hQuote
  obtain ⟨beforeColon, _, rfl, hBeforeColon, hColon⟩ := hBehindKey.append
  obtain ⟨_, rfl, hBehindColon⟩ := hColon.cons (by decide)
  obtain ⟨afterColon, _, rfl, hAfterColon, hValue⟩ := hBehindColon.append
  obtain ⟨text, after, rfl, hText, hAfter⟩ := hValue.append
  exact ⟨⟨before, keyText, beforeColon, afterColon, text, after, m.key, m.value⟩, rfl, hBefore, hKey,
    hBeforeColon, hAfterColon, hText, hAfter, rfl, rfl⟩

theorem readEntries_error (h : m.Fails) (hLayout : m.HasLayout)
    (hStarts : ∃ c r, m.text = c :: r ∧ Starts c) (hFuel : 2 * m.text.length ≤ fuel) (behind : Text)
    (p : Nat) : ∃ e, readEntries (fuel + 1) got ⟨memberText m behind, p⟩ = .error e := by
  rw [readEntries, if_neg (fun h => h rfl)]
  rcases h with hKey | ⟨hKey, hValue⟩
  · obtain ⟨e, hError⟩ := hKey (m.beforeColon ++ ':' :: (m.afterColon ++ (m.text ++ behind))) p
    rw [hError]
    exact ⟨e, rfl⟩
  · obtain ⟨c, r, hText, hStart⟩ := hStarts
    rw [readString_append hKey]
    dsimp only [bind, Except.bind]
    rw [skipLayout_append hLayout.beforeColon (c := ':') rfl, if_neg (fun h => h rfl), drop_one]
    have hNext : ∀ q, Source.skipLayout ⟨m.afterColon ++ (m.text ++ behind), q⟩ =
        ⟨m.text ++ behind, q + m.afterColon.length⟩ := by
      intro q
      rw [hText]
      exact skipLayout_append hLayout.afterColon hStart.layout _ q
    rw [hNext]
    obtain ⟨e, hError⟩ := hValue fuel hFuel behind _
    rw [hError]
    exact ⟨e, rfl⟩

theorem readEntries_fails (hLayout : ∀ m ∈ first :: more, m.HasLayout) (hClosing : IsLayout closing)
    (hStarts : ∀ m ∈ first :: more, ∃ c r, m.text = c :: r ∧ Starts c)
    (hEach : ∀ m ∈ first :: more, m.Reads ∨ m.Fails) (hSome : ∃ m ∈ first :: more, m.Fails)
    (got : Entries Value)
    (hFuel : 2 * (first.text.length + (more.flatMap (',' :: ·.whole)).length) + 1 ≤ fuel)
    (rest : Text) (p : Nat) :
    ∃ e, readEntries fuel got ⟨memberText first (behindMember first more closing rest), p⟩ =
      .error e := by
  induction more generalizing first got fuel p with
  | nil =>
    obtain ⟨fuel, rfl⟩ : ∃ k, fuel = k + 1 := ⟨fuel - 1, by omega⟩
    obtain ⟨m, hMem, hFails⟩ := hSome
    obtain rfl := List.mem_singleton.mp hMem
    exact readEntries_error hFails (hLayout m hMem) (hStarts m hMem) (by omega) _ p
  | cons m others ih =>
    obtain ⟨fuel, rfl⟩ : ∃ k, fuel = k + 1 := ⟨fuel - 1, by omega⟩
    have hFirst := hLayout first List.mem_cons_self
    have hFirstStarts := hStarts first List.mem_cons_self
    by_cases hFirstFails : first.Fails
    · exact readEntries_error hFirstFails hFirst hFirstStarts (by omega) _ p
    · obtain ⟨hKey, hReads⟩ := (hEach first List.mem_cons_self).resolve_right hFirstFails
      obtain ⟨q, hEntry⟩ := readsEntry_memberText hFirst hKey hFirstStarts hReads fuel (by omega)
        (endsNumber_behindMember (m :: others) hFirst hClosing rest) p
      obtain ⟨q, hNext⟩ := readEntries_next hFirst
        (hLayout m (List.mem_cons_of_mem _ List.mem_cons_self)) hEntry got
      have hLength := length_flatMap_members m others
      have hLater : ∃ n ∈ m :: others, n.Fails := by
        obtain ⟨n, hMem, hFails⟩ := hSome
        rcases List.mem_cons.mp hMem with rfl | hMem
        · exact absurd hFails hFirstFails
        · exact ⟨n, hMem, hFails⟩
      rw [hNext]
      exact ih (fun n hMem => hLayout n (List.mem_cons_of_mem _ hMem))
        (fun n hMem => hStarts n (List.mem_cons_of_mem _ hMem))
        (fun n hMem => hEach n (List.mem_cons_of_mem _ hMem)) hLater
        (got.insert (.text first.key) first.value) (by omega) q

end Maps

section Values

variable {v : Value} {t u : Text}

/-- What becomes of a spelling when its line ends are other ones. -/
def Relines (v : Value) (t : Text) : Prop :=
  ∀ {u}, Relined t u →
    (t.any isPlainEnd = false → Spells v u) ∧ (t.any isPlainEnd = true → FailsAsValue u)

theorem relines_of_isFixed (h : Spells v t) (hFixed : ∀ c ∈ t, IsFixed c) : Relines v t := by
  intro u hRelined
  rw [hRelined.eq hFixed, any_isPlainEnd_of_isFixed hFixed]
  exact ⟨fun _ => h, fun hSome => absurd hSome Bool.false_ne_true⟩

theorem relines_text {s : Text} (h : IsString s t) : Relines (.text s) ('"' :: (t ++ ['"'])) := by
  intro w hRelined
  have hQuote : IsFixed '"' := by decide
  obtain ⟨_, rfl, hInside⟩ := hRelined.cons hQuote
  obtain ⟨u, _, rfl, hText, hClosed⟩ := hInside.append
  obtain rfl := hClosed.eq (List.forall_mem_singleton.mpr hQuote)
  obtain ⟨hSpelled, hFails⟩ := h.relined hText
  simp only [List.any_cons, List.any_append, List.any_nil, hQuote.isPlainEnd, Bool.false_or,
    Bool.or_false]
  refine ⟨fun hNone => .text (hSpelled hNone), fun hSome fuel hFuel rest p => ?_⟩
  obtain ⟨fuel, rfl⟩ : ∃ k, fuel = k + 1 := ⟨fuel - 1, by rw [List.length_cons] at hFuel; omega⟩
  obtain ⟨e, hError⟩ := hFails hSome rest p
  rw [List.cons_append, List.append_assoc, List.singleton_append, readValue]
  dsimp only
  rw [hError]
  exact ⟨e, rfl⟩

theorem relines_empty {l : Text} {opening close : Char} (hLayout : IsLayout l)
    (hOpening : IsFixed opening) (hClose : IsFixed close)
    (h : ∀ {l : Text}, IsLayout l → Spells v (opening :: (l ++ [close]))) :
    Relines v (opening :: (l ++ [close])) := by
  intro w hRelined
  obtain ⟨_, rfl, hInside⟩ := hRelined.cons hOpening
  obtain ⟨u, _, rfl, hInner, hClosed⟩ := hInside.append
  obtain rfl := hClosed.eq (List.forall_mem_singleton.mpr hClose)
  simp only [List.any_cons, List.any_append, List.any_nil, hOpening.isPlainEnd, hClose.isPlainEnd,
    hLayout.any_isPlainEnd, Bool.or_false]
  exact ⟨fun _ => h (hInner.isLayout hLayout),
    fun hSome => absurd hSome Bool.false_ne_true⟩

theorem relines_list {first : Item} {more : List Item} {closing : Text}
    (hLayout : ∀ i ∈ first :: more, i.HasLayout) (hClosing : IsLayout closing)
    (h : ∀ i ∈ first :: more, Spells i.value i.text)
    (ih : ∀ i ∈ first :: more, Relines i.value i.text) :
    Relines (.list ((first :: more).map (·.value)))
      ('[' :: (first.whole ++ (more.flatMap (',' :: ·.whole) ++ (closing ++ [']'])))) := by
  intro w hRelined
  have hOpen : IsFixed '[' := by decide
  have hClose : IsFixed ']' := by decide
  obtain ⟨j, others, last, rfl, hAll, hLast⟩ := hRelined.enclosed Relined.item hOpen hClose
  have hNewLayout : ∀ k ∈ j :: others, k.HasLayout := by
    intro k hMem
    obtain ⟨i, hOld, hRel⟩ := exists_left_of_mem hAll k hMem
    exact hRel.hasLayout (hLayout i hOld)
  have hNewClosing := hLast.isLayout hClosing
  rw [any_parts (fun i hMem => (hLayout i hMem).any_whole) hClosing hOpen hClose]
  constructor
  · intro hNone
    rw [← map_eq_of_forall₂ hAll fun _ _ hRel => hRel.value]
    refine .list hNewLayout hNewClosing fun k hMem => ?_
    obtain ⟨i, hOld, hRel⟩ := exists_left_of_mem hAll k hMem
    rw [hRel.value]
    exact (ih i hOld hRel.text).1 (Bool.eq_false_iff.mpr (List.any_eq_false.mp hNone i hOld))
  · intro hSome fuel hFuel rest p
    obtain ⟨fuel, rfl⟩ : ∃ k, fuel = k + 1 := ⟨fuel - 1, by rw [List.length_cons] at hFuel; omega⟩
    have hStarts : ∀ k ∈ j :: others, ∃ c r, k.text = c :: r ∧ Starts c := by
      intro k hMem
      obtain ⟨i, hOld, hRel⟩ := exists_left_of_mem hAll k hMem
      exact exists_starts_relined (h i hOld) hRel.text
    have hEach : ∀ k ∈ j :: others, ReadsAs k.value k.text ∨ FailsAsValue k.text := by
      intro k hMem
      obtain ⟨i, hOld, hRel⟩ := exists_left_of_mem hAll k hMem
      cases hEnds : i.text.any isPlainEnd with
      | false => exact .inl (hRel.value ▸ readsAs_of_spells ((ih i hOld hRel.text).1 hEnds))
      | true => exact .inr ((ih i hOld hRel.text).2 hEnds)
    have hBroken : ∃ k ∈ j :: others, FailsAsValue k.text := by
      obtain ⟨i, hOld, hEnds⟩ := List.any_eq_true.mp hSome
      obtain ⟨k, hMem, hRel⟩ := exists_right_of_mem hAll hOld
      exact ⟨k, hMem, (ih i hOld hRel.text).2 hEnds⟩
    obtain ⟨e, hError⟩ := readItems_fails hNewLayout hNewClosing hStarts hEach hBroken []
      (fuel_items hFuel) rest (p + 1 + j.before.length)
    rw [readValue_items others last (hNewLayout j List.mem_cons_self)
      (hStarts j List.mem_cons_self), hError]
    exact ⟨e, rfl⟩

theorem Member.Relined.spelled {m n : Member} (h : m.Relined n) (hKey : IsString m.key m.keyText)
    (hValue : Relines m.value m.text)
    (hNone : (m.keyText.any isPlainEnd || m.text.any isPlainEnd) = false) :
    IsString n.key n.keyText ∧ Spells n.value n.text := by
  rw [Bool.or_eq_false_iff] at hNone
  rw [h.key, h.value]
  exact ⟨(hKey.relined h.keyText).1 hNone.1, (hValue h.text).1 hNone.2⟩

theorem Member.Relined.fails {m n : Member} (h : m.Relined n) (hKey : IsString m.key m.keyText)
    (hValue : Relines m.value m.text)
    (hSome : (m.keyText.any isPlainEnd || m.text.any isPlainEnd) = true) : n.Fails := by
  obtain ⟨hSpelled, hFails⟩ := hKey.relined h.keyText
  cases hInKey : m.keyText.any isPlainEnd with
  | true => exact .inl (hFails hInKey)
  | false =>
    rw [hInKey, Bool.false_or] at hSome
    exact .inr ⟨h.key ▸ hSpelled hInKey, (hValue h.text).2 hSome⟩

theorem relines_map {first : Member} {more : List Member} {closing : Text}
    (hLayout : ∀ m ∈ first :: more, m.HasLayout) (hClosing : IsLayout closing)
    (hKeys : ∀ m ∈ first :: more, IsString m.key m.keyText)
    (h : ∀ m ∈ first :: more, Spells m.value m.text)
    (ih : ∀ m ∈ first :: more, Relines m.value m.text) :
    Relines (.map (Entries.ofList ((first :: more).map (·.entry))))
      ('\x7b' :: (first.whole ++ (more.flatMap (',' :: ·.whole) ++ (closing ++ ['\x7d'])))) := by
  intro w hRelined
  have hOpen : IsFixed '\x7b' := by decide
  have hClose : IsFixed '\x7d' := by decide
  obtain ⟨n, others, last, rfl, hAll, hLast⟩ := hRelined.enclosed Relined.member hOpen hClose
  have hNewLayout : ∀ k ∈ n :: others, k.HasLayout := by
    intro k hMem
    obtain ⟨m, hOld, hRel⟩ := exists_left_of_mem hAll k hMem
    exact hRel.hasLayout (hLayout m hOld)
  have hNewClosing := hLast.isLayout hClosing
  rw [any_parts (fun m hMem => (hLayout m hMem).any_whole) hClosing hOpen hClose]
  constructor
  · intro hNone
    have hNew : ∀ k ∈ n :: others, IsString k.key k.keyText ∧ Spells k.value k.text := by
      intro k hMem
      obtain ⟨m, hOld, hRel⟩ := exists_left_of_mem hAll k hMem
      exact hRel.spelled (hKeys m hOld) (ih m hOld)
        (Bool.eq_false_iff.mpr (List.any_eq_false.mp hNone m hOld))
    rw [← map_eq_of_forall₂ hAll fun _ _ hRel => hRel.entry]
    exact .map hNewLayout hNewClosing (fun k hMem => (hNew k hMem).1) fun k hMem => (hNew k hMem).2
  · intro hSome fuel hFuel rest p
    obtain ⟨fuel, rfl⟩ : ∃ k, fuel = k + 1 := ⟨fuel - 1, by rw [List.length_cons] at hFuel; omega⟩
    have hStarts : ∀ k ∈ n :: others, ∃ c r, k.text = c :: r ∧ Starts c := by
      intro k hMem
      obtain ⟨m, hOld, hRel⟩ := exists_left_of_mem hAll k hMem
      exact exists_starts_relined (h m hOld) hRel.text
    have hEach : ∀ k ∈ n :: others, k.Reads ∨ k.Fails := by
      intro k hMem
      obtain ⟨m, hOld, hRel⟩ := exists_left_of_mem hAll k hMem
      cases hEnds : m.keyText.any isPlainEnd || m.text.any isPlainEnd with
      | false =>
        obtain ⟨hKey, hSpells⟩ := hRel.spelled (hKeys m hOld) (ih m hOld) hEnds
        exact .inl ⟨hKey, readsAs_of_spells hSpells⟩
      | true => exact .inr (hRel.fails (hKeys m hOld) (ih m hOld) hEnds)
    have hBroken : ∃ k ∈ n :: others, k.Fails := by
      obtain ⟨m, hOld, hEnds⟩ := List.any_eq_true.mp hSome
      obtain ⟨k, hMem, hRel⟩ := exists_right_of_mem hAll hOld
      exact ⟨k, hMem, hRel.fails (hKeys m hOld) (ih m hOld) hEnds⟩
    obtain ⟨e, hError⟩ := readEntries_fails hNewLayout hNewClosing hStarts hEach hBroken []
      (fuel_entries hFuel) rest (p + 1 + n.before.length)
    rw [readValue_entries others last (hNewLayout n List.mem_cons_self), hError]
    exact ⟨e, rfl⟩

/-- With other line ends a spelling spells the same value when it has no plain line end, and cannot be
read when it has one. -/
theorem relines_of_spells (h : Spells v t) : Relines v t := by
  induction h with
  | word h => exact relines_of_isFixed (.word h) (isFixed_word h)
  | number h => exact relines_of_isFixed (.number h) (isFixed_number h)
  | text h => exact relines_text h
  | emptyList hLayout => exact relines_empty hLayout (by decide) (by decide) .emptyList
  | list hLayout hClosing h ih => exact relines_list hLayout hClosing h ih
  | emptyMap hLayout => exact relines_empty hLayout (by decide) (by decide) .emptyMap
  | map hLayout hClosing hKeys h ih => exact relines_map hLayout hClosing hKeys h ih

theorem exists_error_of_failsAsValue (h : FailsAsValue t) (hStart : ∃ c r, t = c :: r ∧ Starts c) :
    ∃ e, read t = .error e := by
  obtain ⟨c, r, rfl, hStart⟩ := hStart
  have hSkip : Source.skipLayout ⟨c :: r, 0⟩ = ⟨c :: r, 0⟩ :=
    skipLayout_append isLayout_nil hStart.layout r 0
  obtain ⟨e, hError⟩ := h (2 * (c :: r).length + 2) (by omega) [] 0
  rw [List.append_nil] at hError
  have hMark : c.toNat ≠ 0xfeff := by
    have := hStart.small
    omega
  refine ⟨e, ?_⟩
  rw [read, if_neg hMark, read.whole, hSkip, hError]
  rfl

/-- A document with one kind of line end is read as the value that was spelled before, unless a plain
line end was in it. -/
theorem read_relined (h : Spells v t) :
    (read t.relined).toOption = if t.any isPlainEnd then none else some v := by
  have hRelined := relined_relined t
  obtain ⟨hSame, hFails⟩ := relines_of_spells h hRelined
  split
  · rename_i hSome
    obtain ⟨e, hError⟩ :=
      exists_error_of_failsAsValue (hFails hSome) (exists_starts_relined h hRelined)
    rw [hError]
    rfl
  · rename_i hNone
    have hRead := read_of_spells (hSame (Bool.eq_false_iff.mpr hNone)) isLayout_nil isLayout_nil
    rw [List.nil_append, List.append_nil] at hRead
    rw [hRead]
    rfl

end Values

end AssetAudit.Json
