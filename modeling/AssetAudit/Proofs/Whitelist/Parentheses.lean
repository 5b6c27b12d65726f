import AssetAudit.Proofs.Whitelist.Nesting

/-!
# Parentheses one inside another

A text is properly parenthesised with one level inside when the count of open parentheses stays between
zero and one at every place in it, and is zero at its end. Such a text falls apart into characters that are
no parentheses and pairs of parentheses without others inside.
-/
namespace AssetAudit.Whitelist

/-- How many parentheses are open behind a text. -/
def height (t : Text) : Int :=
  t.count '(' - t.count ')'

/-- Read from a level on, a text stays at the levels zero and one and comes back to zero. -/
structure Closes (level : Int) (t : Text) : Prop where
  within : ∀ start, start <+: t → 0 ≤ level + height start ∧ level + height start ≤ 1
  closed : level + height t = 0

def Parenthesised (t : Text) : Prop :=
  Closes 0 t

section Levels

variable {level : Int} {c : Char} {t u v : Text}

theorem height_nil : height [] = 0 := rfl

theorem height_append (u v : Text) : height (u ++ v) = height u + height v := by
  simp only [height, List.count_append]
  omega

theorem height_cons (c : Char) (t : Text) : height (c :: t) = height [c] + height t :=
  height_append [c] t

theorem height_single (hOpen : c ≠ '(') (hClose : c ≠ ')') : height [c] = 0 := by
  simp [height, hOpen, hClose]

theorem height_of_flat (h : Flat t) : height t = 0 := by
  rw [height, List.count_eq_zero.mpr h.1, List.count_eq_zero.mpr h.2]
  rfl

theorem closes_nil_iff : Closes level [] ↔ level = 0 := by
  constructor
  · intro h
    simpa [height_nil] using h.closed
  · rintro rfl
    refine ⟨fun start hStart => ?_, rfl⟩
    rw [List.prefix_nil.mp hStart, height_nil]
    omega

theorem closes_cons_iff : Closes level (c :: t) ↔
    (0 ≤ level ∧ level ≤ 1) ∧ Closes (level + height [c]) t := by
  constructor
  · rintro ⟨hWithin, hClosed⟩
    refine ⟨?_, fun start hStart => ?_, ?_⟩
    · simpa [height_nil] using hWithin [] List.nil_prefix
    · have hLonger := hWithin (c :: start) ((List.prefix_cons_inj c).mpr hStart)
      rw [height_cons] at hLonger
      omega
    · rw [height_cons] at hClosed
      omega
  · rintro ⟨hHere, hWithin, hClosed⟩
    refine ⟨fun start hStart => ?_, ?_⟩
    · rcases List.prefix_cons_iff.mp hStart with rfl | ⟨rest, rfl, hRest⟩
      · simpa [height_nil] using hHere
      · have hShorter := hWithin rest hRest
        rw [height_cons]
        omega
    · rw [height_cons]
      omega

theorem closes_append_iff : Closes level (u ++ v) ↔
    (∀ start, start <+: u → 0 ≤ level + height start ∧ level + height start ≤ 1) ∧
      Closes (level + height u) v := by
  induction u generalizing level with
  | nil =>
    rw [List.nil_append, height_nil, Int.add_zero]
    refine (and_iff_right_of_imp fun h start hStart => ?_).symm
    exact h.within start (hStart.trans List.nil_prefix)
  | cons c u ih =>
    rw [List.cons_append, closes_cons_iff, ih, height_cons c u, ← Int.add_assoc]
    constructor
    · rintro ⟨hHere, hWithin, hClosed⟩
      refine ⟨fun start hStart => ?_, hClosed⟩
      rcases List.prefix_cons_iff.mp hStart with rfl | ⟨rest, rfl, hRest⟩
      · simpa [height_nil] using hHere
      · rw [height_cons, ← Int.add_assoc]
        exact hWithin rest hRest
    · rintro ⟨hWithin, hClosed⟩
      refine ⟨?_, fun start hStart => ?_, hClosed⟩
      · simpa [height_nil] using hWithin [] List.nil_prefix
      · have hLonger := hWithin (c :: start) ((List.prefix_cons_inj c).mpr hStart)
        rwa [height_cons, ← Int.add_assoc] at hLonger

/-- A text is parenthesised on both sides of a character outside its parentheses. -/
theorem parenthesised_around_iff (hOpen : c ≠ '(') (hClose : c ≠ ')') :
    Parenthesised (u ++ c :: v) ∧ height u = 0 ↔ Parenthesised u ∧ Parenthesised v := by
  have hFlat := height_single hOpen hClose
  constructor
  · rintro ⟨h, hOutside⟩
    obtain ⟨hWithin, hRest⟩ := closes_append_iff.mp h
    obtain ⟨-, hRest⟩ := closes_cons_iff.mp hRest
    rw [hOutside, hFlat] at hRest
    exact ⟨⟨hWithin, by omega⟩, hRest⟩
  · rintro ⟨⟨hWithin, hClosed⟩, hRest⟩
    have hOutside : height u = 0 := by omega
    refine ⟨closes_append_iff.mpr ⟨hWithin, closes_cons_iff.mpr ?_⟩, hOutside⟩
    rw [hOutside, hFlat]
    exact ⟨by omega, hRest⟩

theorem flat_iff : Flat t ↔ ∀ c ∈ t, c ≠ '(' ∧ c ≠ ')' := by
  simp only [Flat, forall_and, List.forall_mem_ne']

theorem flat_cons_iff : Flat (c :: t) ↔ (c ≠ '(' ∧ c ≠ ')') ∧ Flat t := by
  simp only [Flat, List.mem_cons, not_or, @eq_comm _ c, ne_eq]
  exact and_and_and_comm

/-- Behind an open parenthesis stands a text without parentheses up to the one that closes it. -/
theorem closes_one_iff : Closes 1 t ↔
    ∃ inside rest, t = inside ++ ')' :: rest ∧ Flat inside ∧ Parenthesised rest := by
  constructor
  · intro h
    induction t with
    | nil => exact absurd (closes_nil_iff.mp h) (by decide)
    | cons c t ih =>
      obtain ⟨-, hRest⟩ := closes_cons_iff.mp h
      by_cases hClose : c = ')'
      · subst hClose
        exact ⟨[], t, rfl, ⟨List.not_mem_nil, List.not_mem_nil⟩, hRest⟩
      by_cases hOpen : c = '('
      · subst hOpen
        have hLevel := hRest.within [] List.nil_prefix
        exact absurd hLevel.2 (by decide)
      · have hFlat : Flat [c] := ⟨by simpa using Ne.symm hOpen, by simpa using Ne.symm hClose⟩
        rw [height_of_flat hFlat] at hRest
        obtain ⟨inside, rest, rfl, hInside, hRest⟩ := ih hRest
        exact ⟨c :: inside, rest, rfl, flat_cons_iff.mpr ⟨⟨hOpen, hClose⟩, hInside⟩, hRest⟩
  · rintro ⟨inside, rest, rfl, hInside, hRest⟩
    refine closes_append_iff.mpr ⟨fun start hStart => ?_, closes_cons_iff.mpr ?_⟩
    · have hNone : Flat start :=
        ⟨fun hMem => hInside.1 (hStart.subset hMem), fun hMem => hInside.2 (hStart.subset hMem)⟩
      rw [height_of_flat hNone]
      omega
    · rw [height_of_flat hInside]
      exact ⟨by omega, hRest⟩

inductive IsUnit : Text → Prop
  | plain {c : Char} (hOpen : c ≠ '(') (hClose : c ≠ ')') : IsUnit [c]
  | pair {inside : Text} (h : Flat inside) : IsUnit ('(' :: inside ++ [')'])

theorem IsUnit.ne_nil (h : IsUnit u) : u ≠ [] := by
  cases h with
  | plain => exact List.cons_ne_nil _ _
  | pair => exact List.cons_ne_nil _ _

theorem Parenthesised.behind (h : IsUnit u) (hRest : Parenthesised v) : Parenthesised (u ++ v) := by
  cases h with
  | plain hOpen hClose =>
    refine closes_cons_iff.mpr ⟨by omega, ?_⟩
    rw [height_single hOpen hClose]
    exact hRest
  | @pair inside h =>
    refine closes_cons_iff.mpr ⟨by omega, closes_one_iff.mpr ⟨inside, v, ?_, h, hRest⟩⟩
    simp

/-- What is properly parenthesised is made of such units. -/
theorem parenthesised_iff : Parenthesised t ↔
    ∃ units : List Text, (∀ u ∈ units, IsUnit u) ∧ t = units.flatten := by
  constructor
  · intro h
    induction hLength : t.length using Nat.strong_induction_on generalizing t with
    | _ n ih =>
      cases t with
      | nil => exact ⟨[], nofun, rfl⟩
      | cons c t =>
        obtain ⟨-, hRest⟩ := closes_cons_iff.mp h
        by_cases hOpen : c = '('
        · subst hOpen
          obtain ⟨inside, rest, rfl, hInside, hRest⟩ := closes_one_iff.mp hRest
          obtain ⟨units, hUnits, rfl⟩ := ih rest.length (by simp at hLength; omega) hRest rfl
          have hAll := List.forall_mem_cons.mpr ⟨.pair hInside, hUnits⟩
          exact ⟨('(' :: inside ++ [')']) :: units, hAll, by simp⟩
        by_cases hClose : c = ')'
        · subst hClose
          have hLevel := hRest.within [] List.nil_prefix
          exact absurd hLevel.1 (by decide)
        · have hFlat : Flat [c] := ⟨by simpa using Ne.symm hOpen, by simpa using Ne.symm hClose⟩
          rw [height_of_flat hFlat] at hRest
          obtain ⟨units, hUnits, rfl⟩ := ih t.length (by simp at hLength; omega) hRest rfl
          exact ⟨[c] :: units, List.forall_mem_cons.mpr ⟨.plain hOpen hClose, hUnits⟩, rfl⟩
  · rintro ⟨units, hUnits, rfl⟩
    induction units with
    | nil => exact closes_nil_iff.mpr rfl
    | cons u units ih =>
      obtain ⟨hUnit, hUnits⟩ := List.forall_mem_cons.mp hUnits
      exact (ih hUnits).behind hUnit

end Levels

end AssetAudit.Whitelist
