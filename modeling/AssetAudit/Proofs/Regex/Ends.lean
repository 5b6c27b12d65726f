import AssetAudit.Proofs.Regex.Reads

/-!
# Where an expression ends

A match goes on from one of the cursors where the expression can end, whichever of them was tried first.
Beside what was read, such a cursor holds what the groups on the way remembered, so that the groups of a
match are told where the ends are.
-/
namespace AssetAudit.Regex

variable {kept : List Nat} {flags : Flags} {e a b : Expr} {ends endsA endsB : Cursor → Cursor → Prop}
  {kind : Text → Prop} {P : Char → Prop} {c : Cursor} {follow : Follow}

/-- What follows the expression is met at one of its ends, and a match is found when it can go on from
one of them. -/
structure Ends (kept : List Nat) (flags : Flags) (e : Expr) (ends : Cursor → Cursor → Prop) : Prop where
  found : ∀ {c follow last}, run kept e flags c follow = some last →
    ∃ next, ends c next ∧ follow next = some last
  finds : ∀ {c follow next}, ends c next → (follow next).isSome = true →
    (run kept e flags c follow).isSome = true

def Behind (kind : Text → Prop) (c next : Cursor) : Prop :=
  ∃ u rest, c.after = u ++ rest ∧ kind u ∧ next = c.past u

theorem Ends.reads (h : Ends kept flags e (Behind kind)) : Reads kept flags e kind := by
  intro c follow
  constructor
  · intro hSome
    obtain ⟨last, hLast⟩ := Option.isSome_iff_exists.mp hSome
    obtain ⟨_, ⟨u, rest, hAfter, hKind, rfl⟩, hFollow⟩ := h.found hLast
    exact ⟨u, rest, hAfter, hKind, Option.isSome_of_eq_some hFollow⟩
  · rintro ⟨u, rest, hAfter, hKind, hSome⟩
    exact h.finds ⟨u, rest, hAfter, hKind, rfl⟩ hSome

theorem ends_of_accept {p : Nat → Bool} (h : ∀ c follow, run kept e flags c follow = c.accept p follow) :
    Ends kept flags e (Behind fun u => ∃ x, u = [x] ∧ p x.toNat = true) where
  found {c follow last} hRun := by
    rw [h, Cursor.accept] at hRun
    split at hRun
    · cases hRun
    · rename_i x rest hAfter
      split at hRun
      · rename_i hAccepted
        rw [Cursor.next_eq_past hAfter] at hRun
        exact ⟨c.past [x], ⟨[x], rest, hAfter, ⟨x, rfl, hAccepted⟩, rfl⟩, hRun⟩
      · cases hRun
  finds := by
    rintro c follow _ ⟨u, rest, hAfter, hKind, rfl⟩ hSome
    exact (reads_of_accept h c follow).mpr ⟨u, rest, hAfter, hKind, hSome⟩

theorem Ends.congr (h : Ends kept flags e ends) {ends' : Cursor → Cursor → Prop}
    (hEnds : ∀ c next, ends c next ↔ ends' c next) : Ends kept flags e ends' := by
  have hSame : ends = ends' := by
    funext c next
    exact propext (hEnds c next)
  exact hSame ▸ h

theorem Behind.congr {kind' : Text → Prop} (h : ∀ u, kind u ↔ kind' u) (c next : Cursor) :
    Behind kind c next ↔ Behind kind' c next := by
  simp only [Behind, h]

theorem ends_code (hCase : flags.ignoreCase = false) (d : Char) :
    Ends kept flags (.code d.toNat) (Behind fun u => u = [d]) := by
  apply (ends_of_accept fun c follow => run_code kept flags c follow d.toNat).congr
  apply Behind.congr
  intro u
  simp only [acceptsCode_iff hCase, exists_eq_right]

theorem ends_charSet (hCase : flags.ignoreCase = false) (negated : Bool) (t : Text) :
    Ends kept flags (.set negated (t.map fun c => .code c.toNat))
      (Behind fun u => ∃ x, u = [x] ∧ (t.contains x != negated) = true) := by
  apply (ends_of_accept fun c follow => run_set kept flags c follow negated _).congr
  apply Behind.congr
  intro u
  simp only [acceptsSet_iff hCase]

theorem ends_anyChar (hAll : flags.dotAll = true) :
    Ends kept flags .anyChar (Behind fun u => ∃ x, u = [x] ∧ True) := by
  apply (ends_of_accept fun c follow => run_anyChar kept flags c follow).congr
  apply Behind.congr
  intro u
  simp [acceptsAny, hAll]

theorem Ends.seq (hA : Ends kept flags a endsA) (hB : Ends kept flags b endsB) :
    Ends kept flags (.seq a b) fun c next => ∃ mid, endsA c mid ∧ endsB mid next where
  found hRun := by
    rw [run_seq] at hRun
    obtain ⟨mid, hFirst, hRun⟩ := hA.found hRun
    obtain ⟨next, hSecond, hFollow⟩ := hB.found hRun
    exact ⟨next, ⟨mid, hFirst, hSecond⟩, hFollow⟩
  finds := by
    rintro c follow next ⟨mid, hFirst, hSecond⟩ hSome
    rw [run_seq]
    exact hA.finds hFirst (hB.finds hSecond hSome)

theorem ends_anchor (anchor : Anchor) :
    Ends kept flags (.anchor anchor) fun c next => c.stands flags anchor = true ∧ next = c where
  found {c _ _} hRun := by
    rw [run_anchor] at hRun
    split at hRun
    · rename_i hStands
      exact ⟨c, ⟨hStands, rfl⟩, hRun⟩
    · cases hRun
  finds := by
    rintro c follow _ ⟨hStands, rfl⟩ hSome
    rwa [run_anchor, if_pos hStands]

theorem Cursor.past_remember (c : Cursor) (n : Nat) (t u : Text) :
    (c.remember n t).past u = (c.past u).remember n t := rfl

theorem Cursor.after_remember (c : Cursor) (n : Nat) (t : Text) : (c.remember n t).after = c.after :=
  rfl

/-- A group that is remembered holds the text that was read in it. -/
theorem Ends.remembered (h : Ends kept flags e (Behind kind)) {n : Nat} (hKept : kept.contains n = true) :
    Ends kept flags (.group (some n) {} {} e) fun c next =>
      ∃ u rest, c.after = u ++ rest ∧ kind u ∧ next = (c.past u).remember n u := by
  have hRun : ∀ c follow, run kept (.group (some n) {} {} e) flags c follow =
      run kept e flags c fun last => follow (last.remember n (c.after.take (last.place - c.place))) := by
    intro c follow
    rw [run, enter_none]
    simp only [hKept, if_true]
  have hRead : ∀ {c : Cursor} {u rest : Text}, c.after = u ++ rest →
      c.after.take ((c.past u).place - c.place) = u := by
    intro c u rest hAfter
    have hPlace : (c.past u).place - c.place = u.length := Nat.add_sub_cancel_left c.place u.length
    rw [hPlace, hAfter, List.take_left]
  constructor
  · intro c follow last hFound
    rw [hRun] at hFound
    obtain ⟨_, ⟨u, rest, hAfter, hKind, rfl⟩, hFollow⟩ := h.found hFound
    rw [hRead hAfter] at hFollow
    exact ⟨_, ⟨u, rest, hAfter, hKind, rfl⟩, hFollow⟩
  · rintro c follow _ ⟨u, rest, hAfter, hKind, rfl⟩ hSome
    rw [hRun]
    refine h.finds ⟨u, rest, hAfter, hKind, rfl⟩ ?_
    rwa [hRead hAfter]

section Repetition

variable {step : Cursor → Follow → Option Cursor} {most last : Option Nat} {found : Cursor}

/-- A round was made and the rest of them behind it, or what follows goes on from here. -/
theorem iterate_eq_some (fuel : Nat)
    (h : iterate step false (fuel + 1) 0 most last c follow = some found) :
    (step c fun next => iterate step false fuel 0 (most.map (· - 1)) (some c.place) next follow) =
        some found ∨ follow c = some found := by
  rw [iterate] at h
  simp only [Bool.false_eq_true, if_false] at h
  split at h
  · rename_i hAgain
    cases h
    split at hAgain
    · cases hAgain
    · exact .inl hAgain
  · exact .inr h

/-- However far the rounds go, they step over characters of the kind. -/
theorem exists_of_iterate (hStep : ∀ {c : Cursor} {follow : Follow} {found : Cursor},
      step c follow = some found → ∃ next, Behind (fun u => ∃ x, u = [x] ∧ P x) c next ∧
        follow next = some found)
    (fuel : Nat) (h : iterate step false fuel 0 none last c follow = some found) :
    ∃ next, Behind (fun u => ∀ x ∈ u, P x) c next ∧ follow next = some found := by
  have hHere : c.past [] = c := by simp [Cursor.past]
  induction fuel generalizing last c with
  | zero =>
    rw [iterate] at h
    exact ⟨c, ⟨[], c.after, rfl, List.forall_mem_nil P, hHere.symm⟩, h⟩
  | succ fuel ih =>
    rcases iterate_eq_some fuel h with hAgain | hDone
    · obtain ⟨_, ⟨_, rest, hAfter, ⟨x, rfl, hFirst⟩, rfl⟩, hMore⟩ := hStep hAgain
      obtain ⟨_, ⟨u, tail, hBehind, hAll, rfl⟩, hFollow⟩ := ih hMore (by simp [Cursor.past])
      rw [Cursor.after_past hAfter] at hBehind
      refine ⟨_, ⟨x :: u, tail, ?_, List.forall_mem_cons.mpr ⟨hFirst, hAll⟩, rfl⟩, ?_⟩
      · rw [hAfter, hBehind]
        rfl
      · rwa [← Cursor.past_append] at hFollow
    · exact ⟨c, ⟨[], c.after, rfl, List.forall_mem_nil P, hHere.symm⟩, hDone⟩

end Repetition

theorem Ends.many (h : Ends kept flags e (Behind fun u => ∃ x, u = [x] ∧ P x)) :
    Ends kept flags (.many .greedy 0 none e) (Behind fun u => ∀ x ∈ u, P x) where
  found hRun := by
    rw [run_many_greedy] at hRun
    exact exists_of_iterate h.found _ hRun
  finds := by
    rintro c follow _ ⟨u, rest, hAfter, hAll, rfl⟩ hSome
    exact (Reads.many h.reads c follow).mpr ⟨u, rest, hAfter, hAll, hSome⟩

end AssetAudit.Regex
