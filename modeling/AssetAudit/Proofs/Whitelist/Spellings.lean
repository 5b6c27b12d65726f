import AssetAudit.Proofs.Path.Inside
import AssetAudit.Proofs.Whitelist.Runs

/-!
# One verdict for all spellings

A matcher asks for the form of a path only, so paths of one form have one verdict and share its entry.
Without patterns nothing is looked up, and nothing is stored.
-/
namespace AssetAudit.Whitelist.Matcher

variable {m : Matcher} {app form p q : Text} {c : Compiled}

theorem check_congr (hp : Path.normalize m.app p = .form form)
    (hq : Path.normalize m.app q = .form form) : m.check q = m.check p := by
  rw [check_eq, check_eq, hp, hq]

theorem compiled_check (m : Matcher) (p : Text) : (m.check p).value.2.compiled = m.compiled := by
  rw [check_eq]
  split
  · rfl
  · cases Path.normalize m.app p with
    | outside =>
      dsimp only
      split <;> rfl
    | form form =>
      dsimp only
      split
      · rfl
      · cases m.verdict? form <;> rfl

/-- When there is something to look up, the form is stored with its verdict. -/
theorem Serves.mem_check (h : m.Serves app c) (hp : Path.normalize app p = .form form)
    (hSome : form ≠ []) (hPatterns : c.isEmpty = false) :
    (form, c.accepts form) ∈ (m.check p).value.2.verdicts := by
  obtain ⟨rfl, rfl, -, hStored, -⟩ := h
  rw [check_eq, hPatterns, hp]
  dsimp only
  rw [if_neg Bool.false_ne_true, if_neg (by simpa using hSome)]
  cases hFound : m.verdict? form with
  | some listed =>
    have hMem := mem_of_verdict? hFound
    have hListed : listed = m.compiled.accepts form := hStored _ hMem
    exact hListed ▸ hMem
  | none => exact List.mem_append_right _ (List.mem_singleton_self _)

theorem Serves.check_again (h : m.Serves app c) (hp : Path.normalize app p = .form form)
    (hq : Path.normalize app q = .form form) :
    ((m.check p).value.2.check q).value = (m.check p).value := by
  have hAfter := h.check p
  have hVerdict : ((m.check p).value.2.check q).value.1 = (m.check p).value.1 := by
    rw [hAfter.check_value, h.check_value, verdict, verdict, hp, hq]
  refine Prod.ext hVerdict ?_
  have hForm : Path.normalize (m.check p).value.2.app q = .form form := hAfter.app_eq ▸ hq
  by_cases hNone : c.isEmpty = true ∨ form = []
  · -- nothing is looked up
    rw [check_eq, hForm, hAfter.compiled_eq]
    rcases hNone with hEmpty | rfl
    · rw [if_pos hEmpty]
    · dsimp only [List.isEmpty_nil]
      rw [if_pos rfl]
      split <;> rfl
  · rw [not_or] at hNone
    have hMem := h.mem_check hp hNone.2 (by simpa using hNone.1)
    exact check_of_stored hForm (List.mem_map_of_mem hMem)

theorem Serves.run_again (h : m.Serves app c) (hp : Path.normalize app p = .form form)
    {spellings : List Text} (hSame : ∀ q ∈ spellings, Path.normalize app q = .form form) :
    ((m.check p).value.2.run (spellings.map .check)).value =
      (spellings.map fun _ => .listed (m.check p).value.1, (m.check p).value.2) := by
  induction spellings with
  | nil => rfl
  | cons q rest ih =>
    obtain ⟨hq, hRest⟩ := List.forall_mem_cons.mp hSame
    rw [List.map_cons, run_cons, call_check]
    dsimp only
    rw [h.check_again hp hq, ih hRest]
    rfl

/-- Asking for paths of one form is asking for the form once. -/
theorem Serves.run_spellings (h : m.Serves app c) (hp : Path.normalize app p = .form form)
    {spellings : List Text} (hSome : spellings ≠ [])
    (hSame : ∀ q ∈ spellings, Path.normalize app q = .form form) :
    (m.run (spellings.map .check)).value =
      (spellings.map fun _ => .listed (m.check p).value.1, (m.check p).value.2) := by
  cases spellings with
  | nil => exact absurd rfl hSome
  | cons q rest =>
    obtain ⟨hq, hRest⟩ := List.forall_mem_cons.mp hSame
    have hFirst : m.check q = m.check p := check_congr (h.app_eq ▸ hp) (h.app_eq ▸ hq)
    rw [List.map_cons, run_cons, call_check]
    dsimp only
    rw [hFirst, h.run_again hp hRest]
    rfl

theorem filter_key {entries : List (Text × Bool)} (hDistinct : (entries.map (·.1)).Nodup)
    {entry : Text × Bool} (hMem : entry ∈ entries) :
    entries.filter (·.1 == entry.1) = [entry] := by
  induction entries with
  | nil => cases hMem
  | cons first rest ih =>
    obtain ⟨hNew, hRest⟩ := List.nodup_cons.mp hDistinct
    rcases List.mem_cons.mp hMem with rfl | hMem
    · have hOthers : rest.filter (·.1 == entry.1) = [] := by
        rw [List.filter_eq_nil_iff]
        intro other hOther hKey
        exact hNew (List.mem_map.mpr ⟨other, hOther, beq_iff_eq.mp hKey⟩)
      simp [hOthers]
    · have hOther : first.1 ≠ entry.1 := by
        intro hKey
        exact hNew (List.mem_map.mpr ⟨entry, hMem, hKey.symm⟩)
      simp [hOther, ih hRest hMem]

theorem verdicts_run_of_isEmpty (hStart : m.compiled.isEmpty = true → m.verdicts = [])
    (calls : List Call) (hEmpty : (m.run calls).value.2.compiled.isEmpty = true) :
    (m.run calls).value.2.verdicts = [] := by
  induction calls generalizing m with
  | nil => exact hStart hEmpty
  | cons call rest ih =>
    rw [run_cons] at hEmpty ⊢
    refine ih ?_ hEmpty
    cases call with
    | check p =>
      rw [call_check]
      dsimp only
      intro hNone
      rw [compiled_check] at hNone
      rw [check_eq, if_pos hNone]
      exact hStart hNone
    | recompile newer =>
      rw [call_recompile]
      cases compile newer with
      | error e => exact hStart
      | ok latest => exact fun _ => rfl

/-- The entry that a form has after it was asked for: none when there are no patterns. -/
theorem Serves.entry_after_check (h : m.Serves app c) (hp : Path.normalize app p = .form form)
    (hSome : form ≠ []) (hStart : c.isEmpty = true → m.verdicts = []) :
    (m.check p).value.2.verdicts.filter (·.1 == form) =
      if c.isEmpty then [] else [(form, c.accepts form)] := by
  by_cases hEmpty : c.isEmpty = true
  · have hSame : (m.check p).value.2 = m := by
      rw [check_eq, h.compiled_eq, if_pos hEmpty]
    rw [if_pos hEmpty, hSame, hStart hEmpty]
    rfl
  · rw [if_neg hEmpty]
    exact filter_key (h.check p).distinct (h.mem_check hp hSome (by simpa using hEmpty))

end AssetAudit.Whitelist.Matcher
