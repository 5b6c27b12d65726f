import AssetAudit.Proofs.Path.Outside
import AssetAudit.Proofs.Whitelist.Readings
import AssetAudit.Whitelist.Matcher

/-!
# Verdicts

The verdict on a path depends on the app and the compiled whitelist alone. A matcher whose stored
verdicts are such verdicts gives no others, and stays so whatever it is asked.
-/
namespace AssetAudit.Whitelist

def verdict (app : Text) (c : Compiled) (path : Text) : Bool :=
  match Path.normalize app path with
  | .form form => !form.isEmpty && c.accepts form
  | .outside => false

theorem verdict_eq_true_iff (app : Text) (c : Compiled) (path : Text) :
    verdict app c path = true ↔
      ∃ form, Path.normalize app path = .form form ∧ form ≠ [] ∧ c.accepts form = true := by
  unfold verdict
  cases Path.normalize app path with
  | form form => simp
  | outside => simp

theorem verdict_of_isEmpty {c : Compiled} (h : c.isEmpty = true) (app path : Text) :
    verdict app c path = false := by
  unfold verdict
  split <;> simp [Compiled.accepts_of_isEmpty h]

namespace Matcher

theorem create_eq_ok_iff (cwd app : Text) (entries : List Value) (m : Matcher) :
    create cwd app entries = .ok m ↔
      ∃ c, compile entries = .ok c ∧ m = { app := Path.absolute cwd app, compiled := c } := by
  unfold create recompile
  cases compile entries with
  | error e => simp [bind, Except.bind]
  | ok c => simp [bind, Except.bind, pure, Except.pure, eq_comm]

/-- A matcher that answers for the app at `app` with the whitelist `c`: it has stored what the
whitelist says of forms of paths, once for each form, and nothing else. -/
structure Serves (m : Matcher) (app : Text) (c : Compiled) : Prop where
  app_eq : m.app = app
  compiled_eq : m.compiled = c
  isForm : ∀ e ∈ m.verdicts, e.1 ≠ [] ∧ ∃ path, Path.normalize app path = .form e.1
  stored : ∀ e ∈ m.verdicts, e.2 = c.accepts e.1
  distinct : (m.verdicts.map (·.1)).Nodup

theorem check_eq (m : Matcher) (path : Text) :
    m.check path =
      if m.compiled.isEmpty then ⟨(false, m), []⟩
      else match Path.normalize m.app path with
        | .outside =>
          if m.warned.contains path then ⟨(false, m), []⟩
          else ⟨(false, { m with warned := m.warned ++ [path] }), [.outsideApp path]⟩
        | .form form =>
          if form.isEmpty then ⟨(false, m), []⟩
          else match m.verdict? form with
            | some listed => ⟨(listed, m), []⟩
            | none =>
              ⟨(m.compiled.accepts form,
                { m with verdicts := m.verdicts ++ [(form, m.compiled.accepts form)] }), []⟩ := by
  unfold check normalize
  split
  · rfl
  · cases Path.normalize m.app path with
    | form form =>
      dsimp only
      by_cases hForm : form.isEmpty = true
      · simp [bind, Noted.bind, pure, hForm]
      · cases hStored : m.verdict? form <;> simp [bind, Noted.bind, pure, hForm, hStored]
    | outside =>
      dsimp only
      split <;> rfl

theorem mem_of_verdict? {m : Matcher} {form : Text} {listed : Bool}
    (h : m.verdict? form = some listed) : (form, listed) ∈ m.verdicts := by
  obtain ⟨⟨key, value⟩, hFind, rfl⟩ := Option.map_eq_some_iff.mp h
  have hKey : key = form := by simpa using List.find?_some hFind
  exact hKey ▸ List.mem_of_find?_eq_some hFind

theorem exists_verdict? {m : Matcher} {form : Text} (h : form ∈ m.verdicts.map (·.1)) :
    ∃ listed, m.verdict? form = some listed := by
  cases hStored : m.verdict? form with
  | some listed => exact ⟨listed, rfl⟩
  | none =>
    obtain ⟨e, hMem, hKey⟩ := List.mem_map.mp h
    have hFind := List.find?_eq_none.mp (Option.map_eq_none_iff.mp hStored) e hMem
    exact absurd (beq_iff_eq.mpr hKey) hFind

theorem serves_create {cwd app : Text} {entries : List Value} {m : Matcher}
    (h : create cwd app entries = .ok m) :
    ∃ c, compile entries = .ok c ∧ m.Serves (Path.absolute cwd app) c := by
  obtain ⟨c, hCompile, rfl⟩ := (create_eq_ok_iff cwd app entries m).mp h
  exact ⟨c, hCompile, rfl, rfl, by simp, by simp, by simp⟩

variable {m : Matcher} {app : Text} {c : Compiled}

/-- A matcher gives the verdict of its whitelist, whatever it was asked before. -/
theorem Serves.check_value (h : m.Serves app c) (path : Text) :
    (m.check path).value.1 = verdict app c path := by
  obtain ⟨rfl, rfl, -, hStored, -⟩ := h
  rw [check_eq]
  split
  · rename_i hEmpty
    exact (verdict_of_isEmpty hEmpty m.app path).symm
  · unfold verdict
    cases Path.normalize m.app path with
    | outside => dsimp only; split <;> rfl
    | form form =>
      dsimp only
      split
      · rename_i hForm
        simp [hForm]
      · rename_i hForm
        cases hFound : m.verdict? form with
        | some listed =>
          have hListed : listed = m.compiled.accepts form := hStored _ (mem_of_verdict? hFound)
          simp [hForm, hListed]
        | none => simp [hForm]

theorem Serves.check (h : m.Serves app c) (path : Text) :
    (m.check path).value.2.Serves app c := by
  rw [check_eq]
  split
  · exact h
  · cases hForm : Path.normalize m.app path with
    | outside =>
      dsimp only
      split
      · exact h
      · exact ⟨h.app_eq, h.compiled_eq, h.isForm, h.stored, h.distinct⟩
    | form form =>
      dsimp only
      split
      · exact h
      · rename_i hNonempty
        cases hFound : m.verdict? form with
        | some listed => exact h
        | none =>
          -- the one new entry is what the whitelist says of this form
          refine ⟨h.app_eq, h.compiled_eq, ?_, ?_, ?_⟩
          · intro e hMem
            rcases List.mem_append.mp hMem with hOld | hNew
            · exact h.isForm e hOld
            · obtain rfl := List.mem_singleton.mp hNew
              exact ⟨by simpa using hNonempty, path, h.app_eq ▸ hForm⟩
          · intro e hMem
            rcases List.mem_append.mp hMem with hOld | hNew
            · exact h.stored e hOld
            · obtain rfl := List.mem_singleton.mp hNew
              rw [h.compiled_eq]
          · rw [List.map_append, List.map_singleton, List.nodup_append]
            refine ⟨h.distinct, by simp, ?_⟩
            rintro key hKey other hOther rfl
            obtain rfl := List.mem_singleton.mp hOther
            obtain ⟨listed, hListed⟩ := exists_verdict? hKey
            cases hFound.symm.trans hListed

theorem check_of_stored {form path : Text} (hForm : Path.normalize m.app path = .form form)
    (hStored : form ∈ m.verdicts.map (·.1)) : (m.check path).value.2 = m := by
  obtain ⟨listed, hFound⟩ := exists_verdict? hStored
  rw [check_eq, hForm]
  dsimp only
  rw [hFound]
  split
  · rfl
  · split <;> rfl

def Rejects (m : Matcher) (path : Text) : Prop :=
  m.compiled.isEmpty = false ∧ Path.normalize m.app path = .outside

instance (m : Matcher) (path : Text) : Decidable (m.Rejects path) :=
  inferInstanceAs (Decidable (_ ∧ _))

def newlyOutside (m : Matcher) (path : Text) : List Text :=
  if m.Rejects path ∧ path ∉ m.warned then [path] else []

theorem mem_newlyOutside_iff (m : Matcher) (path p : Text) :
    p ∈ m.newlyOutside path ↔ p = path ∧ m.Rejects path ∧ path ∉ m.warned := by
  unfold newlyOutside
  split <;> simp_all

/-- A path is warned of in the same step that notes it as warned of. -/
theorem check_warned (m : Matcher) (path : Text) :
    (m.check path).value.2.warned = m.warned ++ m.newlyOutside path ∧
      (m.check path).notices = (m.newlyOutside path).map .outsideApp := by
  rw [check_eq]
  by_cases hEmpty : m.compiled.isEmpty = true
  · simp [newlyOutside, Rejects, hEmpty]
  · cases hForm : Path.normalize m.app path with
    | outside =>
      by_cases hWarned : path ∈ m.warned <;>
        simp [newlyOutside, Rejects, hEmpty, hForm, hWarned]
    | form form =>
      by_cases hNil : form = []
      · simp [newlyOutside, Rejects, hEmpty, hForm, hNil]
      · cases hStored : m.verdict? form <;>
          simp [newlyOutside, Rejects, hEmpty, hForm, hNil, hStored]

end Matcher

end AssetAudit.Whitelist
