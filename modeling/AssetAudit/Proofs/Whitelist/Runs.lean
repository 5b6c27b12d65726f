import AssetAudit.Proofs.Whitelist.Verdicts

/-!
# Runs of a matcher

A matcher is asked for paths and given new patterns in any order. Its answers are those of a
matcher made anew from the patterns in force, and it warns once of every path outside the app. An
absolute path that leads out of the app has no form there, so no whitelist lists it; a relative one is
looked up as it is written, and the name at its end may be on the list.
-/
namespace AssetAudit.Whitelist

inductive Call where
  | check (path : Text)
  | recompile (entries : List Value)

inductive Answer where
  | listed (verdict : Bool)
  | recompiled
  | refused (e : PatternError)

/-- The patterns in force after some calls: the last that could be compiled. -/
def inForce (entries : List Value) : List Call → List Value
  | [] => entries
  | .check _ :: rest => inForce entries rest
  | .recompile newer :: rest =>
    match compile newer with
    | .ok _ => inForce newer rest
    | .error _ => inForce entries rest

namespace Matcher

/-- One call. Patterns that cannot be compiled change nothing. -/
def call (m : Matcher) : Call → Noted (Answer × Matcher)
  | .check path => do
    let (verdict, m) ← m.check path
    return (.listed verdict, m)
  | .recompile entries =>
    match m.recompile entries with
    | .ok m => pure (.recompiled, m)
    | .error e => pure (.refused e, m)

def run (m : Matcher) : List Call → Noted (List Answer × Matcher)
  | [] => pure ([], m)
  | c :: rest => do
    let (answer, m) ← m.call c
    let (answers, m) ← m.run rest
    return (answer :: answers, m)

theorem run_cons (m : Matcher) (c : Call) (rest : List Call) :
    m.run (c :: rest) =
      ⟨((m.call c).value.1 :: ((m.call c).value.2.run rest).value.1,
          ((m.call c).value.2.run rest).value.2),
        (m.call c).notices ++ ((m.call c).value.2.run rest).notices⟩ := by
  simp [run, bind, Noted.bind, pure]

theorem run_append (m : Matcher) (before after : List Call) :
    (m.run (before ++ after)).value =
      ((m.run before).value.1 ++ ((m.run before).value.2.run after).value.1,
        ((m.run before).value.2.run after).value.2) := by
  induction before generalizing m with
  | nil => rfl
  | cons c rest ih => simp only [List.cons_append, run_cons, ih]

theorem length_answers (m : Matcher) (calls : List Call) :
    (m.run calls).value.1.length = calls.length := by
  induction calls generalizing m with
  | nil => rfl
  | cons c rest ih => rw [run_cons, List.length_cons, List.length_cons, ih]

/-- The answer to a call is given by the matcher that the calls before it leave. -/
theorem answer_at (m : Matcher) (before : List Call) (c : Call) (after : List Call) :
    (m.run (before ++ c :: after)).value.1[before.length]? =
      some ((m.run before).value.2.call c).value.1 := by
  have hLength : (m.run before).value.1.length = before.length := m.length_answers before
  rw [run_append, run_cons, ← hLength, List.getElem?_append_right (Nat.le_refl _), Nat.sub_self,
    List.getElem?_cons_zero]

theorem call_check (m : Matcher) (path : Text) :
    m.call (.check path) =
      ⟨(.listed (m.check path).value.1, (m.check path).value.2), (m.check path).notices⟩ := by
  simp [call, bind, Noted.bind, pure]

theorem call_recompile (m : Matcher) (entries : List Value) :
    m.call (.recompile entries) =
      match compile entries with
      | .ok compiled => ⟨(.recompiled, { m with compiled, verdicts := [] }), []⟩
      | .error e => ⟨(.refused e, m), []⟩ := by
  cases hCompile : compile entries <;>
    simp [call, recompile, hCompile, bind, Except.bind, pure, Except.pure]

variable {m : Matcher} {app : Text} {entries : List Value}

/-- What a matcher does after some calls, it does with the patterns in force. -/
theorem Serves.run {c : Compiled} (hCompile : compile entries = .ok c) (h : m.Serves app c)
    (calls : List Call) :
    ∃ latest, compile (inForce entries calls) = .ok latest ∧
      (m.run calls).value.2.Serves app latest := by
  induction calls generalizing m entries c with
  | nil => exact ⟨c, hCompile, h⟩
  | cons call rest ih =>
    rw [run_cons]
    cases call with
    | check path =>
      rw [call_check]
      exact ih hCompile (h.check path)
    | recompile newer =>
      rw [call_recompile, inForce]
      cases hNewer : compile newer with
      | error e => exact ih hCompile h
      | ok latest =>
        exact ih hNewer ⟨h.app_eq, rfl, by simp, by simp, by simp⟩

def warns (m : Matcher) : Call → List Text
  | .check path => m.newlyOutside path
  | .recompile _ => []

theorem call_warned (m : Matcher) (c : Call) :
    (m.call c).value.2.warned = m.warned ++ m.warns c ∧
      (m.call c).notices = (m.warns c).map .outsideApp := by
  cases c with
  | check path =>
    rw [call_check]
    exact m.check_warned path
  | recompile entries =>
    rw [call_recompile]
    cases compile entries <;> simp [warns]

theorem nodup_warns {m : Matcher} (h : m.warned.Nodup) (c : Call) :
    (m.warned ++ m.warns c).Nodup := by
  cases c with
  | recompile entries => simpa [warns] using h
  | check path =>
    rw [warns, newlyOutside]
    split
    · rename_i hNew
      rw [List.nodup_append]
      refine ⟨h, by simp, ?_⟩
      rintro p hOld q hq rfl
      exact hNew.2 (List.mem_singleton.mp hq ▸ hOld)
    · simpa using h

theorem run_warned (m : Matcher) (calls : List Call) :
    ∃ new, (m.run calls).value.2.warned = m.warned ++ new ∧
      (m.run calls).notices = new.map .outsideApp ∧
      (m.warned.Nodup → (m.run calls).value.2.warned.Nodup) := by
  induction calls generalizing m with
  | nil => exact ⟨[], (List.append_nil _).symm, rfl, id⟩
  | cons c rest ih =>
    obtain ⟨later, hWarned, hNotices, hNodup⟩ := ih (m.call c).value.2
    obtain ⟨hCall, hTold⟩ := m.call_warned c
    refine ⟨m.warns c ++ later, ?_, ?_, ?_⟩
    · rw [run_cons, hWarned, hCall, List.append_assoc]
    · rw [run_cons, hTold, hNotices, List.map_append]
    · intro h
      rw [run_cons]
      exact hNodup (hCall ▸ nodup_warns h c)

/-- A path is warned of when it has been rejected at some call. -/
theorem mem_warned_run_iff (m : Matcher) (calls : List Call) (p : Text) :
    p ∈ (m.run calls).value.2.warned ↔ p ∈ m.warned ∨
      ∃ before after, calls = before ++ .check p :: after ∧ (m.run before).value.2.Rejects p := by
  induction calls generalizing m with
  | nil => simp [run, pure]
  | cons c rest ih =>
    have hFirst : p ∈ (m.call c).value.2.warned ↔ p ∈ m.warned ∨ c = .check p ∧ m.Rejects p := by
      rw [(m.call_warned c).1, List.mem_append]
      cases c with
      | recompile entries => simp [warns]
      | check path =>
        rw [warns, mem_newlyOutside_iff, Call.check.injEq]
        grind
    rw [run_cons, ih, hFirst, or_assoc]
    apply or_congr_right
    constructor
    · rintro (⟨rfl, hRejects⟩ | ⟨before, after, rfl, hRejects⟩)
      · exact ⟨[], rest, rfl, hRejects⟩
      · exact ⟨c :: before, after, rfl, by rwa [run_cons]⟩
    · rintro ⟨_ | ⟨first, before⟩, after, hCalls, hRejects⟩
      · obtain ⟨rfl, rfl⟩ := List.cons.inj hCalls
        exact .inl ⟨rfl, hRejects⟩
      · obtain ⟨rfl, rfl⟩ := List.cons.inj hCalls
        exact .inr ⟨before, after, rfl, by rwa [run_cons] at hRejects⟩

/-- After any calls a matcher gives the verdicts of one made anew from the patterns in force. Under
every form of a path that it has stored is what these patterns say of it, stored once, and a stored
form is not stored again. Patterns that cannot be compiled change nothing. The paths warned of are
those that lay outside the app when there was something to look up, each told of once. -/
theorem run_coherent {cwd app : Text} {entries : List Value} {m : Matcher}
    (h : create cwd app entries = .ok m) (calls : List Call) :
    (∀ before path after, calls = before ++ .check path :: after →
      ∃ fresh, create cwd app (inForce entries before) = .ok fresh ∧
        (m.run calls).value.1[before.length]? = some (.listed (fresh.check path).value.1)) ∧
    (∀ before newer after e, calls = before ++ .recompile newer :: after →
      compile newer = .error e →
        (m.run calls).value.1[before.length]? = some (.refused e) ∧
        (m.run (before ++ [.recompile newer])).value.2 = (m.run before).value.2) ∧
    (∃ latest, compile (inForce entries calls) = .ok latest ∧
      ((m.run calls).value.2.verdicts.map (·.1)).Nodup ∧
      ∀ key listed, (key, listed) ∈ (m.run calls).value.2.verdicts →
        key ≠ [] ∧ (∃ path, Path.normalize (Path.absolute cwd app) path = .form key) ∧
        listed = latest.accepts key) ∧
    (∀ key path, key ∈ (m.run calls).value.2.verdicts.map (·.1) →
      Path.normalize (Path.absolute cwd app) path = .form key →
        ((m.run calls).value.2.check path).value.2.verdicts = (m.run calls).value.2.verdicts) ∧
    (∃ warned : List Text, (m.run calls).notices = warned.map .outsideApp ∧ warned.Nodup ∧
      ∀ path, path ∈ warned ↔ ∃ before after c, calls = before ++ .check path :: after ∧
        compile (inForce entries before) = .ok c ∧ c.isEmpty = false ∧
        Path.normalize (Path.absolute cwd app) path = .outside) := by
  obtain ⟨c, hCompile, hServes⟩ := serves_create h
  obtain ⟨latest, hLatest, hFinal⟩ := hServes.run hCompile calls
  refine ⟨?_, ?_, ⟨latest, hLatest, hFinal.distinct, ?_⟩, ?_, ?_⟩
  · rintro before path after rfl
    obtain ⟨current, hCurrent, hThen⟩ := hServes.run hCompile before
    obtain ⟨fresh, hFresh⟩ : ∃ fresh, create cwd app (inForce entries before) = .ok fresh :=
      ⟨_, (create_eq_ok_iff _ _ _ _).mpr ⟨current, hCurrent, rfl⟩⟩
    obtain ⟨same, hSame, hAnew⟩ := serves_create hFresh
    obtain rfl := Except.ok.inj (hCurrent.symm.trans hSame)
    exact ⟨fresh, hFresh, by
      rw [answer_at, call_check, hThen.check_value, hAnew.check_value]⟩
  · rintro before newer after e rfl hNewer
    rw [answer_at, run_append, run_cons, call_recompile, hNewer]
    exact ⟨rfl, rfl⟩
  · intro key listed hMem
    exact ⟨(hFinal.isForm _ hMem).1, (hFinal.isForm _ hMem).2, hFinal.stored _ hMem⟩
  · intro key path hKey hForm
    rw [check_of_stored (hFinal.app_eq ▸ hForm) hKey]
  · obtain ⟨new, hWarned, hNotices, hNodup⟩ := m.run_warned calls
    have hNone : m.warned = [] := by
      obtain ⟨_, _, rfl⟩ := (create_eq_ok_iff _ _ _ _).mp h
      rfl
    rw [hNone, List.nil_append] at hWarned
    refine ⟨new, hNotices, hWarned ▸ hNodup (hNone ▸ List.nodup_nil), ?_⟩
    intro path
    rw [← hWarned, mem_warned_run_iff, hNone]
    constructor
    · rintro (hOld | ⟨before, after, rfl, hSome, hOut⟩)
      · cases hOld
      · obtain ⟨current, hCurrent, hThen⟩ := hServes.run hCompile before
        exact ⟨before, after, current, rfl, hCurrent, hThen.compiled_eq ▸ hSome,
          hThen.app_eq ▸ hOut⟩
    · rintro ⟨before, after, current, rfl, hCurrent, hSome, hOut⟩
      obtain ⟨same, hSame, hThen⟩ := hServes.run hCompile before
      obtain rfl := Except.ok.inj (hCurrent.symm.trans hSame)
      exact .inr ⟨before, after, rfl, hThen.compiled_eq ▸ hSome, hThen.app_eq ▸ hOut⟩

/-- A path outside the app is asked for before and after the patterns are taken away. -/
theorem run_coherent_recompiled :
    let entries : List Value := [.text "logo.png".toList]
    let m : Matcher := { app := "/app".toList, compiled := { names := ["logo.png".toList] } }
    let calls : List Call := [.check "./logo.png".toList, .check "/logo.png".toList,
      .check "/logo.png".toList, .recompile [], .check "/icon.png".toList]
    create ['/'] "/app".toList entries = .ok m ∧
    ∃ warned : List Text, (m.run calls).notices = warned.map .outsideApp ∧ warned.Nodup ∧
      ∀ path, path ∈ warned ↔ ∃ before after c, calls = before ++ .check path :: after ∧
        compile (inForce entries before) = .ok c ∧ c.isEmpty = false ∧
        Path.normalize (Path.absolute ['/'] "/app".toList) path = .outside := by
  intro entries m calls
  have hCreate : create ['/'] "/app".toList entries = .ok m := rfl
  exact ⟨hCreate, (run_coherent hCreate calls).2.2.2.2⟩

section Outside

theorem normalize_value (m : Matcher) (path : Text) :
    (m.normalize path).value.1 =
      match Path.normalize m.app path with
      | .form form => form
      | .outside => [] := by
  unfold normalize
  cases Path.normalize m.app path with
  | form form => rfl
  | outside => dsimp only; split <;> rfl

variable {c : Compiled}

theorem Serves.refuses_absolute (h : m.Serves app c) {path : Text}
    (hOut : ¬ Path.LiesWithin app path) (hAbsolute : Path.isAbsolute path = true) :
    (m.normalize path).value.1 = [] ∧ (m.check path).value.1 = false := by
  have hOutside := Path.normalize_absolute_outside hAbsolute hOut
  rw [normalize_value, h.app_eq, h.check_value, verdict, hOutside]
  exact ⟨rfl, rfl⟩

theorem Serves.reads_relative (h : m.Serves app c) {path : Text}
    (hOut : ¬ Path.LiesWithin app path) (hRelative : Path.isAbsolute path = false) :
    (m.normalize path).value.1 = Path.written path ∧ Path.written path ≠ [] ∧
      (m.check path).value.1 = c.accepts (Path.written path) := by
  have hWritten : Path.written path ≠ [] := fun hNil => hOut (.of_written_eq_nil hNil)
  rw [normalize_value, h.app_eq, h.check_value, verdict, Path.normalize_relative app hRelative]
  exact ⟨rfl, hWritten, by simp [hWritten]⟩

/-- Of the paths that lead out of the app, exactly the absolute ones have no form and are never
listed, whatever was asked before. A relative one is listed when the patterns in force accept it as
it is written. -/
theorem refused_outside_iff_absolute {cwd app : Text} {entries : List Value} {m : Matcher}
    (h : create cwd app entries = .ok m) (calls : List Call) {path : Text}
    (hOut : ¬ Path.LiesWithin (Path.absolute cwd app) path) :
    (((m.run calls).value.2.normalize path).value.1 = [] ∧
        ((m.run calls).value.2.check path).value.1 = false ↔ Path.isAbsolute path = true) ∧
    (((m.run calls).value.2.check path).value.1 = true ↔ Path.isAbsolute path = false ∧
      ∃ latest, compile (inForce entries calls) = .ok latest ∧
        latest.accepts (Path.written path) = true) := by
  obtain ⟨c, hCompile, hServes⟩ := serves_create h
  obtain ⟨latest, hLatest, hFinal⟩ := hServes.run hCompile calls
  cases hAbsolute : Path.isAbsolute path with
  | true =>
    obtain ⟨hForm, hCheck⟩ := hFinal.refuses_absolute hOut hAbsolute
    simp [hForm, hCheck]
  | false =>
    obtain ⟨hForm, hWritten, hCheck⟩ := hFinal.reads_relative hOut hAbsolute
    simp [hForm, hWritten, hCheck, hLatest]

/-- A sibling of the app, with a name that is on the list. -/
theorem refused_outside_iff_absolute_sibling :
    let m : Matcher := { app := "/app".toList, compiled := { names := ["logo.png".toList] } }
    create ['/'] "/app".toList [.text "logo.png".toList] = .ok m ∧
    ¬ Path.LiesWithin (Path.absolute ['/'] "/app".toList) "/app/../logo.png".toList ∧
    (m.normalize "/app/../logo.png".toList).value.1 = [] ∧
    (m.check "/app/../logo.png".toList).value.1 = false := by
  intro m
  have hCreate : create ['/'] "/app".toList [.text "logo.png".toList] = .ok m := rfl
  have hOut : ¬ Path.LiesWithin (Path.absolute ['/'] "/app".toList) "/app/../logo.png".toList := by
    decide
  exact ⟨hCreate, hOut, (refused_outside_iff_absolute hCreate [] hOut).1.mpr rfl⟩

/-- Written from the app, the same file has a form and is listed. -/
theorem parent_path_is_listed :
    ∃ m, create ['/'] "/app".toList [.text "logo.png".toList] = .ok m ∧
      ¬ Path.LiesWithin (Path.absolute ['/'] "/app".toList) "../logo.png".toList ∧
      (m.normalize "../logo.png".toList).value.1 = "../logo.png".toList ∧
      (m.check "../logo.png".toList).value.1 = true :=
  ⟨_, rfl, by decide, rfl, rfl⟩

end Outside

end Matcher

end AssetAudit.Whitelist
