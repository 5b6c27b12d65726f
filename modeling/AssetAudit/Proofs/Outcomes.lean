import AssetAudit.Notice

/-!
# Outcomes

A computation made of parts succeeds when each part does, and the value of one part is what the
next goes on with. What an attempt notes on the way does not bear on its outcome.
-/
namespace AssetAudit

variable {ε δ α β γ : Type}

namespace Outcome

theorem ok_bind (a : α) (f : α → Except ε β) : (Except.ok a >>= f) = f a :=
  rfl

theorem bind_eq_ok_iff (x : Except ε α) (f : α → Except ε β) (b : β) :
    x >>= f = .ok b ↔ ∃ a, x = .ok a ∧ f a = .ok b := by
  cases x with
  | error e => simp [bind, Except.bind]
  | ok a => simp [bind, Except.bind]

theorem bind_eq_error_iff (x : Except ε α) (f : α → Except ε β) (e : ε) :
    x >>= f = .error e ↔ x = .error e ∨ ∃ a, x = .ok a ∧ f a = .error e := by
  cases x with
  | error e' => simp [bind, Except.bind]
  | ok a => simp [bind, Except.bind]

theorem map_eq_ok_iff (f : α → β) (x : Except ε α) (b : β) :
    x.map f = .ok b ↔ ∃ a, x = .ok a ∧ f a = b := by
  cases x with
  | error e => simp [Except.map]
  | ok a => simp [Except.map]

theorem exists_map_iff (f : α → β) (x : Except ε α) :
    (∃ b, x.map f = .ok b) ↔ ∃ a, x = .ok a := by
  simp only [map_eq_ok_iff]
  constructor
  · rintro ⟨_, a, hOk, -⟩
    exact ⟨a, hOk⟩
  · rintro ⟨a, hOk⟩
    exact ⟨_, a, hOk, rfl⟩

@[simp] theorem mapError_error (f : ε → δ) (e : ε) :
    (.error e : Except ε α).mapError f = .error (f e) :=
  rfl

@[simp] theorem mapError_ok (f : ε → δ) (a : α) : (.ok a : Except ε α).mapError f = .ok a :=
  rfl

theorem mapError_eq_ok_iff (f : ε → δ) (x : Except ε α) (a : α) :
    x.mapError f = .ok a ↔ x = .ok a := by
  cases x with
  | error e => exact iff_of_false nofun nofun
  | ok b =>
    constructor
    · intro h
      exact congrArg Except.ok (Except.ok.inj h)
    · intro h
      exact congrArg Except.ok (Except.ok.inj h)

theorem mapError_eq_error_iff (f : ε → δ) (x : Except ε α) (d : δ) :
    x.mapError f = .error d ↔ ∃ e, x = .error e ∧ f e = d := by
  cases x with
  | error e => simp
  | ok a => simp

theorem mapM_eq_ok_iff (f : α → Except ε β) (l : List α) (results : List β) :
    l.mapM f = .ok results ↔ l.map f = results.map .ok := by
  induction l generalizing results with
  | nil => simp [pure, Except.pure, eq_comm]
  | cons a rest ih =>
    rw [List.mapM_cons, bind_eq_ok_iff]
    simp only [bind_eq_ok_iff, ih]
    constructor
    · rintro ⟨b, hHead, results, hRest, hEq⟩
      cases hEq
      rw [List.map_cons, List.map_cons, hHead, hRest]
    · intro h
      cases results with
      | nil => cases h
      | cons b results =>
        obtain ⟨hHead, hRest⟩ := List.cons.inj h
        exact ⟨b, hHead, results, hRest, rfl⟩

theorem exists_mapM_iff (f : α → Except ε β) (l : List α) :
    (∃ results, l.mapM f = .ok results) ↔ ∀ a ∈ l, ∃ b, f a = .ok b := by
  induction l with
  | nil => exact iff_of_true ⟨[], rfl⟩ nofun
  | cons a rest ih =>
    rw [List.forall_mem_cons, ← ih, List.mapM_cons]
    simp only [bind_eq_ok_iff]
    constructor
    · rintro ⟨_, b, hFirst, results, hRest, -⟩
      exact ⟨⟨b, hFirst⟩, results, hRest⟩
    · rintro ⟨⟨b, hFirst⟩, results, hRest⟩
      exact ⟨b :: results, b, hFirst, results, hRest, rfl⟩

theorem eq_ok_of_toOption {x : Except ε α} {a : α} (h : x.toOption = some a) : x = .ok a := by
  cases x with
  | error e => cases h
  | ok b => exact congrArg Except.ok (Option.some.inj h)

theorem exists_of_toOption_map {f : α → β} {x : Except ε α} {b : β}
    (h : x.toOption.map f = some b) : ∃ a, x = .ok a ∧ f a = b := by
  obtain ⟨a, hSome, hValue⟩ := Option.map_eq_some_iff.mp h
  exact ⟨a, eq_ok_of_toOption hSome, hValue⟩

end Outcome

namespace Attempt

theorem outcome_bind (x : Attempt ε α) (f : α → Attempt ε β) :
    (x >>= f).outcome = x.outcome >>= fun a => (f a).outcome := by
  change (ExceptT.bindCont f (ExceptT.run x).value).value = (ExceptT.run x).value >>= _
  cases (ExceptT.run x).value with
  | error e => rfl
  | ok a => rfl

theorem outcome_bind_pure (x : Attempt ε α) (f : α → β) :
    (x >>= fun a => pure (f a)).outcome = x.outcome.map f := by
  rw [outcome_bind]
  cases x.outcome with
  | error e => rfl
  | ok a => rfl

theorem outcome_bind_map (x : Attempt ε α) {f : α → Attempt ε γ} {g : α → Attempt ε β}
    (change : β → γ) (h : ∀ a, (f a).outcome = (g a).outcome.map change) :
    (x >>= f).outcome = (x >>= g).outcome.map change := by
  rw [outcome_bind, outcome_bind]
  cases x.outcome with
  | error e => rfl
  | ok a => exact h a

theorem bind_eq_ok_iff (x : Attempt ε α) (f : α → Attempt ε β) (b : β) :
    (x >>= f).outcome = .ok b ↔ ∃ a, x.outcome = .ok a ∧ (f a).outcome = .ok b := by
  rw [outcome_bind, Outcome.bind_eq_ok_iff]

theorem bind_eq_error_iff (x : Attempt ε α) (f : α → Attempt ε β) (e : ε) :
    (x >>= f).outcome = .error e ↔
      x.outcome = .error e ∨ ∃ a, x.outcome = .ok a ∧ (f a).outcome = .error e := by
  rw [outcome_bind, Outcome.bind_eq_error_iff]

theorem pure_bind (a : α) (f : α → Attempt ε β) : (pure a >>= f) = f a :=
  rfl

theorem ofExcept_ok_bind (a : α) (f : α → Attempt ε β) : (ofExcept (.ok a) >>= f) = f a :=
  rfl

theorem ofNoted_pure_bind (a : α) (f : α → Attempt ε β) : (ofNoted (pure a) >>= f) = f a :=
  rfl

@[simp] theorem outcome_pure (a : α) : (pure a : Attempt ε α).outcome = .ok a :=
  rfl

@[simp] theorem outcome_throw (e : ε) : (throw e : Attempt ε α).outcome = .error e :=
  rfl

@[simp] theorem outcome_note (n : Notice) : (note n : Attempt ε Unit).outcome = .ok () :=
  rfl

@[simp] theorem outcome_ofNoted (x : Noted α) : (ofNoted x : Attempt ε α).outcome = .ok x.value :=
  rfl

@[simp] theorem outcome_ofExcept (x : Except ε α) : (ofExcept x).outcome = x :=
  rfl

@[simp] theorem adapt_eq_ok_iff (f : ε → δ) (x : Attempt ε α) (a : α) :
    outcome (ExceptT.adapt f x) = .ok a ↔ x.outcome = .ok a :=
  Outcome.mapError_eq_ok_iff f x.outcome a

theorem adapt_eq_error_iff (f : ε → δ) (x : Attempt ε α) (d : δ) :
    outcome (ExceptT.adapt f x) = .error d ↔ ∃ e, x.outcome = .error e ∧ f e = d :=
  Outcome.mapError_eq_error_iff f x.outcome d

end Attempt

end AssetAudit
