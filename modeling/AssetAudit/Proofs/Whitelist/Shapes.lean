import AssetAudit.Whitelist.Gate

/-!
# Where a shape occurs

The gate lets a text through when it is neither empty nor too long and none of the shapes begins at a
place in it. A shape that occurs in a part of a text occurs in the whole.
-/
namespace AssetAudit.Whitelist

theorem gate_eq_ok_iff (body : Text) :
    gate body = .ok () ↔ 1 ≤ body.length ∧ body.length ≤ longest ∧
      ∀ shape : Shape, shape.occursIn body = false := by
  unfold gate
  have hAll : (∀ shape ∈ Shape.all, ¬ shape.occursIn body = true) ↔
      ∀ shape : Shape, shape.occursIn body = false := by
    simp only [Bool.not_eq_true]
    constructor
    · intro h shape
      exact h shape (by cases shape <;> decide)
    · intro h shape _
      exact h shape
  split
  · rename_i hLength
    simp only [Bool.or_eq_true, List.isEmpty_iff, decide_eq_true_eq] at hLength
    refine iff_of_false nofun ?_
    rintro ⟨hShort, hLong, -⟩
    rcases hLength with rfl | hLonger
    · exact absurd hShort (by decide)
    · omega
  · rename_i hLength
    simp only [Bool.or_eq_true, List.isEmpty_iff, decide_eq_true_eq, not_or] at hLength
    have hShort := List.length_pos_iff.mpr hLength.1
    split
    · rename_i shape hFind
      refine iff_of_false nofun ?_
      rintro ⟨-, -, hNone⟩
      have hOccurs := List.find?_some hFind
      rw [hNone shape] at hOccurs
      cases hOccurs
    · rename_i hFind
      exact iff_of_true rfl
        ⟨hShort, Nat.le_of_not_lt hLength.2, hAll.mp (List.find?_eq_none.mp hFind)⟩

theorem closesNested_append {inner seen : Bool} {t : Text} (h : closesNested inner seen t = true)
    (more : Text) : closesNested inner seen (t ++ more) = true := by
  induction t generalizing inner seen with
  | nil => cases h
  | cons c rest ih =>
    rw [closesNested] at h
    rw [List.cons_append, closesNested]
    split
    · rename_i hOpen
      rw [if_pos hOpen, Bool.and_eq_true] at h
      rw [h.1, ih h.2]
      rfl
    rename_i hOpen
    rw [if_neg hOpen] at h
    split
    · rename_i hClose
      rw [if_pos hClose] at h
      cases inner with
      | true => exact ih h
      | false =>
        cases rest with
        | nil => simp at h
        | cons next rest => exact h
    · rename_i hClose
      rw [if_neg hClose] at h
      exact ih h

theorem closesAlternation_append {bar : Bool} {t : Text} (h : closesAlternation bar t = true)
    (more : Text) : closesAlternation bar (t ++ more) = true := by
  induction t generalizing bar with
  | nil => cases h
  | cons c rest ih =>
    rw [closesAlternation] at h
    rw [List.cons_append, closesAlternation]
    split
    · rename_i hOpen
      rw [if_pos hOpen] at h
      cases h
    rename_i hOpen
    rw [if_neg hOpen] at h
    split
    · rename_i hClose
      rw [if_pos hClose] at h
      cases rest with
      | nil => simp at h
      | cons next rest => exact h
    · rename_i hClose
      rw [if_neg hClose] at h
      exact ih h

namespace Shape

theorem beginsAt_append {shape : Shape} {t : Text} (h : shape.beginsAt t = true) (more : Text) :
    shape.beginsAt (t ++ more) = true := by
  unfold beginsAt at h
  split at h
  · exact closesNested_append h more
  · exact h
  · exact closesAlternation_append h more
  · exact h
  · rfl
  · exact h
  · simp only [Bool.or_eq_true, beq_iff_eq] at h
    rcases h with rfl | rfl <;> rfl
  · cases h

theorem occursIn_iff (shape : Shape) (t : Text) :
    shape.occursIn t = true ↔ ∃ before after, t = before ++ after ∧ shape.beginsAt after = true := by
  induction t with
  | nil =>
    refine iff_of_false nofun ?_
    rintro ⟨before, after, hSplit, hBegins⟩
    rw [(List.append_eq_nil_iff.mp hSplit.symm).2] at hBegins
    cases shape <;> cases hBegins
  | cons c rest ih =>
    rw [occursIn, Bool.or_eq_true, ih]
    constructor
    · rintro (hHere | ⟨before, after, rfl, hBegins⟩)
      · exact ⟨[], _, rfl, hHere⟩
      · exact ⟨c :: before, after, rfl, hBegins⟩
    · rintro ⟨_ | ⟨first, before⟩, after, hSplit, hBegins⟩
      · exact .inl (by rw [hSplit]; exact hBegins)
      · exact .inr ⟨before, after, (List.cons.inj hSplit).2, hBegins⟩

theorem occursIn_of_part {shape : Shape} {part whole : Text} (hPart : part <:+: whole)
    (h : shape.occursIn part = true) : shape.occursIn whole = true := by
  obtain ⟨front, back, rfl⟩ := hPart
  obtain ⟨before, after, rfl, hBegins⟩ := (occursIn_iff shape part).mp h
  exact (occursIn_iff shape _).mpr ⟨front ++ before, after ++ back, by simp, beginsAt_append hBegins back⟩

theorem not_occursIn_of_part {shape : Shape} {part whole : Text} (hPart : part <:+: whole)
    (h : shape.occursIn whole = false) : shape.occursIn part = false :=
  Bool.eq_false_iff.mpr fun hOccurs =>
    Bool.eq_false_iff.mp h (occursIn_of_part hPart hOccurs)

theorem occursIn_of_beginsAt {shape : Shape} {t : Text} (h : shape.beginsAt t = true) :
    shape.occursIn t = true :=
  (occursIn_iff shape t).mpr ⟨[], t, rfl, h⟩

end Shape

end AssetAudit.Whitelist
