import AssetAudit.Text.Basic

/-!
# Sorted texts

Sorting keeps every text as often as it is there. It makes no difference whether texts are left out
before the sorting or behind it.
-/
namespace AssetAudit.Text

theorem insertInOrder_perm (t : Text) (texts : List Text) :
    (insertInOrder t texts).Perm (t :: texts) := by
  induction texts with
  | nil => exact List.Perm.refl _
  | cons u rest ih =>
    unfold insertInOrder
    split
    · exact List.Perm.refl _
    · exact (ih.cons u).trans (List.Perm.swap t u rest)

theorem sort_perm (texts : List Text) : (sort texts).Perm texts := by
  induction texts with
  | nil => exact List.Perm.refl _
  | cons t rest ih => exact (insertInOrder_perm t (sort rest)).trans (ih.cons t)

theorem le_cons_iff (a b : Char) (s t : Text) :
    le (a :: s) (b :: t) = true ↔
      a.toNat < b.toNat ∨ a.toNat = b.toNat ∧ le s t = true := by
  unfold le
  rw [compare]
  rcases Nat.lt_trichotomy a.toNat b.toNat with hLess | hSame | hMore
  · simp [Nat.compare_eq_lt.mpr hLess, hLess]
  · simp [hSame]
  · simp [Nat.compare_eq_gt.mpr hMore, Nat.lt_asymm hMore, Nat.ne_of_gt hMore]

theorem le_trans {s t u : Text} (h : le s t = true) (h' : le t u = true) : le s u = true := by
  induction s generalizing t u with
  | nil => cases u <;> rfl
  | cons a s ih =>
    cases t with
    | nil => cases h
    | cons b t =>
      cases u with
      | nil => cases h'
      | cons c u =>
        rw [le_cons_iff] at h h' ⊢
        rcases h with hLess | ⟨hSame, hRest⟩
        · left
          omega
        · rcases h' with hLess | ⟨hSame', hRest'⟩
          · left
            omega
          · exact .inr ⟨hSame.trans hSame', ih hRest hRest'⟩

theorem le_of_not_le {s t : Text} (h : ¬le s t = true) : le t s = true := by
  induction s generalizing t with
  | nil => cases t <;> exact absurd rfl h
  | cons a s ih =>
    cases t with
    | nil => rfl
    | cons b t =>
      rw [le_cons_iff] at h ⊢
      rcases Nat.lt_trichotomy a.toNat b.toNat with hLess | hSame | hMore
      · exact absurd (.inl hLess) h
      · exact .inr ⟨hSame.symm, ih fun hRest => h (.inr ⟨hSame, hRest⟩)⟩
      · exact .inl hMore

theorem le_antisymm {s t : Text} (h : le s t = true) (h' : le t s = true) : s = t := by
  induction s generalizing t with
  | nil =>
    cases t with
    | nil => rfl
    | cons b t => cases h'
  | cons a s ih =>
    cases t with
    | nil => cases h
    | cons b t =>
      rw [le_cons_iff] at h h'
      have hSame : a.toNat = b.toNat := by omega
      have hRest : le s t = true := (h.resolve_left (by omega)).2
      have hRest' : le t s = true := (h'.resolve_left (by omega)).2
      rw [Char.toNat_inj.mp hSame, ih hRest hRest']

def IsSorted (texts : List Text) : Prop :=
  texts.Pairwise fun s t => le s t = true

theorem insertInOrder_of_not_le {t u : Text} (h : ¬le t u = true) (rest : List Text) :
    insertInOrder t (u :: rest) = u :: insertInOrder t rest :=
  if_neg h

theorem insertInOrder_of_forall_le {t : Text} {texts : List Text}
    (h : ∀ u ∈ texts, le t u = true) : insertInOrder t texts = t :: texts := by
  cases texts with
  | nil => rfl
  | cons u rest => exact if_pos (h u List.mem_cons_self)

theorem isSorted_insertInOrder {texts : List Text} (h : IsSorted texts) (t : Text) :
    IsSorted (insertInOrder t texts) := by
  induction texts with
  | nil => exact List.pairwise_singleton _ _
  | cons u rest ih =>
    obtain ⟨hFirst, hRest⟩ := List.pairwise_cons.mp h
    by_cases hLe : le t u = true
    · have hAll : ∀ v ∈ u :: rest, le t v = true := by
        intro v hMem
        rcases List.mem_cons.mp hMem with rfl | hMem
        · exact hLe
        · exact le_trans hLe (hFirst v hMem)
      rw [insertInOrder_of_forall_le hAll]
      exact List.pairwise_cons.mpr ⟨hAll, h⟩
    · rw [insertInOrder_of_not_le hLe]
      refine List.pairwise_cons.mpr ⟨?_, ih hRest⟩
      intro v hMem
      rcases List.mem_cons.mp ((insertInOrder_perm t rest).mem_iff.mp hMem) with rfl | hMem
      · exact le_of_not_le hLe
      · exact hFirst v hMem

theorem isSorted_sort (texts : List Text) : IsSorted (sort texts) := by
  induction texts with
  | nil => exact List.Pairwise.nil
  | cons t rest ih => exact isSorted_insertInOrder ih t

theorem sort_eq_of_perm {texts others : List Text} (h : texts.Perm others) :
    sort texts = sort others :=
  ((sort_perm texts).trans (h.trans (sort_perm others).symm)).eq_of_pairwise
    (fun _ _ _ _ => le_antisymm) (isSorted_sort texts) (isSorted_sort others)

theorem filter_insertInOrder {texts : List Text} (h : IsSorted texts) (p : Text → Bool)
    (t : Text) :
    (insertInOrder t texts).filter p =
      if p t then insertInOrder t (texts.filter p) else texts.filter p := by
  induction texts with
  | nil => exact List.filter_cons
  | cons u rest ih =>
    obtain ⟨hFirst, hRest⟩ := List.pairwise_cons.mp h
    by_cases hLe : le t u = true
    · have hAll : ∀ v ∈ u :: rest, le t v = true := by
        intro v hMem
        rcases List.mem_cons.mp hMem with rfl | hMem
        · exact hLe
        · exact le_trans hLe (hFirst v hMem)
      have hStay : ∀ v ∈ (u :: rest).filter p, le t v = true := fun v hMem =>
        hAll v (List.mem_filter.mp hMem).1
      rw [insertInOrder_of_forall_le hAll, insertInOrder_of_forall_le hStay, List.filter_cons]
    · rw [insertInOrder_of_not_le hLe, List.filter_cons, ih hRest, List.filter_cons]
      by_cases hStays : p u = true
      · rw [if_pos hStays, if_pos hStays, insertInOrder_of_not_le hLe]
        split <;> rfl
      · rw [if_neg hStays, if_neg hStays]

theorem filter_sort (p : Text → Bool) (texts : List Text) :
    (sort texts).filter p = sort (texts.filter p) := by
  induction texts with
  | nil => rfl
  | cons t rest ih =>
    rw [sort, filter_insertInOrder (isSorted_sort rest), ih, List.filter_cons]
    split <;> rfl

end AssetAudit.Text
