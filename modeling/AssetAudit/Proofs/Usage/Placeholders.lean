import AssetAudit.Usage.References
import Mathlib.Data.List.DropRight

/-!
# What placeholders keep

A scan from the left meets the placeholders of a text one behind the other. The text between two of
them is glued to both when it holds nothing but glued characters, and then only the first of the two
keeps it: the second is left with what stands behind it.
-/
namespace AssetAudit.Usage

/-- A scan from the left meets a placeholder in front of `after`. `head` reaches to the end of the
placeholder before it and is empty for the first one; `lead` stands between the two. -/
inductive Meets : Text → Text → Text → Text → Prop
  | first {lead body after : Text} (hLead : ¬['$', '\x7b'] <:+: lead) (hBody : '\x7d' ∉ body) :
      Meets (lead ++ '$' :: '\x7b' :: (body ++ '\x7d' :: after)) [] lead after
  | next {skipped body rest head lead after : Text} (hSkipped : ¬['$', '\x7b'] <:+: skipped)
      (hBody : '\x7d' ∉ body) (h : Meets rest head lead after) :
      Meets (skipped ++ '$' :: '\x7b' :: (body ++ '\x7d' :: rest))
        (skipped ++ '$' :: '\x7b' :: (body ++ '\x7d' :: head)) lead after

namespace Fragment

def around (before after : Text) : Fragment where
  before := before.rtakeWhile isGlued
  behind := after.takeWhile isGlued

/-- What is kept of a placeholder. The text in front of it is lost when it is glued all along and
reaches from another placeholder. -/
def kept (head lead after : Text) : Fragment where
  before := if head ≠ [] ∧ lead.all isGlued = true then [] else lead.rtakeWhile isGlued
  behind := after.takeWhile isGlued

end Fragment

theorem rtakeWhile_append_stop {p : Char → Bool} {c : Char} (h : p c = false) (u v : Text) :
    (u ++ c :: v).rtakeWhile p = v.rtakeWhile p := by
  induction v using List.reverseRecOn with
  | nil => exact List.rtakeWhile_concat_neg p u c (Bool.eq_false_iff.mp h)
  | append_singleton v x ih =>
    rw [← List.cons_append, ← List.append_assoc, List.rtakeWhile_concat, List.rtakeWhile_concat, ih]

section Scan

variable {c : Char} {rest text head lead after body tail : Text}

theorem Meets.spelled (h : Meets text head lead after) : ∃ body, '\x7d' ∉ body ∧
    text = head ++ (lead ++ '$' :: '\x7b' :: (body ++ '\x7d' :: after)) := by
  induction h with
  | @first lead body after _ hBody => exact ⟨body, hBody, rfl⟩
  | next _ _ _ ih =>
    obtain ⟨body, hBody, rfl⟩ := ih
    exact ⟨body, hBody, by simp⟩

theorem Meets.head_cases (h : Meets text head lead after) :
    head = [] ∨ ∃ before, head = before ++ ['\x7d'] := by
  induction h with
  | first _ _ => exact .inl rfl
  | @next skipped body rest head _ _ _ _ _ ih =>
    rcases ih with rfl | ⟨before, rfl⟩
    · exact .inr ⟨skipped ++ '$' :: '\x7b' :: body, by simp⟩
    · exact .inr ⟨skipped ++ '$' :: '\x7b' :: (body ++ '\x7d' :: before), by simp⟩

theorem not_infix_cons (hOpen : ¬['$', '\x7b'] <+: c :: rest) {front : Text}
    (hFront : front <+: rest) (hRest : ¬['$', '\x7b'] <:+: front) : ¬['$', '\x7b'] <:+: c :: front := by
  intro hInfix
  rcases List.infix_cons_iff.mp hInfix with hPrefix | hInfix
  · exact hOpen (hPrefix.trans (List.cons_prefix_cons.mpr ⟨rfl, hFront⟩))
  · exact hRest hInfix

theorem Meets.of_nil (h : Meets text [] lead after) : ¬['$', '\x7b'] <:+: lead ∧
    ∃ body, '\x7d' ∉ body ∧ text = lead ++ '$' :: '\x7b' :: (body ++ '\x7d' :: after) := by
  generalize hHead : ([] : Text) = head at h
  cases h with
  | first hLead hBody => exact ⟨hLead, _, hBody, rfl⟩
  | next _ _ _ => simp at hHead

/-- The scan passes a character that opens no placeholder. -/
theorem meets_cons_iff (hOpen : ¬['$', '\x7b'] <+: c :: rest) :
    Meets (c :: rest) head lead after ↔
      (head = [] ∧ ∃ u, lead = c :: u ∧ Meets rest [] u after) ∨
        ∃ u, u ≠ [] ∧ head = c :: u ∧ Meets rest u lead after := by
  constructor
  · generalize hText : c :: rest = text
    intro h
    cases h with
    | @first lead body after hLead hBody =>
      cases lead with
      | nil =>
        rw [hText] at hOpen
        exact absurd (List.prefix_append ['$', '\x7b'] _) hOpen
      | cons d u =>
        obtain ⟨rfl, rfl⟩ := List.cons.inj hText
        exact .inl ⟨rfl, u, rfl, .first (fun h => hLead (List.infix_cons h)) hBody⟩
    | @next skipped body tail head lead after hSkipped hBody h =>
      cases skipped with
      | nil =>
        rw [hText] at hOpen
        exact absurd (List.prefix_append ['$', '\x7b'] _) hOpen
      | cons d u =>
        obtain ⟨rfl, rfl⟩ := List.cons.inj hText
        exact .inr ⟨_, by simp, rfl, .next (fun h => hSkipped (List.infix_cons h)) hBody h⟩
  · rintro (⟨rfl, u, rfl, h⟩ | ⟨u, hSome, rfl, h⟩)
    · obtain ⟨hLead, body, hBody, rfl⟩ := h.of_nil
      exact .first (not_infix_cons hOpen (List.prefix_append _ _) hLead) hBody
    · cases h with
      | first _ _ => exact absurd rfl hSome
      | next hSkipped hBody h =>
        exact .next (not_infix_cons hOpen (List.prefix_append _ _) hSkipped) hBody h

theorem eq_nil_of_not_infix (h : ¬['$', '\x7b'] <:+: lead) {u v : Text}
    (hText : '$' :: '\x7b' :: u = lead ++ '$' :: '\x7b' :: v) : lead = [] := by
  match lead with
  | [] => rfl
  | [d] =>
    simp only [List.cons_append, List.nil_append, List.cons.injEq] at hText
    exact absurd hText.2.1 (by decide)
  | d :: e :: lead =>
    simp only [List.cons_append, List.cons.injEq] at hText
    obtain ⟨rfl, rfl, -⟩ := hText
    exact absurd (List.prefix_append ['$', '\x7b'] lead).isInfix h

theorem endless_body (hBody : '\x7d' ∉ body) (tail : Text) :
    (body ++ '\x7d' :: tail).takeWhile isEndless = body ∧
      (body ++ '\x7d' :: tail).dropWhile isEndless = '\x7d' :: tail := by
  have hAll : ∀ c ∈ body, isEndless c = true := by
    intro c hMem
    apply bne_iff_ne.mpr
    rintro rfl
    exact hBody hMem
  constructor
  · rw [List.takeWhile_append_of_pos hAll, List.takeWhile_cons_of_neg (by decide), List.append_nil]
  · rw [List.dropWhile_append_of_pos hAll, List.dropWhile_cons_of_neg (by decide)]

/-- A placeholder ends where it can end first. -/
theorem body_unique {other rest : Text} (hBody : '\x7d' ∉ body) (hOther : '\x7d' ∉ other)
    (h : body ++ '\x7d' :: tail = other ++ '\x7d' :: rest) : body = other ∧ tail = rest := by
  obtain ⟨hTake, hDrop⟩ := endless_body hBody tail
  obtain ⟨hTake', hDrop'⟩ := endless_body hOther rest
  rw [← h, hTake] at hTake'
  rw [← h, hDrop] at hDrop'
  exact ⟨hTake', (List.cons.inj hDrop').2⟩

/-- The scan goes on behind a placeholder. -/
theorem meets_open_iff (hBody : '\x7d' ∉ body) :
    Meets ('$' :: '\x7b' :: (body ++ '\x7d' :: tail)) head lead after ↔
      (head = [] ∧ lead = [] ∧ after = tail) ∨
        ∃ u, head = '$' :: '\x7b' :: (body ++ '\x7d' :: u) ∧ Meets tail u lead after := by
  constructor
  · generalize hText : '$' :: '\x7b' :: (body ++ '\x7d' :: tail) = text
    intro h
    cases h with
    | @first lead other after hLead hOther =>
      obtain rfl := eq_nil_of_not_infix hLead hText
      simp only [List.nil_append, List.cons.injEq, true_and] at hText
      obtain ⟨rfl, rfl⟩ := body_unique hBody hOther hText
      exact .inl ⟨rfl, rfl, rfl⟩
    | @next skipped other rest head lead after hSkipped hOther h =>
      obtain rfl := eq_nil_of_not_infix hSkipped hText
      simp only [List.nil_append, List.cons.injEq, true_and] at hText
      obtain ⟨rfl, rfl⟩ := body_unique hBody hOther hText
      exact .inr ⟨head, rfl, h⟩
  · have hNone : ¬['$', '\x7b'] <:+: ([] : Text) := by simp
    rintro (⟨rfl, rfl, rfl⟩ | ⟨u, rfl, h⟩)
    · exact .first hNone hBody
    · exact .next hNone hBody h

theorem not_meets_of_endless (h : rest.dropWhile isEndless = []) :
    ¬Meets ('$' :: '\x7b' :: rest) head lead after := by
  intro hMeets
  obtain ⟨body, -, hText⟩ := hMeets.spelled
  have hMem : '\x7d' ∈ '$' :: '\x7b' :: rest := by
    rw [hText]
    simp
  have hEnd : '\x7d' ∈ rest := by
    simpa using hMem
  exact absurd (List.dropWhile_eq_nil_iff.mp h _ hEnd) (by decide)

end Scan

section Runs

variable {s t text head lead after : Text}

theorem not_open_of_isGlued {c : Char} (h : isGlued c = true) (rest : Text) :
    ¬['$', '\x7b'] <+: c :: rest := by
  intro hOpen
  obtain ⟨rfl, -⟩ := List.cons_prefix_cons.mp hOpen
  exact absurd h (by decide)

/-- The scan passes a glued run, which is in front of the next placeholder. -/
theorem meets_run_iff (hRun : ∀ c ∈ s, isGlued c = true) :
    Meets (s ++ t) head lead after ↔
      (head = [] ∧ ∃ u, lead = s ++ u ∧ Meets t [] u after) ∨
        ∃ u, u ≠ [] ∧ head = s ++ u ∧ Meets t u lead after := by
  induction s generalizing head lead with
  | nil =>
    constructor
    · intro h
      rcases List.eq_nil_or_concat head with rfl | ⟨_, _, rfl⟩
      · exact .inl ⟨rfl, lead, rfl, h⟩
      · exact .inr ⟨_, by simp, rfl, h⟩
    · rintro (⟨rfl, u, rfl, h⟩ | ⟨u, -, rfl, h⟩)
      · exact h
      · exact h
  | cons c s ih =>
    obtain ⟨hHead, hRest⟩ := List.forall_mem_cons.mp hRun
    rw [List.cons_append, meets_cons_iff (not_open_of_isGlued hHead _)]
    constructor
    · rintro (⟨rfl, u, rfl, h⟩ | ⟨u, hSome, rfl, h⟩)
      · rcases (ih hRest).mp h with ⟨-, v, rfl, hMeets⟩ | ⟨v, hSome, hNil, -⟩
        · exact .inl ⟨rfl, v, rfl, hMeets⟩
        · exact absurd (List.append_eq_nil_iff.mp hNil.symm).2 hSome
      · rcases (ih hRest).mp h with ⟨hNil, -⟩ | ⟨v, hMore, rfl, hMeets⟩
        · exact absurd hNil hSome
        · exact .inr ⟨v, hMore, rfl, hMeets⟩
    · rintro (⟨rfl, u, rfl, h⟩ | ⟨u, hSome, rfl, h⟩)
      · exact .inl ⟨rfl, s ++ u, rfl, (ih hRest).mpr (.inl ⟨rfl, u, rfl, h⟩)⟩
      · exact .inr ⟨s ++ u, by simp [hSome], rfl, (ih hRest).mpr (.inr ⟨u, hSome, rfl, h⟩)⟩

/-- What a scan keeps of a text when the glued run `run`, backwards, stands free before it. -/
def Keeps (run text : Text) (f : Fragment) : Prop :=
  ∃ head lead after, Meets text head lead after ∧
    f = .kept head (if head = [] then run.reverse ++ lead else lead) after

theorem kept_nil (lead after : Text) : Fragment.kept [] lead after = .around lead after := by
  simp [Fragment.kept, Fragment.around]

theorem kept_eq {other : Text} (hHead : head ≠ []) (hOther : other ≠ []) (lead after : Text) :
    Fragment.kept head lead after = .kept other lead after := by
  simp [Fragment.kept, hHead, hOther]

/-- A glued run behind another placeholder is lost, whether it is all of the lead or only its front. -/
theorem kept_run (hHead : head ≠ []) (hRun : ∀ c ∈ s, isGlued c = true)
    (hLead : ∀ d u, lead = d :: u → isGlued d = false) (after : Text) :
    Fragment.kept head (s ++ lead) after = .kept [] lead after := by
  rw [kept_nil]
  cases lead with
  | nil =>
    have hAll : (s ++ []).all isGlued = true := by
      rw [List.append_nil, List.all_eq_true]
      exact hRun
    rw [Fragment.kept, if_pos ⟨hHead, hAll⟩]
    rfl
  | cons d u =>
    have hStop : isGlued d = false := hLead d u rfl
    have hSome : ¬(head ≠ [] ∧ (s ++ d :: u).all isGlued = true) := by
      simp [hStop]
    rw [Fragment.kept, if_neg hSome, rtakeWhile_append_stop hStop, Fragment.around,
      ← rtakeWhile_append_stop hStop []]
    rfl

theorem keeps_cons_iff {c : Char} {run rest : Text} (hOpen : ¬['$', '\x7b'] <+: c :: rest)
    (f : Fragment) :
    Keeps run (c :: rest) f ↔ Keeps (if isGlued c = true then c :: run else []) rest f := by
  have hShift : ∀ u after, Fragment.kept [] (run.reverse ++ c :: u) after =
      .kept [] ((if isGlued c = true then c :: run else []).reverse ++ u) after := by
    intro u after
    rw [kept_nil, kept_nil, Fragment.around, Fragment.around]
    congr 1
    split
    · simp
    · rename_i hStop
      exact rtakeWhile_append_stop (Bool.eq_false_iff.mpr hStop) _ _
  unfold Keeps
  simp only [meets_cons_iff hOpen]
  constructor
  · rintro ⟨head, lead, after, ⟨rfl, u, rfl, hMeets⟩ | ⟨u, hSome, rfl, hMeets⟩, rfl⟩
    · refine ⟨[], u, after, hMeets, ?_⟩
      rw [if_pos rfl, if_pos rfl]
      exact hShift u after
    · refine ⟨u, lead, after, hMeets, ?_⟩
      rw [if_neg (List.cons_ne_nil _ _), if_neg hSome]
      exact kept_eq (List.cons_ne_nil _ _) hSome _ _
  · rintro ⟨head, lead, after, hMeets, rfl⟩
    by_cases hSome : head = []
    · subst hSome
      refine ⟨[], c :: lead, after, .inl ⟨rfl, lead, rfl, hMeets⟩, ?_⟩
      rw [if_pos rfl, if_pos rfl]
      exact (hShift lead after).symm
    · refine ⟨c :: head, lead, after, .inr ⟨head, hSome, rfl, hMeets⟩, ?_⟩
      rw [if_neg hSome, if_neg (List.cons_ne_nil _ _)]
      exact kept_eq hSome (List.cons_ne_nil _ _) _ _

/-- Behind a placeholder, the scan keeps what it would keep without the glued run there. -/
theorem keeps_behind_iff (hRun : ∀ c ∈ s, isGlued c = true)
    (hStop : ∀ d u, t = d :: u → isGlued d = false) (hHead : head ≠ []) (f : Fragment) :
    (∃ before lead after, Meets (s ++ t) before lead after ∧ f = .kept head lead after) ↔
      Keeps [] t f := by
  have hLead : ∀ {lead after}, Meets t [] lead after → ∀ d u, lead = d :: u → isGlued d = false := by
    rintro lead after hMeets d u rfl
    obtain ⟨-, body, -, hText⟩ := hMeets.of_nil
    exact hStop d _ hText
  constructor
  · rintro ⟨before, lead, after, hMeets, rfl⟩
    rcases (meets_run_iff hRun).mp hMeets with ⟨rfl, u, rfl, hRest⟩ | ⟨u, hSome, rfl, hRest⟩
    · refine ⟨[], u, after, hRest, ?_⟩
      rw [if_pos rfl]
      exact kept_run hHead hRun (hLead hRest) after
    · refine ⟨u, lead, after, hRest, ?_⟩
      rw [if_neg hSome]
      exact kept_eq hHead hSome _ _
  · rintro ⟨before, lead, after, hMeets, rfl⟩
    by_cases hSome : before = []
    · subst hSome
      refine ⟨[], s ++ lead, after, (meets_run_iff hRun).mpr (.inl ⟨rfl, lead, rfl, hMeets⟩), ?_⟩
      rw [if_pos rfl]
      exact (kept_run hHead hRun (hLead hMeets) after).symm
    · refine ⟨s ++ before, lead, after,
        (meets_run_iff hRun).mpr (.inr ⟨before, hSome, rfl, hMeets⟩), ?_⟩
      rw [if_neg hSome]
      exact kept_eq hSome hHead _ _

theorem keeps_open_iff {body tail run : Text} (hBody : '\x7d' ∉ body)
    (hRun : ∀ c ∈ run, isGlued c = true) (f : Fragment) :
    Keeps run ('$' :: '\x7b' :: (body ++ '\x7d' :: tail)) f ↔
      f = ⟨run.reverse, tail.takeWhile isGlued⟩ ∨ Keeps [] (tail.dropWhile isGlued) f := by
  have hFirst : Fragment.kept [] (run.reverse ++ []) tail = ⟨run.reverse, tail.takeWhile isGlued⟩ := by
    rw [kept_nil, Fragment.around, List.append_nil, List.rtakeWhile_eq_self_iff.mpr]
    intro c hMem
    exact hRun c (List.mem_reverse.mp hMem)
  have hStop : ∀ d u, tail.dropWhile isGlued = d :: u → isGlued d = false := by
    intro d u hTail
    have hFront := List.head?_dropWhile_not isGlued tail
    rw [hTail] at hFront
    exact hFront
  have hGlued : ∀ c ∈ tail.takeWhile isGlued, isGlued c = true := fun _ => List.mem_takeWhile_imp
  have hBehind := keeps_behind_iff hGlued hStop (List.cons_ne_nil '$' []) f
  rw [List.takeWhile_append_dropWhile] at hBehind
  rw [← hBehind]
  constructor
  · rintro ⟨head, lead, after, hMeets, rfl⟩
    rcases (meets_open_iff hBody).mp hMeets with ⟨rfl, rfl, rfl⟩ | ⟨u, rfl, hRest⟩
    · rw [if_pos rfl]
      exact .inl hFirst
    · refine .inr ⟨u, lead, after, hRest, ?_⟩
      rw [if_neg (List.cons_ne_nil _ _)]
      exact kept_eq (List.cons_ne_nil _ _) (List.cons_ne_nil _ _) _ _
  · rintro (rfl | ⟨before, lead, after, hMeets, rfl⟩)
    · refine ⟨[], [], tail, (meets_open_iff hBody).mpr (.inl ⟨rfl, rfl, rfl⟩), ?_⟩
      rw [if_pos rfl]
      exact hFirst.symm
    · refine ⟨_, lead, after, (meets_open_iff hBody).mpr (.inr ⟨before, rfl, hMeets⟩), ?_⟩
      rw [if_neg (List.cons_ne_nil _ _)]
      exact kept_eq (List.cons_ne_nil _ _) (List.cons_ne_nil _ _) _ _

theorem mem_placeholders_iff (run : Text) (found : List Fragment) (text : Text)
    (hRun : ∀ c ∈ run, isGlued c = true) (f : Fragment) :
    f ∈ placeholders run found text ↔ f ∈ found ∨ Keeps run text f := by
  fun_induction placeholders run found text with
  | case1 run found =>
    rw [List.mem_reverse, or_iff_left]
    rintro ⟨head, lead, after, hMeets, -⟩
    obtain ⟨body, -, hText⟩ := hMeets.spelled
    simp at hText
  | case2 run found rest hEndless =>
    rw [List.mem_reverse, or_iff_left]
    rintro ⟨head, lead, after, hMeets, -⟩
    exact not_meets_of_endless hEndless hMeets
  | case3 run found rest closing after hClosed _ ih =>
    have hText := List.takeWhile_append_dropWhile (p := isEndless) (l := rest)
    have hEnd := List.head?_dropWhile_not isEndless rest
    rw [hClosed] at hText hEnd
    obtain rfl : closing = '\x7d' := by simpa [isEndless] using hEnd
    have hBody : '\x7d' ∉ rest.takeWhile isEndless := by
      intro hMem
      exact absurd (List.mem_takeWhile_imp hMem) (by decide)
    have hOpen : Keeps run ('$' :: '\x7b' :: (rest.takeWhile isEndless ++ '\x7d' :: after)) f ↔ _ :=
      keeps_open_iff hBody hRun f
    rw [hText] at hOpen
    simp only [List.unattach_reverse, List.unattach_attach] at ih
    rw [ih nofun, hOpen, List.mem_cons, or_assoc, or_left_comm]
  | case4 run found c rest hOther ih =>
    have hOpen : ¬['$', '\x7b'] <+: c :: rest := by
      rintro ⟨u, hText⟩
      obtain ⟨rfl, hRest⟩ := List.cons.inj hText
      exact hOther u rfl hRest.symm
    rw [keeps_cons_iff hOpen]
    apply ih
    split
    · rename_i hGlued
      exact List.forall_mem_cons.mpr ⟨hGlued, hRun⟩
    · exact nofun

/-- The fragments of a text are what its placeholders keep, if they keep anything. -/
theorem mem_fragments_iff (text : Text) (f : Fragment) :
    f ∈ fragments text ↔
      (∃ head lead after, Meets text head lead after ∧ f = .kept head lead after) ∧
        ¬(f.before = [] ∧ f.behind = []) := by
  have hKept : (∃ head lead after, Meets text head lead after ∧ f = .kept head lead after) ↔
      f ∈ placeholders [] [] text := by
    rw [mem_placeholders_iff [] [] text nofun, or_iff_right List.not_mem_nil]
    simp only [Keeps, List.reverse_nil, List.nil_append, ite_self]
  rw [hKept, fragments, List.mem_filter]
  simp [imp_iff_not_or]

/-- Nothing of what is glued to the front of a placeholder is glued to a placeholder before it. -/
def Apart (head lead : Text) : Prop :=
  head = [] ∨ lead = [] ∨ ∃ c ∈ lead, isGlued c = false

theorem kept_of_apart (hMeets : Meets text head lead after) (h : Apart head lead) :
    Fragment.kept head lead after = .around (head ++ lead) after := by
  rcases hMeets.head_cases with rfl | ⟨before, rfl⟩
  · exact kept_nil lead after
  · have hStop : isGlued '\x7d' = false := by decide
    rw [Fragment.around, List.append_assoc, List.singleton_append, rtakeWhile_append_stop hStop,
      Fragment.kept]
    congr 1
    split
    · rename_i hTaken
      rcases h with hNone | rfl | ⟨c, hMem, hOther⟩
      · simp at hNone
      · rfl
      · have hGlued := List.all_eq_true.mp hTaken.2 c hMem
        rw [hOther] at hGlued
        cases hGlued
    · rfl

theorem kept_of_not_apart (h : ¬Apart head lead) :
    Fragment.kept head lead after = ⟨[], after.takeWhile isGlued⟩ := by
  have hHead : head ≠ [] := fun hNone => h (.inl hNone)
  have hAll : lead.all isGlued = true := by
    rw [List.all_eq_true]
    intro c hMem
    by_contra hOther
    exact h (.inr (.inr ⟨c, hMem, Bool.eq_false_iff.mpr hOther⟩))
  rw [Fragment.kept, if_pos ⟨hHead, hAll⟩]

end Runs

end AssetAudit.Usage
