import AssetAudit.Proofs.Regex.Reads
import AssetAudit.Proofs.Whitelist.Parentheses

/-!
# What the gate refuses

The gate refuses an expression within its limits of length exactly when one of five shapes stands in it,
and for the first of them in their order. What a shape shows is told by the parentheses in the text. A
scan of the text finds it, and so does a search for the expression of the shape.
-/
namespace AssetAudit.Whitelist

open Regex (Expr Flags Reads)

section Scanning

variable {level : Int} {c : Char} {t : Text}

def ShowsQuantifier (level : Int) (t : Text) : Prop :=
  ∃ u q v, t = u ++ q :: v ∧ isQuantifier q = true ∧ level + height u = 0

theorem showsQuantifier_cons_iff : ShowsQuantifier level (c :: t) ↔
    (level = 0 ∧ isQuantifier c = true) ∨ ShowsQuantifier (level + height [c]) t := by
  constructor
  · rintro ⟨_ | ⟨first, u⟩, q, v, hText, hQuantifier, hOutside⟩
    · obtain ⟨rfl, rfl⟩ := List.cons.inj hText
      exact .inl ⟨by simpa [height_nil] using hOutside, hQuantifier⟩
    · obtain ⟨rfl, rfl⟩ := List.cons.inj hText
      rw [height_cons] at hOutside
      exact .inr ⟨u, q, v, rfl, hQuantifier, by omega⟩
  · rintro (⟨rfl, hQuantifier⟩ | ⟨u, q, v, rfl, hQuantifier, hOutside⟩)
    · exact ⟨[], c, t, rfl, hQuantifier, rfl⟩
    · refine ⟨c :: u, q, v, rfl, hQuantifier, ?_⟩
      rw [height_cons]
      omega

/-- A text comes to a parenthesis that closes it and is repeated, and a quantifier was seen or shows
before it. -/
def EndsNested (level : Int) (seen : Bool) (t : Text) : Prop :=
  ∃ inside r rest, t = inside ++ ')' :: r :: rest ∧ Closes level inside ∧
    (seen = true ∨ ShowsQuantifier level inside) ∧ opensRepeat r = true

theorem endsNested_cons_iff (seen : Bool) : EndsNested level seen (c :: t) ↔
    (c = ')' ∧ level = 0 ∧ seen = true ∧ t.head?.any opensRepeat = true) ∨
      (0 ≤ level ∧ level ≤ 1) ∧
        EndsNested (level + height [c]) (seen || (level == 0 && isQuantifier c)) t := by
  constructor
  · rintro ⟨_ | ⟨first, inside⟩, r, rest, hText, hCloses, hSeen, hRepeat⟩
    · obtain ⟨rfl, rfl⟩ := List.cons.inj hText
      refine .inl ⟨rfl, closes_nil_iff.mp hCloses, hSeen.resolve_right ?_, hRepeat⟩
      rintro ⟨u, q, v, hNil, -⟩
      simp at hNil
    · obtain ⟨rfl, rfl⟩ := List.cons.inj hText
      obtain ⟨hLevel, hCloses⟩ := closes_cons_iff.mp hCloses
      refine .inr ⟨hLevel, inside, r, rest, rfl, hCloses, ?_, hRepeat⟩
      rw [showsQuantifier_cons_iff, ← or_assoc] at hSeen
      simpa using hSeen
  · rintro (⟨rfl, rfl, hSeen, hRepeat⟩ | ⟨hLevel, inside, r, rest, rfl, hCloses, hSeen, hRepeat⟩)
    · cases t with
      | nil => cases hRepeat
      | cons r rest => exact ⟨[], r, rest, rfl, closes_nil_iff.mpr rfl, .inl hSeen, hRepeat⟩
    · refine ⟨c :: inside, r, rest, rfl, closes_cons_iff.mpr ⟨hLevel, hCloses⟩, ?_, hRepeat⟩
      rw [showsQuantifier_cons_iff, ← or_assoc]
      simpa using hSeen

theorem not_endsNested (seen : Bool) (h : ¬(0 ≤ level ∧ level ≤ 1)) : ¬EndsNested level seen t := by
  rintro ⟨inside, r, rest, -, hCloses, -⟩
  apply h
  simpa [height_nil] using hCloses.within [] List.nil_prefix

theorem closesNested_iff (inner seen : Bool) (t : Text) :
    closesNested inner seen t = true ↔ EndsNested (if inner then 1 else 0) seen t := by
  induction t generalizing inner seen with
  | nil =>
    refine iff_of_false nofun ?_
    rintro ⟨inside, r, rest, hText, -⟩
    simp at hText
  | cons c t ih =>
    rw [closesNested, endsNested_cons_iff]
    by_cases hOpen : c = '('
    · subst hOpen
      have hHeight : height ['('] = 1 := rfl
      cases inner with
      | true => simp [hHeight, not_endsNested]
      | false => simp [hHeight, ih, isQuantifier]
    by_cases hClose : c = ')'
    · subst hClose
      have hHeight : height [')'] = -1 := rfl
      cases inner with
      | true => simp [hHeight, ih, isQuantifier]
      | false => simp [hHeight, not_endsNested]
    · rw [if_neg hOpen, if_neg hClose, ih, height_single hOpen hClose]
      cases inner with
      | true => simp [hClose]
      | false => simp [hClose]

/-- A text comes to a parenthesis that is repeated, with no other before it, and a bar was seen or stands
before it. -/
def EndsAlternation (bar : Bool) (t : Text) : Prop :=
  ∃ inside r rest, t = inside ++ ')' :: r :: rest ∧ Flat inside ∧ (bar = true ∨ '|' ∈ inside) ∧
    opensRepeat r = true

theorem endsAlternation_cons_iff (bar : Bool) : EndsAlternation bar (c :: t) ↔
    (c = ')' ∧ bar = true ∧ t.head?.any opensRepeat = true) ∨
      (c ≠ '(' ∧ c ≠ ')') ∧ EndsAlternation (bar || c == '|') t := by
  constructor
  · rintro ⟨_ | ⟨first, inside⟩, r, rest, hText, hFlat, hBar, hRepeat⟩
    · obtain ⟨rfl, rfl⟩ := List.cons.inj hText
      exact .inl ⟨rfl, hBar.resolve_right List.not_mem_nil, hRepeat⟩
    · obtain ⟨rfl, rfl⟩ := List.cons.inj hText
      rw [flat_cons_iff] at hFlat
      rw [List.mem_cons, ← or_assoc, @eq_comm _ '|'] at hBar
      exact .inr ⟨hFlat.1, inside, r, rest, rfl, hFlat.2, by simpa using hBar, hRepeat⟩
  · rintro (⟨rfl, hBar, hRepeat⟩ | ⟨hOther, inside, r, rest, rfl, hFlat, hBar, hRepeat⟩)
    · cases t with
      | nil => cases hRepeat
      | cons r rest =>
        exact ⟨[], r, rest, rfl, ⟨List.not_mem_nil, List.not_mem_nil⟩, .inl hBar, hRepeat⟩
    · refine ⟨c :: inside, r, rest, rfl, flat_cons_iff.mpr ⟨hOther, hFlat⟩, ?_, hRepeat⟩
      rw [List.mem_cons, ← or_assoc, @eq_comm _ '|']
      simpa using hBar

theorem closesAlternation_iff (bar : Bool) (t : Text) :
    closesAlternation bar t = true ↔ EndsAlternation bar t := by
  induction t generalizing bar with
  | nil =>
    refine iff_of_false nofun ?_
    rintro ⟨inside, r, rest, hText, -⟩
    simp at hText
  | cons c t ih =>
    rw [closesAlternation, endsAlternation_cons_iff]
    by_cases hOpen : c = '('
    · simp [hOpen]
    by_cases hClose : c = ')'
    · simp [hClose]
    · simp [hOpen, hClose, ih]

end Scanning

inductive Shape.Shows : Shape → Text → Prop
  | nestedQuantifier {u v : Text} {q r : Char} (hInside : Parenthesised (u ++ q :: v))
      (hOutside : height u = 0) (hQuantifier : q = '+' ∨ q = '*')
      (hRepeat : r = '+' ∨ r = '*' ∨ r = '\x7b') :
      Shows .nestedQuantifier ('(' :: (u ++ q :: v) ++ [')', r])
  | wildcardGroup {q r : Char} (hQuantifier : q = '+' ∨ q = '*') (hRepeat : r = '+' ∨ r = '*') :
      Shows .wildcardGroup ['(', '.', q, ')', r]
  | quantifiedAlternation {u v : Text} {r : Char} (hInside : Flat (u ++ '|' :: v))
      (hRepeat : r = '+' ∨ r = '*' ∨ r = '\x7b') :
      Shows .quantifiedAlternation ('(' :: (u ++ '|' :: v) ++ [')', r])
  | numbered {d : Char} (h : '1' ≤ d ∧ d ≤ '9') : Shows .backreference ['\\', d]
  | named : Shows .backreference ['(', '?', 'P', '=']
  | ahead {mark : Char} (h : mark = '=' ∨ mark = '!') : Shows .lookaround ['(', '?', mark]
  | behind {mark : Char} (h : mark = '=' ∨ mark = '!') : Shows .lookaround ['(', '?', '<', mark]

def Shape.StandsIn (shape : Shape) (t : Text) : Prop :=
  ∃ u, u <:+: t ∧ shape.Shows u

theorem isQuantifier_iff (c : Char) : isQuantifier c = true ↔ c = '+' ∨ c = '*' := by
  simp [isQuantifier]

theorem not_parenthesis {q : Char} (h : q = '+' ∨ q = '*') : q ≠ '(' ∧ q ≠ ')' := by
  rcases h with rfl | rfl
  · decide
  · decide

theorem opensRepeat_iff (c : Char) : opensRepeat c = true ↔ c = '+' ∨ c = '*' ∨ c = '\x7b' := by
  simp [opensRepeat, isQuantifier, or_assoc]

namespace Shape

theorem beginsAt_iff (shape : Shape) (t : Text) :
    shape.beginsAt t = true ↔ ∃ u, u <+: t ∧ shape.Shows u := by
  constructor
  · intro h
    unfold beginsAt at h
    split at h
    · obtain ⟨_, r, rest, rfl, hInside, ⟨⟨⟩⟩ | ⟨u, q, v, rfl, hQuantifier, hOutside⟩, hRepeat⟩ :=
        (closesNested_iff false false _).mp h
      refine ⟨_, ?_, .nestedQuantifier hInside (by simpa using hOutside)
        ((isQuantifier_iff q).mp hQuantifier) ((opensRepeat_iff r).mp hRepeat)⟩
      exact ⟨rest, by simp⟩
    · rename_i q r rest
      rw [Bool.and_eq_true, isQuantifier_iff, isQuantifier_iff] at h
      exact ⟨_, ⟨rest, rfl⟩, .wildcardGroup h.1 h.2⟩
    · obtain ⟨inside, r, rest, rfl, hFlat, ⟨⟨⟩⟩ | hBar, hRepeat⟩ :=
        (closesAlternation_iff false _).mp h
      obtain ⟨u, v, rfl⟩ := List.append_of_mem hBar
      exact ⟨_, ⟨rest, by simp⟩, .quantifiedAlternation hFlat ((opensRepeat_iff r).mp hRepeat)⟩
    · rename_i d rest
      rw [Bool.and_eq_true, decide_eq_true_eq, decide_eq_true_eq] at h
      exact ⟨_, ⟨rest, rfl⟩, .numbered h⟩
    · rename_i rest
      exact ⟨_, ⟨rest, rfl⟩, .named⟩
    · rename_i mark rest
      rw [Bool.or_eq_true, beq_iff_eq, beq_iff_eq] at h
      exact ⟨_, ⟨rest, rfl⟩, .behind h⟩
    · rename_i mark rest hOther
      rw [Bool.or_eq_true, beq_iff_eq, beq_iff_eq] at h
      exact ⟨_, ⟨rest, rfl⟩, .ahead h⟩
    · cases h
  · rintro ⟨_, ⟨rest, rfl⟩, hShows⟩
    refine beginsAt_append ?_ rest
    cases hShows with
    | nestedQuantifier hInside hOutside hQuantifier hRepeat =>
      refine (closesNested_iff false false _).mpr ⟨_, _, [], rfl, hInside, .inr ?_, ?_⟩
      · exact ⟨_, _, _, rfl, (isQuantifier_iff _).mpr hQuantifier, by simpa using hOutside⟩
      · exact (opensRepeat_iff _).mpr hRepeat
    | wildcardGroup hQuantifier hRepeat =>
      rw [beginsAt, (isQuantifier_iff _).mpr hQuantifier, (isQuantifier_iff _).mpr hRepeat]
      rfl
    | quantifiedAlternation hInside hRepeat =>
      refine (closesAlternation_iff false _).mpr ⟨_, _, [], rfl, hInside, .inr ?_, ?_⟩
      · exact List.mem_append_right _ List.mem_cons_self
      · exact (opensRepeat_iff _).mpr hRepeat
    | numbered h =>
      rw [beginsAt, decide_eq_true h.1, decide_eq_true h.2]
      rfl
    | named => rfl
    | ahead h => rcases h with rfl | rfl <;> rfl
    | behind h => rcases h with rfl | rfl <;> rfl

theorem occursIn_iff_standsIn (shape : Shape) (t : Text) :
    shape.occursIn t = true ↔ shape.StandsIn t := by
  rw [occursIn_iff]
  constructor
  · rintro ⟨before, after, rfl, hBegins⟩
    obtain ⟨u, ⟨rest, rfl⟩, hShows⟩ := (beginsAt_iff shape after).mp hBegins
    exact ⟨u, ⟨before, rest, List.append_assoc ..⟩, hShows⟩
  · rintro ⟨u, ⟨before, rest, rfl⟩, hShows⟩
    refine ⟨before, u ++ rest, List.append_assoc .., (beginsAt_iff shape _).mpr ?_⟩
    exact ⟨u, ⟨rest, rfl⟩, hShows⟩

def expression : Shape → Text
  | .nestedQuantifier =>
    "\\((?:[^)(]|\\([^)(]*\\))*[+*](?:[^)(]|\\([^)(]*\\))*\\)[+*\x7b]".toList
  | .wildcardGroup => "\\(\\.[*+]\\)[+*]".toList
  | .quantifiedAlternation => "\\([^()]*\\|[^()]*\\)[+*\x7b]".toList
  | .backreference => "\\\\[1-9]|\\(\\?P=".toList
  | .lookaround => "\\(\\?<?[=!]".toList

end Shape

def letter (c : Char) : Expr :=
  .code c.toNat

def oneOf (t : Text) : Expr :=
  .set false (t.map fun c => .code c.toNat)

def noneOf (t : Text) : Expr :=
  .set true (t.map fun c => .code c.toNat)

def anyNumber (e : Expr) : Expr :=
  .many .greedy 0 none e

def unit : Expr :=
  .group none {} {} (.alt (noneOf [')', '('])
    (.sequence [letter '(', anyNumber (noneOf [')', '(']), letter ')']))

namespace Shape

def expr : Shape → Expr
  | .nestedQuantifier => .sequence [letter '(', anyNumber unit, oneOf ['+', '*'], anyNumber unit,
      letter ')', oneOf ['+', '*', '\x7b']]
  | .wildcardGroup => .sequence [letter '(', letter '.', oneOf ['*', '+'], letter ')',
      oneOf ['+', '*']]
  | .quantifiedAlternation => .sequence [letter '(', anyNumber (noneOf ['(', ')']), letter '|',
      anyNumber (noneOf ['(', ')']), letter ')', oneOf ['+', '*', '\x7b']]
  | .backreference => .alt (.sequence [letter '\\', .set false [.range 49 57]])
      (.sequence (['(', '?', 'P', '='].map letter))
  | .lookaround => .sequence [letter '(', letter '?', .many .greedy 0 (some 1) (letter '<'),
      oneOf ['=', '!']]

theorem compile_expression (shape : Shape) : Regex.compile shape.expression {} =
    .ok { pattern := shape.expression, flags := { unicode := true }, expr := shape.expr } := by
  cases shape <;> rfl

end Shape

section Reading

variable {kept : List Nat} {flags : Flags}

theorem reads_oneOf (hCase : flags.ignoreCase = false) (t : Text) :
    Reads kept flags (oneOf t) fun u => ∃ c, u = [c] ∧ c ∈ t := by
  apply (Regex.reads_charSet hCase false t).congr
  simp

theorem reads_otherThan (hCase : flags.ignoreCase = false) (t : Text) :
    Reads kept flags (noneOf t) fun u => ∃ c, u = [c] ∧ c ∉ t := by
  apply (Regex.reads_charSet hCase true t).congr
  simp

theorem reads_flat (hCase : flags.ignoreCase = false) {t : Text} (h : t = ['(', ')'] ∨ t = [')', '(']) :
    Reads kept flags (anyNumber (noneOf t)) Flat := by
  apply (reads_otherThan hCase t).many.congr
  intro u
  rw [flat_iff]
  rcases h with rfl | rfl
  · simp
  · simp [and_comm]

theorem reads_unit (hCase : flags.ignoreCase = false) : Reads kept flags unit IsUnit := by
  have hPair : Reads kept flags (.sequence [letter '(', anyNumber (noneOf [')', '(']), letter ')']) _ :=
    (Regex.reads_code hCase '(').seq ((reads_flat hCase (.inr rfl)).seq (Regex.reads_code hCase ')'))
  apply ((reads_otherThan hCase [')', '(']).alt hPair).group.congr
  intro u
  constructor
  · rintro (⟨c, rfl, hOther⟩ | ⟨_, _, rfl, rfl, _, _, rfl, hFlat, rfl⟩)
    · simp only [List.mem_cons, List.not_mem_nil, or_false, not_or] at hOther
      exact .plain hOther.2 hOther.1
    · exact .pair hFlat
  · rintro (⟨hOpen, hClose⟩ | @⟨inside, hFlat⟩)
    · exact .inl ⟨_, rfl, by simp [hOpen, hClose]⟩
    · exact .inr ⟨['('], inside ++ [')'], rfl, rfl, inside, [')'], rfl, hFlat, rfl⟩

theorem reads_units (hCase : flags.ignoreCase = false) :
    Reads kept flags (anyNumber unit) Parenthesised := by
  apply ((reads_unit hCase).rounds fun u h => h.ne_nil).congr
  intro u
  exact parenthesised_iff.symm

theorem reads_digit (hCase : flags.ignoreCase = false) :
    Reads kept flags (.set false [.range 49 57]) fun u => ∃ d, u = [d] ∧ '1' ≤ d ∧ d ≤ '9' := by
  apply (Regex.reads_of_accept fun c follow => Regex.run_set kept flags c follow false _).congr
  intro u
  have hRange : ∀ d : Char, Regex.acceptsSet flags false [.range 49 57] d.toNat = true ↔
      '1' ≤ d ∧ d ≤ '9' := by
    intro d
    simp [Regex.acceptsSet, hCase, Regex.SetItem.holds, Char.le_def, UInt32.le_iff_toNat_le]
  simp only [hRange]

theorem reads_repeat (hCase : flags.ignoreCase = false) :
    Reads kept flags (.seq (letter ')') (oneOf ['+', '*', '\x7b']))
      fun u => ∃ r, u = [')', r] ∧ (r = '+' ∨ r = '*' ∨ r = '\x7b') := by
  apply ((Regex.reads_code hCase ')').seq (reads_oneOf hCase _)).congr
  intro u
  constructor
  · rintro ⟨_, _, rfl, rfl, r, rfl, hRepeat⟩
    exact ⟨r, rfl, by simpa using hRepeat⟩
  · rintro ⟨r, rfl, hRepeat⟩
    exact ⟨[')'], [r], rfl, rfl, r, rfl, by simpa using hRepeat⟩

theorem reads_nestedQuantifier (hCase : flags.ignoreCase = false) :
    Reads kept flags Shape.nestedQuantifier.expr Shape.nestedQuantifier.Shows := by
  have hUnits : Reads kept flags (anyNumber unit) Parenthesised := reads_units hCase
  apply ((Regex.reads_code hCase '(').seq (hUnits.seq ((reads_oneOf hCase ['+', '*']).seq
    (hUnits.seq (reads_repeat hCase))))).congr
  intro t
  constructor
  · rintro ⟨_, _, rfl, rfl, u, _, rfl, hU, _, _, rfl, ⟨q, rfl, hQuantifier⟩, v, _, rfl, hV, r, rfl,
      hRepeat⟩
    rw [List.mem_pair] at hQuantifier
    obtain ⟨hInside, hOutside⟩ := (parenthesised_around_iff (not_parenthesis hQuantifier).1
      (not_parenthesis hQuantifier).2).mpr ⟨hU, hV⟩
    have hShows := Shape.Shows.nestedQuantifier hInside hOutside hQuantifier hRepeat
    simpa using hShows
  · intro h
    cases h with
    | @nestedQuantifier u v q r hInside hOutside hQuantifier hRepeat =>
      obtain ⟨hU, hV⟩ := (parenthesised_around_iff (not_parenthesis hQuantifier).1
        (not_parenthesis hQuantifier).2).mp ⟨hInside, hOutside⟩
      refine ⟨['('], _, ?_, rfl, u, _, rfl, hU, [q], _, rfl, ⟨q, rfl, by simpa using hQuantifier⟩, v,
        _, rfl, hV, r, rfl, hRepeat⟩
      simp

theorem reads_wildcardGroup (hCase : flags.ignoreCase = false) :
    Reads kept flags Shape.wildcardGroup.expr Shape.wildcardGroup.Shows := by
  apply ((Regex.reads_code hCase '(').seq ((Regex.reads_code hCase '.').seq
    ((reads_oneOf hCase ['*', '+']).seq ((Regex.reads_code hCase ')').seq
      (reads_oneOf hCase ['+', '*']))))).congr
  intro t
  constructor
  · rintro ⟨_, _, rfl, rfl, _, _, rfl, rfl, _, _, rfl, ⟨q, rfl, hQuantifier⟩, _, _, rfl, rfl, r, rfl,
      hRepeat⟩
    exact .wildcardGroup (by simpa [or_comm] using hQuantifier) (by simpa using hRepeat)
  · intro h
    cases h with
    | @wildcardGroup q r hQuantifier hRepeat =>
      exact ⟨['('], _, rfl, rfl, ['.'], _, rfl, rfl, [q], _, rfl,
        ⟨q, rfl, by simpa [or_comm] using hQuantifier⟩, [')'], [r], rfl, rfl, r, rfl,
        by simpa using hRepeat⟩

theorem reads_quantifiedAlternation (hCase : flags.ignoreCase = false) :
    Reads kept flags Shape.quantifiedAlternation.expr Shape.quantifiedAlternation.Shows := by
  have hFlat : Reads kept flags (anyNumber (noneOf ['(', ')'])) Flat := reads_flat hCase (.inl rfl)
  apply ((Regex.reads_code hCase '(').seq (hFlat.seq ((Regex.reads_code hCase '|').seq
    (hFlat.seq (reads_repeat hCase))))).congr
  have hBar : ∀ {u v : Text}, Flat (u ++ '|' :: v) ↔ Flat u ∧ Flat v := by
    intro u v
    simp [flat_iff, or_imp, forall_and, and_assoc, and_left_comm]
  intro t
  constructor
  · rintro ⟨_, _, rfl, rfl, u, _, rfl, hU, _, _, rfl, rfl, v, _, rfl, hV, r, rfl, hRepeat⟩
    have hShows := Shape.Shows.quantifiedAlternation (hBar.mpr ⟨hU, hV⟩) hRepeat
    simpa using hShows
  · intro h
    cases h with
    | @quantifiedAlternation u v r hInside hRepeat =>
      obtain ⟨hU, hV⟩ := hBar.mp hInside
      refine ⟨['('], _, ?_, rfl, u, _, rfl, hU, ['|'], _, rfl, rfl, v, _, rfl, hV, r, rfl, hRepeat⟩
      simp

theorem reads_backreference (hCase : flags.ignoreCase = false) :
    Reads kept flags Shape.backreference.expr Shape.backreference.Shows := by
  apply (((Regex.reads_code hCase '\\').seq (reads_digit hCase)).alt
    (Regex.reads_codes hCase ['(', '?', 'P', '='])).congr
  intro t
  constructor
  · rintro (⟨_, _, rfl, rfl, d, rfl, hDigit⟩ | rfl)
    · exact .numbered hDigit
    · exact .named
  · intro h
    cases h with
    | numbered hDigit => exact .inl ⟨['\\'], _, rfl, rfl, _, rfl, hDigit⟩
    | named => exact .inr rfl

theorem reads_lookaround (hCase : flags.ignoreCase = false) :
    Reads kept flags Shape.lookaround.expr Shape.lookaround.Shows := by
  apply ((Regex.reads_code hCase '(').seq ((Regex.reads_code hCase '?').seq
    ((Regex.reads_code hCase '<').optional.seq (reads_oneOf hCase ['=', '!'])))).congr
  intro t
  constructor
  · rintro ⟨_, _, rfl, rfl, _, _, rfl, rfl, _, _, rfl, rfl | rfl, mark, rfl, hMark⟩
    · exact .ahead (by simpa using hMark)
    · exact .behind (by simpa using hMark)
  · intro h
    cases h with
    | ahead hMark =>
      exact ⟨['('], _, rfl, rfl, ['?'], _, rfl, rfl, [], _, rfl, .inl rfl, _, rfl,
        by simpa using hMark⟩
    | behind hMark =>
      exact ⟨['('], _, rfl, rfl, ['?'], _, rfl, rfl, ['<'], _, rfl, .inr rfl, _, rfl,
        by simpa using hMark⟩

/-- The expression of a shape reads the texts that the shape stands for. -/
theorem Shape.reads (hCase : flags.ignoreCase = false) (shape : Shape) :
    Reads kept flags shape.expr shape.Shows := by
  cases shape with
  | nestedQuantifier => exact reads_nestedQuantifier hCase
  | wildcardGroup => exact reads_wildcardGroup hCase
  | quantifiedAlternation => exact reads_quantifiedAlternation hCase
  | backreference => exact reads_backreference hCase
  | lookaround => exact reads_lookaround hCase

/-- Searched for, the expression of a shape tells whether the shape stands in the text. -/
theorem Shape.expression_searches (shape : Shape) : ∃ program,
    Regex.compile shape.expression {} = .ok program ∧
      ∀ t, program.occursIn t = true ↔ shape.StandsIn t := by
  refine ⟨_, shape.compile_expression, fun t => ?_⟩
  exact Regex.search_iff (fun kept => Shape.reads rfl shape) t

end Reading

variable {t body : Text}

/-- A repeated wildcard in a repeated group is also a quantifier in a repeated group. -/
theorem nestedQuantifier_of_wildcardGroup (h : Shape.wildcardGroup.StandsIn t) :
    Shape.nestedQuantifier.StandsIn t := by
  obtain ⟨_, hPart, hShows⟩ := h
  cases hShows with
  | @wildcardGroup q r hQuantifier hRepeat =>
    have hNone : Parenthesised ([] : Text) := closes_nil_iff.mpr rfl
    have hWild : Parenthesised ['.'] := hNone.behind (.plain (by decide) (by decide))
    obtain ⟨hInside, hOutside⟩ := (parenthesised_around_iff (not_parenthesis hQuantifier).1
      (not_parenthesis hQuantifier).2).mpr ⟨hWild, hNone⟩
    exact ⟨_, hPart, .nestedQuantifier hInside hOutside hQuantifier (hRepeat.imp_right .inl)⟩

/-- Within its limits of length, an expression is refused for the first of the shapes that stand in it. -/
theorem gate_eq_error_iff (hSome : 1 ≤ body.length) (hShort : body.length ≤ longest)
    (reason : GateError) : gate body = .error reason ↔ ∃ before shape after, reason = .shape shape ∧
      Shape.all = before ++ shape :: after ∧ shape.StandsIn body ∧
        ∀ earlier ∈ before, ¬earlier.StandsIn body := by
  have hLength : ¬((body.isEmpty || decide (longest < body.length)) = true) := by
    simp only [Bool.or_eq_true, List.isEmpty_iff, decide_eq_true_eq, not_or]
    exact ⟨List.length_pos_iff.mp hSome, by omega⟩
  have hFirst : ∀ shape, Shape.all.find? (·.occursIn body) = some shape ↔ ∃ before after,
      Shape.all = before ++ shape :: after ∧ shape.StandsIn body ∧
        ∀ earlier ∈ before, ¬earlier.StandsIn body := by
    intro shape
    rw [List.find?_eq_some_iff_append, Shape.occursIn_iff_standsIn]
    simp only [Bool.not_eq_true', Bool.eq_false_iff, ne_eq, Shape.occursIn_iff_standsIn]
    tauto
  unfold gate
  rw [if_neg hLength]
  cases hFind : Shape.all.find? (·.occursIn body) with
  | none =>
    refine iff_of_false nofun ?_
    rintro ⟨before, shape, after, -, hAll⟩
    rw [(hFirst shape).mpr ⟨before, after, hAll⟩] at hFind
    cases hFind
  | some shape =>
    constructor
    · rintro ⟨⟩
      obtain ⟨before, after, hAll⟩ := (hFirst shape).mp hFind
      exact ⟨before, shape, after, rfl, hAll⟩
    · rintro ⟨before, other, after, rfl, hAll⟩
      rw [(hFirst other).mpr ⟨before, after, hAll⟩] at hFind
      cases hFind
      rfl

/-- Within its limits of length, an expression is refused exactly when one of the five shapes stands in it,
and for the first of them, which is never the second. Each shape stands where its own expression is
found. -/
theorem gate_refuses_first_shape (hSome : 1 ≤ body.length) (hShort : body.length ≤ longest) :
    (gate body = .ok () ↔ ∀ shape : Shape, ¬shape.StandsIn body) ∧
      (∀ reason, gate body = .error reason ↔ ∃ before shape after, reason = .shape shape ∧
        Shape.all = before ++ shape :: after ∧ shape.StandsIn body ∧
          ∀ earlier ∈ before, ¬earlier.StandsIn body) ∧
      gate body ≠ .error (.shape .wildcardGroup) ∧
      ∀ shape : Shape, ∃ program, Regex.compile shape.expression {} = .ok program ∧
        (program.occursIn body = true ↔ shape.StandsIn body) := by
  refine ⟨?_, gate_eq_error_iff hSome hShort, ?_, ?_⟩
  · simp only [gate_eq_ok_iff, hSome, hShort, true_and, ← Shape.occursIn_iff_standsIn,
      Bool.not_eq_true]
  · rw [ne_eq, gate_eq_error_iff hSome hShort]
    rintro ⟨before, _, after, ⟨⟩, hAll, hStands, hEarlier⟩
    have hNested : Shape.nestedQuantifier ∈ before := by
      cases before with
      | nil => cases hAll
      | cons first before =>
        obtain ⟨rfl, -⟩ := List.cons.inj hAll
        exact List.mem_cons_self
    exact hEarlier _ hNested (nestedQuantifier_of_wildcardGroup hStands)
  · intro shape
    obtain ⟨program, hCompile, hSearch⟩ := shape.expression_searches
    exact ⟨program, hCompile, hSearch body⟩

/-- Three shapes stand in this one, and it is refused for the first. -/
theorem gate_refuses_first_shape_bars :
    let body := "x(a(b)c|(d))*(e|f)*(?=g)\\1".toList
    1 ≤ body.length ∧ body.length ≤ longest ∧ Shape.lookaround.StandsIn body ∧
      gate body = .error (.shape .quantifiedAlternation) ∧
      ∃ before after, Shape.all = before ++ .quantifiedAlternation :: after ∧
        Shape.quantifiedAlternation.StandsIn body ∧ ∀ earlier ∈ before, ¬earlier.StandsIn body := by
  intro body
  have hSome : 1 ≤ body.length := by decide
  have hShort : body.length ≤ longest := by decide
  have hGate : gate body = .error (.shape .quantifiedAlternation) := rfl
  obtain ⟨-, hReason, -⟩ := gate_refuses_first_shape hSome hShort
  obtain ⟨before, _, after, ⟨⟩, hAll⟩ := (hReason _).mp hGate
  exact ⟨hSome, hShort, (Shape.lookaround.occursIn_iff_standsIn body).mp rfl, hGate, before, after, hAll⟩

end AssetAudit.Whitelist
