import AssetAudit.Regex.Match
import Mathlib.Data.List.Forall2

/-!
# What an expression reads

An expression reads a kind of texts when a match goes on exactly behind those of the kind that come
next. Single characters, sequences, groups and repetitions of characters read what their parts tell,
whatever follows them; backtracking decides which text is tried first and not which texts there are.
-/
namespace AssetAudit.Regex

namespace Cursor

def past (c : Cursor) (u : Text) : Cursor where
  before := u.reverse ++ c.before
  after := c.after.drop u.length
  place := c.place + u.length
  groups := c.groups

theorem past_append (c : Cursor) (u v : Text) : c.past (u ++ v) = (c.past u).past v := by
  simp [past, Nat.add_assoc]

theorem next_eq_past {c : Cursor} {x : Char} {rest : Text} (h : c.after = x :: rest) :
    c.next x rest = c.past [x] := by
  simp [next, past, h]

theorem after_past {c : Cursor} {u rest : Text} (h : c.after = u ++ rest) :
    (c.past u).after = rest := by
  rw [past, h, List.drop_left]

end Cursor

/-! A match of an expression, form by form. -/

section Forms

variable (kept : List Nat) (flags : Flags) (a b : Expr) (c : Cursor) (follow : Follow)

theorem run_empty : run kept .empty flags c follow = follow c := rfl

theorem run_code (x : Nat) :
    run kept (.code x) flags c follow = c.accept (acceptsCode flags x) follow := rfl

theorem run_anyChar : run kept .anyChar flags c follow = c.accept (acceptsAny flags) follow := rfl

theorem run_set (negated : Bool) (items : List SetItem) :
    run kept (.set negated items) flags c follow = c.accept (acceptsSet flags negated items) follow :=
  rfl

theorem run_anchor (anchor : Anchor) :
    run kept (.anchor anchor) flags c follow = if c.stands flags anchor then follow c else none := rfl

theorem run_seq : run kept (.seq a b) flags c follow =
    run kept a flags c fun c => run kept b flags c follow := rfl

theorem run_alt : run kept (.alt a b) flags c follow =
    match run kept a flags c follow with
    | some found => some found
    | none => run kept b flags c follow := rfl

theorem run_group_none (on off : Flags) : run kept (.group none on off a) flags c follow =
    run kept a (flags.enter on off) c follow := rfl

theorem run_many_greedy (least : Nat) (most : Option Nat) :
    run kept (.many .greedy least most a) flags c follow =
      iterate (run kept a flags) false (least + c.after.length + 2) least most none c follow := rfl

end Forms

/-- A match of the expression goes on behind every text of the kind that comes next, and behind no
other. -/
def Reads (kept : List Nat) (flags : Flags) (e : Expr) (kind : Text → Prop) : Prop :=
  ∀ (c : Cursor) (follow : Follow), (run kept e flags c follow).isSome = true ↔
    ∃ u rest, c.after = u ++ rest ∧ kind u ∧ (follow (c.past u)).isSome = true

variable {kept : List Nat} {flags : Flags} {e a b : Expr} {kind kindA kindB : Text → Prop}
  {p : Nat → Bool}

theorem Reads.congr (h : Reads kept flags e kind) {kind' : Text → Prop}
    (hKind : ∀ u, kind u ↔ kind' u) : Reads kept flags e kind' := by
  intro c follow
  rw [h c follow]
  simp only [hKind]

/-- An expression that steps over one character. -/
theorem reads_of_accept (h : ∀ c follow, run kept e flags c follow = c.accept p follow) :
    Reads kept flags e fun u => ∃ x, u = [x] ∧ p x.toNat = true := by
  intro c follow
  rw [h, Cursor.accept]
  constructor
  · intro hSome
    cases hAfter : c.after with
    | nil =>
      rw [hAfter] at hSome
      cases hSome
    | cons x rest =>
      rw [hAfter] at hSome
      dsimp only at hSome
      split at hSome
      · rename_i hAccepted
        rw [Cursor.next_eq_past hAfter] at hSome
        exact ⟨[x], rest, rfl, ⟨x, rfl, hAccepted⟩, hSome⟩
      · cases hSome
  · rintro ⟨_, rest, hAfter, ⟨x, rfl, hAccepted⟩, hSome⟩
    have hFront : c.after = x :: rest := hAfter
    rw [hFront]
    dsimp only
    rw [if_pos hAccepted, Cursor.next_eq_past hFront]
    exact hSome

theorem acceptsCode_iff (hCase : flags.ignoreCase = false) (d x : Char) :
    acceptsCode flags d.toNat x.toNat = true ↔ x = d := by
  simp [acceptsCode, hCase, Char.toNat_inj]

theorem reads_code (hCase : flags.ignoreCase = false) (d : Char) :
    Reads kept flags (.code d.toNat) fun u => u = [d] := by
  apply (reads_of_accept fun c follow => run_code kept flags c follow d.toNat).congr
  intro u
  simp only [acceptsCode_iff hCase, exists_eq_right]

theorem reads_allBut (hCase : flags.ignoreCase = false) (d : Char) :
    Reads kept flags (.set true [.code d.toNat])
      fun u => ∃ x : Char, u = [x] ∧ (x.toNat != d.toNat) = true := by
  apply reads_of_accept (p := fun n => n != d.toNat)
  intro c follow
  rw [run_set]
  congr 1
  funext n
  simp [acceptsSet, hCase, SetItem.holds, bne]

theorem acceptsSet_iff (hCase : flags.ignoreCase = false) (negated : Bool) (t : Text) (x : Char) :
    acceptsSet flags negated (t.map fun c => .code c.toNat) x.toNat = true ↔
      (t.contains x != negated) = true := by
  have hContains : t.any (fun c => x.toNat == c.toNat) = t.contains x := by
    rw [Bool.eq_iff_iff]
    simp [Char.toNat_inj]
  simp [acceptsSet, hCase, SetItem.holds, List.any_map, Function.comp_def, hContains]

/-- One of the characters of a text, or one that is none of them. -/
theorem reads_charSet (hCase : flags.ignoreCase = false) (negated : Bool) (t : Text) :
    Reads kept flags (.set negated (t.map fun c => .code c.toNat))
      fun u => ∃ x, u = [x] ∧ (t.contains x != negated) = true := by
  apply (reads_of_accept fun c follow => run_set kept flags c follow negated _).congr
  intro u
  simp only [acceptsSet_iff hCase]

theorem reads_empty : Reads kept flags .empty fun u => u = [] := by
  intro c follow
  rw [run_empty]
  constructor
  · intro hSome
    exact ⟨[], c.after, rfl, rfl, hSome⟩
  · rintro ⟨_, rest, -, rfl, hSome⟩
    exact hSome

theorem Reads.seq (hA : Reads kept flags a kindA) (hB : Reads kept flags b kindB) :
    Reads kept flags (.seq a b) fun w => ∃ u v, w = u ++ v ∧ kindA u ∧ kindB v := by
  intro c follow
  rw [run_seq, hA]
  constructor
  · rintro ⟨u, rest, hAfter, hFirst, hSome⟩
    obtain ⟨v, rest', hBehind, hSecond, hSome⟩ := (hB _ _).mp hSome
    rw [Cursor.after_past hAfter] at hBehind
    refine ⟨u ++ v, rest', ?_, ⟨u, v, rfl, hFirst, hSecond⟩, ?_⟩
    · rw [hAfter, hBehind, List.append_assoc]
    · rwa [Cursor.past_append]
  · rintro ⟨_, rest, hAfter, ⟨u, v, rfl, hFirst, hSecond⟩, hSome⟩
    rw [List.append_assoc] at hAfter
    rw [Cursor.past_append] at hSome
    exact ⟨u, v ++ rest, hAfter, hFirst,
      (hB _ _).mpr ⟨v, rest, Cursor.after_past hAfter, hSecond, hSome⟩⟩

theorem Reads.alt (hA : Reads kept flags a kindA) (hB : Reads kept flags b kindB) :
    Reads kept flags (.alt a b) fun u => kindA u ∨ kindB u := by
  intro c follow
  have hEither : (run kept (.alt a b) flags c follow).isSome = true ↔
      (run kept a flags c follow).isSome = true ∨ (run kept b flags c follow).isSome = true := by
    rw [run_alt]
    cases run kept a flags c follow with
    | none => simp
    | some found => simp
  rw [hEither, hA, hB]
  constructor
  · rintro (⟨u, rest, hAfter, hKind, hSome⟩ | ⟨u, rest, hAfter, hKind, hSome⟩)
    · exact ⟨u, rest, hAfter, .inl hKind, hSome⟩
    · exact ⟨u, rest, hAfter, .inr hKind, hSome⟩
  · rintro ⟨u, rest, hAfter, hKind | hKind, hSome⟩
    · exact .inl ⟨u, rest, hAfter, hKind, hSome⟩
    · exact .inr ⟨u, rest, hAfter, hKind, hSome⟩

theorem run_sequence_cons (items : List Expr) (c : Cursor) (follow : Follow) :
    run kept (Expr.sequence (e :: items)) flags c follow =
      run kept e flags c fun c => run kept (Expr.sequence items) flags c follow := by
  cases items with
  | nil => simp [Expr.sequence, run_empty]
  | cons other items =>
    change run kept (.seq e (Expr.sequence (other :: items))) flags c follow = _
    rw [run_seq]

theorem run_sequence_append (before after : List Expr) (c : Cursor) (follow : Follow) :
    run kept (Expr.sequence (before ++ after)) flags c follow =
      run kept (Expr.sequence before) flags c fun c =>
        run kept (Expr.sequence after) flags c follow := by
  induction before generalizing c with
  | nil => simp [Expr.sequence, run_empty]
  | cons e before ih =>
    rw [List.cons_append, run_sequence_cons, run_sequence_cons]
    simp only [ih]

/-- A sequence reads a piece for each of its items. -/
theorem reads_sequence {items : List Expr} {kinds : List (Text → Prop)}
    (h : List.Forall₂ (Reads kept flags) items kinds) :
    Reads kept flags (Expr.sequence items) fun u =>
      ∃ pieces, List.Forall₂ (fun kind piece => kind piece) kinds pieces ∧ u = pieces.flatten := by
  induction h with
  | nil =>
    apply reads_empty.congr
    intro u
    constructor
    · rintro rfl
      exact ⟨[], .nil, rfl⟩
    · rintro ⟨_, ⟨⟩, rfl⟩
      rfl
  | @cons e kind items kinds hFirst _ ih =>
    have hBoth : Reads kept flags (.seq e (Expr.sequence items)) _ := hFirst.seq ih
    intro c follow
    have hRun : run kept (Expr.sequence (e :: items)) flags c follow =
        run kept (.seq e (Expr.sequence items)) flags c follow := by
      rw [run_sequence_cons, run_seq]
    rw [hRun]
    apply (hBoth.congr _) c follow
    intro u
    constructor
    · rintro ⟨piece, _, rfl, hPiece, pieces, hPieces, rfl⟩
      exact ⟨piece :: pieces, .cons hPiece hPieces, rfl⟩
    · rintro ⟨_, hAll, rfl⟩
      cases hAll with
      | cons hPiece hPieces => exact ⟨_, _, rfl, hPiece, _, hPieces, rfl⟩

theorem Reads.append {as bs : List Expr} (hA : Reads kept flags (Expr.sequence as) kindA)
    (hB : Reads kept flags (Expr.sequence bs) kindB) :
    Reads kept flags (Expr.sequence (as ++ bs)) fun w => ∃ u v, w = u ++ v ∧ kindA u ∧ kindB v := by
  intro c follow
  rw [run_sequence_append, ← run_seq]
  exact hA.seq hB c follow

theorem reads_codes (hCase : flags.ignoreCase = false) (t : Text) :
    Reads kept flags (Expr.sequence (t.map fun c => .code c.toNat)) fun u => u = t := by
  induction t with
  | nil => exact reads_empty
  | cons c t ih =>
    have hFirst : Reads kept flags (Expr.sequence [.code c.toNat]) fun u => u = [c] :=
      reads_code hCase c
    apply (hFirst.append ih).congr
    intro u
    constructor
    · rintro ⟨_, _, rfl, rfl, rfl⟩
      rfl
    · rintro rfl
      exact ⟨[c], t, rfl, rfl, rfl⟩

theorem enter_none (flags : Flags) : flags.enter {} {} = flags := by
  simp [Flags.enter, Flags.choosesAlphabet, Flags.union, Flags.without]

theorem Reads.group (h : Reads kept flags e kind) : Reads kept flags (.group none {} {} e) kind := by
  intro c follow
  rw [run_group_none, enter_none]
  exact h c follow

section Repetition

variable {step : Cursor → Follow → Option Cursor} {follow : Follow}

/-- One more round comes before going on, and either is enough. -/
theorem isSome_iterate_succ (fuel : Nat) {most last : Option Nat} {c : Cursor}
    (hMost : most ≠ some 0) (hLast : last ≠ some c.place) :
    (iterate step false (fuel + 1) 0 most last c follow).isSome = true ↔
      (step c fun next =>
        iterate step false fuel 0 (most.map (· - 1)) (some c.place) next follow).isSome = true ∨
      (follow c).isSome = true := by
  have hGoesOn : ¬(most = some 0 ∨ last = some c.place) := by
    rintro (hNone | hSame)
    · exact hMost hNone
    · exact hLast hSame
  rw [iterate]
  simp only [if_neg hGoesOn, Bool.false_eq_true, if_false]
  cases (step c fun next =>
    iterate step false fuel 0 (most.map (· - 1)) (some c.place) next follow) with
  | none => simp
  | some found => simp

theorem iterate_most_zero (fuel : Nat) (last : Option Nat) (c : Cursor) :
    iterate step false fuel 0 (some 0) last c follow = follow c := by
  cases fuel with
  | zero => rw [iterate]
  | succ fuel =>
    rw [iterate]
    simp

/-- As many rounds as there are pieces of the kind. Every round makes progress, and there is fuel for all
that comes next. -/
theorem isSome_iterate_iff (hStep : ∀ (c : Cursor) (follow : Follow), (step c follow).isSome = true ↔
      ∃ u rest, c.after = u ++ rest ∧ kind u ∧ (follow (c.past u)).isSome = true)
    (hSome : ∀ u, kind u → u ≠ []) (fuel : Nat) {last : Option Nat} {c : Cursor}
    (hFuel : c.after.length < fuel) (hLast : last ≠ some c.place) :
    (iterate step false fuel 0 none last c follow).isSome = true ↔
      ∃ (pieces : List Text) (rest : Text), c.after = pieces.flatten ++ rest ∧
        (∀ piece ∈ pieces, kind piece) ∧ (follow (c.past pieces.flatten)).isSome = true := by
  induction fuel generalizing last c with
  | zero => exact absurd hFuel (Nat.not_lt_zero _)
  | succ fuel ih =>
    have hMost : (none : Option Nat) ≠ some 0 := nofun
    rw [isSome_iterate_succ fuel hMost hLast, hStep]
    have hRest : ∀ {u rest : Text}, c.after = u ++ rest → kind u →
        ((iterate step false fuel 0 none (some c.place) (c.past u) follow).isSome = true ↔
          ∃ (pieces : List Text) (tail : Text), (c.past u).after = pieces.flatten ++ tail ∧
            (∀ piece ∈ pieces, kind piece) ∧
              (follow ((c.past u).past pieces.flatten)).isSome = true) := by
      intro u rest hAfter hKind
      have hLength := List.length_pos_iff.mpr (hSome u hKind)
      apply ih
      · rw [hAfter, List.length_append] at hFuel
        rw [Cursor.after_past hAfter]
        omega
      · simp only [Cursor.past, ne_eq, Option.some.injEq]
        omega
    constructor
    · rintro (⟨u, rest, hAfter, hKind, hMore⟩ | hDone)
      · obtain ⟨pieces, tail, hBehind, hAll, hDone⟩ := (hRest hAfter hKind).mp hMore
        rw [Cursor.after_past hAfter] at hBehind
        refine ⟨u :: pieces, tail, ?_, List.forall_mem_cons.mpr ⟨hKind, hAll⟩, ?_⟩
        · rw [hAfter, hBehind, List.flatten_cons, List.append_assoc]
        · rwa [List.flatten_cons, Cursor.past_append]
      · refine ⟨[], c.after, rfl, nofun, ?_⟩
        simpa [Cursor.past] using hDone
    · rintro ⟨pieces, tail, hAfter, hAll, hDone⟩
      cases pieces with
      | nil =>
        right
        simpa [Cursor.past] using hDone
      | cons u pieces =>
        obtain ⟨hKind, hMore⟩ := List.forall_mem_cons.mp hAll
        rw [List.flatten_cons, List.append_assoc] at hAfter
        rw [List.flatten_cons, Cursor.past_append] at hDone
        refine .inl ⟨u, pieces.flatten ++ tail, hAfter, hKind, ?_⟩
        exact (hRest hAfter hKind).mpr ⟨pieces, tail, Cursor.after_past hAfter, hMore, hDone⟩

end Repetition

/-- Any number of pieces of a kind, none of which is empty. -/
theorem Reads.rounds (h : Reads kept flags e kind) (hSome : ∀ u, kind u → u ≠ []) :
    Reads kept flags (.many .greedy 0 none e) fun u =>
      ∃ pieces : List Text, (∀ piece ∈ pieces, kind piece) ∧ u = pieces.flatten := by
  intro c follow
  have hLast : none ≠ some c.place := nofun
  rw [run_many_greedy, isSome_iterate_iff h hSome _ (by omega) hLast]
  constructor
  · rintro ⟨pieces, rest, hAfter, hAll, hDone⟩
    exact ⟨pieces.flatten, rest, hAfter, ⟨pieces, hAll, rfl⟩, hDone⟩
  · rintro ⟨_, rest, hAfter, ⟨pieces, hAll, rfl⟩, hDone⟩
    exact ⟨pieces, rest, hAfter, hAll, hDone⟩

/-- Any number of characters of a kind. -/
theorem Reads.many {P : Char → Prop} (h : Reads kept flags e fun u => ∃ x, u = [x] ∧ P x) :
    Reads kept flags (.many .greedy 0 none e) fun u => ∀ x ∈ u, P x := by
  apply (h.rounds ?_).congr
  · intro u
    constructor
    · rintro ⟨pieces, hAll, rfl⟩ x hMem
      obtain ⟨piece, hPiece, hMem⟩ := List.mem_flatten.mp hMem
      obtain ⟨y, rfl, hAccepted⟩ := hAll piece hPiece
      rw [List.mem_singleton.mp hMem]
      exact hAccepted
    · intro hAll
      refine ⟨u.map ([·]), ?_, ?_⟩
      · intro piece hPiece
        obtain ⟨x, hMem, rfl⟩ := List.mem_map.mp hPiece
        exact ⟨x, rfl, hAll x hMem⟩
      · rw [← List.flatMap_def, List.flatMap_singleton']
  · rintro u ⟨x, rfl, -⟩
    exact List.cons_ne_nil x []

theorem toNat_bne (c d : Char) : (c.toNat != d.toNat) = (c != d) := by
  rw [Bool.eq_iff_iff, bne_iff_ne, bne_iff_ne, not_iff_not, Char.toNat_inj]

/-- Any number of characters that are another one than `d`. -/
theorem Reads.manyOther {d : Char}
    (h : Reads kept flags e fun u => ∃ x : Char, u = [x] ∧ (x.toNat != d.toNat) = true) :
    Reads kept flags (.many .greedy 0 none e) fun u => d ∉ u := by
  apply (Reads.many (P := fun x => (x.toNat != d.toNat) = true) h).congr
  intro u
  simp only [toNat_bne, bne_iff_ne]
  exact List.forall_mem_ne'

theorem Reads.optional (h : Reads kept flags e kind) :
    Reads kept flags (.many .greedy 0 (some 1) e) fun u => u = [] ∨ kind u := by
  intro c follow
  have hMost : some 1 ≠ some 0 := by decide
  have hLast : none ≠ some c.place := nofun
  rw [run_many_greedy, isSome_iterate_succ (0 + c.after.length + 1) hMost hLast]
  simp only [Option.map_some, Nat.sub_self, iterate_most_zero]
  rw [h]
  constructor
  · rintro (⟨u, rest, hAfter, hKind, hSome⟩ | hSome)
    · exact ⟨u, rest, hAfter, .inr hKind, hSome⟩
    · exact ⟨[], c.after, rfl, .inl rfl, hSome⟩
  · rintro ⟨u, rest, hAfter, rfl | hKind, hSome⟩
    · exact .inr hSome
    · exact .inl ⟨u, rest, hAfter, hKind, hSome⟩

section Search

variable {go : Cursor → Option Cursor}

theorem isSome_searchFrom_iff {text : Text} {c : Cursor} (hAfter : c.after = text) :
    (searchFrom go c text).isSome = true ↔
      ∃ before rest, text = before ++ rest ∧ (go (c.past before)).isSome = true := by
  have hHere : c.past [] = c := by simp [Cursor.past]
  induction text generalizing c with
  | nil =>
    rw [searchFrom]
    constructor
    · intro hSome
      exact ⟨[], [], rfl, hHere ▸ hSome⟩
    · rintro ⟨before, rest, hNil, hSome⟩
      obtain ⟨rfl, -⟩ := List.append_eq_nil_iff.mp hNil.symm
      exact hHere ▸ hSome
  | cons x text ih =>
    have hNext : (searchFrom go (c.next x text) text).isSome = true ↔ _ :=
      ih rfl (by simp [Cursor.past])
    have hSplit : (searchFrom go c (x :: text)).isSome = true ↔
        (go c).isSome = true ∨ (searchFrom go (c.next x text) text).isSome = true := by
      rw [searchFrom]
      cases go c with
      | none => simp
      | some found => simp
    rw [hSplit, hNext, Cursor.next_eq_past hAfter]
    simp only [← Cursor.past_append]
    constructor
    · rintro (hSome | ⟨before, rest, rfl, hSome⟩)
      · exact ⟨[], x :: text, rfl, hHere ▸ hSome⟩
      · exact ⟨x :: before, rest, rfl, hSome⟩
    · rintro ⟨before, rest, hText, hSome⟩
      cases before with
      | nil => exact .inl (hHere ▸ hSome)
      | cons y before =>
        obtain ⟨rfl, rfl⟩ := List.cons.inj hText
        exact .inr ⟨before, rest, rfl, hSome⟩

/-- An expression matches somewhere when a text of its kind is part of the text. -/
theorem search_iff (h : ∀ kept, Reads kept flags e kind) (text : Text) :
    search e flags text = true ↔ ∃ u, u <:+: text ∧ kind u := by
  have hAfter : (Cursor.start text).after = text := rfl
  rw [search, isSome_searchFrom_iff hAfter]
  constructor
  · rintro ⟨before, rest, rfl, hSome⟩
    obtain ⟨u, behind, hAfter, hKind, -⟩ := (h _ _ _).mp hSome
    rw [Cursor.after_past (u := before) rfl] at hAfter
    exact ⟨u, ⟨before, behind, by rw [hAfter, List.append_assoc]⟩, hKind⟩
  · rintro ⟨u, ⟨before, behind, rfl⟩, hKind⟩
    refine ⟨before, u ++ behind, List.append_assoc .., (h _ _ _).mpr ?_⟩
    exact ⟨u, behind, Cursor.after_past (u := before) (List.append_assoc ..), hKind, rfl⟩

theorem searchFrom_eq_none (h : ∀ c : Cursor, c.before ≠ [] → go c = none) {text : Text} {c : Cursor}
    (hBefore : c.before ≠ []) : searchFrom go c text = none := by
  induction text generalizing c with
  | nil => exact h c hBefore
  | cons x rest ih =>
    rw [searchFrom, h c hBefore]
    exact ih (List.cons_ne_nil _ _)

/-- What can match only where nothing stands before it is tried once. -/
theorem searchFrom_of_start (h : ∀ c : Cursor, c.before ≠ [] → go c = none) (text : Text) (c : Cursor) :
    searchFrom go c text = go c := by
  cases text with
  | nil => rfl
  | cons x rest =>
    rw [searchFrom]
    cases hGo : go c with
    | some found => rfl
    | none => exact searchFrom_eq_none h (List.cons_ne_nil _ _)

/-- Without flags for lines, a line ends only at the end of the text and before a last line feed. -/
theorem isSome_at_lineEnd_iff (hFlags : flags.multiline = false) (c : Cursor) :
    (if c.stands flags .lineEnd = true then some c else none).isSome = true ↔
      c.after = [] ∨ c.after = ['\n'] := by
  have hStands : c.stands flags .lineEnd = true ↔ c.after = [] ∨ c.after = ['\n'] := by
    simp [Cursor.stands, hFlags]
  rw [← hStands]
  split
  · rename_i hEnd
    exact iff_of_true rfl hEnd
  · rename_i hNone
    exact iff_of_false nofun hNone

/-- Between the anchors of a line stands all of the text, but for a last line feed. -/
theorem search_line_iff {items : List Expr} (hFlags : flags.multiline = false)
    (h : ∀ kept, Reads kept flags (Expr.sequence items) kind) (text : Text) :
    search (Expr.sequence (.anchor .lineStart :: items ++ [.anchor .lineEnd])) flags text = true ↔
      kind text ∨ ∃ t, text = t ++ ['\n'] ∧ kind t := by
  have hRun : ∀ (kept : List Nat) (c : Cursor),
      run kept (Expr.sequence (.anchor .lineStart :: items ++ [.anchor .lineEnd])) flags c some =
        if c.before = [] then run kept (Expr.sequence items) flags c fun last =>
          if last.stands flags .lineEnd = true then some last else none
        else none := by
    intro kept c
    rw [List.cons_append, run_sequence_cons, run_anchor]
    simp only [run_sequence_append, Expr.sequence, run_anchor, Cursor.stands, hFlags, Bool.false_and,
      Bool.or_false, List.isEmpty_iff]
  have hStart : (Cursor.start text).before = [] := rfl
  rw [search, searchFrom_of_start, hRun, if_pos hStart, h]
  · simp only [isSome_at_lineEnd_iff hFlags]
    constructor
    · rintro ⟨u, rest, hText, hKind, hEnd⟩
      rw [Cursor.after_past hText] at hEnd
      change text = u ++ rest at hText
      rcases hEnd with rfl | rfl
      · rw [List.append_nil] at hText
        exact .inl (hText ▸ hKind)
      · exact .inr ⟨u, hText, hKind⟩
    · rintro (hKind | ⟨t, hText, hKind⟩)
      · have hText : (Cursor.start text).after = text ++ [] := (List.append_nil text).symm
        exact ⟨text, [], hText, hKind, .inl (Cursor.after_past hText)⟩
      · exact ⟨t, ['\n'], hText, hKind, .inr (Cursor.after_past hText)⟩
  · intro c hBefore
    rw [hRun, if_neg hBefore]

end Search

end AssetAudit.Regex
