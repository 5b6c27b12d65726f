import AssetAudit.Proofs.Whitelist.Globs
import AssetAudit.Proofs.Whitelist.Kinds

/-!
# Every entry is accounted for

Each entry of a whitelist that is given, not blank and no comment has one place: among the paths,
the names, the expressions, or the rejected patterns. A compiled list has each of them in its place,
and a list can be compiled unless one of its expressions runs into a limit of the reader, which is no
fault of the expression and is not taken for one.
-/
namespace AssetAudit.Whitelist

def counts (raw : Value) : Bool :=
  !raw.isNull && !raw.plain.trim.isEmpty && !isComment raw

inductive Place where
  | paths
  | names
  | expressions
  | rejected
  deriving DecidableEq, Repr

def placeOf (pattern : Text) : Place :=
  match expression? pattern with
  | some (body, flags) =>
    if (gate body).isOk && (Regex.compile body flags).isOk then .expressions else .rejected
  | none =>
    if isGlob pattern then .expressions
    else if pattern.contains '/' then .paths
    else .names

def placed (place : Place) (entries : List Value) : List Text :=
  ((entries.filter counts).map normalize).filter (placeOf · == place)

/-- An expression passes the gate and cannot be compiled for a reason that is no fault of it. -/
def HitsLimit (pattern : Text) : Prop :=
  ∃ body flags e, expression? pattern = some (body, flags) ∧ gate body = .ok () ∧
    Regex.compile body flags = .error e ∧ e.isFault = false

/-- Every entry that counts is in its place and nothing else is in any: paths and names once, expressions
and rejected patterns in the order of the entries, these with a reason. -/
structure Compiled.AccountsFor (c : Compiled) (entries : List Value) : Prop where
  paths : c.paths.Nodup ∧ ∀ p, p ∈ c.paths ↔ p ∈ placed .paths entries
  names : c.names.Nodup ∧ ∀ n, n ∈ c.names ↔ n ∈ placed .names entries
  expressions : c.expressions.map (·.source) = placed .expressions entries
  rejected : c.rejected.map (·.pattern) = placed .rejected entries
  reasons : ∀ r ∈ c.rejected, r.reason ≠ []

theorem normalize_eq_nil_iff (raw : Value) : normalize raw = [] ↔ raw.plain.trim = [] := by
  unfold normalize normalizeText
  dsimp only
  split
  · rfl
  · exact List.map_eq_nil_iff

theorem isSkipped_eq (raw : Value) : isSkipped raw = !counts raw := by
  have hBlank : (normalize raw).isEmpty = raw.plain.trim.isEmpty := by
    rw [Bool.eq_iff_iff, List.isEmpty_iff, List.isEmpty_iff]
    exact normalize_eq_nil_iff raw
  unfold isSkipped counts
  split
  · rfl
  · rfl
  · rename_i hNull _
    have hGiven : raw.isNull = false := by
      cases hCase : raw.isNull with
      | false => rfl
      | true =>
        unfold Value.isNull at hCase
        split at hCase
        · exact absurd rfl hNull
        · cases hCase
    rw [hBlank, hGiven]
    cases isComment raw <;> simp

theorem message_ne_nil {e : PatternError} (h : e.isRejection = true) : e.message ≠ [] := by
  have hAppend : ∀ s t : Text, s ≠ [] → s ++ t ≠ [] := fun s t hSome =>
    List.append_ne_nil_of_left_ne_nil hSome t
  cases e with
  | gate e =>
    cases e with
    | length => exact hAppend _ _ (hAppend _ _ (by decide))
    | shape s => exact hAppend _ _ (hAppend _ _ (by decide))
  | malformed body e => exact hAppend _ _ (by decide)
  | empty | limit e => cases h

inductive Comes (pattern : Text) : Except PatternError Reading → Prop
  | path (h : placeOf pattern = .paths) : Comes pattern (.ok (.pattern (.path pattern)))
  | name (h : placeOf pattern = .names) : Comes pattern (.ok (.pattern (.name pattern)))
  | expression (program : Regex.Program) (h : placeOf pattern = .expressions) :
      Comes pattern (.ok (.pattern (.expression pattern program)))
  | rejection (reason : Text) (h : placeOf pattern = .rejected) (hReason : reason ≠ []) :
      Comes pattern (.ok (.rejection ⟨pattern, reason⟩))
  | limit (e : PatternError) (h : HitsLimit pattern) : Comes pattern (.error e)

theorem comes_of_counts {raw : Value} (h : counts raw = true) :
    Comes (normalize raw) (read raw) := by
  have hSome : normalize raw ≠ [] := by
    intro hNil
    rw [normalize_eq_nil_iff] at hNil
    simp [counts, hNil] at h
  unfold read
  rw [if_neg (by rw [isSkipped_eq, h]; exact nofun), classify_eq hSome]
  cases hKind : expression? (normalize raw) with
  | none =>
    dsimp only
    by_cases hGlob : isGlob (normalize raw) = true
    · rw [if_pos hGlob, compileGlob_eq]
      exact .expression _ (by rw [placeOf, hKind]; exact if_pos hGlob)
    rw [if_neg hGlob]
    by_cases hSlash : (normalize raw).contains '/' = true
    · rw [if_pos hSlash]
      exact .path (by rw [placeOf, hKind]; exact (if_neg hGlob).trans (if_pos hSlash))
    · rw [if_neg hSlash]
      exact .name (by rw [placeOf, hKind]; exact (if_neg hGlob).trans (if_neg hSlash))
  | some expression =>
    obtain ⟨body, flags⟩ := expression
    have hPlace : placeOf (normalize raw) =
        if (gate body).isOk && (Regex.compile body flags).isOk then .expressions
        else .rejected := by
      rw [placeOf, hKind]
    dsimp only
    unfold compileExpression
    cases hGate : gate body with
    | error e =>
      exact .rejection _ (by rw [hPlace, hGate]; rfl) (message_ne_nil rfl)
    | ok =>
      cases hCompile : Regex.compile body flags with
      | ok program => exact .expression _ (by rw [hPlace, hGate, hCompile]; rfl)
      | error e =>
        dsimp only
        cases hFault : e.isFault with
        | true => exact .rejection _ (by rw [hPlace, hGate, hCompile]; rfl) (message_ne_nil rfl)
        | false => exact .limit _ ⟨body, flags, e, hKind, hGate, hCompile, hFault⟩

theorem not_read_of_hitsLimit {raw : Value} (hCounts : counts raw = true)
    (h : HitsLimit (normalize raw)) (r : Reading) : read raw ≠ .ok r := by
  obtain ⟨body, flags, e, hKind, hGate, hCompile, hFault⟩ := h
  have hSome : normalize raw ≠ [] := by
    intro hNil
    rw [hNil] at hKind
    cases hKind
  unfold read
  rw [if_neg (by rw [isSkipped_eq, hCounts]; exact nofun), classify_eq hSome, hKind]
  dsimp only
  rw [compileExpression, hGate, hCompile]
  dsimp only
  rw [hFault]
  exact nofun

theorem read_of_not_counts {raw : Value} (h : counts raw = false) : read raw = .ok .nothing :=
  if_pos (by rw [isSkipped_eq, h]; rfl)

theorem exists_read_iff (raw : Value) :
    (∃ r, read raw = .ok r) ↔ (counts raw = true → ¬ HitsLimit (normalize raw)) := by
  constructor
  · rintro ⟨r, hRead⟩ hCounts hLimit
    exact not_read_of_hitsLimit hCounts hLimit r hRead
  · intro hLimit
    cases hCounts : counts raw with
    | false => exact ⟨.nothing, read_of_not_counts hCounts⟩
    | true =>
      have hComes := comes_of_counts hCounts
      cases hRead : read raw with
      | ok r => exact ⟨r, rfl⟩
      | error e =>
        rw [hRead] at hComes
        cases hComes with
        | limit _ hHits => exact absurd hHits (hLimit hCounts)

/-- A list can be compiled when none of the entries that count runs into a limit. -/
theorem exists_compile_iff_limits (entries : List Value) :
    (∃ c, compile entries = .ok c) ↔
      ∀ raw ∈ entries, counts raw = true → ¬ HitsLimit (normalize raw) := by
  rw [exists_compile_iff]
  exact forall₂_congr fun raw _ => exists_read_iff raw

theorem placed_concat (place : Place) (before : List Value) (raw : Value) :
    placed place (before ++ [raw]) = placed place before ++
      if counts raw = true ∧ placeOf (normalize raw) = place then [normalize raw] else [] := by
  unfold placed
  rw [List.filter_append, List.map_append, List.filter_append]
  congr 1
  cases hCounts : counts raw with
  | false => simp [hCounts]
  | true =>
    by_cases hPlace : placeOf (normalize raw) = place
    · simp [hCounts, hPlace]
    · simp [hCounts, hPlace]

namespace Compiled

theorem nodup_addOnce {l : List Text} (h : l.Nodup) (t : Text) :
    (if l.contains t then l else l ++ [t]).Nodup ∧
      ∀ u, u ∈ (if l.contains t then l else l ++ [t]) ↔ u ∈ l ∨ u = t := by
  by_cases hMem : t ∈ l
  · rw [if_pos (List.contains_iff_mem.mpr hMem)]
    refine ⟨h, fun u => ⟨.inl, ?_⟩⟩
    rintro (hOld | rfl)
    · exact hOld
    · exact hMem
  · rw [if_neg (fun hContains => hMem (List.contains_iff_mem.mp hContains))]
    refine ⟨List.nodup_append.mpr ⟨h, List.pairwise_singleton _ t, ?_⟩, fun u => by simp⟩
    rintro u hOld v hNew rfl
    exact hMem (List.mem_singleton.mp hNew ▸ hOld)

theorem add_path (c : Compiled) (p : Text) :
    c.add (.path p) =
      { c with paths := if c.paths.contains p then c.paths else c.paths ++ [p] } := by
  rw [add]
  split <;> rfl

theorem add_name (c : Compiled) (n : Text) :
    c.add (.name n) =
      { c with names := if c.names.contains n then c.names else c.names ++ [n] } := by
  rw [add]
  split <;> rfl

theorem accountsFor_nil : Compiled.AccountsFor {} [] where
  paths := ⟨.nil, fun _ => Iff.rfl⟩
  names := ⟨.nil, fun _ => Iff.rfl⟩
  expressions := rfl
  rejected := rfl
  reasons := List.forall_mem_nil _

/-- An entry that does not count changes nothing. -/
theorem AccountsFor.skip {c : Compiled} {before : List Value} {raw : Value}
    (h : c.AccountsFor before) (hCounts : counts raw = false) :
    c.AccountsFor (before ++ [raw]) := by
  have hSame : ∀ place, placed place (before ++ [raw]) = placed place before := by
    intro place
    simp [placed_concat, hCounts]
  exact {
    paths := by rw [hSame]; exact h.paths
    names := by rw [hSame]; exact h.names
    expressions := by rw [hSame]; exact h.expressions
    rejected := by rw [hSame]; exact h.rejected
    reasons := h.reasons }

/-- One more entry is taken in at its place. -/
theorem AccountsFor.take {c : Compiled} {before : List Value} {raw : Value} {r : Reading}
    (h : c.AccountsFor before) (hRead : read raw = .ok r) :
    (c.take r).AccountsFor (before ++ [raw]) := by
  cases hCounts : counts raw with
  | false =>
    rw [read_of_not_counts hCounts] at hRead
    cases hRead
    exact h.skip hCounts
  | true =>
    have hHere : placed (placeOf (normalize raw)) (before ++ [raw]) =
        placed (placeOf (normalize raw)) before ++ [normalize raw] := by
      simp [placed_concat, hCounts]
    have hElsewhere : ∀ place, placeOf (normalize raw) ≠ place →
        placed place (before ++ [raw]) = placed place before := by
      intro place hPlace
      simp [placed_concat, hPlace]
    have hComes := comes_of_counts hCounts
    rw [hRead] at hComes
    generalize normalize raw = pattern at hComes hHere hElsewhere
    cases hComes with
    | path hPlace =>
      rw [hPlace] at hHere hElsewhere
      obtain ⟨hNodup, hMem⟩ := nodup_addOnce h.paths.1 pattern
      rw [Compiled.take, add_path]
      exact {
        paths := ⟨hNodup, fun p => by rw [hMem, hHere, List.mem_append, h.paths.2, List.mem_singleton]⟩
        names := by rw [hElsewhere _ (by decide)]; exact h.names
        expressions := by rw [hElsewhere _ (by decide)]; exact h.expressions
        rejected := by rw [hElsewhere _ (by decide)]; exact h.rejected
        reasons := h.reasons }
    | name hPlace =>
      rw [hPlace] at hHere hElsewhere
      obtain ⟨hNodup, hMem⟩ := nodup_addOnce h.names.1 pattern
      rw [Compiled.take, add_name]
      exact {
        paths := by rw [hElsewhere _ (by decide)]; exact h.paths
        names := ⟨hNodup, fun n => by rw [hMem, hHere, List.mem_append, h.names.2, List.mem_singleton]⟩
        expressions := by rw [hElsewhere _ (by decide)]; exact h.expressions
        rejected := by rw [hElsewhere _ (by decide)]; exact h.rejected
        reasons := h.reasons }
    | expression program hPlace =>
      rw [hPlace] at hHere hElsewhere
      exact {
        paths := by rw [hElsewhere _ (by decide)]; exact h.paths
        names := by rw [hElsewhere _ (by decide)]; exact h.names
        expressions := by
          rw [hHere, ← h.expressions]
          exact List.map_append
        rejected := by rw [hElsewhere _ (by decide)]; exact h.rejected
        reasons := h.reasons }
    | rejection reason hPlace hReason =>
      rw [hPlace] at hHere hElsewhere
      exact {
        paths := by rw [hElsewhere _ (by decide)]; exact h.paths
        names := by rw [hElsewhere _ (by decide)]; exact h.names
        expressions := by rw [hElsewhere _ (by decide)]; exact h.expressions
        rejected := by
          rw [hHere, ← h.rejected]
          exact List.map_append
        reasons := List.forall_mem_append.mpr ⟨h.reasons, List.forall_mem_singleton.mpr hReason⟩ }

theorem AccountsFor.foldl_take {entries : List Value} {readings : List Reading} {c : Compiled}
    {before : List Value} (h : c.AccountsFor before)
    (hReads : entries.map read = readings.map .ok) :
    (readings.foldl Compiled.take c).AccountsFor (before ++ entries) := by
  induction entries generalizing readings c before with
  | nil =>
    cases readings with
    | nil => rwa [List.append_nil]
    | cons r readings => cases hReads
  | cons raw entries ih =>
    cases readings with
    | nil => cases hReads
    | cons r readings =>
      obtain ⟨hRead, hReads⟩ := List.cons.inj hReads
      rw [List.append_cons, List.foldl_cons]
      exact ih (h.take hRead) hReads

/-- A pattern whose expression is refused, by the gate or as one that cannot be compiled, is among the
rejected ones. -/
theorem AccountsFor.mem_rejected {c : Compiled} {entries : List Value} (h : c.AccountsFor entries)
    {raw : Value} (hRaw : raw ∈ entries) (hCounts : counts raw = true) {body : Text}
    {flags : Regex.Flags} (hKind : expression? (normalize raw) = some (body, flags))
    (hRefused : ∀ program, Regex.compile body flags ≠ .ok program) :
    normalize raw ∈ c.rejected.map (·.pattern) := by
  have hPlace : placeOf (normalize raw) = .rejected := by
    have hError : (Regex.compile body flags).isOk = false := by
      cases hCompile : Regex.compile body flags with
      | ok program => exact absurd hCompile (hRefused program)
      | error e => rfl
    rw [placeOf, hKind]
    exact if_neg (by rw [hError, Bool.and_false]; exact Bool.false_ne_true)
  rw [h.rejected]
  refine List.mem_filter.mpr ⟨List.mem_map_of_mem (List.mem_filter.mpr ⟨hRaw, hCounts⟩), ?_⟩
  rw [hPlace]
  rfl

end Compiled

/-- A list is compiled to a whitelist that accounts for every entry of it exactly when none of the
entries that count runs into a limit. -/
theorem accounts_for_every_entry (entries : List Value) :
    (∃ c, compile entries = .ok c ∧ c.AccountsFor entries ∧
      ∀ raw ∈ entries, counts raw = true → ∀ body flags,
        expression? (normalize raw) = some (body, flags) →
          (∀ program, Regex.compile body flags ≠ .ok program) →
            normalize raw ∈ c.rejected.map (·.pattern)) ↔
      ∀ raw ∈ entries, counts raw = true → ¬ HitsLimit (normalize raw) := by
  rw [← exists_compile_iff_limits]
  constructor
  · rintro ⟨c, hCompile, -⟩
    exact ⟨c, hCompile⟩
  · rintro ⟨c, hCompile⟩
    obtain ⟨readings, hReads, rfl⟩ := (compile_eq_ok_iff entries c).mp hCompile
    have hAccounts : (readings.foldl Compiled.take {}).AccountsFor entries :=
      Compiled.accountsFor_nil.foldl_take hReads
    exact ⟨_, hCompile, hAccounts, fun raw hRaw hCounts body flags hKind hRefused =>
      hAccounts.mem_rejected hRaw hCounts hKind hRefused⟩

/-- A count that the reader cannot hold is no fault of the expression, and compiling the list fails. -/
theorem large_count_is_not_rejected :
    compile [.text "regex:a\x7b4294967295\x7d".toList] = .error (.limit .repeatTooLarge) :=
  rfl

end AssetAudit.Whitelist
