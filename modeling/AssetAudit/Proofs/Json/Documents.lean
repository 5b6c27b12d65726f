import AssetAudit.Json.Write
import AssetAudit.Proofs.Outcomes
import AssetAudit.Proofs.Text.Printed
import AssetAudit.Proofs.Value.Json

/-!
# JSON documents

Every value that JSON has a form for is written, and its document holds nothing but printed
characters: what is not one of them is escaped.
-/
namespace AssetAudit

open Text (IsPrinted Printed printed_append_iff printed_cons_iff)

namespace Decimal

theorem printed_search (n : Neighbourhood) (point : Int) (fuel count : Nat) :
    Printed (shortest.search n point fuel count).digits := by
  induction fuel generalizing count with
  | zero =>
    change Printed ['0']
    decide
  | succ fuel ih =>
    rw [shortest.search]
    split
    · rename_i d _
      refine (Text.printed_ofNat d).of_subset ?_
      intro c hMem
      exact List.mem_reverse.mp ((List.dropWhile_sublist _).subset (List.mem_reverse.mp hMem))
    · exact ih _

theorem printed_exponent (e : Int) : Printed (Layout.exponent e) := by
  have hSign : IsPrinted (if e < 0 then '-' else '+') := by split <;> decide
  refine (printed_cons_iff _ _).mpr ⟨by decide, (printed_cons_iff _ _).mpr ⟨hSign, ?_⟩⟩
  exact (printed_append_iff _ _).mpr ⟨Text.printed_replicate _ (by decide), Text.printed_ofNat _⟩

theorem printed_digits (layout : Layout) {d : Digits} (h : Printed d.digits) :
    Printed (layout.digits d) := by
  have hZero : ∀ n, Printed (List.replicate n '0') := fun n => Text.printed_replicate n (by decide)
  unfold Layout.digits
  split
  · refine (printed_append_iff _ _).mpr ⟨?_, printed_exponent _⟩
    split
    · rename_i c e rest hDigits
      rw [hDigits] at h
      obtain ⟨hFirst, hRest⟩ := (printed_cons_iff _ _).mp h
      exact (printed_cons_iff _ _).mpr ⟨hFirst, (printed_cons_iff _ _).mpr ⟨by decide, hRest⟩⟩
    · exact h
  · split
    · rename_i p hPoint
      have hWhole : Printed (d.digits.take (p + 1)) := h.of_subset (List.take_subset _ _)
      have hRest : Printed (d.digits.drop (p + 1)) := h.of_subset (List.drop_subset _ _)
      refine (printed_append_iff _ _).mpr ⟨(printed_append_iff _ _).mpr ⟨hWhole, hZero _⟩, ?_⟩
      refine (printed_cons_iff _ _).mpr ⟨by decide, ?_⟩
      split
      · decide
      · exact hRest
    · exact (printed_append_iff _ _).mpr ⟨by decide, h⟩
    · exact (printed_append_iff _ _).mpr ⟨(printed_append_iff _ _).mpr ⟨by decide, hZero _⟩, h⟩

theorem printed_layout {layout : Layout} (hNan : Printed layout.nan)
    (hInfinity : Printed layout.infinity) (parts : Parts) : Printed (layout.text parts) := by
  cases parts with
  | nan => exact hNan
  | infinite negative =>
    cases negative with
    | false => exact hInfinity
    | true => exact (printed_cons_iff _ _).mpr ⟨by decide, hInfinity⟩
  | finite negative mantissa exponent =>
    cases mantissa with
    | zero =>
      change Printed (if negative then "-0.0".toList else "0.0".toList)
      split <;> decide
    | succ m =>
      refine (printed_append_iff _ _).mpr ⟨?_, printed_digits layout (printed_search _ _ _ _)⟩
      cases negative <;> decide

end Decimal

namespace Json

theorem printed_unicodeEscape (unit : Nat) : Printed (unicodeEscape unit) :=
  (printed_append_iff ['\\', 'u'] _).mpr ⟨by decide, Text.printed_hex 4 unit⟩

theorem printed_escapeChar (c : Char) : Printed (escapeChar c) := by
  unfold escapeChar
  split
  · rename_i hMark
    rcases (Bool.or_eq_true _ _).mp hMark with hMark | hMark
    · obtain rfl := beq_iff_eq.mp hMark
      decide
    · obtain rfl := beq_iff_eq.mp hMark
      decide
  iterate 5
    split
    · decide
  split
  · rename_i hPlain
    exact List.forall_mem_singleton.mpr (.inr hPlain)
  · split
    · exact printed_unicodeEscape _
    · exact (printed_append_iff _ _).mpr ⟨printed_unicodeEscape _, printed_unicodeEscape _⟩

theorem printed_quote (t : Text) : Printed (quote t) := by
  refine (printed_cons_iff _ _).mpr ⟨by decide, (printed_append_iff _ _).mpr ⟨?_, by decide⟩⟩
  exact Text.printed_flatMap printed_escapeChar t

theorem printed_line (style : Style) (depth : Nat) : Printed (style.line depth) := by
  unfold Style.line
  split
  · exact Text.printed_nil
  · exact (printed_cons_iff _ _).mpr ⟨by decide, Text.printed_replicate _ (by decide)⟩

theorem printed_comma (style : Style) (depth : Nat) : Printed (style.comma depth) := by
  unfold Style.comma
  split
  · decide
  · exact (printed_cons_iff _ _).mpr ⟨by decide, printed_line _ _⟩

def Writes (outcome : Except WriteError Text) : Prop :=
  ∃ t, outcome = .ok t ∧ Printed t

theorem writes_scalar {s : Scalar} (h : s.IsJson) : Writes (writeScalar s) := by
  cases s with
  | null => exact ⟨_, rfl, by decide⟩
  | bool b => cases b <;> exact ⟨_, rfl, by decide⟩
  | int n => exact ⟨_, rfl, Text.printed_ofInt n⟩
  | float bits => exact ⟨_, rfl, Decimal.printed_layout (by decide) (by decide) _⟩
  | text t => exact ⟨_, rfl, printed_quote t⟩
  | bytes data => exact h.elim
  | date y m d => exact h.elim
  | moment m => exact h.elim

theorem writes_items (style : Style) (depth : Nat) {items : List Value}
    (h : ∀ v ∈ items, Writes (write style depth v)) : Writes (writeItems style depth items) := by
  induction items with
  | nil => exact ⟨[], rfl, Text.printed_nil⟩
  | cons v rest ih =>
    obtain ⟨hFirst, hRest⟩ := List.forall_mem_cons.mp h
    obtain ⟨first, hFirst, hPrinted⟩ := hFirst
    obtain ⟨more, hMore, hPrintedMore⟩ := ih hRest
    refine ⟨style.comma depth ++ first ++ more, ?_, ?_⟩
    · rw [writeItems, hFirst, hMore]
      rfl
    · exact (printed_append_iff _ _).mpr
        ⟨(printed_append_iff _ _).mpr ⟨printed_comma _ _, hPrinted⟩, hPrintedMore⟩

theorem writes_entries (style : Style) (depth : Nat) {entries : List (Scalar × Value)}
    (hTexts : ∀ key ∈ entries.map (·.1), key.IsText)
    (h : ∀ entry ∈ entries, Writes (write style depth entry.2)) :
    Writes (writeEntries style depth entries) := by
  induction entries with
  | nil => exact ⟨[], rfl, Text.printed_nil⟩
  | cons entry rest ih =>
    obtain ⟨key, value⟩ := entry
    obtain ⟨⟨name, rfl⟩, hRestTexts⟩ := List.forall_mem_cons.mp hTexts
    obtain ⟨hFirst, hRest⟩ := List.forall_mem_cons.mp h
    obtain ⟨first, hFirst, hPrinted⟩ := hFirst
    obtain ⟨more, hMore, hPrintedMore⟩ := ih hRestTexts hRest
    refine ⟨style.comma depth ++ quote name ++ ':' :: ' ' :: first ++ more, ?_, ?_⟩
    · rw [writeEntries, hFirst, hMore]
      rfl
    · have hEntry : Printed (':' :: ' ' :: first) :=
        (printed_append_iff [':', ' '] _).mpr ⟨by decide, hPrinted⟩
      refine (printed_append_iff _ _).mpr ⟨(printed_append_iff _ _).mpr ⟨?_, hEntry⟩, hPrintedMore⟩
      exact (printed_append_iff _ _).mpr ⟨printed_comma _ _, printed_quote name⟩

/-- A value that JSON has a form for is written with printed characters. -/
theorem writes_of_isJson {v : Value} (h : v.IsJson) (style : Style) (depth : Nat) :
    Writes (write style depth v) := by
  -- At every depth: what is inside is written one deeper, the first part of it without a comma.
  induction h generalizing depth with
  | scalar h =>
    rw [write]
    exact writes_scalar h
  | list h ih =>
    rename_i items
    cases items with
    | nil =>
      rw [write]
      exact ⟨_, rfl, by decide⟩
    | cons v rest =>
      obtain ⟨hFirst, hRest⟩ := List.forall_mem_cons.mp ih
      obtain ⟨first, hFirst, hPrinted⟩ := hFirst (depth + 1)
      obtain ⟨more, hMore, hPrintedMore⟩ :=
        writes_items style (depth + 1) fun w hMem => hRest w hMem (depth + 1)
      refine ⟨'[' :: style.line (depth + 1) ++ first ++ more ++ style.line depth ++ [']'], ?_, ?_⟩
      · rw [write, hFirst, hMore]
        rfl
      · simp only [printed_append_iff, printed_cons_iff]
        exact ⟨⟨⟨⟨⟨by decide, printed_line _ _⟩, hPrinted⟩, hPrintedMore⟩, printed_line _ _⟩,
          by decide, Text.printed_nil⟩
  | map distinct texts values ih =>
    rename_i entries
    cases entries with
    | nil =>
      rw [write]
      exact ⟨_, rfl, by decide⟩
    | cons entry rest =>
      obtain ⟨key, value⟩ := entry
      obtain ⟨⟨name, rfl⟩, hRestTexts⟩ := List.forall_mem_cons.mp texts
      obtain ⟨hFirst, hRest⟩ := List.forall_mem_cons.mp ih
      obtain ⟨first, hFirst, hPrinted⟩ := hFirst (depth + 1)
      obtain ⟨more, hMore, hPrintedMore⟩ :=
        writes_entries style (depth + 1) hRestTexts fun e hMem => hRest e hMem (depth + 1)
      refine ⟨'\x7b' :: style.line (depth + 1) ++ quote name ++ ':' :: ' ' :: first ++ more ++
        style.line depth ++ ['\x7d'], ?_, ?_⟩
      · rw [write, hFirst, hMore]
        rfl
      · simp only [printed_append_iff, printed_cons_iff]
        exact ⟨⟨⟨⟨⟨⟨by decide, printed_line _ _⟩, printed_quote _⟩, by decide, by decide, hPrinted⟩,
          hPrintedMore⟩, printed_line _ _⟩, by decide, Text.printed_nil⟩

end Json

end AssetAudit
