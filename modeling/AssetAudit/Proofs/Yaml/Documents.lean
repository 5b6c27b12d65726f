import AssetAudit.Proofs.Text.Printed
import AssetAudit.Yaml.Write

/-!
# YAML documents

A document holds nothing but printed characters. A scalar is written as it is only where no character
of it needs an escape, and else between double quotes with escapes.
-/
namespace AssetAudit.Yaml

open Text (IsPrinted Printed printed_append_iff printed_cons_iff)

theorem isPrinted_of_isPlainAscii {c : Char} (h : isPlainAscii c = true) : IsPrinted c := by
  right
  simpa [isPlainAscii] using h

theorem printed_of_any {t : Text} (h : t.any needsEscape = false) : Printed t := by
  intro c hMem
  have hChar := List.any_eq_false.mp h c hMem
  by_cases hFeed : c = '\n'
  · exact .inl hFeed
  · refine isPrinted_of_isPlainAscii ?_
    simpa [needsEscape, hFeed] using hChar

theorem printed_of_shape {t : Text}
    (h : (Shape.of t).allowsPlain = true ∨ (Shape.of t).allowsSingle = true ∨
      (Shape.of t).allowsBlock = true) : Printed t := by
  unfold Shape.of at h
  split at h
  · rename_i hEmpty
    rw [List.isEmpty_iff.mp hEmpty]
    exact Text.printed_nil
  · refine printed_of_any ?_
    simp only [Bool.not_eq_true', Bool.or_eq_false_iff] at h
    rcases h with h | h | h
    · exact h.1.1.2.2
    · exact h.2.2
    · exact h.2.2

theorem printed_of_choose {t : Text} {isKey plainIsRight asksLiteral : Bool}
    (h : Style.choose (Shape.of t) isKey plainIsRight asksLiteral ≠ .double) : Printed t := by
  unfold Style.choose at h
  split at h
  · rename_i hPlain
    exact printed_of_shape (.inl ((Bool.and_eq_true _ _).mp hPlain).2)
  · split at h
    · rename_i hBlock
      exact printed_of_shape (.inr (.inr ((Bool.and_eq_true _ _).mp hBlock).2))
    · split at h
      · rename_i hSingle
        have hAllows := ((Bool.and_eq_true _ _).mp ((Bool.and_eq_true _ _).mp hSingle).1).2
        exact printed_of_shape (.inr (.inl hAllows))
      · exact absurd rfl h

namespace Printer

def Clean (p : Printer) : Prop :=
  Printed p.out

variable {p : Printer} {t : Text}

theorem Clean.write (h : p.Clean) (ht : Printed t) : (p.write t).Clean :=
  (printed_append_iff _ _).mpr ⟨ht.of_subset fun _ hMem => List.mem_reverse.mp hMem, h⟩

theorem Clean.newline (h : p.Clean) {c : Char} (hc : IsPrinted c) : (p.newline c).Clean :=
  (printed_cons_iff _ _).mpr ⟨hc, h⟩

theorem Clean.indicator (h : p.Clean) {sign : Text} (hSign : Printed sign)
    (needsBlank blank fresh : Bool) : (p.indicator sign needsBlank blank fresh).Clean := by
  unfold Printer.indicator
  refine Clean.write h ?_
  split
  · exact hSign
  · exact (printed_cons_iff _ _).mpr ⟨by decide, hSign⟩

theorem Clean.inText (h : p.Clean) : p.inText.Clean :=
  h

theorem Clean.indentTo (h : p.Clean) (indent : Nat) : (p.indentTo indent).Clean := by
  have hSpaces : ∀ {q : Printer}, q.Clean → Clean (if q.column < indent then
      { q.write (List.replicate (indent - q.column) ' ') with blank := true } else q) := by
    intro q hq
    split
    · exact Clean.write hq (Text.printed_replicate _ (by decide))
    · exact hq
  unfold Printer.indentTo
  refine hSpaces ?_
  split
  · exact h.newline (by decide)
  · exact h

theorem printed_spanBy (q : Char → Bool) (ht : Printed t) :
    Printed (spanBy q t).1 ∧ Printed (spanBy q t).2 :=
  ⟨ht.of_subset (List.takeWhile_subset _), ht.of_subset (List.dropWhile_subset _)⟩

theorem Clean.plainFrom (h : p.Clean) (ht : Printed t) (split : Bool) (indent fuel : Nat) :
    (plainFrom split indent fuel t p).Clean := by
  induction fuel generalizing t p with
  | zero => exact h
  | succ fuel ih =>
    cases t with
    | nil => exact h
    | cons c rest =>
      rw [Printer.plainFrom]
      · split
        · obtain ⟨hSpaces, hRest⟩ := printed_spanBy isSpace ht
          refine ih ?_ hRest
          split
          · exact (h.indentTo indent).inText
          · exact h.write hSpaces
        · obtain ⟨hRun, hRest⟩ := printed_spanBy (!isSpace ·) ht
          exact ih (h.write hRun) hRest
      · exact nofun

theorem Clean.plain (h : p.Clean) (ht : Printed t) (split : Bool) (indent : Nat) :
    (p.plain split indent t).Clean := by
  unfold Printer.plain
  split
  · exact h
  · refine Clean.plainFrom (Clean.inText ?_) ht split indent _
    split
    · exact h
    · exact h.write (by decide)

theorem Clean.breaks (h : p.Clean) (ht : Printed t) : (p.breaks t).Clean := by
  have hFold : ∀ {s : Text} {q : Printer}, Printed s → q.Clean →
      (s.foldl (fun q c => q.newline c) q).Clean := by
    intro s
    induction s with
    | nil => exact fun _ hq => hq
    | cons c rest ih =>
      intro q hs hq
      obtain ⟨hChar, hRest⟩ := (printed_cons_iff _ _).mp hs
      exact ih hRest (hq.newline hChar)
  unfold Printer.breaks
  refine hFold ht ?_
  split
  · exact h.newline (by decide)
  · exact h

theorem Clean.singleFrom (h : p.Clean) (ht : Printed t) (split first : Bool) (indent fuel : Nat) :
    (singleFrom split first indent fuel t p).Clean := by
  induction fuel generalizing t p first with
  | zero => exact h
  | succ fuel ih =>
    cases t with
    | nil => exact h
    | cons c rest =>
      rw [Printer.singleFrom]
      split
      · obtain ⟨hSpaces, hAfter⟩ := printed_spanBy isSpace ht
        refine ih ?_ hAfter false
        split
        · exact h.indentTo indent
        · exact h.write hSpaces
      · split
        · obtain ⟨hRun, hAfter⟩ := printed_spanBy isTextBreak ht
          exact ih ((h.breaks hRun).indentTo indent) hAfter false
        · split
          · exact ih (h.write (by decide)) ((printed_cons_iff _ _).mp ht).2 false
          · obtain ⟨hRun, hAfter⟩ := printed_spanBy isSingleRun ht
            exact ih (h.write hRun) hAfter false

theorem Clean.single (h : p.Clean) (ht : Printed t) (split : Bool) (indent : Nat) :
    (p.single split indent t).Clean := by
  have hMark : Printed ['\''] := by decide
  exact ((h.indicator hMark _ _ _).singleFrom ht split true indent _).indicator hMark _ _ _

theorem isPrinted_toUpper {c : Char} (h : IsPrinted c) : IsPrinted c.toUpper := by
  have hAll : ∀ n < 128, IsPrinted (Char.ofNat n) → IsPrinted (Char.ofNat n).toUpper := by decide
  have hChar := hAll c.toNat h.lt
  rw [Char.ofNat_toNat] at hChar
  exact hChar h

theorem printed_hexUpper (digits n : Nat) : Printed (hexUpper digits n) := by
  intro c hMem
  obtain ⟨d, hDigit, rfl⟩ := List.mem_map.mp hMem
  exact isPrinted_toUpper (Text.printed_hex digits n d hDigit)

theorem printed_escaped (c : Char) : Printed (escaped c) := by
  have hCode : ∀ digits, ∀ letter : Char, IsPrinted letter →
      Printed ('\\' :: letter :: hexUpper digits c.toNat) := by
    intro digits letter hLetter
    exact (printed_cons_iff _ _).mpr
      ⟨by decide, (printed_cons_iff _ _).mpr ⟨hLetter, printed_hexUpper _ _⟩⟩
  unfold escaped
  split
  · rename_i e hLetter
    refine (printed_cons_iff _ _).mpr ⟨by decide, List.forall_mem_singleton.mpr ?_⟩
    unfold escapeLetter? at hLetter
    split at hLetter
    all_goals
      cases hLetter
      try decide
  · split
    · exact hCode 2 'x' (by decide)
    · split
      · exact hCode 4 'u' (by decide)
      · exact hCode 8 'U' (by decide)

theorem isPrinted_of_isDoubleSafe {c : Char} (h : isDoubleSafe c = true) : IsPrinted c := by
  refine isPrinted_of_isPlainAscii ?_
  exact ((Bool.and_eq_true _ _).mp ((Bool.and_eq_true _ _).mp h).1).1

theorem Clean.doubleFrom (h : p.Clean) {pending : Text} (hPending : Printed pending) (split : Bool)
    (indent last place : Nat) (t : Text) :
    (doubleFrom split indent last place pending t p).Clean := by
  have hReverse : ∀ {s : Text}, Printed s → Printed s.reverse :=
    fun hs => hs.of_subset fun _ hMem => List.mem_reverse.mp hMem
  -- behind a break a backslash keeps a blank
  have hBreak : ∀ {q : Printer} {s : Text} (next : Option Char), q.Clean → Printed s →
      Clean (if next == some ' ' then
          (((q.write (s.reverse ++ ['\\'])).indentTo indent).inText).write ['\\']
        else ((q.write (s.reverse ++ ['\\'])).indentTo indent).inText) := by
    intro q s next hq hs
    have hMark : Printed ['\\'] := by decide
    have hLine := hq.write ((printed_append_iff _ _).mpr ⟨hReverse hs, hMark⟩)
    split
    · exact (hLine.indentTo indent).inText.write hMark
    · exact (hLine.indentTo indent).inText
  induction t generalizing p pending place with
  | nil => exact h.write (hReverse hPending)
  | cons c rest ih =>
    rw [Printer.doubleFrom]
    cases hSafe : isDoubleSafe c with
    | true =>
      have hChar := isPrinted_of_isDoubleSafe hSafe
      simp only [↓reduceIte, Bool.false_eq_true]
      split
      · exact ih (hBreak _ h hPending) (List.forall_mem_singleton.mpr hChar) _
      · exact ih h ((printed_cons_iff _ _).mpr ⟨hChar, hPending⟩) _
    | false =>
      have hWritten := (h.write (hReverse hPending)).write (printed_escaped c)
      simp only [Bool.false_eq_true, ↓reduceIte]
      split
      · exact ih (hBreak _ hWritten Text.printed_nil) Text.printed_nil _
      · exact ih hWritten Text.printed_nil _

theorem Clean.double (h : p.Clean) (split : Bool) (indent : Nat) (t : Text) :
    (p.double split indent t).Clean := by
  have hMark : Printed ['"'] := by decide
  exact ((h.indicator hMark _ _ _).doubleFrom Text.printed_nil split indent _ 0 t).indicator hMark
    _ _ _

theorem printed_hints (t : Text) : Printed (hints t) := by
  unfold hints
  refine (printed_append_iff _ _).mpr ⟨?_, ?_⟩
  · split
    · exact Text.printed_ofNat _
    · exact Text.printed_nil
  · split
    · exact Text.printed_nil
    · split
      · decide
      · split
        · decide
        · split <;> decide

theorem Clean.literalLines (h : p.Clean) (indent : Nat) {lines : List Text}
    (hLines : ∀ line ∈ lines, Printed line) : (literalLines indent lines p).Clean := by
  induction lines generalizing p with
  | nil => exact h
  | cons line rest ih =>
    obtain ⟨hLine, hRest⟩ := List.forall_mem_cons.mp hLines
    unfold Printer.literalLines
    split
    · exact h
    · exact h
    · rename_i hEq
      obtain ⟨rfl, rfl⟩ := List.cons.inj hEq
      refine ih (Clean.newline ?_ (by decide)) hRest
      split
      · exact h
      · exact (h.indentTo indent).write hLine

theorem Clean.literal (h : p.Clean) (ht : Printed t) (indent : Nat) : (p.literal indent t).Clean := by
  have hSign : Printed ('|' :: hints t) := (printed_cons_iff _ _).mpr ⟨by decide, printed_hints t⟩
  exact ((h.indicator hSign _ _ _).newline (by decide)).literalLines indent
    (Text.printed_splitOn '\n' ht)

end Printer

open Printer (Clean)

variable {p : Printer}

theorem printed_tag (tag : Tag) : Printed tag.written := by
  cases tag <;> decide

theorem clean_putScalar (h : p.Clean) (place : Place) (s : Scalar) : (putScalar place s p).Clean := by
  unfold putScalar
  have hTagged : ∀ tagged : Bool, Clean (if tagged then
      p.indicator (WrittenScalar.of s).tag.written true false false else p) := by
    intro tagged
    split
    · exact h.indicator (printed_tag _) _ _ _
    · exact h
  dsimp only
  split
  all_goals rename_i hStyle
  · exact (hTagged _).plain (printed_of_choose (by rw [hStyle]; nofun)) _ _
  · exact (hTagged _).single (printed_of_choose (by rw [hStyle]; nofun)) _ _
  · exact (hTagged _).double _ _ _
  · exact (hTagged _).literal (printed_of_choose (by rw [hStyle]; nofun)) _

theorem clean_putKey (h : p.Clean) (indent : Nat) (key : Scalar) : (putKey indent key p).Clean := by
  have hIndent := h.indentTo indent
  have hColon : Printed [':'] := by decide
  have hAsk : Printed ['?'] := by decide
  unfold putKey
  dsimp only
  split
  · exact (clean_putScalar hIndent _ key).indicator hColon _ _ _
  · exact ((clean_putScalar (hIndent.indicator hAsk _ _ _) _ key).indentTo indent).indicator hColon
      _ _ _

theorem clean_putSetEntries (h : p.Clean) (indent : Nat) (items : List Scalar) :
    (putSetEntries indent items p).Clean := by
  induction items generalizing p with
  | nil => exact h
  | cons item rest ih => exact ih (clean_putScalar (clean_putKey h indent item) _ _)

mutual

theorem clean_put {p : Printer} (h : p.Clean) (place : Place) (v : Value) :
    (put place v p).Clean := by
  have hList : Printed ['[', ']'] := by decide
  have hMap : Printed ['\x7b', '\x7d'] := by decide
  cases v with
  | scalar s =>
    rw [put]
    exact clean_putScalar h place s
  | list items =>
    cases items with
    | nil =>
      rw [put]
      exact h.indicator hList _ _ _
    | cons item rest =>
      rw [put]
      · exact clean_putItems h _ (item :: rest)
      · exact nofun
  | tuple items =>
    have hTag : Printed tupleTag := by decide
    rw [put]
    split
    · exact (h.indicator hTag _ _ _).indicator hList _ _ _
    · exact clean_putItems (h.indicator hTag _ _ _) _ items
  | set items =>
    have hTag := h.indicator (printed_tag .set) true false false
    rw [put]
    split
    · exact hTag.indicator hMap _ _ _
    · exact clean_putSetEntries hTag _ items
  | map entries =>
    cases entries with
    | nil =>
      rw [put]
      exact h.indicator hMap _ _ _
    | cons entry rest =>
      rw [put]
      · exact clean_putEntries h _ (entry :: rest)
      · exact nofun

theorem clean_putItems {p : Printer} (h : p.Clean) (indent : Nat) (items : List Value) :
    (putItems indent items p).Clean := by
  cases items with
  | nil => exact h
  | cons item rest =>
    have hDash : Printed ['-'] := by decide
    rw [putItems]
    exact clean_putItems (clean_put ((h.indentTo indent).indicator hDash _ _ _) _ item) indent rest

theorem clean_putEntries {p : Printer} (h : p.Clean) (indent : Nat)
    (entries : List (Scalar × Value)) :
    (putEntries indent entries p).Clean := by
  cases entries with
  | nil => exact h
  | cons entry rest =>
    obtain ⟨key, value⟩ := entry
    rw [putEntries]
    exact clean_putEntries (clean_put (clean_putKey h indent key) _ value) indent rest

end

/-- A document is printed, whatever value it holds. -/
theorem printed_write (v : Value) : Printed (write v) := by
  have hClean := (clean_put (p := {}) Text.printed_nil {} v).indentTo 0
  exact Text.Printed.of_subset hClean fun _ hMem => List.mem_reverse.mp hMem

end AssetAudit.Yaml
