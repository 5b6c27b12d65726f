import AssetAudit.Proofs.Json.Spellings
import AssetAudit.Proofs.Outcomes
import AssetAudit.Proofs.Value.Orderly

/-!
# Documents that are read back

A value that is written is read back as itself, unless JSON cannot tell it from another one: integers
have to be short enough to be read, and of the floats that are no numbers there is only one. Whatever has
been read comes back.
-/
namespace AssetAudit

/-- A scalar that JSON tells from every other one. -/
def Scalar.ComesBack : Scalar → Prop
  | .null | .bool _ | .text _ => True
  | .int n => Json.IsReadable n
  | .float bits => Decimal.Parts.ofBits bits = .nan → bits = Decimal.notANumber
  | .bytes _ | .date _ _ _ | .moment _ => False

inductive Value.ComesBack : Value → Prop
  | scalar {s : Scalar} (h : s.ComesBack) : ComesBack (.scalar s)
  | list {items : List Value} (h : ∀ v ∈ items, ComesBack v) : ComesBack (.list items)
  | map {entries : Entries Value} (distinct : entries.Distinct)
      (texts : ∀ key ∈ entries.keys, key.IsText) (values : ∀ entry ∈ entries, ComesBack entry.2) :
      ComesBack (.map entries)

namespace Json

section Pieces

variable {v : Value} {values : List Value} {entries : List (Scalar × Value)} {gap closing t u : Text}

inductive SpellsItems : List Value → Text → Prop
  | nil : SpellsItems [] []
  | cons {v : Value} {values : List Value} {gap t u : Text} (hGap : IsLayout gap) (hFirst : Spells v t)
      (hRest : SpellsItems values u) : SpellsItems (v :: values) (',' :: (gap ++ t) ++ u)

theorem SpellsItems.exists_parts (h : SpellsItems values t) : ∃ parts : List Item,
    parts.map (·.value) = values ∧ (∀ i ∈ parts, i.HasLayout) ∧
      (∀ i ∈ parts, Spells i.value i.text) ∧ t = parts.flatMap (',' :: ·.whole) := by
  induction h with
  | nil => exact ⟨[], rfl, nofun, nofun, rfl⟩
  | @cons v _ gap t _ hGap hFirst _ ih =>
    obtain ⟨parts, rfl, hLayouts, hAll, rfl⟩ := ih
    refine ⟨⟨gap, t, [], v⟩ :: parts, rfl,
      List.forall_mem_cons.mpr ⟨⟨hGap, isLayout_nil⟩, hLayouts⟩,
      List.forall_mem_cons.mpr ⟨hFirst, hAll⟩, ?_⟩
    rw [List.flatMap_cons, Item.whole, List.append_nil]

theorem spells_items (hGap : IsLayout gap) (hFirst : Spells v t) (hRest : SpellsItems values u)
    (hClosing : IsLayout closing) :
    Spells (.list (v :: values)) ('[' :: (gap ++ t ++ (u ++ (closing ++ [']'])))) := by
  obtain ⟨parts, rfl, hLayouts, hAll, rfl⟩ := hRest.exists_parts
  have hList := @Spells.list ⟨gap, t, [], v⟩ parts closing
    (List.forall_mem_cons.mpr ⟨⟨hGap, isLayout_nil⟩, hLayouts⟩) hClosing
    (List.forall_mem_cons.mpr ⟨hFirst, hAll⟩)
  rw [Item.whole, List.append_nil] at hList
  exact hList

/-- An entry as it is written, with any layout before it. -/
theorem exists_member (hGap : IsLayout gap) (name : Text) (h : Spells v t) :
    ∃ m : Member, m.entry = (.text name, v) ∧ m.HasLayout ∧ IsString m.key m.keyText ∧
      Spells m.value m.text ∧ m.whole = gap ++ quote name ++ ':' :: ' ' :: t := by
  refine ⟨⟨gap, name.flatMap escapeChar, [], [' '], t, [], name, v⟩, rfl, ?_, isString_escape name,
    h, ?_⟩
  · exact ⟨hGap, isLayout_nil, List.forall_mem_singleton.mpr rfl, isLayout_nil⟩
  · simp [Member.whole, quote]

inductive SpellsEntries : List (Scalar × Value) → Text → Prop
  | nil : SpellsEntries [] []
  | cons {v : Value} {entries : List (Scalar × Value)} {gap t u : Text} (hGap : IsLayout gap)
      (name : Text) (hFirst : Spells v t) (hRest : SpellsEntries entries u) :
      SpellsEntries ((.text name, v) :: entries)
        (',' :: (gap ++ quote name ++ ':' :: ' ' :: t) ++ u)

theorem SpellsEntries.exists_parts (h : SpellsEntries entries t) : ∃ parts : List Member,
    parts.map (·.entry) = entries ∧ (∀ m ∈ parts, m.HasLayout) ∧
      (∀ m ∈ parts, IsString m.key m.keyText) ∧ (∀ m ∈ parts, Spells m.value m.text) ∧
      t = parts.flatMap (',' :: ·.whole) := by
  induction h with
  | nil => exact ⟨[], rfl, nofun, nofun, nofun, rfl⟩
  | cons hGap name hFirst _ ih =>
    obtain ⟨parts, rfl, hLayouts, hKeys, hAll, rfl⟩ := ih
    obtain ⟨m, hEntry, hLayout, hKey, hMember, hWhole⟩ := exists_member hGap name hFirst
    refine ⟨m :: parts, ?_, List.forall_mem_cons.mpr ⟨hLayout, hLayouts⟩,
      List.forall_mem_cons.mpr ⟨hKey, hKeys⟩, List.forall_mem_cons.mpr ⟨hMember, hAll⟩, ?_⟩
    · rw [List.map_cons, hEntry]
    · rw [List.flatMap_cons, hWhole]

theorem spells_entries (hGap : IsLayout gap) (name : Text) (hFirst : Spells v t)
    (hRest : SpellsEntries entries u) (hClosing : IsLayout closing) :
    Spells (.map (Entries.ofList ((.text name, v) :: entries)))
      ('\x7b' :: (gap ++ quote name ++ ':' :: ' ' :: t ++ (u ++ (closing ++ ['\x7d'])))) := by
  obtain ⟨parts, rfl, hLayouts, hKeys, hAll, rfl⟩ := hRest.exists_parts
  obtain ⟨m, hEntry, hLayout, hKey, hMember, hWhole⟩ := exists_member hGap name hFirst
  rw [← hEntry, ← hWhole]
  exact .map (List.forall_mem_cons.mpr ⟨hLayout, hLayouts⟩) hClosing
    (List.forall_mem_cons.mpr ⟨hKey, hKeys⟩) (List.forall_mem_cons.mpr ⟨hMember, hAll⟩)

end Pieces

section Write

def Written (v : Value) (outcome : Except WriteError Text) : Prop :=
  ∃ t, outcome = .ok t ∧ Spells v t

theorem written_scalar {s : Scalar} (h : s.ComesBack) : Written (.scalar s) (writeScalar s) := by
  cases s with
  | null => exact ⟨_, rfl, .word (by decide)⟩
  | bool b =>
    cases b with
    | true => exact ⟨_, rfl, .word (by decide)⟩
    | false => exact ⟨_, rfl, .word (by decide)⟩
  | int n => exact ⟨_, rfl, .number (isNumber_int h)⟩
  | float bits =>
    refine ⟨_, rfl, ?_⟩
    cases hParts : Decimal.Parts.ofBits bits with
    | nan =>
      rw [h hParts]
      exact .word (by decide)
    | infinite negative =>
      rw [Decimal.infinite_of_parts hParts]
      cases negative with
      | true => exact .word (by decide)
      | false => exact .word (by decide)
    | finite negative mantissa exponent => exact .number (isNumber_float hParts)
  | text t => exact ⟨_, rfl, .text (isString_escape t)⟩
  | bytes data => exact h.elim
  | date y m d => exact h.elim
  | moment m => exact h.elim

theorem isLayout_line (style : Style) (depth : Nat) : IsLayout (style.line depth) := by
  unfold Style.line
  split
  · exact isLayout_nil
  · refine List.forall_mem_cons.mpr ⟨rfl, ?_⟩
    intro c hMem
    rw [List.eq_of_mem_replicate hMem]
    rfl

theorem exists_comma (style : Style) (depth : Nat) :
    ∃ l, IsLayout l ∧ style.comma depth = ',' :: l := by
  unfold Style.comma
  split
  · exact ⟨[' '], List.forall_mem_singleton.mpr rfl, rfl⟩
  · exact ⟨_, isLayout_line style depth, rfl⟩

theorem spells_written_items (style : Style) (depth : Nat) {items : List Value}
    (h : ∀ v ∈ items, Written v (write style depth v)) :
    ∃ t, writeItems style depth items = .ok t ∧ SpellsItems items t := by
  induction items with
  | nil => exact ⟨[], rfl, .nil⟩
  | cons v rest ih =>
    obtain ⟨⟨first, hFirst, hSpells⟩, hRest⟩ := List.forall_mem_cons.mp h
    obtain ⟨more, hMore, hItems⟩ := ih hRest
    obtain ⟨gap, hGap, hComma⟩ := exists_comma style depth
    refine ⟨_, ?_, .cons hGap hSpells hItems⟩
    rw [writeItems, hFirst, hMore, hComma]
    rfl

theorem spells_written_entries (style : Style) (depth : Nat) {entries : List (Scalar × Value)}
    (hTexts : ∀ key ∈ entries.map (·.1), key.IsText)
    (h : ∀ entry ∈ entries, Written entry.2 (write style depth entry.2)) :
    ∃ t, writeEntries style depth entries = .ok t ∧ SpellsEntries entries t := by
  induction entries with
  | nil => exact ⟨[], rfl, .nil⟩
  | cons entry rest ih =>
    obtain ⟨key, value⟩ := entry
    obtain ⟨⟨name, rfl⟩, hRestTexts⟩ := List.forall_mem_cons.mp hTexts
    obtain ⟨⟨first, hFirst, hSpells⟩, hRest⟩ := List.forall_mem_cons.mp h
    obtain ⟨more, hMore, hEntries⟩ := ih hRestTexts hRest
    obtain ⟨gap, hGap, hComma⟩ := exists_comma style depth
    refine ⟨_, ?_, .cons hGap name hSpells hEntries⟩
    rw [writeEntries, hFirst, hMore, hComma]
    simp [writeKey, bind, Except.bind, pure, Except.pure]

/-- What comes back is written in one of its spellings. -/
theorem written_of_comesBack {v : Value} (h : v.ComesBack) (style : Style) (depth : Nat) :
    Written v (write style depth v) := by
  -- At every depth: what is inside is spelled one deeper, behind the line break of its depth.
  induction h generalizing depth with
  | scalar h =>
    rw [write]
    exact written_scalar h
  | list h ih =>
    rename_i items
    cases items with
    | nil =>
      rw [write]
      exact ⟨_, rfl, .emptyList isLayout_nil⟩
    | cons v rest =>
      obtain ⟨hFirst, hRest⟩ := List.forall_mem_cons.mp ih
      obtain ⟨first, hFirst, hSpells⟩ := hFirst (depth + 1)
      obtain ⟨more, hMore, hItems⟩ :=
        spells_written_items style (depth + 1) fun w hMem => hRest w hMem (depth + 1)
      refine ⟨_, ?_, spells_items (isLayout_line style (depth + 1)) hSpells hItems
        (isLayout_line style depth)⟩
      rw [write, hFirst, hMore]
      simp [bind, Except.bind, pure, Except.pure]
  | map distinct texts values ih =>
    rename_i entries
    cases entries with
    | nil =>
      rw [write]
      exact ⟨_, rfl, .emptyMap isLayout_nil⟩
    | cons entry rest =>
      obtain ⟨key, value⟩ := entry
      obtain ⟨⟨name, rfl⟩, hRestTexts⟩ := List.forall_mem_cons.mp texts
      obtain ⟨hFirst, hRest⟩ := List.forall_mem_cons.mp ih
      obtain ⟨first, hFirst, hSpells⟩ := hFirst (depth + 1)
      obtain ⟨more, hMore, hEntries⟩ :=
        spells_written_entries style (depth + 1) hRestTexts fun e hMem => hRest e hMem (depth + 1)
      have hMap := spells_entries (isLayout_line style (depth + 1)) name hSpells hEntries
        (isLayout_line style depth)
      rw [Entries.ofList_of_distinct distinct] at hMap
      refine ⟨_, ?_, hMap⟩
      rw [write, hFirst, hMore]
      simp [writeKey, bind, Except.bind, pure, Except.pure]

theorem read_written {v : Value} (h : v.ComesBack) (style : Style) :
    ∃ t, write style 0 v = .ok t ∧ read (t ++ ['\n']) = .ok v := by
  obtain ⟨t, hWrite, hSpells⟩ := written_of_comesBack h style 0
  exact ⟨t, hWrite, read_of_spells hSpells isLayout_nil (List.forall_mem_singleton.mpr rfl)⟩

end Write

section Read

variable {t : Text} {n : Numeral} {s : Scalar}

theorem areDigits_digits (t : Text) : AreDigits (digits t) :=
  List.all_eq_true.mp List.all_takeWhile

theorem areDigits_wholeDigits (t : Text) : AreDigits (wholeDigits t) := by
  unfold wholeDigits
  split
  · exact areDigits_zero
  · exact areDigits_digits _

theorem areDigits_whole (h : numeral? t = some n) : AreDigits n.whole := by
  have hUnsigned : ∀ {negative body}, unsigned? negative body = some n → AreDigits n.whole := by
    intro negative body h
    unfold unsigned? at h
    dsimp only at h
    split at h
    · cases h
    · split at h
      · cases h
        exact areDigits_wholeDigits body
      · cases h
        exact areDigits_wholeDigits body
  unfold numeral? at h
  split at h
  · exact hUnsigned h
  · exact hUnsigned h

/-- No more digits are needed for a number than it was read from. -/
theorem isReadable_of_digits {k : Int} {ds : Text} (hDigits : AreDigits ds) (hLength : ds.length ≤ 4300)
    (hValue : k.natAbs = Text.number ds) : IsReadable k := by
  unfold IsReadable
  rw [hValue]
  have hBelow := Text.number_lt hDigits
  rcases Nat.eq_zero_or_pos ds.length with hNone | hSome
  · rw [List.eq_nil_of_length_eq_zero hNone]
    exact Nat.le_of_ble_eq_true rfl
  · exact ((Nat.length_toDigits_le_iff (by decide) hSome).mpr hBelow).trans hLength

theorem comesBack_numeral (hDigits : AreDigits n.whole) (h : n.value = .ok s) : s.ComesBack := by
  unfold Numeral.value at h
  split at h
  · split at h
    · cases h
    · rename_i hLength
      cases h
      apply isReadable_of_digits hDigits (Nat.le_of_not_lt hLength)
      rw [Decimal.readDigits_digits hDigits]
      split
      · exact Int.natAbs_neg _
      · rfl
  · cases h
    exact fun hNone => absurd hNone (Decimal.parts_nearest_ne_nan _ _ _)

theorem comesBack_word {w : Text × Scalar} (h : w ∈ words) : w.2.ComesBack := by
  unfold words at h
  simp only [List.mem_cons, List.not_mem_nil, or_false] at h
  rcases h with rfl | rfl | rfl | rfl | rfl | rfl
  · trivial
  · trivial
  · trivial
  · exact fun _ => rfl
  · exact fun hNone => absurd hNone (by decide)
  · exact fun hNone => absurd hNone (by decide)

theorem comesBack_read {document : Text} {v : Value} (h : read document = .ok v) : v.ComesBack := by
  apply read_induction (P := Value.ComesBack) _ _ _ _ h
  · exact fun _ => .scalar trivial
  · intro source rest s hScalar
    unfold readScalar at hScalar
    split at hScalar
    · rename_i hFound
      cases hScalar
      exact .scalar (comesBack_word (List.mem_of_find?_eq_some hFound))
    · split at hScalar
      · rename_i hNumeral
        obtain ⟨_, hValue, hEq⟩ := (Outcome.map_eq_ok_iff _ _ _).mp hScalar
        cases hEq
        exact .scalar (comesBack_numeral (areDigits_whole hNumeral) hValue)
      · cases hScalar
  · exact fun _ => .list
  · exact fun _ hEntries => .map hEntries.distinct hEntries.texts hEntries.values

end Read

end Json

end AssetAudit
