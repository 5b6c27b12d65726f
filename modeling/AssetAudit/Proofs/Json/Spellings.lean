import AssetAudit.Proofs.Json.Numerals
import AssetAudit.Proofs.Json.Strings

/-!
# Spellings of values

The texts that JSON allows for a value, with any layout between the parts, and what is read of them. The
reader takes every spelling of a value for the value.
-/
namespace AssetAudit.Json

def IsLayout (t : Text) : Prop :=
  ∀ c ∈ t, Source.isLayout c = true

structure Item where
  before : Text
  text : Text
  after : Text
  value : Value

structure Member where
  before : Text
  keyText : Text
  beforeColon : Text
  afterColon : Text
  text : Text
  after : Text
  key : Text
  value : Value

namespace Item

structure HasLayout (i : Item) : Prop where
  before : IsLayout i.before
  after : IsLayout i.after

def whole (i : Item) : Text :=
  i.before ++ (i.text ++ i.after)

theorem length_text_le (i : Item) : i.text.length ≤ i.whole.length := by
  unfold whole
  simp only [List.length_append]
  omega

end Item

namespace Member

structure HasLayout (m : Member) : Prop where
  before : IsLayout m.before
  beforeColon : IsLayout m.beforeColon
  afterColon : IsLayout m.afterColon
  after : IsLayout m.after

def whole (m : Member) : Text :=
  m.before ++ ('"' :: (m.keyText ++ '"' :: (m.beforeColon ++
    ':' :: (m.afterColon ++ (m.text ++ m.after)))))

theorem length_text_le (m : Member) : m.text.length ≤ m.whole.length := by
  unfold whole
  simp only [List.length_append, List.length_cons]
  omega

def entry (m : Member) : Scalar × Value :=
  (.text m.key, m.value)

end Member

/-- The texts that a value may be spelled by. Of two entries under one key the last one counts. -/
inductive Spells : Value → Text → Prop
  | word {w : Text} {s : Scalar} (h : (w, s) ∈ words) : Spells (.scalar s) w
  | number {s : Scalar} {t : Text} (h : IsNumber s t) : Spells (.scalar s) t
  | text {s t : Text} (h : IsString s t) : Spells (.text s) ('"' :: (t ++ ['"']))
  | emptyList {l : Text} (hLayout : IsLayout l) : Spells (.list []) ('[' :: (l ++ [']']))
  | list {first : Item} {more : List Item} {closing : Text}
      (hLayout : ∀ i ∈ first :: more, i.HasLayout) (hClosing : IsLayout closing)
      (h : ∀ i ∈ first :: more, Spells i.value i.text) :
      Spells (.list ((first :: more).map (·.value)))
        ('[' :: (first.whole ++ (more.flatMap (',' :: ·.whole) ++ (closing ++ [']']))))
  | emptyMap {l : Text} (hLayout : IsLayout l) : Spells (.map []) ('\x7b' :: (l ++ ['\x7d']))
  | map {first : Member} {more : List Member} {closing : Text}
      (hLayout : ∀ m ∈ first :: more, m.HasLayout) (hClosing : IsLayout closing)
      (hKeys : ∀ m ∈ first :: more, IsString m.key m.keyText)
      (h : ∀ m ∈ first :: more, Spells m.value m.text) :
      Spells (.map (Entries.ofList ((first :: more).map (·.entry))))
        ('\x7b' :: (first.whole ++ (more.flatMap (',' :: ·.whole) ++ (closing ++ ['\x7d']))))

variable {α : Type} {v : Value} {t rest l : Text} {p : Nat}

/-- What is read, and what is left of the document then. -/
def Leaves (x : Outcome (α × Source)) (a : α) (rest : Text) : Prop :=
  ∃ p, x = .ok (a, ⟨rest, p⟩)

section Layout

theorem isLayout_nil : IsLayout [] := fun _ hMem => absurd hMem List.not_mem_nil

theorem IsLayout.append {k : Text} (hk : IsLayout k) (hl : IsLayout l) : IsLayout (k ++ l) :=
  List.forall_mem_append.mpr ⟨hk, hl⟩

theorem skipLayout_append {c : Char} (h : IsLayout l) (hNone : Source.isLayout c = false) (rest : Text)
    (p : Nat) : Source.skipLayout ⟨l ++ c :: rest, p⟩ = ⟨c :: rest, p + l.length⟩ := by
  have hTaken : (l ++ c :: rest).takeWhile Source.isLayout = l := by
    rw [List.takeWhile_append_of_pos h, List.takeWhile_cons_of_neg (by rw [hNone]; nofun),
      List.append_nil]
  unfold Source.skipLayout Source.drop
  dsimp only
  rw [hTaken, List.drop_left]

theorem drop_one (c : Char) (rest : Text) (p : Nat) :
    (⟨c :: rest, p⟩ : Source).drop 1 = ⟨rest, p + 1⟩ :=
  rfl

theorem skipLayout_all (h : IsLayout l) (p : Nat) : Source.skipLayout ⟨l, p⟩ = ⟨[], p + l.length⟩ := by
  have hTaken : l.takeWhile Source.isLayout = l := by
    rw [← List.append_nil l, List.takeWhile_append_of_pos h]
    rfl
  unfold Source.skipLayout Source.drop
  dsimp only
  rw [hTaken, List.drop_length]

theorem eq_of_isLayout {c : Char} (h : Source.isLayout c = true) :
    c = ' ' ∨ c = '\t' ∨ c = '\n' ∨ c = '\r' := by
  unfold Source.isLayout at h
  simp only [Bool.or_eq_true, beq_iff_eq, or_assoc] at h
  exact h

theorem ne_mark_of_isLayout {c : Char} (h : Source.isLayout c = true) : c.toNat ≠ 0xfeff := by
  rcases eq_of_isLayout h with rfl | rfl | rfl | rfl
  all_goals decide

theorem endsNumber_nil : EndsNumber [] := nofun

theorem endsNumber_layout {c : Char} (h : Source.isLayout c = true) (rest : Text) :
    EndsNumber (c :: rest) := by
  rintro _ ⟨⟩
  rcases eq_of_isLayout h with rfl | rfl | rfl | rfl
  all_goals decide

theorem endsNumber_append (hl : IsLayout l) (h : EndsNumber rest) : EndsNumber (l ++ rest) := by
  cases l with
  | nil => exact h
  | cons c more => exact endsNumber_layout (hl c List.mem_cons_self) _

end Layout

section Starts

structure Starts (c : Char) : Prop where
  layout : Source.isLayout c = false
  list : c ≠ ']'
  map : c ≠ '\x7d'
  small : c.toNat < 128

instance (c : Char) : Decidable (Starts c) :=
  decidable_of_iff (Source.isLayout c = false ∧ c ≠ ']' ∧ c ≠ '\x7d' ∧ c.toNat < 128)
    ⟨fun ⟨hLayout, hList, hMap, hSmall⟩ => ⟨hLayout, hList, hMap, hSmall⟩,
      fun h => ⟨h.layout, h.list, h.map, h.small⟩⟩

theorem starts_digit {c : Char} (h : c.isDigit = true) : Starts c := by
  have hRange : 48 ≤ c.toNat ∧ c.toNat ≤ 57 := Char.isDigit_iff_toNat.mp h
  constructor
  · apply Bool.eq_false_iff.mpr
    intro hLayout
    rcases eq_of_isLayout hLayout with rfl | rfl | rfl | rfl
    all_goals cases h
  · rintro rfl
    cases h
  · rintro rfl
    cases h
  · omega

theorem starts_word {w : Text × Scalar} (h : w ∈ words) : ∃ c r, w.1 = c :: r ∧ Starts c := by
  have hAll : ∀ w ∈ words, w.1.head?.any (decide <| Starts ·) = true := by decide
  have hFirst := hAll w h
  cases hWord : w.1 with
  | nil =>
    rw [hWord] at hFirst
    cases hFirst
  | cons c r =>
    rw [hWord] at hFirst
    exact ⟨c, r, rfl, of_decide_eq_true hFirst⟩

/-- The text of a number starts with a minus sign and a digit, or with a digit. -/
theorem Numeral.IsText.starts {n : Numeral} (h : n.IsText t) : ∃ c r, c.isDigit = true ∧
    (t = c :: r ∨ t = '-' :: c :: r) := by
  obtain ⟨e, -, rfl⟩ := h.text
  have hWhole : ∃ c more, n.whole = c :: more := by
    rcases h.whole with hZero | ⟨c, more, hEq, -⟩
    · exact ⟨'0', [], hZero⟩
    · exact ⟨c, more, hEq⟩
  obtain ⟨c, more, hEq⟩ := hWhole
  have hDigit : c.isDigit = true := by
    apply h.wholeDigits
    rw [hEq]
    exact List.mem_cons_self
  rw [hEq]
  cases n.negative with
  | true => exact ⟨c, _, hDigit, .inr rfl⟩
  | false => exact ⟨c, _, hDigit, .inl rfl⟩

theorem exists_starts (h : Spells v t) : ∃ c r, t = c :: r ∧ Starts c := by
  have hQuote : Starts '"' := by decide
  have hBracket : Starts '[' := by decide
  have hBrace : Starts '\x7b' := by decide
  have hMinus : Starts '-' := by decide
  cases h with
  | word h => exact starts_word h
  | number h =>
    obtain ⟨n, hText, -⟩ := h
    obtain ⟨c, r, hDigit, rfl | rfl⟩ := hText.starts
    · exact ⟨c, r, rfl, starts_digit hDigit⟩
    · exact ⟨'-', _, rfl, hMinus⟩
  | text => exact ⟨'"', _, rfl, hQuote⟩
  | emptyList | list => exact ⟨'[', _, rfl, hBracket⟩
  | emptyMap | map => exact ⟨'\x7b', _, rfl, hBrace⟩

end Starts

section Scalars

variable {s : Scalar} {fuel : Nat}

theorem readScalar_word {w : Text} (h : (w, s) ∈ words) (rest : Text) (p : Nat) :
    Leaves (readScalar ⟨w ++ rest, p⟩) s rest := by
  unfold words at h
  simp only [List.mem_cons, List.not_mem_nil, or_false, Prod.mk.injEq] at h
  rcases h with ⟨rfl, rfl⟩ | ⟨rfl, rfl⟩ | ⟨rfl, rfl⟩ | ⟨rfl, rfl⟩ | ⟨rfl, rfl⟩ | ⟨rfl, rfl⟩
  all_goals exact ⟨_, rfl⟩

theorem find?_words_digit {c : Char} (h : c.isDigit = true) (r : Text) :
    (words.find? fun w => Text.startsWith (c :: r) w.1) = none ∧
      (words.find? fun w => Text.startsWith ('-' :: c :: r) w.1) = none := by
  have hOther : ∀ {a : Char}, a.isDigit = false → (a == c) = false := by
    intro a hNone
    apply beq_eq_false_iff_ne.mpr
    rintro rfl
    rw [h] at hNone
    cases hNone
  unfold words Text.startsWith
  simp [List.isPrefixOf, hOther]

theorem readScalar_number {t : Text} (h : IsNumber s t) (hRest : EndsNumber rest) (p : Nat) :
    Leaves (readScalar ⟨t ++ rest, p⟩) s rest := by
  obtain ⟨n, hText, hValue⟩ := h
  have hNone : (words.find? fun w => (t ++ rest).startsWith w.1) = none := by
    obtain ⟨c, r, hDigit, rfl | rfl⟩ := hText.starts
    · exact (find?_words_digit hDigit _).1
    · exact (find?_words_digit hDigit _).2
  unfold readScalar
  dsimp only
  rw [hNone]
  dsimp only
  rw [numeral?_append hText hRest]
  dsimp only
  rw [hValue, hText.length]
  have hDrop : (⟨t ++ rest, p⟩ : Source).drop t.length = ⟨rest, p + t.length⟩ := by
    unfold Source.drop
    rw [List.drop_left]
  exact ⟨p + t.length, congrArg (fun q => Except.ok (s, q)) hDrop⟩

theorem readValue_scalar {c : Char} (hText : c ≠ '"') (hMap : c ≠ '\x7b') (hList : c ≠ '[') (r : Text) :
    readValue (fuel + 1) ⟨c :: r, p⟩ = (readScalar ⟨c :: r, p⟩).map fun (v, s) => (.scalar v, s) := by
  rw [readValue]
  split
  · rename_i hEq
    exact absurd (List.cons.inj hEq).1 hText
  · rename_i hEq
    exact absurd (List.cons.inj hEq).1 hMap
  · rename_i hEq
    exact absurd (List.cons.inj hEq).1 hList
  · rfl

end Scalars

/-- With enough fuel the reader takes a text for a value, whatever follows that does not belong to a
number. -/
def ReadsAs (v : Value) (t : Text) : Prop :=
  ∀ fuel, 2 * t.length ≤ fuel → ∀ rest p, EndsNumber rest →
    Leaves (readValue fuel ⟨t ++ rest, p⟩) v rest

section Lists

abbrev behindItem (first : Item) (more : List Item) (closing rest : Text) : Text :=
  first.after ++ (more.flatMap (',' :: ·.whole) ++ (closing ++ ']' :: rest))

theorem endsNumber_behindItem {first : Item} (more : List Item) {closing : Text}
    (hLayout : first.HasLayout) (hClosing : IsLayout closing) (rest : Text) :
    EndsNumber (behindItem first more closing rest) := by
  apply endsNumber_append hLayout.after
  cases more with
  | nil =>
    apply endsNumber_append hClosing
    rintro _ ⟨⟩
    decide
  | cons i others =>
    rintro _ ⟨⟩
    decide

theorem readItems_last {fuel q : Nat} {got : List Value} {s r : Source}
    (hItem : readValue fuel s = .ok (v, r)) (hClosing : r.skipLayout = ⟨']' :: rest, q⟩) :
    readItems (fuel + 1) got s = .ok ((v :: got).reverse, ⟨rest, q + 1⟩) := by
  rw [readItems, hItem]
  dsimp only [bind, Except.bind]
  rw [hClosing]
  rfl

theorem readItems_more {fuel q : Nat} {got : List Value} {s r : Source}
    (hItem : readValue fuel s = .ok (v, r)) (hComma : r.skipLayout = ⟨',' :: rest, q⟩) :
    readItems (fuel + 1) got s = readItems fuel (v :: got) (Source.skipLayout ⟨rest, q + 1⟩) := by
  rw [readItems, hItem]
  dsimp only [bind, Except.bind]
  rw [hComma]
  rfl

theorem readItems_next {first i : Item} {others : List Item} {closing : Text} {fuel : Nat}
    (hFirst : first.HasLayout) (hSecond : i.HasLayout) (hStarts : ∃ c r, i.text = c :: r ∧ Starts c)
    (hRead : Leaves (readValue fuel ⟨first.text ++ behindItem first (i :: others) closing rest, p⟩)
      first.value (behindItem first (i :: others) closing rest)) (got : List Value) :
    ∃ q, readItems (fuel + 1) got ⟨first.text ++ behindItem first (i :: others) closing rest, p⟩ =
      readItems fuel (first.value :: got) ⟨i.text ++ behindItem i others closing rest, q⟩ := by
  obtain ⟨c, r, hText, hStart⟩ := hStarts
  obtain ⟨q, hItem⟩ := hRead
  have hBehind : behindItem first (i :: others) closing rest =
      first.after ++ ',' :: (i.before ++ (i.text ++ behindItem i others closing rest)) := by
    simp [Item.whole]
  have hComma := skipLayout_append hFirst.after (c := ',') rfl
    (i.before ++ (i.text ++ behindItem i others closing rest)) q
  rw [← hBehind] at hComma
  have hNext : ∀ q, Source.skipLayout ⟨i.before ++ (i.text ++ behindItem i others closing rest), q⟩ =
      ⟨i.text ++ behindItem i others closing rest, q + i.before.length⟩ := by
    intro q
    rw [hText]
    exact skipLayout_append hSecond.before hStart.layout _ q
  exact ⟨_, (readItems_more hItem hComma).trans (by rw [hNext])⟩

theorem length_flatMap_items (i : Item) (others : List Item) :
    i.text.length + (others.flatMap (',' :: ·.whole)).length + 1 ≤
      (List.flatMap (',' :: ·.whole) (i :: others)).length := by
  rw [List.flatMap_cons]
  simp only [Item.whole, List.length_append, List.length_cons]
  omega

theorem readItems_append {first : Item} {more : List Item} {closing : Text}
    (hLayout : ∀ i ∈ first :: more, i.HasLayout) (hClosing : IsLayout closing)
    (hStarts : ∀ i ∈ first :: more, ∃ c r, i.text = c :: r ∧ Starts c)
    (hReads : ∀ i ∈ first :: more, ReadsAs i.value i.text) (got : List Value) (fuel : Nat)
    (hFuel : 2 * (first.text.length + (more.flatMap (',' :: ·.whole)).length) + 1 ≤ fuel)
    (rest : Text) (p : Nat) :
    Leaves (readItems fuel got ⟨first.text ++ behindItem first more closing rest, p⟩)
      (got.reverse ++ (first :: more).map (·.value)) rest := by
  induction more generalizing first got fuel p with
  | nil =>
    obtain ⟨fuel, rfl⟩ : ∃ k, fuel = k + 1 := ⟨fuel - 1, by omega⟩
    have hFirst := hLayout first List.mem_cons_self
    obtain ⟨q, hItem⟩ := hReads first List.mem_cons_self fuel (by omega)
      (behindItem first [] closing rest) p (endsNumber_behindItem [] hFirst hClosing rest)
    have hEnd := skipLayout_append (hFirst.after.append hClosing) (c := ']') rfl rest q
    rw [List.append_assoc] at hEnd
    obtain hRead : readItems (fuel + 1) got _ = _ := readItems_last hItem hEnd
    rw [List.reverse_cons] at hRead
    exact ⟨_, hRead⟩
  | cons i others ih =>
    obtain ⟨fuel, rfl⟩ : ∃ k, fuel = k + 1 := ⟨fuel - 1, by omega⟩
    have hFirst := hLayout first List.mem_cons_self
    have hSecond := hLayout i (List.mem_cons_of_mem _ List.mem_cons_self)
    have hItem := hReads first List.mem_cons_self fuel (by omega)
      (behindItem first (i :: others) closing rest) p
      (endsNumber_behindItem (i :: others) hFirst hClosing rest)
    obtain ⟨q, hNext⟩ := readItems_next hFirst hSecond
      (hStarts i (List.mem_cons_of_mem _ List.mem_cons_self)) hItem got
    have hLength := length_flatMap_items i others
    have hRead := ih (fun j hMem => hLayout j (List.mem_cons_of_mem _ hMem))
      (fun j hMem => hStarts j (List.mem_cons_of_mem _ hMem))
      (fun j hMem => hReads j (List.mem_cons_of_mem _ hMem)) (first.value :: got) fuel (by omega) q
    rw [List.reverse_cons, List.append_assoc] at hRead
    rw [hNext]
    exact hRead

end Lists

section Maps

abbrev memberText (m : Member) (behind : Text) : Text :=
  '"' :: (m.keyText ++ '"' :: (m.beforeColon ++ ':' :: (m.afterColon ++ (m.text ++ behind))))

abbrev behindMember (first : Member) (more : List Member) (closing rest : Text) : Text :=
  first.after ++ (more.flatMap (',' :: ·.whole) ++ (closing ++ '\x7d' :: rest))

theorem endsNumber_behindMember {first : Member} (more : List Member) {closing : Text}
    (hLayout : first.HasLayout) (hClosing : IsLayout closing) (rest : Text) :
    EndsNumber (behindMember first more closing rest) := by
  apply endsNumber_append hLayout.after
  cases more with
  | nil =>
    apply endsNumber_append hClosing
    rintro _ ⟨⟩
    decide
  | cons m others =>
    rintro _ ⟨⟩
    decide

structure ReadsEntry (fuel : Nat) (s : Source) (key : Text) (v : Value) (behind : Source) : Prop where
  quote : s.rest.head? = some '"'
  rest : ∃ k y q, readString s = .ok (key, k) ∧ k.skipLayout = ⟨':' :: y, q⟩ ∧
    readValue fuel (Source.skipLayout ⟨y, q + 1⟩) = .ok (v, behind)

variable {fuel q : Nat} {got : Entries Value} {s behind : Source} {key : Text}

theorem readEntries_last (h : ReadsEntry fuel s key v behind)
    (hClosing : behind.skipLayout = ⟨'\x7d' :: rest, q⟩) :
    readEntries (fuel + 1) got s = .ok (got.insert (.text key) v, ⟨rest, q + 1⟩) := by
  obtain ⟨hQuote, k, y, r, hKey, hColon, hValue⟩ := h
  rw [readEntries, if_neg (by rw [hQuote]; exact fun h => h rfl), hKey]
  dsimp only [bind, Except.bind]
  rw [hColon, if_neg (fun h => h rfl), drop_one, hValue]
  dsimp only
  rw [hClosing]
  rfl

theorem readEntries_more (h : ReadsEntry fuel s key v behind)
    (hComma : behind.skipLayout = ⟨',' :: rest, q⟩) :
    readEntries (fuel + 1) got s =
      readEntries fuel (got.insert (.text key) v) (Source.skipLayout ⟨rest, q + 1⟩) := by
  obtain ⟨hQuote, k, y, r, hKey, hColon, hValue⟩ := h
  rw [readEntries, if_neg (by rw [hQuote]; exact fun h => h rfl), hKey]
  dsimp only [bind, Except.bind]
  rw [hColon, if_neg (fun h => h rfl), drop_one, hValue]
  dsimp only
  rw [hComma]
  rfl

theorem readsEntry_memberText {m : Member} (hLayout : m.HasLayout) (hKey : IsString m.key m.keyText)
    (hStarts : ∃ c r, m.text = c :: r ∧ Starts c) (hReads : ReadsAs m.value m.text) (fuel : Nat)
    (hFuel : 2 * m.text.length ≤ fuel) (hEnd : EndsNumber rest) (p : Nat) :
    ∃ q, ReadsEntry fuel ⟨memberText m rest, p⟩ m.key m.value ⟨rest, q⟩ := by
  obtain ⟨c, r, hText, hStart⟩ := hStarts
  have hNext : ∀ q, Source.skipLayout ⟨m.afterColon ++ (m.text ++ rest), q⟩ =
      ⟨m.text ++ rest, q + m.afterColon.length⟩ := by
    intro q
    rw [hText]
    exact skipLayout_append hLayout.afterColon hStart.layout _ q
  obtain ⟨q, hValue⟩ := hReads fuel hFuel rest
    (p + 1 + (m.keyText.length + 1) + m.beforeColon.length + 1 + m.afterColon.length) hEnd
  rw [← hNext] at hValue
  exact ⟨q, rfl, _, _, _, readString_append hKey _ p, skipLayout_append hLayout.beforeColon rfl _ _,
    hValue⟩

theorem readEntries_next {first m : Member} {others : List Member} {closing : Text}
    (hFirst : first.HasLayout) (hSecond : m.HasLayout)
    (hEntry : ReadsEntry fuel ⟨memberText first (behindMember first (m :: others) closing rest), p⟩
      first.key first.value ⟨behindMember first (m :: others) closing rest, q⟩) (got : Entries Value) :
    ∃ q, readEntries (fuel + 1) got
        ⟨memberText first (behindMember first (m :: others) closing rest), p⟩ =
      readEntries fuel (got.insert (.text first.key) first.value)
        ⟨memberText m (behindMember m others closing rest), q⟩ := by
  have hBehind : behindMember first (m :: others) closing rest =
      first.after ++ ',' :: (m.before ++ memberText m (behindMember m others closing rest)) := by
    simp [Member.whole]
  have hComma := skipLayout_append hFirst.after (c := ',') rfl
    (m.before ++ memberText m (behindMember m others closing rest)) q
  rw [← hBehind] at hComma
  have hNext : ∀ q, Source.skipLayout
      ⟨m.before ++ memberText m (behindMember m others closing rest), q⟩ =
        ⟨memberText m (behindMember m others closing rest), q + m.before.length⟩ :=
    skipLayout_append hSecond.before rfl _
  exact ⟨_, (readEntries_more hEntry hComma).trans (by rw [hNext])⟩

theorem length_flatMap_members (m : Member) (others : List Member) :
    m.text.length + (others.flatMap (',' :: ·.whole)).length + 1 ≤
      (List.flatMap (',' :: ·.whole) (m :: others)).length := by
  rw [List.flatMap_cons]
  simp only [Member.whole, List.length_append, List.length_cons]
  omega

theorem readEntries_append {first : Member} {more : List Member} {closing : Text}
    (hLayout : ∀ m ∈ first :: more, m.HasLayout) (hClosing : IsLayout closing)
    (hKeys : ∀ m ∈ first :: more, IsString m.key m.keyText)
    (hStarts : ∀ m ∈ first :: more, ∃ c r, m.text = c :: r ∧ Starts c)
    (hReads : ∀ m ∈ first :: more, ReadsAs m.value m.text) (got : Entries Value) (fuel : Nat)
    (hFuel : 2 * (first.text.length + (more.flatMap (',' :: ·.whole)).length) + 1 ≤ fuel)
    (rest : Text) (p : Nat) :
    Leaves (readEntries fuel got ⟨memberText first (behindMember first more closing rest), p⟩)
      (((first :: more).map (·.entry)).foldl (fun got entry => Entries.insert got entry.1 entry.2) got)
      rest := by
  induction more generalizing first got fuel p with
  | nil =>
    obtain ⟨fuel, rfl⟩ : ∃ k, fuel = k + 1 := ⟨fuel - 1, by omega⟩
    have hFirst := hLayout first List.mem_cons_self
    obtain ⟨q, hEntry⟩ := readsEntry_memberText hFirst (hKeys first List.mem_cons_self)
      (hStarts first List.mem_cons_self) (hReads first List.mem_cons_self) fuel (by omega)
      (endsNumber_behindMember [] hFirst hClosing rest) p
    have hEnd := skipLayout_append (hFirst.after.append hClosing) (c := '\x7d') rfl rest q
    rw [List.append_assoc] at hEnd
    exact ⟨_, readEntries_last hEntry hEnd⟩
  | cons m others ih =>
    obtain ⟨fuel, rfl⟩ : ∃ k, fuel = k + 1 := ⟨fuel - 1, by omega⟩
    have hFirst := hLayout first List.mem_cons_self
    have hSecond := hLayout m (List.mem_cons_of_mem _ List.mem_cons_self)
    obtain ⟨q, hEntry⟩ := readsEntry_memberText hFirst (hKeys first List.mem_cons_self)
      (hStarts first List.mem_cons_self) (hReads first List.mem_cons_self) fuel (by omega)
      (endsNumber_behindMember (m :: others) hFirst hClosing rest) p
    obtain ⟨q, hNext⟩ := readEntries_next hFirst hSecond hEntry got
    have hLength := length_flatMap_members m others
    rw [hNext]
    exact ih (fun j hMem => hLayout j (List.mem_cons_of_mem _ hMem))
      (fun j hMem => hKeys j (List.mem_cons_of_mem _ hMem))
      (fun j hMem => hStarts j (List.mem_cons_of_mem _ hMem))
      (fun j hMem => hReads j (List.mem_cons_of_mem _ hMem))
      (got.insert first.entry.1 first.entry.2) fuel (by omega) q

end Maps

section Values

variable {fuel : Nat} {r : Text} {s behind : Source}

theorem readValue_text (h : readString ⟨'"' :: r, p⟩ = .ok (t, behind)) :
    readValue (fuel + 1) ⟨'"' :: r, p⟩ = .ok (.text t, behind) := by
  rw [readValue]
  change (readString ⟨'"' :: r, p⟩ >>= _) = _
  rw [h]
  rfl

theorem readValue_items {first : Item} (more : List Item) (closing : Text) (hFirst : first.HasLayout)
    (hStarts : ∃ c r, first.text = c :: r ∧ Starts c) (rest : Text) :
    readValue (fuel + 1)
        ⟨'[' :: (first.whole ++ (more.flatMap (',' :: ·.whole) ++ (closing ++ [']']))) ++ rest, p⟩ =
      (readItems fuel [] ⟨first.text ++ behindItem first more closing rest,
        p + 1 + first.before.length⟩).map fun (items, s) => (.list items, s) := by
  obtain ⟨c, r, hText, hStart⟩ := hStarts
  have hShape : '[' :: (first.whole ++ (more.flatMap (',' :: ·.whole) ++ (closing ++ [']']))) ++ rest =
      '[' :: (first.before ++ (first.text ++ behindItem first more closing rest)) := by
    simp [Item.whole]
  have hSkip : Source.skipLayout
      ⟨first.before ++ (first.text ++ behindItem first more closing rest), p + 1⟩ =
        ⟨first.text ++ behindItem first more closing rest, p + 1 + first.before.length⟩ := by
    rw [hText]
    exact skipLayout_append hFirst.before hStart.layout _ _
  have hSome : (first.text ++ behindItem first more closing rest).head? ≠ some ']' := by
    rw [hText]
    exact fun hHead => hStart.list (Option.some.inj hHead)
  rw [hShape, readValue]
  dsimp only [drop_one]
  rw [hSkip, if_neg hSome]
  cases readItems fuel [] _ <;> rfl

theorem fuel_items {first : Item} {more : List Item} {closing : Text}
    (h : 2 * ('[' :: (first.whole ++ (more.flatMap (',' :: ·.whole) ++ (closing ++ [']'])))).length ≤
      fuel + 1) :
    2 * (first.text.length + (more.flatMap (',' :: ·.whole)).length) + 1 ≤ fuel := by
  have hText := first.length_text_le
  simp only [List.length_cons, List.length_append] at h
  omega

theorem readValue_emptyList (hSkip : Source.skipLayout ⟨r, p + 1⟩ = s)
    (hNone : s.rest.head? = some ']') :
    readValue (fuel + 1) ⟨'[' :: r, p⟩ = .ok (.list [], s.drop 1) := by
  rw [readValue]
  change (if (Source.skipLayout ⟨r, p + 1⟩).rest.head? = some ']' then
    pure (Value.list [], (Source.skipLayout ⟨r, p + 1⟩).drop 1) else _) = _
  rw [hSkip, if_pos hNone]
  rfl

theorem readValue_entries {first : Member} (more : List Member) (closing : Text)
    (hFirst : first.HasLayout) (rest : Text) :
    readValue (fuel + 1) ⟨'\x7b' ::
        (first.whole ++ (more.flatMap (',' :: ·.whole) ++ (closing ++ ['\x7d']))) ++ rest, p⟩ =
      (readEntries fuel [] ⟨memberText first (behindMember first more closing rest),
        p + 1 + first.before.length⟩).map fun (entries, s) => (.map entries, s) := by
  have hShape : '\x7b' :: (first.whole ++ (more.flatMap (',' :: ·.whole) ++ (closing ++ ['\x7d']))) ++
      rest = '\x7b' :: (first.before ++ memberText first (behindMember first more closing rest)) := by
    simp [Member.whole]
  have hSkip : Source.skipLayout
      ⟨first.before ++ memberText first (behindMember first more closing rest), p + 1⟩ =
        ⟨memberText first (behindMember first more closing rest), p + 1 + first.before.length⟩ :=
    skipLayout_append hFirst.before rfl _ _
  rw [hShape, readValue]
  dsimp only [drop_one]
  rw [hSkip, if_neg nofun]
  cases readEntries fuel [] _ <;> rfl

theorem fuel_entries {first : Member} {more : List Member} {closing : Text}
    (h : 2 * ('\x7b' ::
      (first.whole ++ (more.flatMap (',' :: ·.whole) ++ (closing ++ ['\x7d'])))).length ≤ fuel + 1) :
    2 * (first.text.length + (more.flatMap (',' :: ·.whole)).length) + 1 ≤ fuel := by
  have hText := first.length_text_le
  simp only [List.length_cons, List.length_append] at h
  omega

theorem readValue_emptyMap (hSkip : Source.skipLayout ⟨r, p + 1⟩ = s)
    (hNone : s.rest.head? = some '\x7d') :
    readValue (fuel + 1) ⟨'\x7b' :: r, p⟩ = .ok (.map [], s.drop 1) := by
  rw [readValue]
  change (if (Source.skipLayout ⟨r, p + 1⟩).rest.head? = some '\x7d' then
    pure (Value.map [], (Source.skipLayout ⟨r, p + 1⟩).drop 1) else _) = _
  rw [hSkip, if_pos hNone]
  rfl

/-- What is read as a scalar by itself is read as one where a value is expected. -/
theorem readsAs_scalar {s : Scalar} {c : Char} (hText : c ≠ '"') (hMap : c ≠ '\x7b') (hList : c ≠ '[')
    (h : ∀ rest p, EndsNumber rest → Leaves (readScalar ⟨c :: (r ++ rest), p⟩) s rest) :
    ReadsAs (.scalar s) (c :: r) := by
  intro fuel hFuel rest p hRest
  obtain ⟨fuel, rfl⟩ : ∃ k, fuel = k + 1 := ⟨fuel - 1, by rw [List.length_cons] at hFuel; omega⟩
  obtain ⟨q, hRead⟩ := h rest p hRest
  refine ⟨q, ?_⟩
  rw [List.cons_append, readValue_scalar hText hMap hList, hRead]
  rfl

theorem readsAs_empty {opening close : Char} {v : Value} {l : Text} (hLayout : IsLayout l)
    (hClose : Source.isLayout close = false)
    (h : ∀ {fuel p : Nat} {r : Text} {s : Source}, Source.skipLayout ⟨r, p + 1⟩ = s →
      s.rest.head? = some close → readValue (fuel + 1) ⟨opening :: r, p⟩ = .ok (v, s.drop 1)) :
    ReadsAs v (opening :: (l ++ [close])) := by
  intro fuel hFuel rest p _
  obtain ⟨fuel, rfl⟩ : ∃ k, fuel = k + 1 := ⟨fuel - 1, by rw [List.length_cons] at hFuel; omega⟩
  have hSkip := skipLayout_append hLayout hClose rest (p + 1)
  rw [List.cons_append, List.append_assoc, List.singleton_append]
  exact ⟨_, h hSkip rfl⟩

/-- Every spelling of a value is read as the value. -/
theorem readsAs_of_spells (h : Spells v t) : ReadsAs v t := by
  induction h with
  | word h =>
    rename_i w s
    have hOther : ∀ w ∈ words, w.1.head?.all (fun c => c != '"' && c != '\x7b' && c != '[') = true := by
      decide
    have hFirst := hOther _ h
    obtain ⟨c, r, hEq, -⟩ := starts_word h
    dsimp only at hEq hFirst
    subst hEq
    simp only [List.head?_cons, Option.all_some, Bool.and_eq_true, bne_iff_ne] at hFirst
    exact readsAs_scalar hFirst.1.1 hFirst.1.2 hFirst.2 fun rest p _ => readScalar_word h rest p
  | number h =>
    obtain ⟨n, hText, hValue⟩ := h
    have hRead : ∀ rest p, EndsNumber rest → Leaves (readScalar ⟨_ ++ rest, p⟩) _ rest :=
      fun rest p hRest => readScalar_number ⟨n, hText, hValue⟩ hRest p
    obtain ⟨c, r, hDigit, rfl | rfl⟩ := hText.starts
    · have hOther : ∀ {a : Char}, a.isDigit = false → c ≠ a := by
        rintro a hNone rfl
        rw [hDigit] at hNone
        cases hNone
      exact readsAs_scalar (hOther rfl) (hOther rfl) (hOther rfl) hRead
    · exact readsAs_scalar (by decide) (by decide) (by decide) hRead
  | text h =>
    rename_i s t
    intro fuel hFuel rest p _
    obtain ⟨fuel, rfl⟩ : ∃ k, fuel = k + 1 := ⟨fuel - 1, by rw [List.length_cons] at hFuel; omega⟩
    rw [List.cons_append, List.append_assoc, List.singleton_append]
    exact ⟨_, readValue_text (readString_append h rest p)⟩
  | emptyList hLayout => exact readsAs_empty hLayout rfl readValue_emptyList
  | list hLayout hClosing h ih =>
    rename_i first more closing
    intro fuel hFuel rest p hRest
    obtain ⟨fuel, rfl⟩ : ∃ k, fuel = k + 1 := ⟨fuel - 1, by rw [List.length_cons] at hFuel; omega⟩
    obtain ⟨q, hItems⟩ := readItems_append hLayout hClosing
      (fun i hMem => exists_starts (h i hMem)) ih [] fuel (fuel_items hFuel) rest
      (p + 1 + first.before.length)
    rw [readValue_items more closing (hLayout first List.mem_cons_self)
      (exists_starts (h first List.mem_cons_self)), hItems]
    exact ⟨q, rfl⟩
  | emptyMap hLayout => exact readsAs_empty hLayout rfl readValue_emptyMap
  | map hLayout hClosing hKeys h ih =>
    rename_i first more closing
    intro fuel hFuel rest p hRest
    obtain ⟨fuel, rfl⟩ : ∃ k, fuel = k + 1 := ⟨fuel - 1, by rw [List.length_cons] at hFuel; omega⟩
    obtain ⟨q, hEntries⟩ := readEntries_append hLayout hClosing hKeys
      (fun m hMem => exists_starts (h m hMem)) ih [] fuel (fuel_entries hFuel) rest
      (p + 1 + first.before.length)
    rw [readValue_entries more closing (hLayout first List.mem_cons_self), hEntries]
    exact ⟨q, rfl⟩

end Values

/-- A document that spells a value, with layout around it, is read as the value. -/
theorem read_of_spells {before after : Text} (h : Spells v t) (hBefore : IsLayout before)
    (hAfter : IsLayout after) : read (before ++ (t ++ after)) = .ok v := by
  obtain ⟨c, r, hText, hStart⟩ := exists_starts h
  have hSkip : Source.skipLayout ⟨before ++ (t ++ after), 0⟩ = ⟨t ++ after, 0 + before.length⟩ := by
    rw [hText]
    exact skipLayout_append hBefore hStart.layout _ 0
  have hEnd : EndsNumber after := by
    have hAll := endsNumber_append hAfter endsNumber_nil
    rw [List.append_nil] at hAll
    exact hAll
  have hFuel : 2 * t.length ≤ 2 * (before ++ (t ++ after)).length + 2 := by
    simp only [List.length_append]
    omega
  obtain ⟨q, hValue⟩ := readsAs_of_spells h _ hFuel after (0 + before.length) hEnd
  have hWhole : read.whole (before ++ (t ++ after)) = .ok v := by
    unfold read.whole
    dsimp only
    rw [hSkip, hValue]
    dsimp only [bind, Except.bind]
    rw [skipLayout_all hAfter]
    rfl
  have hFirst : ∀ d ∈ (before ++ (t ++ after)).head?, d.toNat ≠ 0xfeff := by
    cases before with
    | nil =>
      rw [hText]
      rintro _ ⟨⟩ hMark
      exact absurd hStart.small (by rw [hMark]; decide)
    | cons d more =>
      rintro _ ⟨⟩
      exact ne_mark_of_isLayout (hBefore d List.mem_cons_self)
  unfold read
  split
  · rename_i hDocument
    rw [if_neg (hFirst _ (by rw [hDocument]; rfl))]
    exact hWhole
  · exact hWhole

/-- The characters that neither a value nor the layout before it starts with. -/
structure StartsNothing (c : Char) : Prop where
  layout : Source.isLayout c = false
  marks : c ∉ ['"', '\x7b', '[', '-']
  digit : c.isDigit = false
  words : ∀ w ∈ words, w.1.head? ≠ some c

theorem exists_error_of_startsNothing {c : Char} (h : StartsNothing c) (rest : Text) :
    ∃ e, read (c :: rest) = .error e := by
  have hMarks := h.marks
  simp only [List.mem_cons, List.not_mem_nil, or_false, not_or] at hMarks
  obtain ⟨hText, hMap, hList, hMinus⟩ := hMarks
  have hWords : (Json.words.find? fun w => Text.startsWith (c :: rest) w.1) = none := by
    rw [List.find?_eq_none]
    intro w hMem hStarts
    obtain ⟨k, r, hWord, -⟩ := starts_word hMem
    rw [hWord, Text.startsWith, List.isPrefixOf_cons_cons] at hStarts
    have hSame := (Bool.and_eq_true _ _).mp hStarts
    apply h.words w hMem
    rw [hWord, beq_iff_eq.mp hSame.1]
    rfl
  have hNumeral : numeral? (c :: rest) = none := by
    unfold numeral?
    split
    · rename_i hEq
      exact absurd (List.cons.inj hEq).1 hMinus
    · have hWhole : wholeDigits (c :: rest) = [] := by
        unfold wholeDigits digits
        split
        · rename_i hEq
          cases hEq
          cases h.digit
        · rw [List.takeWhile_cons_of_neg (by rw [h.digit]; nofun)]
      unfold unsigned?
      rw [hWhole]
      rfl
  have hSkip : Source.skipLayout ⟨c :: rest, 0⟩ = ⟨c :: rest, 0⟩ :=
    skipLayout_append isLayout_nil h.layout rest 0
  unfold read
  dsimp only
  split
  · exact ⟨_, rfl⟩
  · unfold read.whole
    dsimp only
    rw [hSkip, readValue_scalar hText hMap hList]
    unfold readScalar
    dsimp only
    rw [hWords]
    dsimp only
    rw [hNumeral]
    exact ⟨_, rfl⟩

end AssetAudit.Json
