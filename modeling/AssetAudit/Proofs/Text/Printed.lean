import AssetAudit.Text.Utf8

/-!
# Printed texts

A text of printable ASCII characters and line feeds takes one byte for each character, and its bytes
are read back as the same text, with the same line ends. Numbers are printed this way.
-/
namespace AssetAudit.Text

def IsPrinted (c : Char) : Prop :=
  c = '\n' ∨ 32 ≤ c.toNat ∧ c.toNat ≤ 126

instance : DecidablePred IsPrinted :=
  fun c => inferInstanceAs (Decidable (c = '\n' ∨ 32 ≤ c.toNat ∧ c.toNat ≤ 126))

def Printed (t : Text) : Prop :=
  ∀ c ∈ t, IsPrinted c

instance (t : Text) : Decidable (Printed t) :=
  List.decidableBAll IsPrinted t

variable {s t : Text} {c : Char}

theorem IsPrinted.lt (h : IsPrinted c) : c.toNat < 128 := by
  rcases h with rfl | h
  · decide
  · omega

theorem IsPrinted.ne_return (h : IsPrinted c) : c ≠ '\r' := by
  rintro rfl
  exact absurd h (by decide)

theorem printed_nil : Printed [] :=
  nofun

theorem printed_cons_iff (c : Char) (t : Text) : Printed (c :: t) ↔ IsPrinted c ∧ Printed t :=
  List.forall_mem_cons

theorem printed_append_iff (s t : Text) : Printed (s ++ t) ↔ Printed s ∧ Printed t :=
  List.forall_mem_append

theorem Printed.of_subset (h : Printed t) (hSubset : s ⊆ t) : Printed s :=
  fun c hMem => h c (hSubset hMem)

theorem printed_flatMap {α : Type} {f : α → Text} (h : ∀ a, Printed (f a)) (l : List α) :
    Printed (l.flatMap f) := by
  intro c hMem
  obtain ⟨a, -, hChar⟩ := List.mem_flatMap.mp hMem
  exact h a c hChar

theorem printed_replicate (n : Nat) (h : IsPrinted c) : Printed (List.replicate n c) := by
  intro d hMem
  obtain rfl := List.eq_of_mem_replicate hMem
  exact h

theorem printed_splitOn (sep : Char) (h : Printed t) : ∀ piece ∈ splitOn sep t, Printed piece := by
  induction t with
  | nil => exact List.forall_mem_singleton.mpr printed_nil
  | cons c rest ih =>
    obtain ⟨hChar, hRest⟩ := (printed_cons_iff _ _).mp h
    have hPieces := ih hRest
    rw [splitOn]
    split
    · exact List.forall_mem_cons.mpr ⟨printed_nil, hPieces⟩
    · split
      · exact List.forall_mem_singleton.mpr (List.forall_mem_singleton.mpr hChar)
      · rename_i piece pieces hEq
        rw [hEq] at hPieces
        obtain ⟨hPiece, hMore⟩ := List.forall_mem_cons.mp hPieces
        exact List.forall_mem_cons.mpr ⟨(printed_cons_iff _ _).mpr ⟨hChar, hPiece⟩, hMore⟩

theorem isPrinted_digitChar (n : Nat) : IsPrinted (Nat.digitChar n) := by
  by_cases hSmall : n < 16
  · have hAll : ∀ k < 16, IsPrinted (Nat.digitChar k) := by decide
    exact hAll n hSmall
  · unfold Nat.digitChar
    iterate 16 rw [if_neg (by omega)]
    decide

theorem printed_toDigits {base : Nat} (hBase : 1 < base) (n : Nat) :
    Printed (Nat.toDigits base n) := by
  induction n using Nat.strongRecOn with
  | ind n ih =>
    rw [Nat.toDigits_eq_if hBase]
    split
    · exact List.forall_mem_singleton.mpr (isPrinted_digitChar n)
    · rename_i hLarge
      have hLess : n / base < n := Nat.div_lt_self (by omega) hBase
      exact (printed_append_iff _ _).mpr
        ⟨ih _ hLess, List.forall_mem_singleton.mpr (isPrinted_digitChar _)⟩

theorem printed_ofNat (n : Nat) : Printed (ofNat n) :=
  printed_toDigits (by decide) n

theorem printed_ofInt (n : Int) : Printed (ofInt n) := by
  cases n with
  | ofNat n => exact printed_ofNat n
  | negSucc n => exact (printed_cons_iff _ _).mpr ⟨by decide, printed_ofNat _⟩

theorem printed_hex (width n : Nat) : Printed (hex width n) :=
  (printed_append_iff _ _).mpr ⟨printed_replicate _ (by decide), printed_toDigits (by decide) n⟩

theorem decodeFrom_utf8 (h : Printed t) (got : Text) (position : Nat) :
    decodeFrom got position 0 (utf8 t) = .ok (got.reverse ++ t) := by
  induction t generalizing got position with
  | nil => exact congrArg Except.ok (List.append_nil _).symm
  | cons c rest ih =>
    obtain ⟨hChar, hRest⟩ := (printed_cons_iff _ _).mp h
    have hLess := hChar.lt
    have hByte : utf8 (c :: rest) = c.toNat.toUInt8 :: utf8 rest := by
      rw [utf8, List.flatMap_cons, utf8Char, if_pos hLess]
      rfl
    have hFirst : decodeFirst c.toNat.toUInt8 (utf8 rest) = .char c 1 := by
      have hNat : c.toNat.toUInt8.toNat = c.toNat := by
        rw [Nat.toUInt8_eq, UInt8.toNat_ofNat', Nat.mod_eq_of_lt (by omega)]
      have hSmall : c.toNat.toUInt8 < 0x80 := by
        rw [UInt8.lt_iff_toNat_lt, hNat]
        exact hLess
      rw [decodeFirst, if_pos hSmall, hNat, Char.ofNat_toNat]
    rw [hByte, decodeFrom, hFirst]
    dsimp only
    rw [ih hRest, List.reverse_cons, List.append_assoc]
    rfl

theorem ofUtf8_utf8 (h : Printed t) : ofUtf8 (utf8 t) = .ok t :=
  decodeFrom_utf8 h [] 0

theorem unifyLineEnds_go (h : Printed t) (got : Text) :
    unifyLineEnds.go got t = got.reverse ++ t := by
  induction t generalizing got with
  | nil => exact (List.append_nil _).symm
  | cons c rest ih =>
    obtain ⟨hChar, hRest⟩ := (printed_cons_iff _ _).mp h
    rw [unifyLineEnds.go]
    · rw [ih hRest, List.reverse_cons, List.append_assoc]
      rfl
    · intro more hReturn
      exact absurd hReturn hChar.ne_return
    · exact hChar.ne_return

theorem unifyLineEnds_eq_self (h : Printed t) : unifyLineEnds t = t :=
  unifyLineEnds_go h []

end AssetAudit.Text
