import AssetAudit.Json.Read
import AssetAudit.Json.Write

/-!
# Strings in JSON

The ways to spell a character in a string, and what is read of them. A string that is written is
spelled in one of these ways.
-/
namespace AssetAudit.Json

inductive IsChar : Char → Text → Prop
  | plain {c : Char} (hControl : 31 < c.toNat) (hQuote : c ≠ '"') (hSlash : c ≠ '\\') : IsChar c [c]
  | short {e c : Char} (h : escaped? e = some c) : IsChar c ['\\', e]
  | unit {ds : Text} {unit : Nat} (hLength : ds.length = 4) (h : fourHex? ds = some unit)
      (hAlone : unit < 0xd800 ∨ 0xe000 ≤ unit) : IsChar (Char.ofNat unit) ('\\' :: 'u' :: ds)
  | pair {ds es : Text} {high low : Nat} (hHighLength : ds.length = 4) (hHigh : fourHex? ds = some high)
      (hLowLength : es.length = 4) (hLow : fourHex? es = some low)
      (hHighRange : 0xd800 ≤ high ∧ high < 0xdc00) (hLowRange : 0xdc00 ≤ low ∧ low < 0xe000) :
      IsChar (Char.ofNat (0x10000 + (high - 0xd800) * 0x400 + (low - 0xdc00)))
        ('\\' :: 'u' :: (ds ++ '\\' :: 'u' :: es))

inductive IsString : Text → Text → Prop
  | nil : IsString [] []
  | cons {c : Char} {s t u : Text} (hFirst : IsChar c t) (hRest : IsString s u) :
      IsString (c :: s) (t ++ u)

section Read

variable {c : Char} {s t u rest got : Text} {start fuel p : Nat}

theorem fourHex?_append {ds : Text} (hLength : ds.length = 4) (rest : Text) :
    fourHex? (ds ++ rest) = fourHex? ds := by
  match ds, hLength with
  | [_, _, _, _], _ => rfl

theorem IsChar.ne_nil (h : IsChar c t) : t ≠ [] := by
  cases h with
  | plain | short | unit | pair => nofun

theorem stringBody_unit {r : Text} {unit more : Nat} (hLong : 4 < r.length)
    (h : fourHex? r = some unit) (hPair : unitPair unit (r.drop 4) = some (c, more)) :
    stringBody start (fuel + 1) got ⟨'\\' :: 'u' :: r, p⟩ =
      stringBody start fuel (c :: got) ⟨r.drop (4 + more), p + (6 + more)⟩ := by
  have hDrop : (⟨'\\' :: 'u' :: r, p⟩ : Source).drop (6 + more) =
      ⟨r.drop (4 + more), p + (6 + more)⟩ := by
    unfold Source.drop
    rw [show 6 + more = 4 + more + 1 + 1 by omega, List.drop_succ_cons, List.drop_succ_cons]
  rw [stringBody]
  split
  next hEq => cases hEq
  next hEq => cases hEq
  next hEq => cases hEq
  next hEq =>
    cases hEq
    rw [if_neg (Nat.not_le.mpr hLong), h]
    dsimp only
    rw [hPair]
    exact congrArg _ hDrop
  next hOther hEq =>
    cases hEq
    exact (hOther rfl).elim
  next hOther hEq =>
    cases hEq
    exact (hOther 'u' r rfl rfl).elim

theorem stringBody_plain (hControl : 31 < c.toNat) (hQuote : c ≠ '"') (hSlash : c ≠ '\\') :
    stringBody start (fuel + 1) got ⟨c :: u, p⟩ =
      stringBody start fuel (c :: got) ⟨u, p + 1⟩ := by
  rw [stringBody]
  split
  next hEq => cases hEq
  next hEq => exact absurd (List.cons.inj hEq).1 hQuote
  next hEq => exact absurd (List.cons.inj hEq).1 hSlash
  next hEq => exact absurd (List.cons.inj hEq).1 hSlash
  next hEq => exact absurd (List.cons.inj hEq).1 hSlash
  next hEq =>
    obtain ⟨rfl, -⟩ := List.cons.inj hEq
    rw [if_neg (Nat.not_le.mpr hControl)]
    rfl

theorem stringBody_short {e : Char} (h : escaped? e = some c) :
    stringBody start (fuel + 1) got ⟨'\\' :: e :: u, p⟩ =
      stringBody start fuel (c :: got) ⟨u, p + 2⟩ := by
  have hNotUnit : e ≠ 'u' := by
    rintro rfl
    cases h
  rw [stringBody]
  split
  next hEq => cases hEq
  next hEq => cases hEq
  next hEq => cases hEq
  next hEq => exact absurd (List.cons.inj (List.cons.inj hEq).2).1 hNotUnit
  next hEq =>
    obtain ⟨rfl, -⟩ := List.cons.inj (List.cons.inj hEq).2
    rw [h]
    rfl
  next hOther hEq =>
    obtain ⟨rfl, rfl⟩ := List.cons.inj hEq
    exact (hOther e _ rfl rfl).elim

/-- A character is read, with the text behind it still to come. -/
theorem stringBody_char (h : IsChar c t) (hRest : u ≠ []) :
    stringBody start (fuel + 1) got ⟨t ++ u, p⟩ =
      stringBody start fuel (c :: got) ⟨u, p + t.length⟩ := by
  cases h with
  | plain hControl hQuote hSlash => exact stringBody_plain hControl hQuote hSlash
  | short h => exact stringBody_short h
  | unit hLength h hAlone =>
    rename_i ds unit
    have hPair : unitPair unit u = some (Char.ofNat unit, 0) := by
      unfold unitPair charOfUnit
      rw [if_neg (by omega), if_neg (by omega)]
    have hLong : 4 < (ds ++ u).length := by
      have hSome := List.length_pos_iff.mpr hRest
      rw [List.length_append, hLength]
      omega
    rw [List.cons_append, List.cons_append, stringBody_unit hLong
      ((fourHex?_append hLength u).trans h) (by rw [List.drop_left' hLength, hPair]),
      List.drop_left' hLength, List.length_cons, List.length_cons, hLength]
  | pair hHighLength hHigh hLowLength hLow hHighRange hLowRange =>
    rename_i ds es high low
    have hLongLow : ¬(es ++ u).length ≤ 4 := by
      have hSome := List.length_pos_iff.mpr hRest
      rw [List.length_append, hLowLength]
      omega
    have hPair : unitPair high ('\\' :: 'u' :: (es ++ u)) = some
        (Char.ofNat (0x10000 + (high - 0xd800) * 0x400 + (low - 0xdc00)), 6) := by
      unfold unitPair
      rw [if_pos hHighRange]
      change (if (es ++ u).length ≤ 4 then _ else (fourHex? (es ++ u)).map _) = _
      rw [if_neg hLongLow, fourHex?_append hLowLength, hLow, Option.map_some, if_pos hLowRange]
    have hLong : 4 < (ds ++ '\\' :: 'u' :: (es ++ u)).length := by
      rw [List.length_append, hHighLength, List.length_cons]
      omega
    have hBehind : (ds ++ '\\' :: 'u' :: (es ++ u)).drop (4 + 6) = u := by
      rw [← List.drop_drop, List.drop_left' hHighLength]
      exact List.drop_left' hLowLength
    simp only [List.cons_append, List.append_assoc]
    rw [stringBody_unit hLong ((fourHex?_append hHighLength _).trans hHigh)
      (by rw [List.drop_left' hHighLength, hPair]), hBehind]
    simp [hHighLength, hLowLength]

theorem stringBody_append (h : IsString s t) (hFuel : t.length < fuel) :
    stringBody start fuel got ⟨t ++ '"' :: rest, p⟩ =
      .ok (got.reverse ++ s, ⟨rest, p + (t.length + 1)⟩) := by
  induction h generalizing got fuel p with
  | nil =>
    cases fuel with
    | zero => exact absurd hFuel (Nat.not_lt_zero _)
    | succ fuel =>
      rw [List.append_nil]
      rfl
  | cons hFirst hRest ih =>
    rename_i c s t u
    have hSome := List.length_pos_iff.mpr hFirst.ne_nil
    rw [List.length_append] at hFuel
    cases fuel with
    | zero => exact absurd hFuel (Nat.not_lt_zero _)
    | succ fuel =>
      rw [List.append_assoc, stringBody_char hFirst (by simp),
        ih (by omega), List.reverse_cons, List.append_assoc, List.length_append, Nat.add_assoc,
        Nat.add_assoc]
      rfl

theorem readString_append (h : IsString s t) (rest : Text) (p : Nat) :
    readString ⟨'"' :: (t ++ '"' :: rest), p⟩ = .ok (s, ⟨rest, p + 1 + (t.length + 1)⟩) := by
  apply stringBody_append h
  rw [List.length_cons, List.length_append]
  omega

end Read

section Write

theorem hex_succ {width : Nat} (hWidth : 0 < width) (n : Nat) :
    Text.hex (width + 1) n = Text.hex width (n / 16) ++ [Nat.digitChar (n % 16)] := by
  unfold Text.hex
  rw [Nat.toDigits_eq_if (by decide)]
  split
  · rename_i hSmall
    rw [Nat.div_eq_of_lt hSmall, Nat.mod_eq_of_lt hSmall, Nat.toDigits_zero]
    dsimp only
    rw [List.length_singleton, List.length_singleton, Nat.add_sub_cancel]
    congr 1
    change List.replicate width '0' = List.replicate (width - 1) '0' ++ List.replicate 1 '0'
    rw [List.replicate_append_replicate, Nat.sub_add_cancel hWidth]
  · dsimp only
    rw [List.length_append, List.length_singleton, Nat.add_sub_add_right, List.append_assoc]

theorem hex_four {n : Nat} (h : n < 0x10000) : Text.hex 4 n =
    [Nat.digitChar (n / 16 / 16 / 16), Nat.digitChar (n / 16 / 16 % 16), Nat.digitChar (n / 16 % 16),
      Nat.digitChar (n % 16)] := by
  have hOne : Text.hex 1 (n / 16 / 16 / 16) = [Nat.digitChar (n / 16 / 16 / 16)] := by
    unfold Text.hex
    rw [Nat.toDigits_of_lt_base (by omega)]
    rfl
  rw [hex_succ (by decide), hex_succ (by decide), hex_succ (by decide), hOne]
  rfl

theorem hexDigit?_digitChar {n : Nat} (h : n < 16) : hexDigit? (Nat.digitChar n) = some n := by
  decide +revert

theorem fourHex?_hex {n : Nat} (h : n < 0x10000) : fourHex? (Text.hex 4 n) = some n := by
  rw [hex_four h, fourHex?]
  rw [hexDigit?_digitChar (by omega), hexDigit?_digitChar (by omega), hexDigit?_digitChar (by omega),
    hexDigit?_digitChar (by omega)]
  have hValue : ((n / 16 / 16 / 16 * 16 + n / 16 / 16 % 16) * 16 + n / 16 % 16) * 16 + n % 16 = n := by
    omega
  exact congrArg some hValue

theorem length_hex_four {n : Nat} (h : n < 0x10000) : (Text.hex 4 n).length = 4 := by
  rw [hex_four h]
  rfl

theorem isChar_unit {n : Nat} (h : n < 0x10000) (hAlone : n < 0xd800 ∨ 0xe000 ≤ n) :
    IsChar (Char.ofNat n) (unicodeEscape n) :=
  .unit (length_hex_four h) (fourHex?_hex h) hAlone

theorem toNat_alone (c : Char) : c.toNat < 0xd800 ∨ 0xe000 ≤ c.toNat := by
  rcases c.valid with hBelow | ⟨hAbove, -⟩
  · exact .inl hBelow
  · exact .inr (Nat.succ_le_of_lt hAbove)

theorem toNat_lt (c : Char) : c.toNat < 0x110000 := by
  rcases c.valid with hBelow | ⟨-, hAbove⟩
  · have hSmall : c.toNat < 0xd800 := hBelow
    omega
  · exact hAbove

theorem isChar_unicodeEscape {c : Char} (h : c.toNat < 0x10000) :
    IsChar c (unicodeEscape c.toNat) := by
  have hChar := isChar_unit h (toNat_alone c)
  rw [Char.ofNat_toNat] at hChar
  exact hChar

/-- A character beyond the first plane is spelled by two units. -/
theorem isChar_units {high low : Nat} (hHigh : 0xd800 ≤ high ∧ high < 0xdc00)
    (hLow : 0xdc00 ≤ low ∧ low < 0xe000) :
    IsChar (Char.ofNat (0x10000 + (high - 0xd800) * 0x400 + (low - 0xdc00)))
      (unicodeEscape high ++ unicodeEscape low) := by
  have hHighUnit : high < 0x10000 := by omega
  have hLowUnit : low < 0x10000 := by omega
  exact .pair (length_hex_four hHighUnit) (fourHex?_hex hHighUnit) (length_hex_four hLowUnit)
    (fourHex?_hex hLowUnit) hHigh hLow

theorem isChar_pair {c : Char} (h : 0x10000 ≤ c.toNat) :
    IsChar c (unicodeEscape (0xd800 + (c.toNat - 0x10000) / 0x400) ++
      unicodeEscape (0xdc00 + (c.toNat - 0x10000) % 0x400)) := by
  have hRange := toNat_lt c
  have hHigh : 0xd800 ≤ 0xd800 + (c.toNat - 0x10000) / 0x400 ∧
      0xd800 + (c.toNat - 0x10000) / 0x400 < 0xdc00 := by omega
  have hLow : 0xdc00 ≤ 0xdc00 + (c.toNat - 0x10000) % 0x400 ∧
      0xdc00 + (c.toNat - 0x10000) % 0x400 < 0xe000 := by omega
  have hSame : 0x10000 + (0xd800 + (c.toNat - 0x10000) / 0x400 - 0xd800) * 0x400 +
      (0xdc00 + (c.toNat - 0x10000) % 0x400 - 0xdc00) = c.toNat := by omega
  have hChar := isChar_units hHigh hLow
  rw [hSame, Char.ofNat_toNat] at hChar
  exact hChar

theorem isChar_escapeChar (c : Char) : IsChar c (escapeChar c) := by
  have hOf : ∀ {n : Nat}, c.toNat = n → c = Char.ofNat n := by
    rintro _ rfl
    exact (Char.ofNat_toNat c).symm
  unfold escapeChar
  split
  · rename_i hMark
    rcases (Bool.or_eq_true _ _).mp hMark with hMark | hMark
    · obtain rfl := beq_iff_eq.mp hMark
      exact .short rfl
    · obtain rfl := beq_iff_eq.mp hMark
      exact .short rfl
  rename_i hNoMark
  iterate 3
    split
    · rename_i hMark
      obtain rfl := beq_iff_eq.mp hMark
      exact .short rfl
  split
  · rename_i hCode
    rw [hOf hCode]
    exact .short rfl
  split
  · rename_i hCode
    rw [hOf hCode]
    exact .short rfl
  split
  · rename_i hPlain
    simp only [Bool.or_eq_true, beq_iff_eq, not_or] at hNoMark
    exact .plain hPlain.1 hNoMark.1 hNoMark.2
  split
  · rename_i hSmall
    exact isChar_unicodeEscape hSmall
  · rename_i hLarge
    exact isChar_pair (Nat.le_of_not_lt hLarge)

theorem isString_self {s : Text} (h : ∀ c ∈ s, 31 < c.toNat ∧ c ≠ '"' ∧ c ≠ '\\') : IsString s s := by
  induction s with
  | nil => exact .nil
  | cons c rest ih =>
    obtain ⟨⟨hControl, hQuote, hSlash⟩, hRest⟩ := List.forall_mem_cons.mp h
    exact .cons (.plain hControl hQuote hSlash) (ih hRest)

theorem isString_escape (s : Text) : IsString s (s.flatMap escapeChar) := by
  induction s with
  | nil => exact .nil
  | cons c rest ih =>
    rw [List.flatMap_cons]
    exact .cons (isChar_escapeChar c) ih

end Write

end AssetAudit.Json
