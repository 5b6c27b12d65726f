import AssetAudit.Proofs.Path.Inside
import AssetAudit.Proofs.Regex.Reads
import AssetAudit.Proofs.Regex.Steps
import AssetAudit.Proofs.Usage.Templates

/-!
# The stem decides

Every text that is searched for an asset ends with its name, but for the stem itself, and a name begins
with its stem. A placeholder only counts when it holds the stem. So apart from templates, a source
refers to an asset exactly when the stem occurs in it.
-/
namespace AssetAudit

namespace Path

theorem stem_prefix (name : Text) : stem name <+: name := by
  unfold stem
  dsimp only
  split
  · have hFront := List.reverse_prefix.mpr
      (List.drop_suffix ((name.reverse.takeWhile (· != '.')).length + 1) name.reverse)
    rwa [List.reverse_reverse] at hFront
  · exact List.prefix_refl name

theorem stem_ne_nil {name : Text} (h : name ≠ []) : stem name ≠ [] := by
  unfold stem
  dsimp only
  split
  · rename_i hBefore
    rintro hNone
    rw [hNone] at hBefore
    simp at hBefore
  · exact h

theorem dropCommon_swap (as bs : List Text) : dropCommon bs as = (dropCommon as bs).swap := by
  fun_induction dropCommon as bs with
  | case1 a as bs ih => rw [dropCommon, if_pos rfl, ih]
  | case2 a as b bs hOther => rw [dropCommon, if_neg (Ne.symm hOther), Prod.swap_prod_mk]
  | case3 as bs hShort =>
    cases as with
    | nil => cases bs <;> rfl
    | cons a as =>
      cases bs with
      | nil => rfl
      | cons b bs => exact absurd rfl (hShort a as b bs rfl)

theorem dropCommon_snd_suffix (as bs : List Text) : (dropCommon as bs).2 <:+ bs := by
  fun_induction dropCommon as bs with
  | case1 a as bs ih => exact ih.trans (List.suffix_cons _ _)
  | case2 a as b bs _ => exact List.suffix_refl _
  | case3 as bs _ => exact List.suffix_refl _

/-- The way to a place that does not lie above the start ends with the name of the place. -/
theorem exists_between_concat {start place : List Text} {name : Text}
    (h : ¬place ++ [name] <+: start) : ∃ way, between start (place ++ [name]) = way ++ [name] := by
  have hDown : (dropCommon start (place ++ [name])).2 ≠ [] := by
    rw [dropCommon_swap, Prod.snd_swap, Ne, dropCommon_fst_eq_nil_iff]
    exact h
  obtain ⟨before, hBefore⟩ := dropCommon_snd_suffix start (place ++ [name])
  obtain ⟨down, last, hLast⟩ := (List.eq_nil_or_concat' _).resolve_left hDown
  rw [hLast, ← List.append_assoc] at hBefore
  obtain ⟨-, hName⟩ := List.append_inj' hBefore rfl
  refine ⟨(dropCommon start (place ++ [name])).1.map (fun _ => ['.', '.']) ++ down, ?_⟩
  rw [← hName, List.append_assoc, ← hLast, hName]
  rfl

theorem suffix_join (way : List Text) (name : Text) : name <:+ Text.join ['/'] (way ++ [name]) := by
  cases way with
  | nil => exact List.suffix_refl name
  | cons part way =>
    rw [Text.join_append '/' (List.cons_ne_nil part way) (List.cons_ne_nil name [])]
    exact (List.suffix_cons '/' name).trans (List.suffix_append _ _)

theorem suffix_toPosix {name t : Text} (h : name <:+ t) (hBackslash : '\\' ∉ name) :
    name <:+ toPosix t := by
  obtain ⟨front, rfl⟩ := h
  have hName : Text.replaceChar '\\' '/' name = name := toPosix_of_not_mem hBackslash
  refine ⟨toPosix front, ?_⟩
  conv_lhs => rw [← hName]
  exact List.map_append.symm

theorem suffix_relative {cwd target start : Text} {place : List Text} {name : Text}
    (hTarget : resolve cwd target = place ++ [name])
    (h : ¬resolve cwd target <+: resolve cwd start) : name <:+ relative cwd target start := by
  rw [hTarget] at h
  obtain ⟨way, hWay⟩ := exists_between_concat h
  rw [relative, hTarget, hWay]
  split
  · rename_i hNone
    exact absurd hNone (by simp)
  · exact suffix_join way name

end Path

namespace FilePath

/-- A path that does not end by leading up leads to a place of its own name. -/
theorem IsSpelled.exists_resolve_concat {p : FilePath} (h : p.IsSpelled) (hName : p.parts ≠ [])
    (hUp : p.name ≠ ['.', '.']) (cwd : Text) :
    ∃ place, Path.resolve cwd p.text = place ++ [p.name] := by
  have hBelow : ∀ base, Path.resolveBelow base p.text =
      p.parts.dropLast.foldl Path.step base ++ [p.name] := by
    intro base
    have hLast : p.name ∈ p.parts := by
      rw [← dropLast_append_name hName]
      exact List.mem_append_right _ List.mem_cons_self
    obtain ⟨hSome, hDot⟩ := (isPart_iff p.name).mp (h.parts p.name hLast).1
    rw [h.resolveBelow_text]
    conv_lhs => rw [← dropLast_append_name hName]
    rw [List.foldl_append, List.foldl_cons, List.foldl_nil, Path.step,
      if_neg (not_or.mpr ⟨hSome, hDot⟩), if_neg hUp]
  unfold Path.resolve
  split
  · exact ⟨_, hBelow _⟩
  · exact ⟨_, hBelow _⟩

end FilePath

namespace Usage

open Regex (Expr Reads Reading sequenceItems)

def IsPlaceholderOf (stem u : Text) : Prop :=
  ∃ before behind, '\x7d' ∉ before ∧ '\x7d' ∉ behind ∧
    u = '$' :: '\x7b' :: (before ++ (stem ++ (behind ++ ['\x7d'])))

namespace References

theorem holdsStem_iff (stem t : Text) : holdsStem stem t = true ↔
    ∃ before behind, '\x7d' ∉ before ∧ '\x7d' ∉ behind ∧
      before ++ (stem ++ (behind ++ ['\x7d'])) <+: t := by
  induction t with
  | nil => simp [holdsStem]
  | cons c rest ih =>
    have hHere : (stem.isPrefixOf (c :: rest) &&
        ((c :: rest).drop stem.length).contains '\x7d') = true ↔
          ∃ behind, '\x7d' ∉ behind ∧ stem ++ (behind ++ ['\x7d']) <+: c :: rest := by
      rw [Bool.and_eq_true, List.isPrefixOf_iff_prefix, List.contains_iff_mem]
      constructor
      · rintro ⟨⟨after, hAfter⟩, hMem⟩
        rw [← hAfter, List.drop_left] at hMem
        obtain ⟨behind, rest', rfl, hNone⟩ := List.eq_append_cons_of_mem hMem
        exact ⟨behind, hNone, rest', by simpa using hAfter⟩
      · rintro ⟨behind, -, rest', hText⟩
        rw [← hText]
        exact ⟨⟨behind ++ ['\x7d'] ++ rest', by simp⟩, by simp⟩
    rw [holdsStem, Bool.or_eq_true, hHere, Bool.and_eq_true, ih, bne_iff_ne]
    constructor
    · rintro (⟨behind, hBehind, hFront⟩ | ⟨hOther, before, behind, hBefore, hBehind, hFront⟩)
      · exact ⟨[], behind, List.not_mem_nil, hBehind, hFront⟩
      · refine ⟨c :: before, behind, ?_, hBehind, List.cons_prefix_cons.mpr ⟨rfl, hFront⟩⟩
        rw [List.mem_cons, not_or]
        exact ⟨hOther.symm, hBefore⟩
    · rintro ⟨before, behind, hBefore, hBehind, hFront⟩
      cases before with
      | nil => exact .inl ⟨behind, hBehind, hFront⟩
      | cons x before =>
        obtain ⟨rfl, hRest⟩ := List.cons_prefix_cons.mp hFront
        obtain ⟨hOther, hBefore⟩ := not_or.mp (List.mem_cons.not.mp hBefore)
        exact .inr ⟨Ne.symm hOther, before, behind, hBefore, hBehind, hRest⟩

theorem exists_placeholder_cons_iff (stem : Text) {c : Char} {rest : Text}
    (hOpen : ¬['$', '\x7b'] <+: c :: rest) :
    (∃ u, u <:+: c :: rest ∧ IsPlaceholderOf stem u) ↔ ∃ u, u <:+: rest ∧ IsPlaceholderOf stem u := by
  constructor
  · rintro ⟨u, hInside, hPlaceholder⟩
    rcases List.infix_cons_iff.mp hInside with hFront | hInside
    · obtain ⟨before, behind, -, -, rfl⟩ := hPlaceholder
      exact absurd ((List.prefix_append ['$', '\x7b'] _).trans hFront) hOpen
    · exact ⟨u, hInside, hPlaceholder⟩
  · rintro ⟨u, hInside, hPlaceholder⟩
    exact ⟨u, List.infix_cons hInside, hPlaceholder⟩

/-- A scan that opens at every dollar sign with a brace finds the placeholders of the stem. -/
theorem inPlaceholder_iff (stem text : Text) :
    inPlaceholder stem text = true ↔ ∃ u, u <:+: text ∧ IsPlaceholderOf stem u := by
  fun_induction inPlaceholder stem text with
  | case1 rest ih =>
    have hBrace : ¬['$', '\x7b'] <+: '\x7b' :: rest := fun hFront =>
      absurd (List.cons_prefix_cons.mp hFront).1 (by decide)
    rw [Bool.or_eq_true, holdsStem_iff, ih]
    constructor
    · rintro (⟨before, behind, hBefore, hBehind, hFront⟩ | ⟨u, hInside, hPlaceholder⟩)
      · refine ⟨_, List.IsPrefix.isInfix ?_, before, behind, hBefore, hBehind, rfl⟩
        exact List.cons_prefix_cons.mpr ⟨rfl, List.cons_prefix_cons.mpr ⟨rfl, hFront⟩⟩
      · exact ⟨u, List.infix_cons (List.infix_cons hInside), hPlaceholder⟩
    · rintro ⟨u, hInside, hPlaceholder⟩
      rcases List.infix_cons_iff.mp hInside with hFront | hInside
      · obtain ⟨before, behind, hBefore, hBehind, rfl⟩ := hPlaceholder
        exact .inl ⟨before, behind, hBefore, hBehind,
          (List.cons_prefix_cons.mp (List.cons_prefix_cons.mp hFront).2).2⟩
      · exact .inr ((exists_placeholder_cons_iff stem hBrace).mp ⟨u, hInside, hPlaceholder⟩)
  | case2 c rest hOpen ih =>
    rw [ih, exists_placeholder_cons_iff]
    rintro ⟨after, hAfter⟩
    obtain ⟨rfl, rfl⟩ := List.cons.inj hAfter
    exact hOpen _ rfl rfl
  | case3 =>
    refine iff_of_false Bool.false_ne_true ?_
    rintro ⟨u, hInside, before, behind, -, -, rfl⟩
    exact absurd (List.infix_nil.mp hInside) (List.cons_ne_nil _ _)

def placeholderItems (stem : Text) : List Expr :=
  ['$', '\x7b'].map (fun c => .code c.toNat) ++
    ([.many .greedy 0 none (.set true [.code '\x7d'.toNat])] ++
      (stem.map (fun c => .code c.toNat) ++
        ([.many .greedy 0 none (.set true [.code '\x7d'.toNat])] ++
          ['\x7d'].map (fun c => .code c.toNat))))

theorem reads_placeholderItems {flags : Regex.Flags} (hCase : flags.ignoreCase = false)
    (kept : List Nat) (stem : Text) :
    Reads kept flags (Expr.sequence (placeholderItems stem)) (IsPlaceholderOf stem) := by
  have hText : ∀ t : Text, Reads kept flags (Expr.sequence (t.map fun c => .code c.toNat))
      fun u => u = t := Regex.reads_codes hCase
  have hInside : Reads kept flags
      (Expr.sequence [.many .greedy 0 none (.set true [.code '\x7d'.toNat])]) fun u => '\x7d' ∉ u :=
    (Regex.reads_allBut hCase '\x7d').manyOther
  apply ((hText _).append (hInside.append ((hText stem).append (hInside.append (hText _))))).congr
  intro u
  constructor
  · rintro ⟨_, _, rfl, rfl, before, _, rfl, hBefore, _, _, rfl, rfl, behind, _, rfl, hBehind, rfl⟩
    exact ⟨before, behind, hBefore, hBehind, rfl⟩
  · rintro ⟨before, behind, hBefore, hBehind, rfl⟩
    exact ⟨_, _, rfl, rfl, before, _, rfl, hBefore, _, _, rfl, rfl, behind, _, rfl, hBehind, rfl⟩

/-- The expression for a placeholder, in its pieces. -/
theorem placeholder_eq (r : References) : r.placeholder =
    Regex.escape ['$', '\x7b'] ++ ('[' :: '^' :: '\x7d' :: ']' :: '*' ::
      (Regex.escape r.stem ++ ('[' :: '^' :: '\x7d' :: ']' :: '*' :: (Regex.escape ['\x7d'] ++ [])))) := by
  unfold placeholder
  rw [List.append_assoc]
  rfl

theorem isPlain_placeholderItems (stem : Text) {e : Expr} (h : e ∈ placeholderItems stem) :
    e.IsPlain := by
  have hCodes : ∀ t : Text, ∀ e ∈ t.map (fun c => Expr.code c.toNat), e.IsPlain := by
    intro t e hMem
    obtain ⟨c, -, rfl⟩ := List.mem_map.mp hMem
    exact Expr.isPlain_of_isSingle rfl
  have hMany : ∀ e ∈ [Expr.many .greedy 0 none (.set true [.code '\x7d'.toNat])], e.IsPlain := by
    intro e hMem
    rw [List.mem_singleton.mp hMem]
    exact Expr.isPlain_many _ _ _ (Expr.isPlain_of_isSingle rfl)
  unfold placeholderItems at h
  simp only [List.mem_append] at h
  rcases h with h | h | h | h | h
  · exact hCodes _ e h
  · exact hMany e h
  · exact hCodes _ e h
  · exact hMany e h
  · exact hCodes _ e h

theorem compile_placeholder (r : References) : Regex.compile r.placeholder {} =
    .ok { pattern := r.placeholder, flags := { unicode := true },
          expr := Expr.sequence (placeholderItems r.stem) } := by
  let start : Reading := { rest := r.placeholder, position := 0, flags := {} }
  have hStart : start.rest = _ := r.placeholder_eq
  have hNotAlone : start.rest ≠ ['\\'] :=
    hStart ▸ Regex.escape_append_ne ['$', '\x7b'] (by simp)
  have hLength : start.rest.length =
      (Regex.escape ['$', '\x7b']).length + (5 + (Regex.escape r.stem).length) +
        (5 + (Regex.escape ['\x7d']).length) := by
    rw [hStart]
    simp only [List.length_append, List.length_cons, List.length_nil]
    omega
  obtain ⟨fuel, hFuel⟩ : ∃ n, 3 * start.rest.length + 2 =
      n + 1 + ['\x7d'].length + 2 + r.stem.length + 2 + ['$', '\x7b'].length := by
    have hFits := Regex.length_le_length_escape r.stem
    refine ⟨3 * start.rest.length + 2 - (r.stem.length + 8), ?_⟩
    simp only [List.length_cons, List.length_nil]
    omega
  have hOpened := Reading.rest_past hStart
  have hHeld := Reading.rest_past
    (t := '[' :: '^' :: '\x7d' :: ']' :: '*' :: Regex.escape r.stem) hOpened
  have hFive : ('[' :: '^' :: '\x7d' :: ']' :: '*' :: Regex.escape r.stem).length =
      5 + (Regex.escape r.stem).length := by
    simp only [List.length_cons]
    omega
  rw [hFive, Reading.past_past] at hHeld
  have hDone : (start.past start.rest.length).rest = [] := List.drop_length
  have hItems : sequenceItems true false [] (3 * start.rest.length + 2) start =
      .ok ((placeholderItems r.stem).reverse, start.past start.rest.length) := by
    rw [hFuel, Regex.sequenceItems_escape ['$', '\x7b'] hStart (by simp),
      Regex.sequenceItems_allButManyThen r.stem (by decide) hOpened (by decide) (by decide)
        (by decide), Reading.past_past,
      Regex.sequenceItems_allButManyThen ['\x7d'] (by decide) hHeld (by simp) (by simp) (by simp),
      Reading.past_past, ← hLength, Regex.sequenceItems_end hDone]
    simp [placeholderItems]
  rw [Regex.compile_of_items hNotAlone hItems, List.reverse_reverse]
  intro e hMem
  exact isPlain_placeholderItems r.stem (List.mem_reverse.mp hMem)

theorem stem_infix_of_inPlaceholder {stem text : Text} (h : inPlaceholder stem text = true) :
    stem <:+: text := by
  obtain ⟨u, hInside, before, behind, -, -, rfl⟩ := (inPlaceholder_iff stem text).mp h
  exact List.IsInfix.trans ⟨'$' :: '\x7b' :: before, behind ++ ['\x7d'], by simp⟩ hInside

/-- The program for a placeholder finds the placeholders of the stem. -/
theorem occursIn_placeholder (r : References) {program : Regex.Program}
    (h : Regex.compile r.placeholder {} = .ok program) (text : Text) :
    program.occursIn text = inPlaceholder r.stem text := by
  rw [compile_placeholder] at h
  obtain rfl := Except.ok.inj h
  rw [Bool.eq_iff_iff, inPlaceholder_iff]
  exact Regex.search_iff (fun kept => reads_placeholderItems rfl kept r.stem) text

theorem mem_searched_of_stem {asset : FilePath} (hName : asset.name ≠ []) (cwd sources : FilePath) :
    (of cwd asset sources).stem ∈ (of cwd asset sources).searched := by
  refine mem_keepFirst_iff.mpr (List.mem_filter.mpr ⟨by simp [of], ?_⟩)
  have hStem : (of cwd asset sources).stem ≠ [] := Path.stem_ne_nil hName
  simpa using hStem

/-- The name ends all the spellings that are searched for, but for the stem. -/
theorem stem_infix_of_mem_searched {cwd asset sources : FilePath} {s : Text}
    (hWay : asset.name <:+ Path.relative cwd.text asset.text sources.text)
    (hBackslash : '\\' ∉ asset.name) (h : s ∈ (of cwd asset sources).searched) :
    (of cwd asset sources).stem <:+: s := by
  have hStem : (of cwd asset sources).stem <:+: asset.name := (Path.stem_prefix asset.name).isInfix
  have hPlain := Path.suffix_toPosix hWay hBackslash
  obtain ⟨hMem, -⟩ := List.mem_filter.mp (mem_keepFirst_iff.mp h)
  rcases List.mem_append.mp hMem with hMem | hMem
  · simp only [List.mem_cons, List.not_mem_nil, or_false] at hMem
    rcases hMem with rfl | rfl | rfl | rfl
    · exact hStem
    · exact List.infix_refl _
    · exact hStem.trans hWay.isInfix
    · exact hStem.trans hPlain.isInfix
  · obtain ⟨start, -, rfl⟩ := List.mem_map.mp hMem
    exact hStem.trans (hPlain.trans (List.suffix_append start _)).isInfix

end References

/-- For an asset with a name of its own, seen from a directory that does not lie in it, every text that
is searched for contains the stem, and so does every text in which the expression for a placeholder
matches. A source refers to the asset exactly when the stem occurs in it or one of its templates fits. -/
theorem reference_by_stem {asset : FilePath} (hSpelled : asset.IsSpelled) (hName : asset.parts ≠ [])
    (hUp : asset.name ≠ ['.', '.']) (hBackslash : '\\' ∉ asset.name) {cwd sources : FilePath}
    (hApart : ¬Path.resolve cwd.text asset.text <+: Path.resolve cwd.text sources.text) :
    let r := References.of cwd asset sources
    (r.stem ∈ r.searched ∧ ∀ s ∈ r.searched, r.stem <:+: s) ∧
      (∃ program, Regex.compile r.placeholder {} = .ok program ∧ ∀ text,
        program.occursIn text = References.inPlaceholder r.stem text ∧
          (program.occursIn text = true → r.stem <:+: text)) ∧
      ∀ source : Source, source.refersTo r = true ↔
        r.stem.occursIn source.text = true ∨ ∃ f ∈ source.fragments, r.fitsFragment f = true := by
  intro r
  obtain ⟨place, hPlace⟩ := hSpelled.exists_resolve_concat hName hUp cwd.text
  have hWay : asset.name <:+ Path.relative cwd.text asset.text sources.text :=
    Path.suffix_relative hPlace hApart
  have hSome : asset.name ≠ [] := by
    have hLast : asset.name ∈ asset.parts := by
      rw [← FilePath.dropLast_append_name hName]
      exact List.mem_append_right _ List.mem_cons_self
    exact ((FilePath.isPart_iff asset.name).mp (hSpelled.parts asset.name hLast).1).1
  have hSearched : r.stem ∈ r.searched := References.mem_searched_of_stem hSome cwd sources
  have hContains : ∀ s ∈ r.searched, r.stem <:+: s := fun s hMem =>
    References.stem_infix_of_mem_searched hWay hBackslash hMem
  refine ⟨⟨hSearched, hContains⟩, ⟨_, References.compile_placeholder r, fun text => ?_⟩, ?_⟩
  · have hSame := References.occursIn_placeholder r (References.compile_placeholder r) text
    exact ⟨hSame, fun hOccurs => References.stem_infix_of_inPlaceholder (hSame ▸ hOccurs)⟩
  · intro source
    rw [Source.refersTo, Bool.or_eq_true, Bool.or_eq_true, List.any_eq_true, List.any_eq_true]
    apply or_congr_left
    constructor
    · rintro (⟨s, hMem, hOccurs⟩ | hPlaceholder)
      · exact (Text.occursIn_iff _ _).mpr ((hContains s hMem).trans ((Text.occursIn_iff _ _).mp hOccurs))
      · exact (Text.occursIn_iff _ _).mpr (References.stem_infix_of_inPlaceholder hPlaceholder)
    · exact fun hOccurs => .inl ⟨r.stem, hSearched, hOccurs⟩

/-- A name that begins with a dot and has several more. -/
theorem reference_by_stem_dots :
    let r := References.of (.ofText ['/']) (.ofText "/app/src/img/.hero.v2.png".toList)
      (.ofText "/app/src/../src".toList)
    r.searched.take 3 = [".hero.v2.png".toList, ".hero.v2".toList, "img/.hero.v2.png".toList] ∧
      ∀ source : Source, source.refersTo r = true ↔ Text.occursIn ".hero.v2".toList source.text = true ∨
        ∃ f ∈ source.fragments, r.fitsFragment f = true := by
  intro r
  have hApart : ¬Path.resolve (FilePath.ofText ['/']).text
      (FilePath.ofText "/app/src/img/.hero.v2.png".toList).text <+:
        Path.resolve (FilePath.ofText ['/']).text (FilePath.ofText "/app/src/../src".toList).text := by
    decide
  have hStem := reference_by_stem (FilePath.isSpelled_ofText _) (by decide) (by decide) (by decide)
    hApart
  exact ⟨by decide, hStem.2.2⟩

end Usage

end AssetAudit
