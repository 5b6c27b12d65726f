import AssetAudit.Proofs.Usage.Templates

/-!
# Templates and words

A template fits a name when something is left of the name between its two parts and one of the parts has
a word of the stem, in letters of any size. A blank ends a word, so that each part becomes small on its
own, and a word has no blank, so that it lies in one of the parts. A template that is recorded stands in
its source around a placeholder.
-/
namespace AssetAudit

namespace Unicode

theorem meetsLetter_append_blank (before behind : List Char) :
    meetsLetter (before ++ ' ' :: behind) = meetsLetter before := by
  induction before with
  | nil => rfl
  | cons c before ih => rw [List.cons_append, meetsLetter, meetsLetter, ih]

/-- What stands before a blank does not bear on the letters behind it. -/
theorem lowerFrom_behind_blank (before other text : List Char) :
    lowerFrom (before ++ ' ' :: other) text = lowerFrom before text := by
  induction text generalizing before with
  | nil => rfl
  | cons c rest ih =>
    rw [lowerFrom, lowerFrom, meetsLetter_append_blank, ← List.cons_append, ih]

theorem lowerFrom_append_blank (before text behind : List Char) :
    lowerFrom before (text ++ ' ' :: behind) = lowerFrom before text ++ ' ' :: lower behind := by
  induction text generalizing before with
  | nil => exact congrArg (' ' :: ·) (lowerFrom_behind_blank [] before behind)
  | cons c rest ih =>
    rw [List.cons_append, lowerFrom, lowerFrom, meetsLetter_append_blank, ih, List.append_assoc]

theorem lower_append_blank (text behind : List Char) :
    lower (text ++ ' ' :: behind) = lower text ++ ' ' :: lower behind :=
  lowerFrom_append_blank [] text behind

theorem toNat_lt_of_isAlphanum {c : Char} (h : c.isAlphanum = true) : c.toNat < 128 := by
  have hBelow : ∀ {high : UInt32}, c.val ≤ high → high.toNat < 128 → c.toNat < 128 := fun hHigh hSmall =>
    Nat.lt_of_le_of_lt (UInt32.le_iff_toNat_le.mp hHigh) hSmall
  change (c.isUpper || c.isLower || c.isDigit) = true at h
  rw [Bool.or_eq_true, Bool.or_eq_true] at h
  rcases h with (hUpper | hLower) | hDigit
  · exact hBelow (of_decide_eq_true hUpper).2 (by decide)
  · exact hBelow (of_decide_eq_true (Bool.and_eq_true_iff.mp hLower).2) (by decide)
  · exact hBelow (of_decide_eq_true (Bool.and_eq_true_iff.mp hDigit).2) (by decide)

theorem not_mem_lowerFrom {word : List Char} (h : ∀ c ∈ word, c.isAlphanum = true)
    (before : List Char) : ' ' ∉ lowerFrom before word := by
  have hSmall : ∀ n < 128, n ≠ ' '.toNat → ' ' ≠ Char.ofNat (lowerCode n) := by decide
  induction word generalizing before with
  | nil => exact List.not_mem_nil
  | cons c rest ih =>
    obtain ⟨hFirst, hRest⟩ := List.forall_mem_cons.mp h
    have hRange := toNat_lt_of_isAlphanum hFirst
    have hOther : c.toNat ≠ ' '.toNat := by
      intro hBlank
      rw [Char.toNat_inj.mp hBlank] at hFirst
      exact absurd hFirst (by decide)
    rw [lowerFrom, if_neg (by omega), if_neg (by omega), List.singleton_append, List.mem_cons, not_or]
    exact ⟨hSmall _ hRange hOther, ih hRest _⟩

end Unicode

namespace Text

theorem infix_append_cons_iff {c : Char} {t : Text} (h : c ∉ t) (before behind : Text) :
    t <:+: before ++ c :: behind ↔ t <:+: before ∨ t <:+: behind := by
  have hFront : ∀ u, u <:+: t → u <+: c :: behind → u = [] := by
    intro u hPart hPrefix
    cases u with
    | nil => rfl
    | cons d u =>
      obtain ⟨rfl, -⟩ := List.cons_prefix_cons.mp hPrefix
      exact absurd (hPart.subset List.mem_cons_self) h
  rw [List.infix_append_iff, List.infix_cons_iff]
  constructor
  · rintro (hBefore | (hPrefix | hBehind) | ⟨u, v, rfl, hSuffix, hPrefix⟩)
    · exact .inl hBefore
    · rw [hFront t List.infix_rfl hPrefix]
      exact .inl (List.nil_infix)
    · exact .inr hBehind
    · rw [hFront v (List.suffix_append u v).isInfix hPrefix, List.append_nil]
      exact .inl hSuffix.isInfix
  · rintro (hBefore | hBehind)
    · exact .inl hBefore
    · exact .inr (.inl (.inr hBehind))

end Text

namespace Usage

section Words

variable {word front rest stem : Text}

/-- A maximal run of ASCII letters and digits. -/
def IsRun (word text : Text) : Prop :=
  ∃ before behind, text = before ++ (word ++ behind) ∧ (∀ c ∈ word, c.isAlphanum = true) ∧
    (∀ c ∈ before.getLast?, c.isAlphanum = false) ∧ ∀ c ∈ behind.head?, c.isAlphanum = false

theorem IsRun.not_mem_lower (h : IsRun word stem) : ' ' ∉ Unicode.lower word := by
  obtain ⟨_, _, -, hPlain, -⟩ := h
  exact Unicode.not_mem_lowerFrom hPlain []

theorem eq_nil_of_getLast? {before : Text} (hLast : ∀ c ∈ before.getLast?, c.isAlphanum = false)
    (hPlain : ∀ c ∈ before, c.isAlphanum = true) : before = [] := by
  rcases List.eq_nil_or_concat before with rfl | ⟨u, c, rfl⟩
  · rfl
  · have hBoth := hPlain c (by simp)
    rw [hLast c (by simp)] at hBoth
    cases hBoth

theorem isRun_self_iff (hFront : ∀ c ∈ front, c.isAlphanum = true) : IsRun word front ↔ word = front := by
  constructor
  · rintro ⟨before, behind, rfl, -, hBefore, hBehind⟩
    have hNone : before = [] :=
      eq_nil_of_getLast? hBefore fun c hMem => hFront c (List.mem_append_left _ hMem)
    have hEnd : behind = [] := by
      cases behind with
      | nil => rfl
      | cons c u =>
        have hPlain := hFront c (by simp)
        rw [hBehind c (by simp)] at hPlain
        cases hPlain
    rw [hNone, hEnd, List.nil_append, List.append_nil]
  · rintro rfl
    exact ⟨[], [], by simp, hFront, by simp, by simp⟩

/-- In front of another character a run is all that stands there, or it stands behind the character. -/
theorem isRun_append_iff {c : Char} (hWord : word ≠ []) (hFront : ∀ c ∈ front, c.isAlphanum = true)
    (hStop : c.isAlphanum = false) : IsRun word (front ++ c :: rest) ↔ word = front ∨ IsRun word rest := by
  constructor
  · rintro ⟨before, behind, hText, hPlain, hBefore, hBehind⟩
    rcases List.append_eq_append_iff.mp hText with ⟨u, rfl, hRest⟩ | ⟨u, rfl, hRest⟩
    · -- the character is in front of the run
      cases u with
      | nil =>
        obtain ⟨d, word, rfl⟩ := List.exists_cons_of_ne_nil hWord
        obtain ⟨rfl, -⟩ := List.cons.inj hRest
        rw [hPlain c List.mem_cons_self] at hStop
        cases hStop
      | cons d u =>
        obtain ⟨rfl, rfl⟩ := List.cons.inj hRest
        refine .inr ⟨u, behind, rfl, hPlain, fun e hLast => hBefore e ?_, hBehind⟩
        have hSome : u ≠ [] := by
          rintro rfl
          cases hLast
        rwa [List.getLast?_append_of_ne_nil _ (List.cons_ne_nil _ _), List.getLast?_cons_of_ne_nil hSome]
    · -- the run starts the text and goes as far as the character
      obtain rfl : before = [] :=
        eq_nil_of_getLast? hBefore fun d hMem => hFront d (List.mem_append_left _ hMem)
      rw [List.nil_append] at hFront
      have hTake : (u ++ c :: rest).takeWhile Char.isAlphanum = u := by
        rw [List.takeWhile_append_of_pos hFront, List.takeWhile_cons_of_neg (by simp [hStop]),
          List.append_nil]
      have hTake' : (word ++ behind).takeWhile Char.isAlphanum = word := by
        rw [List.takeWhile_append_of_pos hPlain]
        cases behind with
        | nil => simp
        | cons d v => simp [hBehind d (by simp)]
      left
      rw [← hTake', hRest, hTake, List.nil_append]
  · rintro (rfl | ⟨before, behind, rfl, hPlain, hBefore, hBehind⟩)
    · exact ⟨[], c :: rest, rfl, hFront, by simp, by simpa using hStop⟩
    · refine ⟨front ++ c :: before, behind, by simp, hPlain, ?_, hBehind⟩
      rw [List.getLast?_append_of_ne_nil _ (List.cons_ne_nil _ _)]
      cases before with
      | nil => simpa using hStop
      | cons d u =>
        rw [List.getLast?_cons_of_ne_nil (List.cons_ne_nil _ _)]
        exact hBefore

theorem mem_words_iff (hWord : word ≠ []) (run text : Text) (hRun : ∀ c ∈ run, c.isAlphanum = true) :
    word ∈ words run text ↔ IsRun word (run.reverse ++ text) := by
  induction text generalizing run with
  | nil =>
    have hBack : ∀ c ∈ run.reverse, c.isAlphanum = true := fun c hMem => hRun c (List.mem_reverse.mp hMem)
    rw [words, List.mem_singleton, List.append_nil, isRun_self_iff hBack]
  | cons c rest ih =>
    rw [words]
    cases hPlain : isPlainWord c with
    | true =>
      have hMore : ∀ d ∈ c :: run, d.isAlphanum = true := List.forall_mem_cons.mpr ⟨hPlain, hRun⟩
      rw [if_pos rfl, ih (c :: run) hMore, List.reverse_cons, List.append_assoc, List.singleton_append]
    | false =>
      have hBack : ∀ c ∈ run.reverse, c.isAlphanum = true := fun c hMem => hRun c (List.mem_reverse.mp hMem)
      rw [if_neg Bool.false_ne_true, List.mem_cons, ih [] nofun, isRun_append_iff hWord hBack hPlain]
      rfl

theorem mem_tokensOf_iff (token stem : Text) : token ∈ tokensOf stem ↔
    ∃ word, IsRun word stem ∧ 3 ≤ word.length ∧ token = Unicode.lower word := by
  rw [tokensOf, mem_keepFirst_iff, List.mem_map]
  constructor
  · rintro ⟨word, hMem, rfl⟩
    obtain ⟨hMem, hLong⟩ := List.mem_filter.mp hMem
    have hLong : 3 ≤ word.length := of_decide_eq_true hLong
    have hWord : word ≠ [] := List.ne_nil_of_length_pos (by omega)
    exact ⟨word, (mem_words_iff hWord [] stem nofun).mp hMem, hLong, rfl⟩
  · rintro ⟨word, hRun, hLong, rfl⟩
    have hWord : word ≠ [] := List.ne_nil_of_length_pos (by omega)
    have hMem := (mem_words_iff hWord [] stem nofun).mpr hRun
    exact ⟨word, List.mem_filter.mpr ⟨hMem, decide_eq_true hLong⟩, rfl⟩

end Words

section Templates

variable {text : Text} {f : Fragment}

/-- A name starts and ends with two texts that are shorter together when something is left between them. -/
theorem exists_between_iff (name before behind : Text) :
    before.length + behind.length < name.length ∧ before <+: name ∧ behind <:+ name ↔
      ∃ x, x ≠ [] ∧ name = before ++ (x ++ behind) := by
  constructor
  · rintro ⟨hShort, ⟨rest, rfl⟩, hEnd⟩
    rw [List.length_append] at hShort
    obtain ⟨x, rfl⟩ := List.suffix_of_suffix_length_le hEnd (List.suffix_append before rest) (by omega)
    refine ⟨x, ?_, rfl⟩
    rintro rfl
    rw [List.nil_append] at hShort
    omega
  · rintro ⟨x, hSome, rfl⟩
    have hLength := List.length_pos_iff.mpr hSome
    refine ⟨?_, List.prefix_append _ _, before ++ x, by simp⟩
    rw [List.length_append, List.length_append]
    omega

theorem fitsFragment_iff (cwd asset sources : FilePath) (f : Fragment) :
    (References.of cwd asset sources).fitsFragment f = true ↔
      (∃ x, x ≠ [] ∧ asset.name = f.before ++ (x ++ f.behind)) ∧
        ∃ word, IsRun word (Path.stem asset.name) ∧ 3 ≤ word.length ∧
          (Unicode.lower word <:+: Unicode.lower f.before ∨
            Unicode.lower word <:+: Unicode.lower f.behind) := by
  have hTokens : ((References.of cwd asset sources).tokens.any fun token =>
      token.occursIn (Unicode.lower (f.before ++ ' ' :: f.behind))) = true ↔
        ∃ word, IsRun word (Path.stem asset.name) ∧ 3 ≤ word.length ∧
          (Unicode.lower word <:+: Unicode.lower f.before ∨
            Unicode.lower word <:+: Unicode.lower f.behind) := by
    rw [List.any_eq_true, Unicode.lower_append_blank]
    constructor
    · rintro ⟨token, hToken, hOccurs⟩
      obtain ⟨word, hRun, hLong, rfl⟩ := (mem_tokensOf_iff token _).mp hToken
      refine ⟨word, hRun, hLong, (Text.infix_append_cons_iff hRun.not_mem_lower _ _).mp ?_⟩
      exact (Text.occursIn_iff _ _).mp hOccurs
    · rintro ⟨word, hRun, hLong, hOccurs⟩
      refine ⟨_, (mem_tokensOf_iff _ _).mpr ⟨word, hRun, hLong, rfl⟩, (Text.occursIn_iff _ _).mpr ?_⟩
      exact (Text.infix_append_cons_iff hRun.not_mem_lower _ _).mpr hOccurs
  rw [References.fitsFragment, Bool.and_eq_true, Bool.and_eq_true, Bool.and_eq_true, hTokens,
    decide_eq_true_iff, Text.startsWith, Text.endsWith, List.isPrefixOf_iff_prefix,
    List.isSuffixOf_iff_suffix]
  exact and_assoc.symm.trans (and_congr_left fun _ => exists_between_iff asset.name f.before f.behind)

/-- A fragment is the glued text around a placeholder of its source. -/
theorem fragment_occurs (h : f ∈ fragments text) :
    (∃ body, '\x7d' ∉ body ∧
      f.before ++ '$' :: '\x7b' :: (body ++ '\x7d' :: f.behind) <:+: text) ∧
      ∀ c ∈ f.before ++ f.behind, isGlued c = true := by
  obtain ⟨⟨head, lead, after, hMeets, rfl⟩, -⟩ := (mem_fragments_iff text f).mp h
  obtain ⟨body, hBody, rfl⟩ := hMeets.spelled
  obtain ⟨behind, hBehind⟩ := List.takeWhile_prefix isGlued (l := after)
  have hBefore : (Fragment.kept head lead after).before <:+ lead ∧
      ∀ c ∈ (Fragment.kept head lead after).before, isGlued c = true := by
    unfold Fragment.kept
    dsimp only
    split
    · exact ⟨List.nil_suffix, nofun⟩
    · exact ⟨List.rtakeWhile_suffix _ _, fun c => List.mem_rtakeWhile_imp⟩
  obtain ⟨⟨u, hLead⟩, hGlued⟩ := hBefore
  constructor
  · refine ⟨body, hBody, head ++ u, behind, ?_⟩
    conv_rhs => rw [← hLead, ← hBehind]
    simp [Fragment.kept]
  · intro c hMem
    rcases List.mem_append.mp hMem with hBefore | hAfter
    · exact hGlued c hBefore
    · exact List.mem_takeWhile_imp hAfter

/-- A template fits an asset exactly when its two parts are the ends of the name, with something between
them, and one of them has a word of the stem; and every template of a source that has been read stands in
its text, around a placeholder and of glued characters. -/
theorem templates_fit_by_words (cwd asset sources : FilePath) (tree : Files.Tree)
    (paths : List FilePath) :
    (∀ f : Fragment, (References.of cwd asset sources).fitsFragment f = true ↔
      (∃ x, x ≠ [] ∧ asset.name = f.before ++ (x ++ f.behind)) ∧
        ∃ word, IsRun word (Path.stem asset.name) ∧ 3 ≤ word.length ∧
          (Unicode.lower word <:+: Unicode.lower f.before ∨
            Unicode.lower word <:+: Unicode.lower f.behind)) ∧
    ∀ source ∈ (Sources.read tree paths).value.loaded, ∀ f ∈ source.fragments,
      (∃ body, '\x7d' ∉ body ∧
        f.before ++ '$' :: '\x7b' :: (body ++ '\x7d' :: f.behind) <:+: source.text) ∧
        ∀ c ∈ f.before ++ f.behind, c = '.' ∨ c = '-' ∨ Unicode.isWord c.toNat = true := by
  refine ⟨fitsFragment_iff cwd asset sources, ?_⟩
  intro source hSource f hFragment
  rw [loaded_read] at hSource
  obtain ⟨path, -, hSource⟩ := List.mem_flatMap.mp hSource
  obtain ⟨text, -, rfl⟩ := Option.map_eq_some_iff.mp (Option.mem_toList.mp hSource)
  obtain ⟨hOccurs, hGlued⟩ := fragment_occurs hFragment
  refine ⟨hOccurs, fun c hMem => ?_⟩
  simpa [isGlued, or_assoc] using hGlued c hMem

theorem templates_fit_by_words_hero :
    picture.fitsFragment ⟨"Hero-".toList, ".png".toList⟩ = false ∧
      picture.fitsFragment ⟨"hero-".toList, ".png".toList⟩ = true ∧
      ∃ source ∈ (Sources.read (page "/hero-$\x7bn\x7d.png".toList)
        [⟨['/'], ["a.js".toList]⟩]).value.loaded,
        ⟨"hero-".toList, ".png".toList⟩ ∈ source.fragments ∧ ∃ body, '\x7d' ∉ body ∧
          "hero-".toList ++ '$' :: '\x7b' :: (body ++ '\x7d' :: ".png".toList) <:+: source.text := by
  have hText : textOf? (page "/hero-$\x7bn\x7d.png".toList) ⟨['/'], ["a.js".toList]⟩ =
      some "/hero-$\x7bn\x7d.png".toList := by
    rfl
  obtain ⟨hFits, hStands⟩ := templates_fit_by_words ⟨['/'], []⟩ ⟨['/'], ["hero-big.png".toList]⟩
    ⟨['/'], []⟩ (page "/hero-$\x7bn\x7d.png".toList) [⟨['/'], ["a.js".toList]⟩]
  have hLoaded : Source.of ⟨['/'], ["a.js".toList]⟩ "/hero-$\x7bn\x7d.png".toList ∈
      (Sources.read (page "/hero-$\x7bn\x7d.png".toList) [⟨['/'], ["a.js".toList]⟩]).value.loaded := by
    rw [loaded_read, List.flatMap_singleton, hText]
    exact List.mem_cons_self
  have hFragment : ⟨"hero-".toList, ".png".toList⟩ ∈
      (Source.of ⟨['/'], ["a.js".toList]⟩ "/hero-$\x7bn\x7d.png".toList).fragments := by
    decide +kernel
  have hBig : Unicode.lower "hero".toList <:+: Unicode.lower "hero-".toList :=
    ⟨[], ['-'], by decide⟩
  refine ⟨?_, ?_, _, hLoaded, hFragment, (hStands _ hLoaded _ hFragment).1⟩
  · refine Bool.eq_false_iff.mpr fun hFit => ?_
    obtain ⟨⟨x, -, hName⟩, -⟩ := (hFits _).mp hFit
    cases hName
  · refine (hFits _).mpr ⟨⟨"big".toList, by decide, rfl⟩, "hero".toList, ?_, by decide, .inl hBig⟩
    refine ⟨[], "-big".toList, rfl, List.all_eq_true.mp rfl, nofun, ?_⟩
    rintro _ ⟨⟩
    rfl

end Templates

end Usage

end AssetAudit
