import AssetAudit.Proofs.Path.Spelling
import AssetAudit.Proofs.Usage.Placeholders
import AssetAudit.Proofs.Usage.Sources

/-!
# Which placeholders count

A word of an asset's name is longer than what a placeholder without glued text fixes, so an asset has
a reference by a template exactly when what some placeholder keeps fits its name.
-/
namespace AssetAudit.Usage

section Words

theorem length_le_length_lowerFrom (before text : List Char) :
    text.length ≤ (Unicode.lowerFrom before text).length := by
  induction text generalizing before with
  | nil => exact Nat.zero_le _
  | cons c rest ih =>
    rw [Unicode.lowerFrom, List.length_append, List.length_cons, Nat.add_comm]
    apply Nat.add_le_add _ (ih _)
    split
    · exact Nat.le_add_left 1 1
    · split
      · exact Nat.le_refl 1
      · exact Nat.le_refl 1

theorem mem_keepFirst_iff {texts : List Text} {t : Text} : t ∈ keepFirst texts ↔ t ∈ texts := by
  have hFold : ∀ kept, t ∈ texts.foldl (fun kept t => if kept.contains t then kept else kept ++ [t])
      kept ↔ t ∈ kept ∨ t ∈ texts := by
    induction texts with
    | nil => simp
    | cons first rest ih =>
      intro kept
      have hKept : t ∈ (if kept.contains first then kept else kept ++ [first]) ↔
          t ∈ kept ∨ t = first := by
        split
        · rename_i hFirst
          refine (or_iff_left_of_imp ?_).symm
          rintro rfl
          exact List.contains_iff_mem.mp hFirst
        · rw [List.mem_append, List.mem_singleton]
      rw [List.foldl_cons, ih, hKept, List.mem_cons, or_assoc]
  exact (hFold []).trans (or_iff_right List.not_mem_nil)

theorem shortestToken_le_of_mem_tokensOf {stem token : Text} (h : token ∈ tokensOf stem) :
    shortestToken ≤ token.length := by
  obtain ⟨word, hWord, rfl⟩ := List.mem_map.mp (mem_keepFirst_iff.mp h)
  exact (of_decide_eq_true (List.mem_filter.mp hWord).2).trans (length_le_length_lowerFrom [] word)

/-- A word of the name is longer than what a placeholder without glued text fixes. -/
theorem fitsFragment_nothing (cwd asset sources : FilePath) :
    (References.of cwd asset sources).fitsFragment ⟨[], []⟩ = false := by
  rw [References.fitsFragment, Bool.and_eq_false_iff, Bool.and_eq_false_iff]
  refine .inr (.inr ?_)
  rw [List.any_eq_false]
  intro token hToken hOccurs
  have hLong : shortestToken ≤ token.length := shortestToken_le_of_mem_tokensOf hToken
  have hShort : token.length ≤ 1 := ((Text.occursIn_iff _ _).mp hOccurs).length_le
  exact absurd (hLong.trans hShort) (by decide)

end Words

section Uses

/-- A text refers to an asset by one of the texts that are searched for, by a placeholder that holds
the stem, or by what a placeholder keeps. -/
theorem refersTo_of_iff (cwd asset sources path : FilePath) (text : Text) :
    (Source.of path text).refersTo (.of cwd asset sources) = true ↔
      (∃ s ∈ (References.of cwd asset sources).searched, s.occursIn text = true) ∨
        References.inPlaceholder (References.of cwd asset sources).stem text = true ∨
        ∃ head lead after, Meets text head lead after ∧
          (References.of cwd asset sources).fitsFragment (.kept head lead after) = true := by
  have hFits : (fragments text).any (References.of cwd asset sources).fitsFragment = true ↔
      ∃ head lead after, Meets text head lead after ∧
        (References.of cwd asset sources).fitsFragment (.kept head lead after) = true := by
    rw [List.any_eq_true]
    constructor
    · rintro ⟨f, hMem, hFits⟩
      obtain ⟨⟨head, lead, after, hMeets, rfl⟩, -⟩ := (mem_fragments_iff text f).mp hMem
      exact ⟨head, lead, after, hMeets, hFits⟩
    · rintro ⟨head, lead, after, hMeets, hFits⟩
      refine ⟨_, (mem_fragments_iff text _).mpr ⟨⟨head, lead, after, hMeets, rfl⟩, ?_⟩, hFits⟩
      rintro ⟨hBefore, hBehind⟩
      have hNothing : Fragment.kept head lead after = ⟨[], []⟩ :=
        congrArg₂ Fragment.mk hBefore hBehind
      rw [hNothing, fitsFragment_nothing] at hFits
      cases hFits
  unfold Source.refersTo
  rw [Bool.or_eq_true, Bool.or_eq_true, or_assoc, List.any_eq_true]
  exact or_congr_right (or_congr_right hFits)

/-- A placeholder counts with all the text glued to it when that is apart from the placeholder before
it, or when the text behind it is enough. An asset has a reference exactly when it is named, a
placeholder holds its stem, or what some placeholder keeps fits it. -/
theorem placeholders_count (tree : Files.Tree) (paths : List FilePath)
    (cwd asset sources : FilePath) :
    (∀ path ∈ paths, ∀ text, textOf? tree path = some text →
      ∀ head lead after, Meets text head lead after →
        (References.of cwd asset sources).fitsFragment (.around (head ++ lead) after) = true →
        Apart head lead ∨ (References.of cwd asset sources).fitsFragment
          ⟨[], after.takeWhile isGlued⟩ = true →
        ((Sources.read tree paths).value.reference? (.of cwd asset sources)).isSome = true) ∧
    (((Sources.read tree paths).value.reference? (.of cwd asset sources)).isSome = true ↔
      ∃ path ∈ paths, ∃ text, textOf? tree path = some text ∧
        ((∃ s ∈ (References.of cwd asset sources).searched, s.occursIn text = true) ∨
          References.inPlaceholder (References.of cwd asset sources).stem text = true ∨
          ∃ head lead after, Meets text head lead after ∧
            (References.of cwd asset sources).fitsFragment (.kept head lead after) = true)) := by
  have hUsed : ((Sources.read tree paths).value.reference? (.of cwd asset sources)).isSome = true ↔
      ∃ path ∈ paths, ∃ text, textOf? tree path = some text ∧
        (Source.of path text).refersTo (.of cwd asset sources) = true := by
    rw [isSome_reference?, isReferred_iff]
  constructor
  · intro path hPath text hText head lead after hMeets hFits hLeft
    apply hUsed.mpr
    refine ⟨path, hPath, text, hText, (refersTo_of_iff cwd asset sources path text).mpr ?_⟩
    refine .inr (.inr ⟨head, lead, after, hMeets, ?_⟩)
    by_cases hApart : Apart head lead
    · rw [kept_of_apart hMeets hApart]
      exact hFits
    · rw [kept_of_not_apart hApart]
      exact hLeft.resolve_left hApart
  · rw [hUsed]
    simp only [refersTo_of_iff]

def page (text : Text) : Files.Tree where
  root := .directory [("a.js".toList, .file (Text.utf8 text))]
  cwd := ⟨['/'], []⟩

def picture : References :=
  .of ⟨['/'], []⟩ ⟨['/'], ["hero-big.png".toList]⟩ ⟨['/'], []⟩

theorem placeholders_count_apart :
    ((Sources.read (page "$\x7bd\x7d/hero-$\x7bn\x7d.png".toList)
      [⟨['/'], ["a.js".toList]⟩]).value.reference? picture).isSome = true := by
  have hText : textOf? (page "$\x7bd\x7d/hero-$\x7bn\x7d.png".toList) ⟨['/'], ["a.js".toList]⟩ =
      some "$\x7bd\x7d/hero-$\x7bn\x7d.png".toList := by
    rfl
  have hSecond : Meets "/hero-$\x7bn\x7d.png".toList [] "/hero-".toList ".png".toList :=
    @Meets.first "/hero-".toList ['n'] ".png".toList (by decide) (by decide)
  have hMeets : Meets "$\x7bd\x7d/hero-$\x7bn\x7d.png".toList "$\x7bd\x7d".toList "/hero-".toList
      ".png".toList :=
    @Meets.next [] ['d'] _ [] _ _ (by decide) (by decide) hSecond
  have hFits : picture.fitsFragment (.around "$\x7bd\x7d/hero-".toList ".png".toList) = true := by
    decide
  have hApart : Apart "$\x7bd\x7d".toList "/hero-".toList :=
    .inr (.inr ⟨'/', by decide, by decide⟩)
  exact (placeholders_count _ _ _ _ _).1 _ List.mem_cons_self _ hText _ _ _ hMeets hFits (.inl hApart)

/-- A placeholder whose glued text fits an asset is passed over when the text in front of it is
already taken. -/
theorem taken_by_the_placeholder_before :
    Meets "$\x7bd\x7dhero-$\x7bn\x7d.png".toList "$\x7bd\x7d".toList "hero-".toList ".png".toList ∧
      picture.fitsFragment (.around "$\x7bd\x7dhero-".toList ".png".toList) = true ∧
      ((Sources.read (page "$\x7bd\x7dhero-$\x7bn\x7d.png".toList)
        [⟨['/'], ["a.js".toList]⟩]).value.reference? picture).isSome = false := by
  have hSecond : Meets "hero-$\x7bn\x7d.png".toList [] "hero-".toList ".png".toList :=
    @Meets.first "hero-".toList ['n'] ".png".toList (by decide) (by decide)
  refine ⟨@Meets.next [] ['d'] _ [] _ _ (by decide) (by decide) hSecond, by decide, ?_⟩
  decide +kernel

end Uses

end AssetAudit.Usage
