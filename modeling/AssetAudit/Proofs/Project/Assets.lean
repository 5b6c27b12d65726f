import AssetAudit.Project
import AssetAudit.Proofs.Outcomes
import AssetAudit.Proofs.Usage.Sources
import AssetAudit.Proofs.Whitelist.Verdicts

/-!
# Assets told apart

Looking up assets one after another tells the listed ones from the others, and of the others those
without a reference. The stored verdicts and the moment when the sources are read change nothing.
-/
namespace AssetAudit.Project

open Whitelist (Compiled Matcher verdict)

def tellApart (root : FilePath) (listed used : Files.Asset → Bool) :
    List Files.Asset → Except Error Sorted
  | [] => .ok {}
  | asset :: rest =>
    if listed asset then
      (tellApart root listed used rest).map fun sorted =>
        { sorted with whitelisted := asset.relative :: sorted.whitelisted }
    else if used asset then tellApart root listed used rest
    else
      match UnusedAsset.of? root asset.path asset.size with
      | none => .error .noText
      | some unused =>
        (tellApart root listed used rest).map fun sorted =>
          { sorted with unused := unused :: sorted.unused }

structure Sorted.Of (sorted : Sorted) (root : FilePath) (listed used : Files.Asset → Bool)
    (assets : List Files.Asset) : Prop where
  whitelisted : sorted.whitelisted = (assets.filter listed).map (·.relative)
  unused : sorted.unused.map some =
    (assets.filter fun asset => !listed asset && !used asset).map fun asset =>
      UnusedAsset.of? root asset.path asset.size

theorem tellApart_eq_ok_iff (root : FilePath) (listed used : Files.Asset → Bool)
    (assets : List Files.Asset) (sorted : Sorted) :
    tellApart root listed used assets = .ok sorted ↔ sorted.Of root listed used assets := by
  induction assets generalizing sorted with
  | nil =>
    constructor
    · rintro h
      cases h
      exact ⟨rfl, rfl⟩
    · rintro ⟨hWhitelisted, hUnused⟩
      cases sorted with
      | mk unused whitelisted =>
        obtain rfl := hWhitelisted
        obtain rfl := List.map_eq_nil_iff.mp hUnused
        rfl
  | cons asset rest ih =>
    unfold tellApart
    obtain ⟨unused, whitelisted⟩ := sorted
    by_cases hListed : listed asset = true
    · simp only [if_pos hListed, Outcome.map_eq_ok_iff, ih]
      constructor
      · rintro ⟨later, ⟨hWhitelisted, hUnused⟩, hEq⟩
        obtain ⟨rfl, rfl⟩ := Sorted.mk.inj hEq
        exact ⟨by simp [hListed, hWhitelisted], by simpa [hListed] using hUnused⟩
      · rintro ⟨hWhitelisted, hUnused⟩
        refine ⟨⟨unused, (rest.filter listed).map (·.relative)⟩, ⟨rfl, ?_⟩, ?_⟩
        · simpa [hListed] using hUnused
        · simpa [hListed] using hWhitelisted.symm
    · rw [if_neg hListed]
      by_cases hUsed : used asset = true
      · rw [if_pos hUsed, ih]
        constructor
        · rintro ⟨hWhitelisted, hUnused⟩
          exact ⟨by simpa [hListed] using hWhitelisted, by simpa [hUsed] using hUnused⟩
        · rintro ⟨hWhitelisted, hUnused⟩
          exact ⟨by simpa [hListed] using hWhitelisted, by simpa [hUsed] using hUnused⟩
      · rw [if_neg hUsed]
        cases hRecord : UnusedAsset.of? root asset.path asset.size with
        | none =>
          refine iff_of_false (by simp) ?_
          rintro ⟨-, hUnused⟩
          cases unused <;> simp [hListed, hUsed, hRecord] at hUnused
        | some record =>
          simp only [Outcome.map_eq_ok_iff, ih]
          constructor
          · rintro ⟨later, ⟨hWhitelisted, hUnused⟩, hEq⟩
            obtain ⟨rfl, rfl⟩ := Sorted.mk.inj hEq
            exact ⟨by simpa [hListed] using hWhitelisted,
              by simpa [hListed, hUsed, hRecord] using hUnused⟩
          · rintro ⟨hWhitelisted, hUnused⟩
            cases unused with
            | nil => simp [hListed, hUsed] at hUnused
            | cons first others =>
              rw [List.filter_cons_of_pos (by simp [hListed, hUsed]), List.map_cons, List.map_cons,
                hRecord, List.cons.injEq, Option.some.injEq] at hUnused
              obtain ⟨rfl, hOthers⟩ := hUnused
              exact ⟨⟨others, whitelisted⟩, ⟨by simpa [hListed] using hWhitelisted, hOthers⟩, rfl⟩

def isUsed (tree : Files.Tree) (sources : FilePath) (paths : List FilePath)
    (asset : Files.Asset) : Bool :=
  Usage.isReferred tree paths (.of tree.cwd asset.path sources)

variable {tree : Files.Tree} {session : App.Session} {paths : List FilePath} {m : Matcher}

/-- It makes no difference whether the sources are read at once or when they are needed. -/
theorem outcome_sortAssets_none (assets : List Files.Asset) :
    (sortAssets tree session paths none m assets).outcome =
      (sortAssets tree session paths (some (Usage.Sources.read tree paths).value) m
        assets).outcome := by
  induction assets generalizing m with
  | nil => rfl
  | cons asset rest ih =>
    unfold sortAssets
    rw [Attempt.outcome_bind, Attempt.outcome_bind, Attempt.outcome_ofNoted]
    change Attempt.outcome _ = Attempt.outcome _
    generalize (m.check asset.path.text).value = answer
    obtain ⟨listed, next⟩ := answer
    cases listed with
    | true =>
      dsimp only
      rw [if_pos rfl, if_pos rfl, Attempt.outcome_bind_pure, Attempt.outcome_bind_pure, ih]
    | false => rfl

variable {app : Text} {c : Compiled}

theorem outcome_sortAssets_some (h : m.Serves app c) (assets : List Files.Asset) :
    (sortAssets tree session paths (some (Usage.Sources.read tree paths).value) m
        assets).outcome =
      tellApart session.root (fun asset => verdict app c asset.path.text)
        (isUsed tree session.sources paths) assets := by
  induction assets generalizing m with
  | nil => rfl
  | cons asset rest ih =>
    unfold sortAssets tellApart
    rw [Attempt.outcome_bind, Attempt.outcome_ofNoted]
    change Attempt.outcome _ = _
    have hServes := h.check asset.path.text
    rw [← h.check_value asset.path.text]
    generalize (m.check asset.path.text).value = answer at hServes ⊢
    obtain ⟨listed, next⟩ := answer
    cases listed with
    | true =>
      dsimp only
      rw [if_pos rfl, if_pos rfl, Attempt.outcome_bind_pure, ih hServes]
    | false =>
      dsimp only
      rw [if_neg Bool.false_ne_true, if_neg Bool.false_ne_true, Attempt.outcome_bind,
        Attempt.outcome_pure]
      change Attempt.outcome _ = _
      rw [Usage.isSome_reference?, ← isUsed]
      split
      · exact ih hServes
      · cases UnusedAsset.of? session.root asset.path asset.size with
        | none => rfl
        | some unused =>
          dsimp only
          rw [Attempt.outcome_bind_pure, ih hServes]

/-- A matcher that answers for a whitelist tells the assets apart by that whitelist. -/
theorem outcome_sortAssets (h : m.Serves app c) (assets : List Files.Asset) :
    (sortAssets tree session paths none m assets).outcome =
      tellApart session.root (fun asset => verdict app c asset.path.text)
        (isUsed tree session.sources paths) assets := by
  rw [outcome_sortAssets_none, outcome_sortAssets_some h]

end AssetAudit.Project
