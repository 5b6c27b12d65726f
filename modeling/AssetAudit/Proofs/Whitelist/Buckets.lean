import AssetAudit.Proofs.Whitelist.Verdicts

/-!
# Lists of patterns and their entries

The buckets of a compiled whitelist hide which entry a path was found by. Still a list gives the
verdict that its entries give one by one, so neither their order nor their number counts.
-/
namespace AssetAudit.Whitelist

/-- Skipped and rejected entries can stand anywhere in a list that compiles. -/
theorem compile_of_filter_eq {entries others : List Value} {c : Compiled}
    (h : compile entries = .ok c)
    (hSame : (others.filter fun raw => !isIdle raw) = entries.filter fun raw => !isIdle raw) :
    ∃ other, compile others = .ok other ∧ other.accepted = c.accepted := by
  have hReads := (exists_compile_iff entries).mp ⟨c, h⟩
  have hOthers : ∀ raw ∈ others, ∃ r, read raw = .ok r := by
    intro raw hRaw
    cases hIdle : isIdle raw with
    | true => exact exists_read_of_isIdle hIdle
    | false =>
      have hKept : raw ∈ others.filter fun raw => !isIdle raw :=
        List.mem_filter.mpr ⟨hRaw, by simp [hIdle]⟩
      rw [hSame] at hKept
      exact hReads raw (List.mem_filter.mp hKept).1
  obtain ⟨other, hOther⟩ := (exists_compile_iff others).mpr hOthers
  have hLeft := compile_filter_isIdle hOther
  rw [hSame, compile_filter_isIdle h] at hLeft
  exact ⟨other, hOther, (Except.ok.inj hLeft).symm⟩

theorem verdict_accepted (app : Text) (c : Compiled) (path : Text) :
    verdict app c.accepted path = verdict app c path :=
  rfl

theorem verdict_compile_iff {entries : List Value} {c : Compiled} (h : compile entries = .ok c)
    (app path : Text) :
    verdict app c path = true ↔
      ∃ raw ∈ entries, ∃ alone, compile [raw] = .ok alone ∧ verdict app alone path = true := by
  simp only [verdict_eq_true_iff, accepts_compile_iff h]
  constructor
  · rintro ⟨form, hForm, hNonempty, raw, hRaw, r, hRead, hAccepts⟩
    refine ⟨raw, hRaw, Compiled.take {} r, ?_, form, hForm, hNonempty, ?_⟩
    · rw [compile_singleton, hRead]
      rfl
    · rw [Compiled.accepts_take, hAccepts, Bool.or_true]
  · rintro ⟨raw, hRaw, alone, hAlone, form, hForm, hNonempty, hAccepts⟩
    obtain ⟨_, hMem, r, hRead, hReading⟩ := (accepts_compile_iff hAlone form).mp hAccepts
    obtain rfl := List.mem_singleton.mp hMem
    exact ⟨form, hForm, hNonempty, _, hRaw, r, hRead, hReading⟩

namespace Matcher

theorem check_value_of_compile (cwd app : Text) {entries : List Value} {c : Compiled}
    (h : compile entries = .ok c) :
    ∃ m, create cwd app entries = .ok m ∧
      ∀ path, (m.check path).value.1 = verdict (Path.absolute cwd app) c path := by
  obtain ⟨m, hCreate⟩ : ∃ m, create cwd app entries = .ok m :=
    ⟨_, (create_eq_ok_iff _ _ _ _).mpr ⟨c, h, rfl⟩⟩
  obtain ⟨same, hSame, hServes⟩ := serves_create hCreate
  obtain rfl := Except.ok.inj (h.symm.trans hSame)
  exact ⟨m, hCreate, hServes.check_value⟩

theorem check_eq_of_create {cwd app : Text} {entries : List Value} {m : Matcher}
    (h : create cwd app entries = .ok m) :
    ∃ c, compile entries = .ok c ∧
      ∀ path, (m.check path).value.1 = verdict (Path.absolute cwd app) c path := by
  obtain ⟨c, hCompile, hServes⟩ := serves_create h
  exact ⟨c, hCompile, hServes.check_value⟩

/-- A path is listed when one entry of the list, compiled alone, lists it. So entries may change
places and be repeated, more entries list no less, and entries that are skipped or rejected may be
put in and left out. -/
theorem listed_iff_exists_alone {cwd app : Text} {entries : List Value} {m : Matcher}
    (h : create cwd app entries = .ok m) (path : Text) :
    ((m.check path).value.1 = true ↔ ∃ raw ∈ entries, ∃ alone,
      create cwd app [raw] = .ok alone ∧ (alone.check path).value.1 = true) ∧
    (∀ raw ∈ entries, ∃ alone, create cwd app [raw] = .ok alone) ∧
    (∀ others, (∀ raw, raw ∈ others ↔ raw ∈ entries) → ∃ other,
      create cwd app others = .ok other ∧
        (other.check path).value.1 = (m.check path).value.1) ∧
    (∀ others other, entries ⊆ others → create cwd app others = .ok other →
      (m.check path).value.1 = true → (other.check path).value.1 = true) ∧
    (∀ others, (others.filter fun raw => !isIdle raw) = (entries.filter fun raw => !isIdle raw) →
      ∃ other, create cwd app others = .ok other ∧
        (other.check path).value.1 = (m.check path).value.1) := by
  obtain ⟨c, hCompile, hVerdict⟩ := check_eq_of_create h
  have hReads := (exists_compile_iff entries).mp ⟨c, hCompile⟩
  have hAlone : ∀ raw ∈ entries, ∃ alone, create cwd app [raw] = .ok alone := by
    intro raw hRaw
    obtain ⟨alone, hOne⟩ := (exists_compile_iff [raw]).mpr fun one hMem =>
      hReads one (List.mem_singleton.mp hMem ▸ hRaw)
    obtain ⟨other, hCreate, -⟩ := check_value_of_compile cwd app hOne
    exact ⟨other, hCreate⟩
  refine ⟨?_, hAlone, ?_, ?_, ?_⟩
  · rw [hVerdict, verdict_compile_iff hCompile]
    constructor
    · rintro ⟨raw, hRaw, alone, hOne, hListed⟩
      obtain ⟨other, hCreate, hCheck⟩ := check_value_of_compile cwd app hOne
      exact ⟨raw, hRaw, other, hCreate, (hCheck path).trans hListed⟩
    · rintro ⟨raw, hRaw, other, hCreate, hListed⟩
      obtain ⟨alone, hOne, hCheck⟩ := check_eq_of_create hCreate
      exact ⟨raw, hRaw, alone, hOne, (hCheck path).symm.trans hListed⟩
  · intro others hMembers
    obtain ⟨d, hOthers⟩ := (exists_compile_iff others).mpr fun raw hRaw =>
      hReads raw ((hMembers raw).mp hRaw)
    obtain ⟨other, hCreate, hCheck⟩ := check_value_of_compile cwd app hOthers
    refine ⟨other, hCreate, ?_⟩
    rw [hCheck, hVerdict, Bool.eq_iff_iff, verdict_compile_iff hOthers,
      verdict_compile_iff hCompile]
    simp only [hMembers]
  · intro others other hSubset hCreate hListed
    obtain ⟨d, hOthers, hCheck⟩ := check_eq_of_create hCreate
    rw [hVerdict, verdict_compile_iff hCompile] at hListed
    rw [hCheck, verdict_compile_iff hOthers]
    obtain ⟨raw, hRaw, hOne⟩ := hListed
    exact ⟨raw, hSubset hRaw, hOne⟩
  · intro others hSame
    obtain ⟨d, hOthers, hAccepted⟩ := compile_of_filter_eq hCompile hSame
    obtain ⟨other, hCreate, hCheck⟩ := check_value_of_compile cwd app hOthers
    refine ⟨other, hCreate, ?_⟩
    rw [hCheck, hVerdict, ← verdict_accepted, hAccepted, verdict_accepted]

/-- The second of four entries lists the path; the others are a comment, a rejected expression and
a literal elsewhere. -/
theorem listed_iff_exists_alone_mixed :
    let entries : List Value := [.text "// brand".toList, .text "src/logo.png".toList,
      .text "regex:(a+)+".toList, .text "icons/logo.png".toList]
    ∃ m, create ['/'] "/app".toList entries = .ok m ∧
      (m.check ".\\src\\logo.png".toList).value.1 = true ∧
      ∃ raw ∈ entries, ∃ alone, create ['/'] "/app".toList [raw] = .ok alone ∧
        (alone.check ".\\src\\logo.png".toList).value.1 = true :=
  ⟨_, rfl, rfl, (listed_iff_exists_alone rfl _).1.mp rfl⟩

end Matcher

end AssetAudit.Whitelist
