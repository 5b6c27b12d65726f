import AssetAudit.Findings.Filter
import AssetAudit.Findings.Basic
import AssetAudit.Proofs.Whitelist.Verdicts

/-!
# Findings of a report

What the categories of an analyzer's report come to once items outside the sources and items on the
whitelist are dropped. Packages are taken over as the report has them. A matcher that answers for a
whitelist leaves of every list those items that the whitelist does not name, in their order.
-/
namespace AssetAudit.Findings

section Whitelisted

open Whitelist (Compiled Matcher verdict)

def isKept (listed : Text → Bool) (item : Value) : Bool :=
  match path? item with
  | some p => !listed p
  | none => true

variable {m : Matcher} {app : Text} {c : Compiled}

theorem filterItems_spec (h : m.Serves app c) (items : List Value) :
    (filterItems m items).value.1 = items.filter (isKept (verdict app c)) ∧
      (filterItems m items).value.2.Serves app c := by
  induction items generalizing m with
  | nil => exact ⟨rfl, h⟩
  | cons item rest ih =>
    unfold filterItems
    cases hPath : path? item with
    | none =>
      have hKept : isKept (verdict app c) item = true := by rw [isKept, hPath]
      obtain ⟨hRest, hServes⟩ := ih h
      rw [List.filter_cons_of_pos hKept, ← hRest]
      exact ⟨rfl, hServes⟩
    | some p =>
      have hKept : isKept (verdict app c) item = !verdict app c p := by rw [isKept, hPath]
      obtain ⟨hRest, hServes⟩ := ih (h.check p)
      refine ⟨?_, hServes⟩
      rw [List.filter_cons, hKept, ← hRest, ← h.check_value p]
      change (if (m.check p).value.1 = true then _ else item :: _) = _
      cases (m.check p).value.1 <;> rfl

def without (f : Findings) (listed : Text → Bool) : Findings :=
  if f.failure?.isSome then f
  else { f with
    files := f.files.filter (isKept listed)
    exports := f.exports.filter (isKept listed)
    types := f.types.filter (isKept listed)
    error := none }

theorem filter_spec (h : m.Serves app c) (f : Findings) :
    (f.filter m).value.1 = f.without (verdict app c) ∧ (f.filter m).value.2.Serves app c := by
  unfold filter without
  split
  · exact ⟨rfl, h⟩
  · obtain ⟨hFiles, hServes⟩ := filterItems_spec h f.files
    obtain ⟨hExports, hServes⟩ := filterItems_spec hServes f.exports
    obtain ⟨hTypes, hServes⟩ := filterItems_spec hServes f.types
    refine ⟨?_, hServes⟩
    rw [← hFiles, ← hExports, ← hTypes]
    rfl

theorem failure?_without (f : Findings) (listed : Text → Bool) :
    (f.without listed).failure? = f.failure? := by
  unfold without
  split
  · rfl
  · rename_i hNone
    rw [Option.not_isSome_iff_eq_none.mp hNone]
    rfl

end Whitelisted

def listOf (report : Entries Value) (name : String) : List Value :=
  match category report name with
  | .list items => items
  | _ => []

theorem sourceItems_category (report : Entries Value) (name : String) :
    sourceItems (category report name) = (listOf report name).filter keepsSource := by
  unfold sourceItems listOf
  cases category report name <;> rfl

theorem packages_eq_ok_iff (report : Entries Value) (name : String) (items : List Value) :
    packages report name = .ok items ↔ (category report name).items? = some items := by
  unfold packages
  cases (category report name).items? with
  | none => simp
  | some found => simp

theorem ofReport_eq_ok_iff (report : Entries Value) (f : Findings) :
    ofReport report = .ok f ↔
      ∃ dependencies devDependencies,
        (category report "dependencies").items? = some dependencies ∧
        (category report "devDependencies").items? = some devDependencies ∧
        f = {
          files := (listOf report "files").filter keepsSource
          dependencies, devDependencies
          exports := (listOf report "exports").filter keepsSource
          types := (listOf report "types").filter keepsSource } := by
  simp only [← packages_eq_ok_iff, ← sourceItems_category]
  unfold ofReport
  cases packages report "dependencies" with
  | error e => simp [bind, Except.bind]
  | ok dependencies =>
    cases packages report "devDependencies" with
    | error e => simp [bind, Except.bind]
    | ok devDependencies => simp [bind, Except.bind, pure, Except.pure, eq_comm]

def stays (listed : Text → Bool) (item : Value) : Bool :=
  match path? item with
  | some p => inSources p && !listed p
  | none => true

theorem filter_stays (listed : Text → Bool) (items : List Value) :
    (items.filter keepsSource).filter (isKept listed) = items.filter (stays listed) := by
  rw [List.filter_filter]
  refine List.filter_congr fun item _ => ?_
  unfold keepsSource isKept stays
  cases path? item with
  | some p => exact Bool.and_comm _ _
  | none => rfl

/-- The findings are what a report gives when the paths of `listed` are on the whitelist. -/
structure AreOf (f : Findings) (report : Entries Value) (listed : Text → Bool) : Prop where
  files : f.files = (listOf report "files").filter (stays listed)
  exports : f.exports = (listOf report "exports").filter (stays listed)
  types : f.types = (listOf report "types").filter (stays listed)
  dependencies : (category report "dependencies").items? = some f.dependencies
  devDependencies : (category report "devDependencies").items? = some f.devDependencies

theorem areOf_of_ofReport {report : Entries Value} {f : Findings} (h : ofReport report = .ok f)
    (listed : Text → Bool) : (f.without listed).AreOf report listed := by
  obtain ⟨dependencies, devDependencies, hDependencies, hDev, rfl⟩ :=
    (ofReport_eq_ok_iff report f).mp h
  exact ⟨filter_stays listed _, filter_stays listed _, filter_stays listed _, hDependencies, hDev⟩

end AssetAudit.Findings
