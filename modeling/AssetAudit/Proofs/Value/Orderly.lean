import AssetAudit.Json.Read
import AssetAudit.Proofs.Outcomes
import AssetAudit.Yaml.Read

/-!
# Keys of mappings

In a value that was read no mapping has a key twice, at any depth. The keys of what is read from
JSON are texts.
-/
namespace AssetAudit

namespace Scalar

theorem same_text_iff (a : Scalar) (t : Text) : a.same (.text t) = true ↔ a = .text t := by
  cases a with
  | bool b => exact iff_of_false nofun nofun
  | int n => exact iff_of_false nofun nofun
  | float bits => exact iff_of_false nofun nofun
  | null | text | bytes | date | moment =>
    change (_ == _) = true ↔ _
    rw [beq_iff_eq]

theorem text_same_iff (t : Text) (a : Scalar) : (Scalar.text t).same a = true ↔ a = .text t := by
  cases a with
  | bool b => exact iff_of_false nofun nofun
  | int n => exact iff_of_false nofun nofun
  | float bits => exact iff_of_false nofun nofun
  | null | text | bytes | date | moment =>
    change (_ == _) = true ↔ _
    rw [beq_iff_eq, eq_comm]

def IsText (a : Scalar) : Prop :=
  ∃ t, a = .text t

end Scalar

namespace Entries

variable {α : Type}

def keys (entries : Entries α) : List Scalar :=
  entries.map (·.1)

def Distinct (entries : Entries α) : Prop :=
  entries.keys.Pairwise fun a b => a.same b = false

theorem exists_of_get? {entries : Entries α} {key : Scalar} {value : α}
    (h : entries.get? key = some value) : ∃ k, (k, value) ∈ entries ∧ k.same key = true := by
  obtain ⟨entry, hFound, rfl⟩ := Option.map_eq_some_iff.mp h
  have hSame := List.find?_some hFound
  exact ⟨entry.1, List.mem_of_find?_eq_some hFound, hSame⟩

theorem keys_insert (entries : Entries α) (key : Scalar) (value : α) :
    (entries.insert key value).keys =
      if entries.keys.any (·.same key) then entries.keys else entries.keys ++ [key] := by
  unfold keys
  induction entries with
  | nil => rfl
  | cons entry rest ih =>
    obtain ⟨k, v⟩ := entry
    rw [insert, List.map_cons, List.any_cons]
    cases hSame : k.same key with
    | true => rfl
    | false =>
      rw [if_neg Bool.false_ne_true, List.map_cons, ih, Bool.false_or]
      split <;> rfl

theorem Distinct.insert {entries : Entries α} (h : entries.Distinct) (key : Scalar) (value : α) :
    (entries.insert key value).Distinct := by
  unfold Distinct
  rw [keys_insert]
  split
  · exact h
  · rename_i hNew
    refine List.pairwise_append.mpr ⟨h, List.pairwise_singleton _ _, ?_⟩
    intro a hMem b hLast
    obtain rfl := List.mem_singleton.mp hLast
    refine Bool.eq_false_iff.mpr fun hSame => ?_
    exact hNew (List.any_eq_true.mpr ⟨a, hMem, hSame⟩)

theorem mem_keys_insert {entries : Entries α} {key a : Scalar} {value : α}
    (h : a ∈ (entries.insert key value).keys) : a = key ∨ a ∈ entries.keys := by
  rw [keys_insert] at h
  split at h
  · exact .inr h
  · rcases List.mem_append.mp h with hOld | hNew
    · exact .inr hOld
    · exact .inl (List.mem_singleton.mp hNew)

theorem mem_insert {entries : Entries α} {key : Scalar} {value : α} {entry : Scalar × α}
    (h : entry ∈ entries.insert key value) : entry.2 = value ∨ entry ∈ entries := by
  induction entries with
  | nil =>
    obtain rfl := List.mem_singleton.mp h
    exact .inl rfl
  | cons first rest ih =>
    obtain ⟨k, v⟩ := first
    rw [insert] at h
    split at h
    · rcases List.mem_cons.mp h with rfl | hRest
      · exact .inl rfl
      · exact .inr (List.mem_cons_of_mem _ hRest)
    · rcases List.mem_cons.mp h with rfl | hRest
      · exact .inr List.mem_cons_self
      · rcases ih hRest with hValue | hOld
        · exact .inl hValue
        · exact .inr (List.mem_cons_of_mem _ hOld)

theorem insert_of_new {entries : Entries α} {key : Scalar} (h : ∀ k ∈ entries.keys, k.same key = false)
    (value : α) : entries.insert key value = entries ++ [(key, value)] := by
  induction entries with
  | nil => rfl
  | cons entry rest ih =>
    obtain ⟨k, v⟩ := entry
    have hFirst : k.same key = false := h k List.mem_cons_self
    rw [insert, hFirst, if_neg nofun, ih fun k hMem => h k (List.mem_cons_of_mem _ hMem)]
    rfl

theorem foldl_insert_of_distinct {got entries : Entries α} (h : Distinct (got ++ entries)) :
    entries.foldl (fun got entry => insert got entry.1 entry.2) got = got ++ entries := by
  induction entries generalizing got with
  | nil => exact (List.append_nil got).symm
  | cons entry rest ih =>
    have hNew : ∀ k ∈ got.keys, k.same entry.1 = false := by
      intro k hMem
      unfold Distinct keys at h
      rw [List.map_append] at h
      exact (List.pairwise_append.mp h).2.2 k hMem entry.1 List.mem_cons_self
    rw [List.append_cons] at h
    rw [List.foldl_cons, insert_of_new hNew, ih h, ← List.append_cons]

theorem ofList_of_distinct {entries : Entries α} (h : entries.Distinct) : ofList entries = entries :=
  foldl_insert_of_distinct ((List.nil_append entries).symm ▸ h)

end Entries

namespace Value

/-- In every mapping inside the value the keys are distinct, and each is of some kind. -/
inductive Orderly (kind : Scalar → Prop) : Value → Prop
  | scalar (s : Scalar) : Orderly kind (.scalar s)
  | list {items : List Value} (h : ∀ v ∈ items, Orderly kind v) : Orderly kind (.list items)
  | tuple {items : List Value} (h : ∀ v ∈ items, Orderly kind v) : Orderly kind (.tuple items)
  | set (items : List Scalar) : Orderly kind (.set items)
  | map {entries : Entries Value} (distinct : entries.Distinct)
      (kinds : ∀ key ∈ entries.keys, kind key) (values : ∀ entry ∈ entries, Orderly kind entry.2) :
      Orderly kind (.map entries)

variable {kind : Scalar → Prop} {entries : Entries Value}

theorem orderly_nil : Orderly kind (.map []) :=
  .map List.Pairwise.nil nofun nofun

theorem Orderly.distinct (h : Orderly kind (.map entries)) : entries.Distinct := by
  cases h
  assumption

theorem Orderly.kinds (h : Orderly kind (.map entries)) : ∀ key ∈ entries.keys, kind key := by
  cases h
  assumption

theorem Orderly.values (h : Orderly kind (.map entries)) :
    ∀ entry ∈ entries, Orderly kind entry.2 := by
  cases h
  assumption

theorem Orderly.tail {entry : Scalar × Value} (h : Orderly kind (.map (entry :: entries))) :
    Orderly kind (.map entries) :=
  .map (List.pairwise_cons.mp h.distinct).2 (fun k hMem => h.kinds k (List.mem_cons_of_mem _ hMem))
    fun e hMem => h.values e (List.mem_cons_of_mem _ hMem)

theorem Orderly.of_kind {kind' : Scalar → Prop} {v : Value} (h : Orderly kind v)
    (hKind : ∀ s, kind s → kind' s) : Orderly kind' v := by
  induction h with
  | scalar s => exact .scalar s
  | list _ ih => exact .list ih
  | tuple _ ih => exact .tuple ih
  | set items => exact .set items
  | map distinct kinds _ ih => exact .map distinct (fun k hMem => hKind k (kinds k hMem)) ih

theorem Orderly.insert (h : Orderly kind (.map entries)) {key : Scalar} (hKey : kind key)
    {value : Value} (hValue : Orderly kind value) :
    Orderly kind (.map (entries.insert key value)) := by
  refine .map (h.distinct.insert key value) ?_ ?_
  · intro a hMem
    rcases Entries.mem_keys_insert hMem with rfl | hOld
    · exact hKey
    · exact h.kinds a hOld
  · intro entry hMem
    rcases Entries.mem_insert hMem with hNew | hOld
    · exact hNew ▸ hValue
    · exact h.values entry hOld

theorem Orderly.get? (h : Orderly kind (.map entries)) {key : Scalar} {value : Value}
    (hGet : Entries.get? entries key = some value) : Orderly kind value := by
  obtain ⟨k, hMem, -⟩ := Entries.exists_of_get? hGet
  exact h.values _ hMem

end Value

open Value (Orderly)

namespace Json

structure Holds (P : Value → Prop) (entries : Entries Value) : Prop where
  distinct : entries.Distinct
  texts : ∀ key ∈ entries.keys, key.IsText
  values : ∀ entry ∈ entries, P entry.2

section Reads

variable {P : Value → Prop}

theorem holds_nil : Holds P [] :=
  ⟨List.Pairwise.nil, nofun, nofun⟩

theorem Holds.insert {entries : Entries Value} (h : Holds P entries) (key : Text) {value : Value}
    (hValue : P value) : Holds P (entries.insert (.text key) value) := by
  constructor
  · exact h.distinct.insert _ value
  · intro a hMem
    rcases Entries.mem_keys_insert hMem with rfl | hOld
    · exact ⟨key, rfl⟩
    · exact h.texts a hOld
  · intro entry hMem
    rcases Entries.mem_insert hMem with hNew | hOld
    · exact hNew ▸ hValue
    · exact h.values entry hOld

variable (P) in
/-- With this fuel the readers give values of a kind, and lists and mappings of such values. -/
structure ReadsHold (fuel : Nat) : Prop where
  value {s r : Source} {v : Value} (h : readValue fuel s = .ok (v, r)) : P v
  items {items got : List Value} {s r : Source} (hItems : ∀ v ∈ items, P v)
    (h : readItems fuel items s = .ok (got, r)) : ∀ v ∈ got, P v
  entries {entries got : Entries Value} {s r : Source} (hEntries : Holds P entries)
    (h : readEntries fuel entries s = .ok (got, r)) : Holds P got

theorem readsHold_zero : ReadsHold P 0 where
  value h := by cases h
  items hItems h := by
    cases h
    exact fun v hMem => hItems v (List.mem_reverse.mp hMem)
  entries hEntries h := by
    cases h
    exact hEntries

section Step

variable {fuel : Nat} (ih : ReadsHold P fuel)

include ih

theorem ReadsHold.value_succ (hText : ∀ t, P (.text t))
    (hScalar : ∀ s r v, readScalar s = .ok (v, r) → P (.scalar v))
    (hList : ∀ items, (∀ v ∈ items, P v) → P (.list items))
    (hMap : ∀ entries, Holds P entries → P (.map entries)) {s r : Source} {v : Value}
    (h : readValue (fuel + 1) s = .ok (v, r)) : P v := by
  rw [readValue] at h
  split at h
  · obtain ⟨⟨t, _⟩, -, h⟩ := (Outcome.bind_eq_ok_iff _ _ _).mp h
    cases h
    exact hText t
  · dsimp only at h
    split at h
    · cases h
      exact hMap _ holds_nil
    · obtain ⟨⟨entries, _⟩, hEntries, h⟩ := (Outcome.bind_eq_ok_iff _ _ _).mp h
      cases h
      exact hMap _ (ih.entries holds_nil hEntries)
  · dsimp only at h
    split at h
    · cases h
      exact hList _ nofun
    · obtain ⟨⟨items, _⟩, hItems, h⟩ := (Outcome.bind_eq_ok_iff _ _ _).mp h
      cases h
      exact hList _ (ih.items (fun _ hMem => absurd hMem List.not_mem_nil) hItems)
  · obtain ⟨⟨scalar, _⟩, hRead, hEq⟩ := (Outcome.map_eq_ok_iff _ _ _).mp h
    cases hEq
    exact hScalar _ _ _ hRead

theorem ReadsHold.items_succ {items got : List Value} {s r : Source} (hItems : ∀ v ∈ items, P v)
    (h : readItems (fuel + 1) items s = .ok (got, r)) : ∀ v ∈ got, P v := by
  rw [readItems] at h
  obtain ⟨⟨item, _⟩, hItem, h⟩ := (Outcome.bind_eq_ok_iff _ _ _).mp h
  have hMore : ∀ v ∈ item :: items, P v := List.forall_mem_cons.mpr ⟨ih.value hItem, hItems⟩
  dsimp only at h
  split at h
  · cases h
    exact fun v hMem => hMore v (List.mem_reverse.mp hMem)
  · exact ih.items hMore h
  · cases h

theorem ReadsHold.entries_succ {entries got : Entries Value} {s r : Source}
    (hEntries : Holds P entries) (h : readEntries (fuel + 1) entries s = .ok (got, r)) :
    Holds P got := by
  rw [readEntries] at h
  split at h
  · cases h
  · obtain ⟨⟨key, _⟩, -, h⟩ := (Outcome.bind_eq_ok_iff _ _ _).mp h
    dsimp only at h
    split at h
    · cases h
    · obtain ⟨⟨value, _⟩, hValue, h⟩ := (Outcome.bind_eq_ok_iff _ _ _).mp h
      have hMore := hEntries.insert key (ih.value hValue)
      dsimp only at h
      split at h
      · cases h
        exact hMore
      · exact ih.entries hMore h
      · cases h

end Step

theorem readsHold (hText : ∀ t, P (.text t))
    (hScalar : ∀ s r v, readScalar s = .ok (v, r) → P (.scalar v))
    (hList : ∀ items, (∀ v ∈ items, P v) → P (.list items))
    (hMap : ∀ entries, Holds P entries → P (.map entries)) (fuel : Nat) : ReadsHold P fuel := by
  -- the readers of values, items and entries call each other, each with less fuel
  induction fuel with
  | zero => exact readsHold_zero
  | succ fuel ih =>
    exact ⟨ih.value_succ hText hScalar hList hMap, ih.items_succ, ih.entries_succ⟩

/-- What holds of texts and of scalars that are read, and of lists and mappings of what it holds of, holds
of every value that is read. -/
theorem read_induction (hText : ∀ t, P (.text t))
    (hScalar : ∀ s r v, readScalar s = .ok (v, r) → P (.scalar v))
    (hList : ∀ items, (∀ v ∈ items, P v) → P (.list items))
    (hMap : ∀ entries, Holds P entries → P (.map entries)) {document : Text} {v : Value}
    (h : read document = .ok v) : P v := by
  have hWhole : ∀ {v}, read.whole document = .ok v → P v := by
    intro v h
    obtain ⟨⟨value, r⟩, hValue, h⟩ := (Outcome.bind_eq_ok_iff _ _ _).mp h
    dsimp only at h
    split at h
    · cases h
      exact (readsHold hText hScalar hList hMap _).value hValue
    · cases h
  unfold read at h
  split at h
  · split at h
    · cases h
    · exact hWhole h
  · exact hWhole h

end Reads

theorem orderly_read {document : Text} {v : Value} (h : read document = .ok v) :
    Orderly Scalar.IsText v :=
  read_induction (fun _ => .scalar _) (fun _ _ v _ => .scalar v) (fun _ => .list)
    (fun _ hEntries => .map hEntries.distinct hEntries.texts hEntries.values) h

end Json

namespace Yaml.Node

mutual

theorem orderly_value (node : Node) {v : Value} (h : node.value = .ok v) :
    Orderly (fun _ => True) v := by
  match node with
  | .scalar tag text =>
    rw [value] at h
    obtain ⟨s, -, rfl⟩ := (Outcome.map_eq_ok_iff _ _ _).mp h
    exact .scalar s
  | .sequence tag items =>
    rw [value.eq_def] at h
    dsimp only at h
    split at h
    · obtain ⟨vs, hItems, rfl⟩ := (Outcome.map_eq_ok_iff _ _ _).mp h
      exact .list (orderly_itemValues items hItems)
    · obtain ⟨vs, hItems, rfl⟩ := (Outcome.map_eq_ok_iff _ _ _).mp h
      exact .list (orderly_pairValues items hItems)
    · obtain ⟨vs, hItems, rfl⟩ := (Outcome.map_eq_ok_iff _ _ _).mp h
      exact .list (orderly_pairValues items hItems)
    all_goals cases h
  | .mapping tag entries =>
    rw [value.eq_def] at h
    dsimp only at h
    split at h
    · obtain ⟨got, hEntries, rfl⟩ := (Outcome.map_eq_ok_iff _ _ _).mp h
      exact orderly_entryValues entries Value.orderly_nil hEntries
    · obtain ⟨got, -, rfl⟩ := (Outcome.map_eq_ok_iff _ _ _).mp h
      exact .set _
    all_goals cases h

theorem orderly_itemValues (items : List Node) {vs : List Value}
    (h : itemValues items = .ok vs) : ∀ v ∈ vs, Orderly (fun _ => True) v := by
  match items with
  | [] =>
    cases h
    exact nofun
  | item :: rest =>
    rw [itemValues] at h
    obtain ⟨v, hItem, h⟩ := (Outcome.bind_eq_ok_iff _ _ _).mp h
    obtain ⟨others, hRest, h⟩ := (Outcome.bind_eq_ok_iff _ _ _).mp h
    cases h
    exact List.forall_mem_cons.mpr ⟨orderly_value item hItem, orderly_itemValues rest hRest⟩

theorem orderly_entryValues (entries : List (Node × Node)) {got found : Entries Value}
    (hGot : Orderly (fun _ => True) (.map got)) (h : entryValues got entries = .ok found) :
    Orderly (fun _ => True) (.map found) := by
  match entries with
  | [] =>
    cases h
    exact hGot
  | (k, node) :: rest =>
    rw [entryValues] at h
    obtain ⟨k, -, h⟩ := (Outcome.bind_eq_ok_iff _ _ _).mp h
    obtain ⟨k, -, h⟩ := (Outcome.bind_eq_ok_iff _ _ _).mp h
    obtain ⟨v, hValue, h⟩ := (Outcome.bind_eq_ok_iff _ _ _).mp h
    exact orderly_entryValues rest (hGot.insert trivial (orderly_value node hValue)) h

theorem orderly_pairValues (items : List Node) {vs : List Value}
    (h : pairValues items = .ok vs) : ∀ v ∈ vs, Orderly (fun _ => True) v := by
  match items with
  | [] =>
    cases h
    exact nofun
  | .mapping tag [(k, node)] :: rest =>
    rw [pairValues] at h
    obtain ⟨key, hKey, h⟩ := (Outcome.bind_eq_ok_iff _ _ _).mp h
    obtain ⟨v, hValue, h⟩ := (Outcome.bind_eq_ok_iff _ _ _).mp h
    obtain ⟨others, hRest, h⟩ := (Outcome.bind_eq_ok_iff _ _ _).mp h
    cases h
    have hPair : ∀ u ∈ [key, v], Orderly (fun _ => True) u :=
      List.forall_mem_cons.mpr ⟨orderly_value k hKey,
        List.forall_mem_cons.mpr ⟨orderly_value node hValue, nofun⟩⟩
    exact List.forall_mem_cons.mpr ⟨.tuple hPair, orderly_pairValues rest hRest⟩
  | .scalar _ _ :: _ => cases h
  | .sequence _ _ :: _ => cases h
  | .mapping _ [] :: _ => cases h
  | .mapping _ (_ :: _ :: _) :: _ => cases h

end

end Yaml.Node

theorem Yaml.orderly_read {document : Text} {v : Value} (h : Yaml.read document = .ok v) :
    Orderly (fun _ => True) v := by
  obtain ⟨tokens, -, h⟩ := (Outcome.bind_eq_ok_iff _ _ _).mp h
  obtain ⟨root, -, h⟩ := (Outcome.bind_eq_ok_iff _ _ _).mp h
  cases root with
  | none =>
    cases h
    exact .scalar _
  | some node =>
    obtain ⟨flat, -, h⟩ := (Outcome.bind_eq_ok_iff _ _ _).mp h
    exact Yaml.Node.orderly_value flat h

end AssetAudit
