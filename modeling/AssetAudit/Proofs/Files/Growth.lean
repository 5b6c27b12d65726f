import AssetAudit.Files.Write
import AssetAudit.Proofs.Files.Contents

/-!
# A tree with one more file

A file is put where nothing was, with the directories that are missing on the way to it. In a tree
without links everything stays where it was, and every path leads where it led before.
-/
namespace AssetAudit.Files

namespace Node

theorem map_setEntry (name : Text) (new : Node) (entries : List (Text × Node)) :
    (setEntry name new entries).map (·.1) =
      if name ∈ entries.map (·.1) then entries.map (·.1) else entries.map (·.1) ++ [name] := by
  induction entries with
  | nil => rfl
  | cons entry rest ih =>
    obtain ⟨n, old⟩ := entry
    unfold setEntry
    by_cases hName : n = name
    · simp [hName]
    · have hOther : ¬name = n := fun h => hName h.symm
      rw [if_neg hName, List.map_cons, List.map_cons, ih]
      by_cases hMem : name ∈ rest.map (·.1)
      · rw [if_pos hMem, if_pos (List.mem_cons_of_mem _ hMem)]
      · rw [if_neg hMem, if_neg (by simpa [hOther] using hMem)]
        rfl

theorem child?_setEntry (name : Text) (new : Node) (entries : List (Text × Node)) (k : Text) :
    (directory (setEntry name new entries)).child? k =
      if k = name then some new else (directory entries).child? k := by
  unfold child?
  simp only [Node.entries]
  induction entries with
  | nil =>
    by_cases hKey : k = name
    · simp [setEntry, hKey]
    · simp [setEntry, hKey, Ne.symm hKey]
  | cons entry rest ih =>
    obtain ⟨n, old⟩ := entry
    unfold setEntry
    by_cases hName : n = name
    · subst hName
      by_cases hKey : n = k
      · simp [hKey]
      · simp [hKey, Ne.symm hKey]
    · rw [if_neg hName, List.find?_cons, List.find?_cons]
      by_cases hKey : n = k
      · simp [hKey, hKey ▸ hName]
      · simp only [beq_eq_false_iff_ne.mpr hKey, ih]

/-- Nothing lies at the end of the names, and what lies on the way there are directories. -/
def Free : Node → List Text → Prop
  | _, [] => False
  | node, name :: rest =>
    (∃ entries, node = .directory entries) ∧
      ∀ child, node.child? name = some child → Free child rest

def isFree : Node → List Text → Bool
  | _, [] => false
  | node, name :: rest =>
    node.isDirectory && ((node.child? name).all fun child => isFree child rest)

theorem free_of_isFree {node : Node} {place : List Text} (h : node.isFree place = true) :
    node.Free place := by
  induction place generalizing node with
  | nil => cases h
  | cons name rest ih =>
    obtain ⟨hDirectory, hRest⟩ := (Bool.and_eq_true _ _).mp h
    constructor
    · cases node with
      | file data => cases hDirectory
      | link target => cases hDirectory
      | directory entries => exact ⟨entries, rfl⟩
    · intro child hChild
      rw [hChild] at hRest
      exact ih hRest

variable {node new found : Node} {place way : List Text} {data : List UInt8}

theorem not_free_nil (node : Node) : ¬node.Free [] :=
  id

theorem child?_put (node new : Node) (name : Text) (rest : List Text) (k : Text) :
    (node.put new (name :: rest)).child? k =
      if k = name then some (((node.child? name).getD (.directory [])).put new rest)
      else node.child? k :=
  child?_setEntry _ _ _ _

theorem exists_put_eq (node new : Node) {place : List Text} (h : place ≠ []) :
    ∃ entries, node.put new place = .directory entries := by
  cases place with
  | nil => exact absurd rfl h
  | cons name rest => exact ⟨_, rfl⟩

theorem Free.ne_nil (h : node.Free place) : place ≠ [] := by
  rintro rfl
  exact h

theorem free_empty (name : Text) (rest : List Text) : (directory []).Free (name :: rest) :=
  ⟨⟨[], rfl⟩, nofun⟩

variable (new) in
/-- What lies at a place stays there, or the new file is put below it. -/
theorem at?_put (h : node.Free place) (hAt : node.at? way = some found) :
    (node.put new place).at? way = some found ∨
      ∃ rest, way ++ rest = place ∧ found.Free rest ∧
        (node.put new place).at? way = some (found.put new rest) := by
  induction way generalizing node place with
  | nil =>
    obtain rfl := Option.some.inj hAt
    exact .inr ⟨place, rfl, h, rfl⟩
  | cons name way ih =>
    cases place with
    | nil => exact absurd h (not_free_nil node)
    | cons k rest =>
      rw [at?] at hAt ⊢
      rw [child?_put]
      by_cases hName : name = k
      · subst hName
        cases hChild : node.child? name with
        | none => rw [hChild] at hAt; cases hAt
        | some child =>
          rw [hChild] at hAt
          rw [if_pos rfl]
          rcases ih (h.2 child hChild) hAt with hSame | ⟨more, hPlace, hFree, hMore⟩
          · exact .inl hSame
          · exact .inr ⟨more, congrArg (name :: ·) hPlace, hFree, hMore⟩
      · rw [if_neg hName]
        exact .inl hAt

theorem at?_put_empty (hAt : ((directory []).put (.file data) place).at? way = some found) :
    ∃ rest, way ++ rest = place ∧ found = (directory []).put (.file data) rest := by
  induction way generalizing place with
  | nil => exact ⟨place, rfl, (Option.some.inj hAt).symm⟩
  | cons name way ih =>
    cases place with
    | nil => cases hAt
    | cons k rest =>
      rw [at?, child?_put] at hAt
      by_cases hName : name = k
      · subst hName
        rw [if_pos rfl] at hAt
        obtain ⟨more, hPlace, hFound⟩ := ih hAt
        exact ⟨more, congrArg (name :: ·) hPlace, hFound⟩
      · rw [if_neg hName] at hAt
        cases hAt

/-- Where nothing was, there is nothing but what leads to the new file. -/
theorem at?_put_of_none (h : node.Free place) (hNone : node.at? way = none)
    (hAt : (node.put (.file data) place).at? way = some found) :
    ∃ rest, way ++ rest = place ∧ found = (directory []).put (.file data) rest := by
  induction way generalizing node place with
  | nil => cases hNone
  | cons name way ih =>
    cases place with
    | nil => exact absurd h (not_free_nil node)
    | cons k rest =>
      rw [at?] at hNone hAt
      rw [child?_put] at hAt
      by_cases hName : name = k
      · subst hName
        rw [if_pos rfl] at hAt
        cases hChild : node.child? name with
        | none =>
          rw [hChild] at hAt
          obtain ⟨more, hPlace, hFound⟩ := at?_put_empty hAt
          exact ⟨more, congrArg (name :: ·) hPlace, hFound⟩
        | some child =>
          rw [hChild] at hNone hAt
          obtain ⟨more, hPlace, hFound⟩ := ih (h.2 child hChild) hNone hAt
          exact ⟨more, congrArg (name :: ·) hPlace, hFound⟩
      · rw [if_neg hName] at hAt
        rw [hNone] at hAt
        cases hAt

theorem mem_entries_put {name : Text} {rest : List Text} {k : Text}
    (h : k ∈ (node.put new (name :: rest)).entries.map (·.1)) :
    k = name ∨ k ∈ node.entries.map (·.1) := by
  change k ∈ (setEntry name _ node.entries).map (·.1) at h
  rw [map_setEntry] at h
  split at h
  · exact .inr h
  · rcases List.mem_append.mp h with hOld | hNew
    · exact .inr hOld
    · exact .inl (List.mem_singleton.mp hNew)

theorem mem_names_put {name : Text} {rest : List Text} {k : Text} :
    k ∈ (node.put new (name :: rest)).names ↔ k = name ∨ k ∈ node.names := by
  rw [mem_names_iff, mem_names_iff]
  constructor
  · exact mem_entries_put
  · rintro (rfl | hOld)
    · exact mem_of_child? (by rw [child?_put, if_pos rfl])
    · obtain ⟨child, hChild⟩ := exists_child?_of_mem hOld
      by_cases hName : k = name
      · exact mem_of_child? (by rw [child?_put, if_pos hName])
      · exact mem_of_child? ((child?_put node new name rest k).trans (by rw [if_neg hName, hChild]))

variable (new) in
/-- A new name makes no difference to what is gathered name by name, if nothing is gathered for
it. -/
theorem flatMap_names_put {α : Type} (f : Text → List α) {name : Text} (rest : List Text)
    (h : node.child? name = none → f name = []) :
    node.names.flatMap f = (node.put new (name :: rest)).names.flatMap f := by
  have hNames : (node.put new (name :: rest)).names = Text.sort
      (if name ∈ node.entries.map (·.1) then node.entries.map (·.1)
        else node.entries.map (·.1) ++ [name]) :=
    congrArg Text.sort (map_setEntry _ _ _)
  rw [hNames]
  split
  · rfl
  · rename_i hNew
    have hNone : node.child? name = none := by
      by_contra hSome
      obtain ⟨child, hChild⟩ := Option.ne_none_iff_exists'.mp hSome
      exact hNew (mem_of_child? hChild)
    have hOld : node.names =
        (Text.sort (node.entries.map (·.1) ++ [name])).filter (· != name) := by
      have hStay : (node.entries.map (·.1)).filter (· != name) = node.entries.map (·.1) := by
        refine List.filter_eq_self.mpr fun k hMem => ?_
        exact bne_iff_ne.mpr fun hEq => hNew (hEq ▸ hMem)
      rw [Text.filter_sort, List.filter_append, hStay, List.filter_cons_of_neg (by simp),
        List.filter_nil, List.append_nil]
      rfl
    rw [hOld, flatMap_filter]
    refine List.flatMap_congr fun k _ => ?_
    by_cases hName : k = name
    · rw [if_neg (by simp [hName]), hName, h hNone]
    · rw [if_pos (bne_iff_ne.mpr hName)]

theorem Plain.put (h : node.Plain) (hFree : node.Free place) (hNames : ∀ name ∈ place, IsName name) :
    (node.put (.file data) place).Plain := by
  have hPut : ∀ {q : List Text} {before found : Node} {rest : List Text}, q ++ rest = place →
      (∀ name ∈ before.entries.map (·.1), IsName name) →
      found = before.put (.file data) rest →
      (∀ target, found ≠ .link target) ∧ ∀ name ∈ found.entries.map (·.1), IsName name := by
    rintro q before found rest hPlace hBefore rfl
    cases rest with
    | nil => exact ⟨nofun, fun _ hMem => absurd hMem List.not_mem_nil⟩
    | cons k rest =>
      refine ⟨nofun, fun name hMem => ?_⟩
      rcases mem_entries_put hMem with rfl | hOld
      · exact hNames _ (hPlace ▸ List.mem_append_right q List.mem_cons_self)
      · exact hBefore name hOld
  have hAll : ∀ q found, (node.put (.file data) place).at? q = some found →
      (∀ target, found ≠ .link target) ∧ ∀ name ∈ found.entries.map (·.1), IsName name := by
    intro q found hAt
    cases hBefore : node.at? q with
    | none =>
      obtain ⟨rest, hPlace, hFound⟩ := at?_put_of_none hFree hBefore hAt
      exact hPut hPlace (fun _ hMem => absurd hMem List.not_mem_nil) hFound
    | some before =>
      have hOld := h.named q before hBefore
      rcases at?_put (.file data) hFree hBefore with hSame | ⟨rest, hPlace, -, hMore⟩
      · obtain rfl := Option.some.inj (hSame.symm.trans hAt)
        exact ⟨fun target hLink => h.noLink q target (hLink ▸ hBefore), hOld⟩
      · exact hPut hPlace hOld (Option.some.inj (hAt.symm.trans hMore))
  exact ⟨fun q target hAt => (hAll q _ hAt).1 target rfl, fun q found hAt => (hAll q found hAt).2⟩

end Node

namespace Tree

variable {root : Node} {place : List Text} {data : List UInt8}

theorem Leads.put (hFree : root.Free place) {start next : List Text} {component : Text}
    (h : Leads root start component next) :
    Leads (root.put (.file data) place) start component next := by
  have hDirectory : ∀ {entries}, root.at? start = some (.directory entries) →
      ∃ found, (root.put (.file data) place).at? start = some (.directory found) ∧
        ∀ child, (Node.directory entries).child? component = some child →
          (∀ target, child ≠ .link target) →
            ∃ later, (Node.directory found).child? component = some later ∧
              ∀ target, later ≠ .link target := by
    intro entries hAt
    rcases Node.at?_put (.file data) hFree hAt with hSame | ⟨rest, -, hRest, hMore⟩
    · exact ⟨entries, hSame, fun child hChild hLink => ⟨child, hChild, hLink⟩⟩
    · cases rest with
      | nil => exact absurd hRest (Node.not_free_nil _)
      | cons k rest =>
        refine ⟨_, hMore, fun child hChild hLink => ?_⟩
        have hLater := Node.child?_put (.directory entries) (.file data) k rest component
        by_cases hName : component = k
        · subst hName
          rw [if_pos rfl, hChild] at hLater
          obtain ⟨inside, hInside⟩ :=
            Node.exists_put_eq child (.file data) (hRest.2 child hChild).ne_nil
          exact ⟨_, hLater, fun target hEq => nomatch hInside.symm.trans hEq⟩
        · rw [if_neg hName, hChild] at hLater
          exact ⟨child, hLater, hLink⟩
  cases h with
  | stay hAt hSame =>
    obtain ⟨found, hFound, -⟩ := hDirectory hAt
    exact .stay hFound hSame
  | up hAt hUp =>
    obtain ⟨found, hFound, -⟩ := hDirectory hAt
    exact .up hFound hUp
  | down hAt hPart hDown hShort hChild hLink =>
    obtain ⟨found, hFound, hLater⟩ := hDirectory hAt
    obtain ⟨later, hThere, hLaterLink⟩ := hLater _ hChild hLink
    exact .down hFound hPart hDown hShort hThere hLaterLink

theorem followUntil_put (hPlain : root.Plain) (hFree : root.Free place)
    {onLink onLater : List Text → List Text → Except Fault (List Text)} {start found : List Text}
    {components : List Text} (h : followUntil root onLink start components = .ok found) :
    followUntil (root.put (.file data) place) onLater start components = .ok found := by
  induction components generalizing start with
  | nil => exact h
  | cons component rest ih =>
    obtain ⟨next, hLeads⟩ := exists_leads hPlain h
    rw [hLeads.followUntil_eq] at h
    rw [(hLeads.put hFree).followUntil_eq]
    exact ih h

variable (data) in
theorem locate_withNode {tree : Tree} (hPlain : tree.root.Plain) (hFree : tree.root.Free place)
    {path : FilePath} {found : List Text} (h : tree.locate path = .ok found) :
    (tree.withNode place (.file data)).locate path = .ok found := by
  rw [locate_eq_ok_iff] at h ⊢
  obtain ⟨hNull, hFits, hFollow⟩ := h
  exact ⟨hNull, hFits, followUntil_put hPlain hFree hFollow⟩

end Tree

end AssetAudit.Files
