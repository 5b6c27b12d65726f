import AssetAudit.Files.Tree
import AssetAudit.Proofs.Outcomes
import AssetAudit.Proofs.Path.Spelling

/-!
# Places in a tree without links

In a tree without links every component of a path leads from one place to the next, and an entry
of a directory lies below it. A path can be asked for when it is short enough and holds no null
character.
-/
namespace AssetAudit

namespace FilePath

def descend (p : FilePath) (way : List Text) : FilePath :=
  ⟨p.root, p.parts ++ way⟩

theorem descend_child (p : FilePath) (name : Text) (way : List Text) :
    (p.child name).descend way = p.descend (name :: way) := by
  simp [descend, child]

theorem name_descend (p : FilePath) (way : List Text) (name : Text) :
    (p.descend (way ++ [name])).name = name := by
  simp [descend, FilePath.name]

theorem dropFront?_append (front rest : List Text) : dropFront? front (front ++ rest) = some rest := by
  induction front with
  | nil => cases rest <;> rfl
  | cons first others ih => rw [List.cons_append, dropFront?, if_pos rfl, ih]

theorem relativeTo?_descend (p : FilePath) (way : List Text) :
    (p.descend way).relativeTo? p = some ⟨[], way⟩ := by
  rw [relativeTo?, if_pos (show (p.descend way).root = p.root from rfl), descend, dropFront?_append]
  rfl

theorem descend_injective (p : FilePath) : Function.Injective p.descend := by
  intro a b h
  simpa [descend] using h

theorem join_descend (p q : FilePath) (way : List Text) :
    p.join (q.descend way) = (p.join q).descend way := by
  unfold join isAbsolute descend
  split
  · rfl
  · rw [List.append_assoc]

theorem join_child (p q : FilePath) (name : Text) :
    p.join (q.child name) = (p.join q).child name :=
  join_descend p q [name]

/-- The text of an entry is that of its directory with more behind it, unless the directory is
written as a dot. -/
theorem text_child (p : FilePath) (name : Text) :
    (p.text = ['.'] ∧ (p.child name).text = name) ∨
      (p.child name).text = p.text ++ name ∨ (p.child name).text = p.text ++ '/' :: name := by
  obtain ⟨root, parts⟩ := p
  have hChild : (child ⟨root, parts⟩ name).text = root ++ Text.join ['/'] (parts ++ [name]) := by
    simp [child, text]
  rw [hChild]
  cases parts with
  | nil =>
    cases root with
    | nil => exact .inl ⟨rfl, rfl⟩
    | cons c root => exact .inr (.inl (by simp [text, Text.join]))
  | cons part rest =>
    right
    right
    have hLast : Text.join ['/'] [name] = name := rfl
    rw [Text.join_append '/' (List.cons_ne_nil part rest) (List.cons_ne_nil name []), hLast]
    simp [text]

def fits (p : FilePath) : Bool :=
  !decide (Files.Tree.longestPath < (Text.utf8 p.text).length)

def hasNull (p : FilePath) : Bool :=
  p.text.contains (Char.ofNat 0)

theorem hasNull_child {p : FilePath} {name : Text} (h : p.hasNull = false)
    (hName : name.contains (Char.ofNat 0) = false) : (p.child name).hasNull = false := by
  unfold hasNull at h ⊢
  rcases text_child p name with ⟨-, hText⟩ | hText | hText
  · rw [hText, hName]
  · rw [hText, Bool.eq_false_iff]
    simp_all
  · rw [hText, Bool.eq_false_iff]
    simp_all

theorem fits_of_child {p : FilePath} {name : Text} (h : (p.child name).fits = true) :
    p.fits = true := by
  unfold fits at h ⊢
  rcases text_child p name with ⟨hText, -⟩ | hText | hText
  · rw [hText]
    decide
  · rw [hText, Text.utf8, List.flatMap_append, List.length_append, ← Text.utf8] at h
    simp only [Bool.not_eq_eq_eq_not, Bool.not_true, decide_eq_false_iff_not] at h ⊢
    omega
  · rw [hText, Text.utf8, List.flatMap_append, List.length_append, ← Text.utf8] at h
    simp only [Bool.not_eq_eq_eq_not, Bool.not_true, decide_eq_false_iff_not] at h ⊢
    omega

theorem fits_of_descend {p : FilePath} {way : List Text} (h : (p.descend way).fits = true) :
    p.fits = true := by
  induction way generalizing p with
  | nil => simpa [descend] using h
  | cons name rest ih =>
    rw [← descend_child] at h
    exact fits_of_child (ih h)

end FilePath

namespace Files

structure IsName (name : Text) : Prop where
  part : FilePath.isPart name = true
  up : name ≠ ['.', '.']
  null : name.contains (Char.ofNat 0) = false
  short : Tree.isLongName name = false

instance (name : Text) : Decidable (IsName name) :=
  decidable_of_iff (FilePath.isPart name = true ∧ name ≠ ['.', '.'] ∧
      name.contains (Char.ofNat 0) = false ∧ Tree.isLongName name = false)
    ⟨fun ⟨hPart, hUp, hNull, hShort⟩ => ⟨hPart, hUp, hNull, hShort⟩,
      fun h => ⟨h.part, h.up, h.null, h.short⟩⟩

namespace Node

theorem at?_append (node : Node) (place more : List Text) :
    node.at? (place ++ more) = (node.at? place).bind (·.at? more) := by
  induction place generalizing node with
  | nil => rfl
  | cons name rest ih =>
    rw [List.cons_append, at?, at?]
    cases node.child? name with
    | none => rfl
    | some next => exact ih next

theorem exists_directory_of_at? {root found : Node} {place rest : List Text} {name : Text}
    (h : root.at? (place ++ name :: rest) = some found) :
    ∃ entries, root.at? place = some (.directory entries) := by
  rw [at?_append] at h
  obtain ⟨node, hAt, hRest⟩ := Option.bind_eq_some_iff.mp h
  cases node with
  | directory entries => exact ⟨entries, hAt⟩
  | file data => cases hRest
  | link target => cases hRest

theorem at?_child {node found child : Node} {place : List Text} {name : Text}
    (h : node.at? place = some found) (hChild : found.child? name = some child) :
    node.at? (place ++ [name]) = some child := by
  rw [at?_append, h, Option.bind_some, at?, hChild]
  rfl

theorem mem_of_child? {node child : Node} {name : Text} (h : node.child? name = some child) :
    name ∈ node.entries.map (·.1) := by
  obtain ⟨entry, hFound, -⟩ := Option.map_eq_some_iff.mp h
  obtain rfl : entry.1 = name := by simpa using List.find?_some hFound
  exact List.mem_map_of_mem (List.mem_of_find?_eq_some hFound)

theorem exists_child?_of_mem {node : Node} {name : Text}
    (h : name ∈ node.entries.map (·.1)) : ∃ child, node.child? name = some child := by
  obtain ⟨entry, hMem, rfl⟩ := List.mem_map.mp h
  obtain ⟨found, hFound⟩ := Option.isSome_iff_exists.mp
    (List.find?_isSome (p := (·.1 == entry.1)).mpr ⟨entry, hMem, by simp⟩)
  exact ⟨found.2, by rw [child?, hFound]; rfl⟩

/-- No node is a link, and every name is a proper one. -/
structure Plain (root : Node) : Prop where
  noLink : ∀ place target, root.at? place ≠ some (.link target)
  named : ∀ place found, root.at? place = some found → ∀ name ∈ found.entries.map (·.1), IsName name

mutual

def isPlain : Node → Bool
  | .file _ => true
  | .link _ => false
  | .directory entries => arePlain entries

def arePlain : List (Text × Node) → Bool
  | [] => true
  | (name, node) :: rest => decide (IsName name) && node.isPlain && arePlain rest

end

theorem arePlain_iff (entries : List (Text × Node)) :
    arePlain entries = true ↔ ∀ entry ∈ entries, IsName entry.1 ∧ entry.2.isPlain = true := by
  induction entries with
  | nil => exact iff_of_true rfl nofun
  | cons entry rest ih =>
    obtain ⟨name, node⟩ := entry
    rw [arePlain, List.forall_mem_cons, ← ih, Bool.and_eq_true, Bool.and_eq_true,
      decide_eq_true_iff]

/-- What a directory passes on to its entries holds everywhere below it. -/
theorem inherited_at? {P : Node → Prop}
    (hEntries : ∀ entries, P (.directory entries) → ∀ entry ∈ entries, P entry.2)
    {node found : Node} {place : List Text} (h : P node) (hAt : node.at? place = some found) :
    P found := by
  induction place generalizing node with
  | nil => exact Option.some.inj hAt ▸ h
  | cons name rest ih =>
    rw [at?] at hAt
    cases node with
    | file data => cases hAt
    | link target => cases hAt
    | directory entries =>
      cases hChild : (directory entries).child? name with
      | none => rw [hChild] at hAt; cases hAt
      | some child =>
        rw [hChild] at hAt
        obtain ⟨entry, hFound, rfl⟩ := Option.map_eq_some_iff.mp hChild
        exact ih (hEntries entries h entry (List.mem_of_find?_eq_some hFound)) hAt

theorem isPlain_at? {node found : Node} {place : List Text} (h : node.isPlain = true)
    (hAt : node.at? place = some found) : found.isPlain = true :=
  inherited_at? (P := (·.isPlain = true))
    (fun entries h entry hMem => ((arePlain_iff entries).mp h entry hMem).2) h hAt

theorem plain_of_isPlain {root : Node} (h : root.isPlain = true) : root.Plain where
  noLink _ _ hAt := nomatch isPlain_at? h hAt
  named _ found hAt := by
    have hPlain := isPlain_at? h hAt
    cases found with
    | file data => exact nofun
    | link target => exact nofun
    | directory entries =>
      refine List.forall_mem_map.mpr fun entry hMem => ?_
      exact ((arePlain_iff entries).mp hPlain entry hMem).1

end Node

namespace Tree

/-- Where a component of a path leads from a place, if there is no link at its end. -/
inductive Leads (root : Node) (place : List Text) (component : Text) : List Text → Prop where
  | stay {entries : List (Text × Node)} (hAt : root.at? place = some (.directory entries))
      (h : component = [] ∨ component = ['.']) : Leads root place component place
  | up {entries : List (Text × Node)} (hAt : root.at? place = some (.directory entries))
      (h : component = ['.', '.']) : Leads root place component place.dropLast
  | down {entries : List (Text × Node)} {child : Node}
      (hAt : root.at? place = some (.directory entries))
      (hPart : ¬(component = [] ∨ component = ['.'])) (hDown : component ≠ ['.', '.'])
      (hShort : isLongName component = false)
      (hChild : (Node.directory entries).child? component = some child)
      (hLink : ∀ target, child ≠ .link target) : Leads root place component (place ++ [component])

variable {root : Node} {onLink : List Text → List Text → Except Fault (List Text)}
  {start place : List Text} {component : Text}

theorem Leads.followUntil_eq (h : Leads root start component place) (rest : List Text) :
    followUntil root onLink start (component :: rest) = followUntil root onLink place rest := by
  rw [followUntil]
  cases h with
  | stay hAt hSame =>
    rw [hAt]
    exact if_pos hSame
  | up hAt hUp =>
    subst hUp
    rw [hAt]
    rfl
  | down hAt hPart hDown hShort hChild hLink =>
    rename_i entries child
    rw [hAt]
    dsimp only
    rw [if_neg hPart, if_neg hDown, if_neg (by simp [hShort]), hChild]
    cases child with
    | link target => exact absurd rfl (hLink target)
    | file data => rfl
    | directory below => rfl

/-- Without links a path is followed component by component. -/
theorem exists_leads (hPlain : root.Plain) {components : List Text}
    (h : followUntil root onLink start (component :: components) = .ok place) :
    ∃ next, Leads root start component next := by
  rw [followUntil] at h
  cases hAt : root.at? start with
  | none => rw [hAt] at h; cases h
  | some found =>
    rw [hAt] at h
    cases found with
    | file data => cases h
    | link target => cases h
    | directory entries =>
      dsimp only at h
      by_cases hSame : component = [] ∨ component = ['.']
      · exact ⟨start, .stay hAt hSame⟩
      by_cases hUp : component = ['.', '.']
      · exact ⟨start.dropLast, .up hAt hUp⟩
      by_cases hLong : isLongName component = true
      · rw [if_neg hSame, if_neg hUp, if_pos hLong] at h
        cases h
      cases hChild : (Node.directory entries).child? component with
      | none =>
        rw [if_neg hSame, if_neg hUp, if_neg hLong, hChild] at h
        cases h
      | some child =>
        refine ⟨start ++ [component], .down hAt hSame hUp (by simpa using hLong) hChild ?_⟩
        rintro target rfl
        exact hPlain.noLink _ target (Node.at?_child hAt hChild)

theorem followUntil_append (hPlain : root.Plain) {components : List Text}
    (h : followUntil root onLink start components = .ok place) (more : List Text) :
    followUntil root onLink start (components ++ more) = followUntil root onLink place more := by
  induction components generalizing start with
  | nil =>
    cases h
    rfl
  | cons component rest ih =>
    obtain ⟨next, hLeads⟩ := exists_leads hPlain h
    rw [hLeads.followUntil_eq] at h
    rw [List.cons_append, hLeads.followUntil_eq]
    exact ih h

theorem follow_append (hPlain : root.Plain) {links : Nat} {components : List Text}
    (h : follow root links start components = .ok place) (more : List Text) :
    follow root links start (components ++ more) = follow root links place more := by
  cases links with
  | zero => exact followUntil_append hPlain h more
  | succ links => exact followUntil_append hPlain h more

theorem Leads.follow_eq (h : Leads root start component place) (links : Nat) :
    follow root links start [component] = .ok place := by
  cases links with
  | zero => exact h.followUntil_eq []
  | succ links => exact h.followUntil_eq []

variable {tree : Tree} {path : FilePath}

theorem locate_eq (tree : Tree) (path : FilePath) :
    tree.locate path =
      if path.hasNull then .error .nullCharacter
      else if path.fits then follow tree.root mostLinks [] (tree.cwd.join path).parts
      else .error .nameTooLong := by
  unfold locate FilePath.hasNull FilePath.fits
  congr 1
  by_cases hLong : longestPath < (Text.utf8 path.text).length
  · simp [hLong]
  · simp [hLong]

theorem locate_eq_ok_iff (tree : Tree) (path : FilePath) (place : List Text) :
    tree.locate path = .ok place ↔ path.hasNull = false ∧ path.fits = true ∧
      follow tree.root mostLinks [] (tree.cwd.join path).parts = .ok place := by
  rw [locate_eq]
  cases path.hasNull with
  | true => simp
  | false => cases path.fits <;> simp

theorem node_eq_ok_iff (tree : Tree) (path : FilePath) (found : Node) :
    tree.node path = .ok found ↔
      ∃ place, tree.locate path = .ok place ∧ tree.root.at? place = some found := by
  unfold Tree.node
  rw [Outcome.bind_eq_ok_iff]
  refine exists_congr fun place => and_congr_right fun _ => ?_
  cases tree.root.at? place with
  | none => exact iff_of_false nofun nofun
  | some other =>
    exact ⟨fun h => congrArg some (Except.ok.inj h), fun h => congrArg Except.ok (Option.some.inj h)⟩

/-- An entry of a directory is found below it, unless its path is too long. -/
theorem locate_child (hPlain : tree.root.Plain) (h : tree.locate path = .ok place)
    {entries : List (Text × Node)} (hAt : tree.root.at? place = some (.directory entries))
    {name : Text} (hMem : name ∈ entries.map (·.1)) :
    tree.locate (path.child name) =
      if (path.child name).fits then .ok (place ++ [name]) else .error .nameTooLong := by
  obtain ⟨hNull, -, hFollow⟩ := (locate_eq_ok_iff ..).mp h
  have hName := hPlain.named _ _ hAt name hMem
  rw [locate_eq, FilePath.hasNull_child hNull hName.null, if_neg Bool.false_ne_true,
    FilePath.join_child]
  congr 1
  obtain ⟨child, hChild⟩ : ∃ child, (Node.directory entries).child? name = some child :=
    Node.exists_child?_of_mem hMem
  have hPart : ¬(name = [] ∨ name = ['.']) := by simpa [FilePath.isPart] using hName.part
  have hLeads : Leads tree.root place name (place ++ [name]) := by
    refine .down hAt hPart hName.up hName.short hChild ?_
    rintro target rfl
    exact hPlain.noLink _ target (Node.at?_child hAt hChild)
  exact (follow_append hPlain hFollow [name]).trans (hLeads.follow_eq mostLinks)

end Tree

end Files

end AssetAudit
