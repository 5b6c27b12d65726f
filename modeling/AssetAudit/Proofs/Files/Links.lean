import AssetAudit.Proofs.Files.Traversal

/-!
# Walks through links

A walk goes into every directory that an entry leads to, over links too, and keeps no record of where it has
been. It ends all the same: too long a path leads nowhere, and before that a path has led over as many links as
it may, with a way down a finite tree between two of them. A file that several paths lead to is met on each of
them, and all but one of these pass a link.
-/
namespace AssetAudit.Files

variable {tree : Tree} {c : Collector} {wanted : List Text} {root directory : FilePath}

/-- What a walk meets in a directory and in those that it goes into from there, however deep they are. -/
inductive Walks (tree : Tree) (c : Collector) (wanted : List Text) (root : FilePath) :
    FilePath → List Visit → Prop
  | unreadable {directory : FilePath} {e : Error} (h : listing tree directory = .error e) :
      Walks tree c wanted root directory [.unreadable directory e.message]
  | listed {directory : FilePath} {directories others : List FilePath}
      (h : listing tree directory = .ok (directories, others)) (inside : FilePath → List Visit)
      (hInside : ∀ d ∈ directories.filter fun d => !c.isExcluded (below root d),
        Walks tree c wanted root d (inside d)) :
      Walks tree c wanted root directory
        ((directories.filter fun d => !c.isExcluded (below root d)).flatMap inside ++
          (others.filter (isWanted wanted)).map .file)

namespace Walks

variable {visits others : List Visit}

/-- There is one way to walk a directory. -/
theorem unique (h : Walks tree c wanted root directory visits)
    (hOther : Walks tree c wanted root directory others) : visits = others := by
  induction h generalizing others with
  | unreadable hListing =>
    cases hOther with
    | unreadable hSame =>
      rw [hListing] at hSame
      cases hSame
      rfl
    | listed hSame =>
      rw [hListing] at hSame
      cases hSame
  | listed hListing inside _ ih =>
    cases hOther with
    | unreadable hSame =>
      rw [hListing] at hSame
      cases hSame
    | listed hSame inside' hInside' =>
      rw [hListing] at hSame
      cases hSame
      congr 1
      exact List.flatMap_congr fun d hMem => ih d hMem (hInside' d hMem)

end Walks

theorem exists_name_of_listing (hNamed : tree.root.Named) {directories others : List FilePath}
    (h : listing tree directory = .ok (directories, others)) {path : FilePath}
    (hMem : path ∈ directories ∨ path ∈ others) : ∃ name, IsName name ∧ path = directory.child name := by
  obtain ⟨names, hNames, rfl, rfl⟩ := listing_spec h
  have hEntry : path ∈ names.map directory.child := by
    rcases hMem with hMem | hMem <;> exact List.mem_of_mem_filter hMem
  obtain ⟨name, hName, rfl⟩ := List.mem_map.mp hEntry
  obtain ⟨place, entries, hAt, rfl⟩ := Tree.exists_names_eq hNames
  exact ⟨name, hNamed place _ hAt name ((Text.sort_perm _).mem_iff.mp hName), rfl⟩

theorem isDirectory_of_listing {directories others : List FilePath}
    (h : listing tree directory = .ok (directories, others)) {d : FilePath} (hMem : d ∈ directories) :
    tree.isDirectory d = .ok true := by
  obtain ⟨names, -, rfl, -⟩ := listing_spec h
  have hLeads := List.of_mem_filter hMem
  unfold Tree.leadsToDirectory at hLeads
  split at hLeads
  · rename_i hAnswer
    rw [hAnswer, hLeads]
  · cases hLeads

/-- Every step of a walk makes its path longer, and too long a path is none to go into: the walk has come to
its end before its fuel has. -/
theorem walks_walkFrom (hNamed : tree.root.Named) {fuel : Nat}
    (hFuel : Tree.longestPath + 3 ≤ FilePath.byteWeight directory.parts + 2 * fuel)
    (hFits : directory.fits = true) :
    Walks tree c wanted root directory (walkFrom tree c wanted root fuel directory) := by
  induction fuel generalizing directory with
  | zero =>
    have hShort := FilePath.byteWeight_le_of_fits hFits
    omega
  | succ fuel ih =>
    rw [walkFrom]
    cases hListing : listing tree directory with
    | error e => exact .unreadable hListing
    | ok kinds =>
      refine .listed hListing _ fun d hMem => ?_
      have hDirectory := isDirectory_of_listing hListing (List.mem_of_mem_filter hMem)
      obtain ⟨name, hName, rfl⟩ :=
        exists_name_of_listing hNamed hListing (.inl (List.mem_of_mem_filter hMem))
      have hLonger := FilePath.byteWeight_child directory hName.part
      exact ih (by omega) (Tree.fits_of_isDirectory hDirectory)

/-- What a walk meets lies down a way of names, and directories lie on the way to it. -/
theorem Walks.exists_way (hNamed : tree.root.Named) {visits : List Visit}
    (hDirectory : tree.isDirectory directory = .ok true)
    (h : Walks tree c wanted root directory visits) {visit : Visit} (hMem : visit ∈ visits) :
    ∃ way, visit.path = directory.descend way ∧ (∀ name ∈ way, IsName name) ∧
      ∀ upper lower, upper ++ lower = way → lower ≠ [] →
        tree.isDirectory (directory.descend upper) = .ok true := by
  have hHere : ∀ p : FilePath, p.descend [] = p := fun p => by simp [FilePath.descend]
  induction h with
  | @unreadable directory e h =>
    obtain rfl := List.mem_singleton.mp hMem
    exact ⟨[], (hHere directory).symm, List.forall_mem_nil IsName,
      fun _ _ hWay hLower => absurd (List.append_eq_nil_iff.mp hWay).2 hLower⟩
  | @listed directory directories others h inside _ ih =>
    rcases List.mem_append.mp hMem with hBelow | hFile
    · obtain ⟨d, hNext, hVisit⟩ := List.mem_flatMap.mp hBelow
      have hListed := List.mem_of_mem_filter hNext
      obtain ⟨way, hPath, hWay, hUpper⟩ := ih d hNext (isDirectory_of_listing h hListed) hVisit
      obtain ⟨name, hName, rfl⟩ := exists_name_of_listing hNamed h (.inl hListed)
      rw [FilePath.descend_child] at hPath
      refine ⟨name :: way, hPath, List.forall_mem_cons.mpr ⟨hName, hWay⟩, fun upper lower hAll hSome => ?_⟩
      cases upper with
      | nil => exact (hHere directory).symm ▸ hDirectory
      | cons first upper =>
        obtain ⟨rfl, hRest⟩ := List.cons.inj hAll
        exact FilePath.descend_child .. ▸ hUpper upper lower hRest hSome
    · obtain ⟨path, hOther, rfl⟩ := List.mem_map.mp hFile
      obtain ⟨name, hName, rfl⟩ :=
        exists_name_of_listing hNamed h (.inr (List.mem_of_mem_filter hOther))
      refine ⟨[name], rfl, List.forall_mem_singleton.mpr hName, fun upper lower hAll hSome => ?_⟩
      cases upper with
      | nil => exact (hHere directory).symm ▸ hDirectory
      | cons first upper =>
        obtain ⟨-, hRest⟩ := List.cons.inj hAll
        exact absurd (List.append_eq_nil_iff.mp hRest).2 hSome

namespace Node

mutual

def hasNames : Node → Bool
  | .file _ | .link _ => true
  | .directory entries => haveNames entries

def haveNames : List (Text × Node) → Bool
  | [] => true
  | (name, node) :: rest => decide (IsName name) && node.hasNames && haveNames rest

end

theorem haveNames_iff (entries : List (Text × Node)) :
    haveNames entries = true ↔ ∀ entry ∈ entries, IsName entry.1 ∧ entry.2.hasNames = true := by
  induction entries with
  | nil => exact iff_of_true rfl nofun
  | cons entry rest ih =>
    obtain ⟨name, node⟩ := entry
    rw [haveNames, List.forall_mem_cons, ← ih, Bool.and_eq_true, Bool.and_eq_true,
      decide_eq_true_iff]

theorem named_of_hasNames {node : Node} (h : node.hasNames = true) : node.Named := by
  intro place found hAt
  have hFound := inherited_at? (P := (·.hasNames = true))
    (fun entries h entry hMem => ((haveNames_iff entries).mp h entry hMem).2) h hAt
  cases found with
  | file data => exact nofun
  | link target => exact nofun
  | directory entries =>
    exact List.forall_mem_map.mpr fun entry hMem => ((haveNames_iff entries).mp hFound entry hMem).1

mutual

def height : Node → Nat
  | .file _ | .link _ => 0
  | .directory entries => heights entries

def heights : List (Text × Node) → Nat
  | [] => 0
  | (_, node) :: rest => max (node.height + 1) (heights rest)

end

theorem height_lt_heights {entries : List (Text × Node)} {entry : Text × Node} (h : entry ∈ entries) :
    entry.2.height < heights entries := by
  induction entries with
  | nil => cases h
  | cons first rest ih =>
    rw [heights]
    rcases List.mem_cons.mp h with rfl | hRest
    · exact Nat.le_max_left _ _
    · exact Nat.lt_of_lt_of_le (ih hRest) (Nat.le_max_right _ _)

theorem length_le_height {node found : Node} {place : List Text} (h : node.at? place = some found) :
    place.length ≤ node.height := by
  induction place generalizing node with
  | nil => exact Nat.zero_le _
  | cons name rest ih =>
    rw [at?] at h
    cases node with
    | file data => cases h
    | link target => cases h
    | directory entries =>
      cases hChild : (directory entries).child? name with
      | none => rw [hChild] at h; cases h
      | some child =>
        rw [hChild] at h
        obtain ⟨entry, hFound, rfl⟩ := Option.map_eq_some_iff.mp hChild
        exact Nat.lt_of_le_of_lt (ih h) (height_lt_heights (List.mem_of_find?_eq_some hFound))

end Node

namespace Tree

variable {node : Node} {start place way : List Text} {name : Text} {n : Nat}

theorem Leads.eq_of_isName {next : List Text} (h : Leads node start name next) (hName : IsName name) :
    next = start ++ [name] ∧ ∃ child, node.at? next = some child := by
  have hSome := (FilePath.isPart_iff name).mp hName.part
  cases h with
  | stay hAt hSame =>
    rcases hSame with rfl | rfl
    · exact absurd rfl hSome.1
    · exact absurd rfl hSome.2
  | up hAt hUp => exact absurd hUp hName.up
  | down hAt hPart hDown hShort hChild hLink => exact ⟨rfl, _, Node.at?_child hAt hChild⟩

/-- Between two links a way of names goes down the tree. -/
theorem Reaches.length_le (h : Reaches node n start way place []) (hNames : ∀ name ∈ way, IsName name) :
    way.length + start.length ≤ n * (node.height + 1) + max start.length node.height := by
  induction way generalizing n start with
  | nil =>
    rw [List.length_nil]
    omega
  | cons name way ih =>
    obtain ⟨hName, hNames⟩ := List.forall_mem_cons.mp hNames
    cases h with
    | step hLeads hMore =>
      obtain ⟨rfl, child, hAt⟩ := hLeads.eq_of_isName hName
      have hNext := Node.length_le_height hAt
      have hRest := ih hMore hNames
      simp only [List.length_append, List.length_cons, List.length_nil] at hNext hRest ⊢
      omega
    | @link links _ _ _ _ _ target hLink hMore =>
      obtain ⟨i, j, middle, hCount, -, hEnd⟩ := hMore.exists_middle
      have hRest := ih hEnd hNames
      have hFewer : j * (node.height + 1) ≤ links * (node.height + 1) :=
        Nat.mul_le_mul_right _ (hCount ▸ Nat.le_add_left j i)
      rw [List.length_cons, Nat.succ_mul]
      omega

variable {tree : Tree}

/-- From a place on, a path is followed over no more links than a whole path may lead over. -/
theorem exists_reaches_of_descend (hStart : tree.locate directory = .ok start)
    (h : tree.locate (directory.descend way) = .ok place) :
    ∃ j ≤ mostLinks, Reaches tree.root j start way place [] := by
  obtain ⟨-, -, hDirectory⟩ := (locate_eq_ok_iff ..).mp hStart
  obtain ⟨-, -, hAll⟩ := (locate_eq_ok_iff ..).mp h
  rw [FilePath.join_descend, FilePath.descend] at hAll
  obtain ⟨n, hMost, hReaches⟩ := (explains_follow ..).ok place hAll
  obtain ⟨i, j, middle, hCount, hFirst, hSecond⟩ := hReaches.exists_middle
  obtain rfl : start = middle :=
    Except.ok.inj (hDirectory.symm.trans (hFirst.follow_eq_ok (by omega)))
  exact ⟨j, by omega, hSecond⟩

def IsLink (tree : Tree) (path : FilePath) : Prop :=
  ∃ place target, tree.locate path.parent = .ok place ∧
    tree.root.at? (place ++ [path.name]) = some (.link target)

theorem isLink_child_iff (hStart : tree.locate directory = .ok start) :
    tree.IsLink (directory.child name) ↔ ∃ target, tree.root.at? (start ++ [name]) = some (.link target) := by
  have hParent : (directory.child name).parent = directory := by simp [FilePath.child, FilePath.parent]
  have hName : (directory.child name).name = name := by simp [FilePath.child, FilePath.name]
  rw [IsLink, hParent, hName, hStart]
  simp

/-- Does the way from a directory down to a path go through a link, or end at one? -/
def PassesLink (tree : Tree) (directory path : FilePath) : Prop :=
  ∃ upper lower, upper ≠ [] ∧ path = directory.descend (upper ++ lower) ∧
    tree.IsLink (directory.descend upper)

theorem PassesLink.of_child {path : FilePath} (h : tree.PassesLink (directory.child name) path) :
    tree.PassesLink directory path := by
  obtain ⟨upper, lower, -, hPath, hLink⟩ := h
  rw [FilePath.descend_child] at hPath hLink
  exact ⟨name :: upper, lower, List.cons_ne_nil _ _, hPath, hLink⟩

/-- Without a link on it, a way leads as far down the tree as it is long. -/
theorem eq_append_of_not_passesLink (hNames : ∀ name ∈ way, IsName name)
    (hStart : tree.locate directory = .ok start)
    (h : tree.locate (directory.descend way) = .ok place)
    (hNone : ¬tree.PassesLink directory (directory.descend way)) : place = start ++ way := by
  induction way generalizing directory start with
  | nil =>
    obtain ⟨j, -, hReaches⟩ := exists_reaches_of_descend hStart h
    cases hReaches
    exact (List.append_nil _).symm
  | cons name way ih =>
    obtain ⟨hName, hNames⟩ := List.forall_mem_cons.mp hNames
    obtain ⟨j, -, hReaches⟩ := exists_reaches_of_descend hStart h
    rw [← FilePath.descend_child] at h
    cases hReaches with
    | link hLink hMore =>
      exact absurd ⟨[name], way, List.cons_ne_nil _ _, rfl,
        (isLink_child_iff hStart).mpr ⟨_, hLink.link⟩⟩ hNone
    | step hLeads hMore =>
      obtain ⟨rfl, -⟩ := hLeads.eq_of_isName hName
      obtain ⟨hNull, -, hFollow⟩ := (locate_eq_ok_iff ..).mp hStart
      have hFits := FilePath.fits_of_descend ((locate_eq_ok_iff ..).mp h).2.1
      have hNext : tree.locate (directory.child name) = .ok (start ++ [name]) := by
        refine (locate_eq_ok_iff ..).mpr ⟨FilePath.hasNull_child hNull hName.null, hFits, ?_⟩
        rw [FilePath.join_child]
        exact follow_append_of_leads hFollow hLeads
      rw [← FilePath.descend_child] at hNone
      rw [ih hNames hNext h fun hPasses => hNone hPasses.of_child, List.append_assoc]
      rfl

def bytesAt (tree : Tree) (place : List Text) : Nat :=
  match tree.root.at? place with
  | some (.file data) => data.length
  | _ => directorySize

theorem exists_place_of_size {path : FilePath} {size : Nat} (h : tree.size path = .ok size) :
    ∃ place, tree.locate path = .ok place ∧ size = tree.bytesAt place := by
  unfold Tree.size at h
  cases hNode : tree.node path with
  | error fault =>
    rw [hNode] at h
    cases h
  | ok found =>
    obtain ⟨place, hLocate, hAt⟩ := (node_eq_ok_iff ..).mp hNode
    rw [hNode] at h
    refine ⟨place, hLocate, ?_⟩
    rw [bytesAt, hAt]
    cases found <;> exact (Except.ok.inj h).symm

end Tree

section Assets

variable {app : FilePath} {extensions : Value} {assets : List Asset}

/-- A walk over links, as deep as they may lead, comes to an end. -/
theorem exists_walks (hNamed : tree.root.Named) (c : Collector) (wanted : List Text)
    (h : tree.isDirectory directory = .ok true) :
    Walks tree c wanted directory directory (walkFrom tree c wanted directory Tree.longestPath directory) := by
  refine walks_walkFrom hNamed ?_ (Tree.fits_of_isDirectory h)
  have hLongest : Tree.longestPath = 4095 := rfl
  omega

/-- So deep a walk goes: forty times over a link and down the tree. -/
theorem Walks.length_le (hNamed : tree.root.Named) {visits : List Visit}
    (hDirectory : tree.isDirectory directory = .ok true)
    (h : Walks tree c wanted root directory visits) {visit : Visit} (hMem : visit ∈ visits) :
    ∃ way, visit.path = directory.descend way ∧
      way.length ≤ (Tree.mostLinks + 1) * (tree.root.height + 1) := by
  obtain ⟨way, hPath, hNames, hUpper⟩ := h.exists_way hNamed hDirectory hMem
  refine ⟨way, hPath, ?_⟩
  obtain ⟨start, -, hStart, -⟩ := Tree.exists_place_of_isDirectory hDirectory
  rcases List.eq_nil_or_concat way with rfl | ⟨upper, last, rfl⟩
  · exact Nat.zero_le _
  · rw [List.concat_eq_append] at hNames hUpper ⊢
    obtain ⟨place, -, hPlace, -⟩ :=
      Tree.exists_place_of_isDirectory (hUpper upper [last] rfl (List.cons_ne_nil _ _))
    obtain ⟨j, hMost, hReaches⟩ := Tree.exists_reaches_of_descend hStart hPlace
    have hDepth := hReaches.length_le fun name hName => hNames name (List.mem_append_left _ hName)
    have hLinks : j * (tree.root.height + 1) ≤ Tree.mostLinks * (tree.root.height + 1) :=
      Nat.mul_le_mul_right _ hMost
    rw [List.length_append, List.length_singleton, Nat.succ_mul]
    omega

/-- An asset lies down a way of names, at a place that has its size. -/
theorem exists_place_of_collected (hNamed : tree.root.Named)
    (h : (collectAssets tree c directory app extensions).outcome = .ok assets) {a : Asset}
    (hMem : a ∈ assets) : ∃ start way place, tree.locate directory = .ok start ∧
      a.path = directory.descend way ∧ (∀ name ∈ way, IsName name) ∧
      tree.locate a.path = .ok place ∧ a.size = tree.bytesAt place := by
  obtain ⟨visits, hVisits, hValue⟩ := (Attempt.bind_eq_ok_iff _ _ _).mp h
  cases hValue
  obtain ⟨hFile, hSize, -⟩ := mem_assetsOf_iff.mp hMem
  obtain ⟨place, hPlace, hBytes⟩ := Tree.exists_place_of_size hSize
  rw [Attempt.outcome_ofExcept] at hVisits
  obtain ⟨hDirectory, wanted, -, rfl⟩ | ⟨-, rfl⟩ := walk_eq_ok_iff.mp hVisits
  · obtain ⟨start, -, hStart, -⟩ := Tree.exists_place_of_isDirectory hDirectory
    obtain ⟨way, hPath, hNames, -⟩ :=
      (exists_walks hNamed c wanted hDirectory).exists_way hNamed hDirectory hFile
    exact ⟨start, way, place, hStart, hPath, hNames, hPlace, hBytes⟩
  · cases List.mem_singleton.mp hFile

/-- Two assets at one place are one, unless the way to one of them passes a link. -/
theorem eq_of_same_place (hNamed : tree.root.Named)
    (h : (collectAssets tree c directory app extensions).outcome = .ok assets) {a b : Asset}
    (hA : a ∈ assets) (hB : b ∈ assets) {place : List Text} (hPlaceA : tree.locate a.path = .ok place)
    (hPlaceB : tree.locate b.path = .ok place) (hNoneA : ¬tree.PassesLink directory a.path)
    (hNoneB : ¬tree.PassesLink directory b.path) : a.path = b.path := by
  obtain ⟨start, wayA, -, hStart, hWayA, hNamesA, -⟩ := exists_place_of_collected hNamed h hA
  obtain ⟨other, wayB, -, hOther, hWayB, hNamesB, -⟩ := exists_place_of_collected hNamed h hB
  obtain rfl := Except.ok.inj (hStart.symm.trans hOther)
  rw [hWayA] at hPlaceA hNoneA
  rw [hWayB] at hPlaceB hNoneB
  have hSame : start ++ wayA = start ++ wayB :=
    (Tree.eq_append_of_not_passesLink hNamesA hStart hPlaceA hNoneA).symm.trans
      (Tree.eq_append_of_not_passesLink hNamesB hStart hPlaceB hNoneB)
  rw [hWayA, hWayB, List.append_cancel_left hSame]

end Assets

end AssetAudit.Files
