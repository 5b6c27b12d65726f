import AssetAudit.Proofs.Files.Reordered
import AssetAudit.Proofs.Files.Whole
import Mathlib.Data.Set.List

/-!
# The files of a walk and their order

A walk gives the files below its directory that are wanted and lie in no excluded directory, and at every
level those in directories before those beside them. A directory is given up when it cannot be told
of one of its entries whether it is a directory. In which order a directory lists its entries makes no
difference.
-/
namespace AssetAudit.Files

variable {tree : Tree} {c : Collector} {wanted : List Text} {root : FilePath}

/-- What a walk looks for: the way to an entry that is no directory, with a wanted extension and through no
excluded directory. -/
structure IsSought (tree : Tree) (place : List Text) (excluded : List Text → Bool) (wanted : List Text)
    (way : List Text) : Prop where
  entry : ∃ node, tree.root.at? (place ++ way) = some node ∧ node.isDirectory = false
  extension : Unicode.lower (FilePath.nameSuffix (way.getLastD [])) ∈ wanted
  included : ∀ upper lower, upper ++ lower = way → upper ≠ [] → lower ≠ [] → excluded upper = false

def TellsKinds (tree : Tree) (directory : FilePath) (place : List Text) : Prop :=
  ∀ name node, tree.root.at? (place ++ [name]) = some node →
    ∃ answer, tree.isDirectory (directory.child name) = .ok answer

def TellsKindsAlong (tree : Tree) (directory : FilePath) (place way : List Text) : Prop :=
  ∀ upper lower, upper ++ lower = way → lower ≠ [] →
    TellsKinds tree (directory.descend upper) (place ++ upper)

section Ways

variable {place way : List Text} {excluded : List Text → Bool} {directory : FilePath} {name next : Text}

theorem isSought_single_iff : IsSought tree place excluded wanted [name] ↔
    (∃ node, tree.root.at? (place ++ [name]) = some node ∧ node.isDirectory = false) ∧
      Unicode.lower (FilePath.nameSuffix name) ∈ wanted := by
  constructor
  · rintro ⟨hEntry, hExtension, -⟩
    exact ⟨hEntry, hExtension⟩
  · rintro ⟨hEntry, hExtension⟩
    refine ⟨hEntry, hExtension, fun upper lower hWay hUpper hLower => ?_⟩
    have hLength := congrArg List.length hWay
    have := List.length_pos_iff.mpr hUpper
    have := List.length_pos_iff.mpr hLower
    simp at hLength
    omega

theorem isSought_cons_iff : IsSought tree place excluded wanted (name :: next :: way) ↔
    excluded [name] = false ∧
      IsSought tree (place ++ [name]) (fun upper => excluded (name :: upper)) wanted (next :: way) := by
  constructor
  · rintro ⟨hEntry, hExtension, hIncluded⟩
    refine ⟨hIncluded [name] (next :: way) rfl (List.cons_ne_nil _ _) (List.cons_ne_nil _ _), ?_,
      hExtension, fun upper lower hWay _ hLower => ?_⟩
    · rw [List.append_assoc]
      exact hEntry
    · exact hIncluded (name :: upper) lower (congrArg (name :: ·) hWay) (List.cons_ne_nil _ _) hLower
  · rintro ⟨hFirst, hEntry, hExtension, hIncluded⟩
    refine ⟨?_, hExtension, fun upper lower hWay hUpper hLower => ?_⟩
    · rw [List.append_assoc] at hEntry
      exact hEntry
    · obtain ⟨first, upper, rfl⟩ := List.exists_cons_of_ne_nil hUpper
      obtain ⟨rfl, hRest⟩ := List.cons.inj hWay
      cases upper with
      | nil => exact hFirst
      | cons second upper => exact hIncluded _ lower hRest (List.cons_ne_nil _ _) hLower

theorem tellsKindsAlong_nil : TellsKindsAlong tree directory place [] :=
  fun _ _ hWay hLower => absurd (List.append_eq_nil_iff.mp hWay).2 hLower

theorem tellsKindsAlong_cons_iff : TellsKindsAlong tree directory place (name :: way) ↔
    TellsKinds tree directory place ∧
      TellsKindsAlong tree (directory.child name) (place ++ [name]) way := by
  have hHere : directory.descend [] = directory := by simp [FilePath.descend]
  constructor
  · intro h
    constructor
    · have hFirst := h [] (name :: way) rfl (List.cons_ne_nil _ _)
      rw [hHere, List.append_nil] at hFirst
      exact hFirst
    · intro upper lower hWay hLower
      have hBelow := h (name :: upper) lower (congrArg (name :: ·) hWay) hLower
      rw [← FilePath.descend_child] at hBelow
      rw [List.append_assoc]
      exact hBelow
  · rintro ⟨hFirst, hBelow⟩ upper lower hWay hLower
    cases upper with
    | nil =>
      rw [hHere, List.append_nil]
      exact hFirst
    | cons first upper =>
      obtain ⟨rfl, hRest⟩ := List.cons.inj hWay
      have hThere := hBelow upper lower hRest hLower
      rw [FilePath.descend_child, List.append_assoc] at hThere
      exact hThere

end Ways

/-- A directory that a walk has come to, with no links to directories below it. -/
structure ComesTo (tree : Tree) (directory : FilePath) (place : List Text) : Prop where
  locate : tree.locate directory = .ok place
  entries : ∃ entries, tree.root.at? place = some (.directory entries)
  noLinks : ∀ way target, tree.root.at? (place ++ way) = some (.link target) →
    tree.isDirectory (directory.descend way) ≠ .ok true

def Node.Named (root : Node) : Prop :=
  ∀ place found, root.at? place = some found → ∀ name ∈ found.entries.map (·.1), IsName name

namespace Tree

theorem mem_entries_iff {root : Node} {place : List Text} {entries : List (Text × Node)}
    (hAt : root.at? place = some (.directory entries)) (name : Text) :
    name ∈ entries.map (·.1) ↔ ∃ node, root.at? (place ++ [name]) = some node := by
  rw [at?_append_singleton hAt]
  exact ⟨fun (hMem : name ∈ (Node.directory entries).entries.map (·.1)) =>
    Node.exists_child?_of_mem hMem, fun ⟨_, hChild⟩ => Node.mem_of_child? hChild⟩

/-- What is found at a path is left by one more component as it would be from there. -/
theorem follow_append_of_leads {root : Node} {k : Nat} {start place next components : List Text}
    {component : Text} (h : follow root k start components = .ok place)
    (hLeads : Leads root place component next) :
    follow root k start (components ++ [component]) = .ok next := by
  obtain ⟨n, hLe, hReaches⟩ := (explains_follow root k start components).ok place h
  rw [(hReaches.append [component]).follow_eq hLe]
  exact hLeads.follow_eq (k - n)

end Tree

namespace ComesTo

variable {directory : FilePath} {place : List Text} {name : Text} {node : Node}

theorem isName (h : ComesTo tree directory place) (hNamed : tree.root.Named)
    (hEntry : tree.root.at? (place ++ [name]) = some node) : IsName name := by
  obtain ⟨entries, hAt⟩ := h.entries
  exact hNamed place _ hAt name ((Tree.mem_entries_iff hAt name).mpr ⟨node, hEntry⟩)

/-- An entry whose path can be asked for is found, unless it is a link. -/
theorem locate_child (h : ComesTo tree directory place) (hNamed : tree.root.Named)
    (hEntry : tree.root.at? (place ++ [name]) = some node) (hNoLink : ∀ target, node ≠ .link target)
    {answer : Bool} (hAnswer : tree.isDirectory (directory.child name) = .ok answer) :
    tree.locate (directory.child name) = .ok (place ++ [name]) := by
  obtain ⟨entries, hAt⟩ := h.entries
  have hName := h.isName hNamed hEntry
  obtain ⟨hNull, -, hFollow⟩ := (Tree.locate_eq_ok_iff ..).mp h.locate
  have hNullChild := FilePath.hasNull_child hNull hName.null
  have hFits : (directory.child name).fits = true := by
    by_contra hLong
    rw [Tree.isDirectory_of_not_fits hNullChild (Bool.eq_false_iff.mpr hLong)] at hAnswer
    cases hAnswer
  have hAsks : Tree.Asks tree.root place name :=
    ⟨h.entries, not_or.mpr ((FilePath.isPart_iff name).mp hName.part), hName.up, hName.short⟩
  refine (Tree.locate_eq_ok_iff ..).mpr ⟨hNullChild, hFits, ?_⟩
  rw [FilePath.join_child]
  exact Tree.follow_append_of_leads hFollow (hAsks.leads hEntry hNoLink)

theorem leadsToDirectory_child (h : ComesTo tree directory place) (hNamed : tree.root.Named)
    (hEntry : tree.root.at? (place ++ [name]) = some node)
    (hTells : TellsKinds tree directory place) :
    tree.leadsToDirectory (directory.child name) = node.isDirectory := by
  obtain ⟨answer, hAnswer⟩ := hTells name node hEntry
  rw [Tree.leadsToDirectory]
  cases node with
  | link target =>
    have hNot := h.noLinks [name] target hEntry
    rw [show directory.descend [name] = directory.child name from rfl, hAnswer] at hNot
    rw [hAnswer]
    exact Bool.eq_false_iff.mpr fun hTrue => hNot (congrArg Except.ok hTrue)
  | file data =>
    rw [Tree.isDirectory_eq_ok (h.locate_child hNamed hEntry (by simp) hAnswer) hEntry]
  | directory inside =>
    rw [Tree.isDirectory_eq_ok (h.locate_child hNamed hEntry (by simp) hAnswer) hEntry]

theorem child (h : ComesTo tree directory place) (hNamed : tree.root.Named)
    {inside : List (Text × Node)}
    (hEntry : tree.root.at? (place ++ [name]) = some (.directory inside))
    (hTells : TellsKinds tree directory place) :
    ComesTo tree (directory.child name) (place ++ [name]) := by
  obtain ⟨answer, hAnswer⟩ := hTells name _ hEntry
  refine ⟨h.locate_child hNamed hEntry (by simp) hAnswer, ⟨inside, hEntry⟩, fun way target hLink => ?_⟩
  rw [FilePath.descend_child]
  rw [List.append_assoc] at hLink
  exact h.noLinks (name :: way) target hLink

/-- A directory is listed when it can be told of each entry whether it is a directory. -/
theorem exists_listing_iff (h : ComesTo tree directory place) :
    (∃ kinds, listing tree directory = .ok kinds) ↔ TellsKinds tree directory place := by
  obtain ⟨entries, hAt⟩ := h.entries
  have hNames : tree.names directory = .ok (Node.directory entries).names := by
    rw [Tree.names, Tree.node_eq_ok h.locate hAt]
    rfl
  rw [Files.exists_listing_iff hNames]
  simp only [Node.mem_names_iff, Node.entries, Tree.mem_entries_iff hAt]
  exact ⟨fun hAll name node hEntry => hAll name ⟨node, hEntry⟩,
    fun hTells name hEntry => hEntry.elim (hTells name)⟩

/-- What a directory lists: its entries that are directories, and the others. -/
theorem mem_listing (h : ComesTo tree directory place) (hNamed : tree.root.Named)
    (hTells : TellsKinds tree directory place) {directories others : List FilePath}
    (hListing : listing tree directory = .ok (directories, others)) (path : FilePath) :
    (path ∈ directories ↔ ∃ name inside, path = directory.child name ∧
        tree.root.at? (place ++ [name]) = some (.directory inside)) ∧
      (path ∈ others ↔ ∃ name node, path = directory.child name ∧
        tree.root.at? (place ++ [name]) = some node ∧ node.isDirectory = false) := by
  obtain ⟨entries, hAt⟩ := h.entries
  obtain ⟨names, hNames, rfl, rfl⟩ := listing_spec hListing
  rw [Tree.names, Tree.node_eq_ok h.locate hAt] at hNames
  obtain rfl := Except.ok.inj hNames
  have hMem : ∀ name, name ∈ Text.sort (entries.map (·.1)) ↔
      ∃ node, tree.root.at? (place ++ [name]) = some node := fun name =>
    ((Text.sort_perm _).mem_iff).trans (Tree.mem_entries_iff hAt name)
  constructor
  · rw [List.mem_filter, List.mem_map]
    constructor
    · rintro ⟨⟨name, hName, rfl⟩, hLeads⟩
      obtain ⟨node, hEntry⟩ := (hMem name).mp hName
      rw [h.leadsToDirectory_child hNamed hEntry hTells] at hLeads
      cases node with
      | directory inside => exact ⟨name, inside, rfl, hEntry⟩
      | file data => cases hLeads
      | link target => cases hLeads
    · rintro ⟨name, inside, rfl, hEntry⟩
      exact ⟨⟨name, (hMem name).mpr ⟨_, hEntry⟩, rfl⟩,
        h.leadsToDirectory_child hNamed hEntry hTells⟩
  · rw [List.mem_filter, List.mem_map]
    constructor
    · rintro ⟨⟨name, hName, rfl⟩, hLeads⟩
      obtain ⟨node, hEntry⟩ := (hMem name).mp hName
      rw [h.leadsToDirectory_child hNamed hEntry hTells] at hLeads
      exact ⟨name, node, rfl, hEntry, Bool.not_eq_true' _ ▸ hLeads⟩
    · rintro ⟨name, node, rfl, hEntry, hNot⟩
      refine ⟨⟨name, (hMem name).mpr ⟨_, hEntry⟩, rfl⟩, ?_⟩
      rw [h.leadsToDirectory_child hNamed hEntry hTells, hNot]
      rfl

end ComesTo

section Members

variable {directory path : FilePath} {place way : List Text} {excluded : List Text → Bool} {fuel : Nat}

theorem ne_nil_of_isSought (h : ComesTo tree directory place)
    (hSought : IsSought tree place excluded wanted way) : way ≠ [] := by
  rintro rfl
  obtain ⟨node, hEntry, hNot⟩ := hSought.entry
  obtain ⟨entries, hAt⟩ := h.entries
  rw [List.append_nil, hAt] at hEntry
  obtain rfl := Option.some.inj hEntry
  cases hNot

theorem isWanted_child_iff (name : Text) : isWanted wanted (directory.child name) = true ↔
    Unicode.lower (FilePath.nameSuffix name) ∈ wanted := by
  have hName : (directory.child name).name = name := by simp [FilePath.child, FilePath.name]
  rw [isWanted, FilePath.suffix, hName, List.contains_iff_mem]

/-- The files of a walk lie in one of the directories that it goes into, or are entries that are none. -/
theorem mem_walkFrom_succ_iff (hNamed : tree.root.Named) (h : ComesTo tree directory place)
    (hTells : TellsKinds tree directory place) :
    .file path ∈ walkFrom tree c wanted root (fuel + 1) directory ↔
      (∃ name inside, tree.root.at? (place ++ [name]) = some (.directory inside) ∧
        c.isExcluded (below root (directory.child name)) = false ∧
        .file path ∈ walkFrom tree c wanted root fuel (directory.child name)) ∨
      ∃ name node, path = directory.child name ∧ tree.root.at? (place ++ [name]) = some node ∧
        node.isDirectory = false ∧ Unicode.lower (FilePath.nameSuffix name) ∈ wanted := by
  obtain ⟨⟨directories, others⟩, hListing⟩ := h.exists_listing_iff.mpr hTells
  have hMem := h.mem_listing hNamed hTells hListing
  rw [walkFrom, hListing]
  dsimp only
  rw [List.mem_append, List.mem_flatMap, List.mem_map]
  refine or_congr ⟨?_, ?_⟩ ⟨?_, ?_⟩
  · rintro ⟨next, hNext, hVisit⟩
    obtain ⟨hNext, hIncluded⟩ := List.mem_filter.mp hNext
    obtain ⟨name, inside, rfl, hEntry⟩ := (hMem next).1.mp hNext
    exact ⟨name, inside, hEntry, (Bool.not_eq_true' _).mp hIncluded, hVisit⟩
  · rintro ⟨name, inside, hEntry, hIncluded, hVisit⟩
    refine ⟨directory.child name, List.mem_filter.mpr ⟨?_, (Bool.not_eq_true' _).mpr hIncluded⟩, hVisit⟩
    exact (hMem _).1.mpr ⟨name, inside, rfl, hEntry⟩
  · rintro ⟨file, hFile, hPath⟩
    obtain rfl := Visit.file.inj hPath
    obtain ⟨hFile, hWanted⟩ := List.mem_filter.mp hFile
    obtain ⟨name, node, rfl, hEntry, hNot⟩ := (hMem file).2.mp hFile
    exact ⟨name, node, rfl, hEntry, hNot, (isWanted_child_iff name).mp hWanted⟩
  · rintro ⟨name, node, rfl, hEntry, hNot, hExtension⟩
    refine ⟨directory.child name, List.mem_filter.mpr ⟨?_, (isWanted_child_iff name).mpr hExtension⟩, rfl⟩
    exact (hMem _).2.mpr ⟨name, node, rfl, hEntry, hNot⟩

/-- A directory of which not all kinds can be told is given up. -/
theorem not_mem_walkFrom (h : ComesTo tree directory place) (hNone : ¬TellsKinds tree directory place) :
    .file path ∉ walkFrom tree c wanted root (fuel + 1) directory := by
  intro hMem
  rw [walkFrom] at hMem
  cases hListing : listing tree directory with
  | error e =>
    rw [hListing] at hMem
    cases List.mem_singleton.mp hMem
  | ok kinds => exact hNone (h.exists_listing_iff.mp ⟨kinds, hListing⟩)

def IsAwaited (tree : Tree) (directory : FilePath) (place : List Text) (excluded : List Text → Bool)
    (wanted : List Text) (path : FilePath) : Prop :=
  ∃ way, path = directory.descend way ∧ IsSought tree place excluded wanted way ∧
    TellsKindsAlong tree directory place way

/-- It is one that is awaited below, or an entry of the directory. -/
theorem isAwaited_iff (hNamed : tree.root.Named) (h : ComesTo tree directory place)
    (hTells : TellsKinds tree directory place) : IsAwaited tree directory place excluded wanted path ↔
      (∃ name inside, tree.root.at? (place ++ [name]) = some (.directory inside) ∧
        excluded [name] = false ∧ IsAwaited tree (directory.child name) (place ++ [name])
          (fun upper => excluded (name :: upper)) wanted path) ∨
      ∃ name node, path = directory.child name ∧ tree.root.at? (place ++ [name]) = some node ∧
        node.isDirectory = false ∧ Unicode.lower (FilePath.nameSuffix name) ∈ wanted := by
  constructor
  · rintro ⟨way, rfl, hSought, hAlong⟩
    obtain ⟨name, rest, rfl⟩ := List.exists_cons_of_ne_nil (ne_nil_of_isSought h hSought)
    cases rest with
    | nil =>
      obtain ⟨⟨node, hEntry, hNot⟩, hExtension⟩ := isSought_single_iff.mp hSought
      exact .inr ⟨name, node, rfl, hEntry, hNot, hExtension⟩
    | cons next rest =>
      obtain ⟨hIncluded, hSought⟩ := isSought_cons_iff.mp hSought
      obtain ⟨-, hAlong⟩ := tellsKindsAlong_cons_iff.mp hAlong
      obtain ⟨node, hEnd, -⟩ := hSought.entry
      obtain ⟨inside, hEntry⟩ := Node.exists_directory_of_at? hEnd
      exact .inl ⟨name, inside, hEntry, hIncluded, next :: rest, (FilePath.descend_child ..).symm,
        hSought, hAlong⟩
  · rintro (⟨name, inside, hEntry, hIncluded, way, rfl, hSought, hAlong⟩ |
      ⟨name, node, rfl, hEntry, hNot, hExtension⟩)
    · obtain ⟨next, rest, rfl⟩ := List.exists_cons_of_ne_nil
        (ne_nil_of_isSought (h.child hNamed hEntry hTells) hSought)
      exact ⟨name :: next :: rest, FilePath.descend_child ..,
        isSought_cons_iff.mpr ⟨hIncluded, hSought⟩, tellsKindsAlong_cons_iff.mpr ⟨hTells, hAlong⟩⟩
    · exact ⟨[name], rfl, isSought_single_iff.mpr ⟨⟨node, hEntry, hNot⟩, hExtension⟩,
        tellsKindsAlong_cons_iff.mpr ⟨hTells, tellsKindsAlong_nil⟩⟩

/-- The files of a walk are what it looks for, on the ways along which all kinds can be told. -/
theorem mem_walkFrom_iff (hNamed : tree.root.Named) (h : ComesTo tree directory place)
    (hExcluded : ∀ way, way ≠ [] → c.isExcluded (below root (directory.descend way)) = excluded way)
    (hFuel : 2 * (Tree.longestPath - fuel) ≤ FilePath.byteWeight directory.parts) :
    .file path ∈ walkFrom tree c wanted root fuel directory ↔
      IsAwaited tree directory place excluded wanted path := by
  induction fuel generalizing directory place excluded with
  | zero =>
    -- A path as long as that could not be asked for.
    have hFits := ((Tree.locate_eq_ok_iff ..).mp h.locate).2.1
    have hShort := FilePath.byteWeight_le_of_fits hFits
    have hLongest : Tree.longestPath = 4095 := rfl
    omega
  | succ fuel ih =>
    by_cases hTells : TellsKinds tree directory place
    · rw [mem_walkFrom_succ_iff hNamed h hTells, isAwaited_iff hNamed h hTells]
      refine or_congr_left (exists_congr fun name => exists_congr fun inside =>
        and_congr_right fun hEntry => ?_)
      have hFirst : c.isExcluded (below root (directory.child name)) = excluded [name] :=
        hExcluded [name] (List.cons_ne_nil _ _)
      have hWeight := FilePath.byteWeight_child directory (h.isName hNamed hEntry).part
      rw [hFirst, ih (h.child hNamed hEntry hTells) (fun way _ => ?_) (by omega)]
      rw [FilePath.descend_child]
      exact hExcluded (name :: way) (List.cons_ne_nil name way)
    · refine iff_of_false (not_mem_walkFrom h hTells) ?_
      rintro ⟨way, rfl, hSought, hAlong⟩
      obtain ⟨name, rest, rfl⟩ := List.exists_cons_of_ne_nil (ne_nil_of_isSought h hSought)
      exact hTells (tellsKindsAlong_cons_iff.mp hAlong).1

end Members

section Order

/-- The order of a walk: what lies in a directory comes before the files beside it, else the first names
that differ decide. -/
inductive Precedes : List Text → List Text → Prop
  | names {x y : Text} {upper lower : List Text} (hKind : upper = [] ↔ lower = []) (hOther : x ≠ y)
      (h : Text.le x y = true) : Precedes (x :: upper) (y :: lower)
  | file {x y next : Text} {rest : List Text} : Precedes (x :: next :: rest) [y]
  | inside {x : Text} {upper lower : List Text} (h : Precedes upper lower) :
      Precedes (x :: upper) (x :: lower)

theorem Precedes.ne {a b : List Text} (h : Precedes a b) : a ≠ b := by
  induction h with
  | names _ hOther _ => exact fun hSame => hOther (List.cons.inj hSame).1
  | file => exact fun hSame => nomatch (List.cons.inj hSame).2
  | inside _ ih => exact fun hSame => ih (List.cons.inj hSame).2

variable {directory path : FilePath} {fuel : Nat}

theorem exists_child_of_mem {names : List Text} {keeps stays : FilePath → Bool}
    (h : path ∈ ((names.map directory.child).filter keeps).filter stays) :
    ∃ name, directory.child name = path := by
  obtain ⟨name, -, hChild⟩ := List.mem_map.mp (List.mem_of_mem_filter (List.mem_of_mem_filter h))
  exact ⟨name, hChild⟩

theorem exists_way (h : .file path ∈ walkFrom tree c wanted root fuel directory) :
    ∃ way, way ≠ [] ∧ path = directory.descend way := by
  induction fuel generalizing directory with
  | zero => cases h
  | succ fuel ih =>
    rw [walkFrom] at h
    cases hListing : listing tree directory with
    | error e =>
      rw [hListing] at h
      cases List.mem_singleton.mp h
    | ok kinds =>
      obtain ⟨directories, others⟩ := kinds
      obtain ⟨names, -, rfl, rfl⟩ := listing_spec hListing
      rw [hListing] at h
      rcases List.mem_append.mp h with hBelow | hHere
      · obtain ⟨next, hNext, hVisit⟩ := List.mem_flatMap.mp hBelow
        obtain ⟨name, rfl⟩ := exists_child_of_mem hNext
        obtain ⟨way, -, rfl⟩ := ih hVisit
        exact ⟨name :: way, List.cons_ne_nil _ _, FilePath.descend_child ..⟩
      · obtain ⟨file, hFile, hPath⟩ := List.mem_map.mp hHere
        obtain rfl := Visit.file.inj hPath
        obtain ⟨name, rfl⟩ := exists_child_of_mem hFile
        exact ⟨[name], List.cons_ne_nil _ _, rfl⟩

def Follows (directory p q : FilePath) : Prop :=
  ∀ a b, p = directory.descend a → q = directory.descend b → Precedes a b

theorem follows_iff {a b : List Text} :
    Follows directory (directory.descend a) (directory.descend b) ↔ Precedes a b := by
  constructor
  · exact fun h => h a b rfl rfl
  · intro h a' b' hA hB
    rw [← FilePath.descend_injective directory hA, ← FilePath.descend_injective directory hB]
    exact h

theorem pairwise_names (hDistinct : tree.root.WellNamed) {names : List Text}
    (hNames : tree.names directory = .ok names) :
    names.Pairwise fun x y => x ≠ y ∧ Text.le x y = true := by
  obtain ⟨place, entries, -, rfl⟩ := Tree.exists_names_eq hNames
  exact (Tree.nodup_names hDistinct hNames).and (Text.isSorted_sort _)

theorem mem_filterMap_file? {visits : List Visit} :
    path ∈ visits.filterMap Visit.file? ↔ .file path ∈ visits := by
  rw [List.mem_filterMap]
  constructor
  · rintro ⟨visit, hMem, hFile⟩
    cases visit with
    | file other =>
      obtain rfl : other = path := Option.some.inj hFile
      exact hMem
    | unreadable directory reason => cases hFile
  · exact fun hMem => ⟨_, hMem, rfl⟩

theorem exists_way_through {name : Text}
    (h : path ∈ (walkFrom tree c wanted root fuel (directory.child name)).filterMap Visit.file?) :
    ∃ next rest, path = directory.descend (name :: next :: rest) := by
  obtain ⟨way, hSome, rfl⟩ := exists_way (mem_filterMap_file?.mp h)
  obtain ⟨next, rest, rfl⟩ := List.exists_cons_of_ne_nil hSome
  exact ⟨next, rest, FilePath.descend_child ..⟩

theorem follows_of_child {name : Text} {p q : FilePath}
    (hp : p ∈ (walkFrom tree c wanted root fuel (directory.child name)).filterMap Visit.file?)
    (hq : q ∈ (walkFrom tree c wanted root fuel (directory.child name)).filterMap Visit.file?)
    (h : Follows (directory.child name) p q) : Follows directory p q := by
  obtain ⟨a, as, rfl⟩ := exists_way_through hp
  obtain ⟨b, bs, rfl⟩ := exists_way_through hq
  rw [← FilePath.descend_child directory name, ← FilePath.descend_child directory name, follows_iff] at h
  exact follows_iff.mpr (.inside h)

theorem pairwise_walkFrom (hDistinct : tree.root.WellNamed) (fuel : Nat) (directory : FilePath) :
    ((walkFrom tree c wanted root fuel directory).filterMap Visit.file?).Pairwise
      (Follows directory) := by
  induction fuel generalizing directory with
  | zero => exact List.Pairwise.nil
  | succ fuel ih =>
    rw [walkFrom]
    cases hListing : listing tree directory with
    | error e => exact List.Pairwise.nil
    | ok kinds =>
      obtain ⟨directories, others⟩ := kinds
      obtain ⟨names, hNames, rfl, rfl⟩ := listing_spec hListing
      have hEntries : (names.map directory.child).Pairwise fun p q =>
          ∃ x y, p = directory.child x ∧ q = directory.child y ∧ x ≠ y ∧ Text.le x y = true :=
        List.pairwise_map.mpr ((pairwise_names hDistinct hNames).imp fun h => ⟨_, _, rfl, rfl, h⟩)
      have hFiles : ∀ paths : List FilePath,
          (paths.map Visit.file).filterMap Visit.file? = paths := fun paths => by
        rw [List.filterMap_map]
        exact List.filterMap_some
      dsimp only
      rw [List.filterMap_append, List.filterMap_flatMap, hFiles, List.pairwise_append,
        List.pairwise_flatMap]
      refine ⟨⟨fun next hNext => ?_, ?_⟩, ?_, ?_⟩
      · obtain ⟨name, rfl⟩ := exists_child_of_mem hNext
        exact (ih _).imp_of_mem follows_of_child
      · refine ((hEntries.filter _).filter _).imp ?_
        rintro _ _ ⟨x, y, rfl, rfl, hOther, hLe⟩ p hp q hq
        obtain ⟨a, as, rfl⟩ := exists_way_through hp
        obtain ⟨b, bs, rfl⟩ := exists_way_through hq
        exact follows_iff.mpr
          (.names (iff_of_false (List.cons_ne_nil _ _) (List.cons_ne_nil _ _)) hOther hLe)
      · refine ((hEntries.filter _).filter _).imp ?_
        rintro _ _ ⟨x, y, rfl, rfl, hOther, hLe⟩
        exact follows_iff.mpr (.names Iff.rfl hOther hLe)
      · intro p hp q hq
        obtain ⟨next, hNext, hp⟩ := List.mem_flatMap.mp hp
        obtain ⟨name, rfl⟩ := exists_child_of_mem hNext
        obtain ⟨a, as, rfl⟩ := exists_way_through hp
        obtain ⟨y, rfl⟩ := exists_child_of_mem hq
        exact follows_iff.mpr .file

end Order

theorem below_descend (root : FilePath) {way : List Text} (h : way ≠ []) :
    below root (root.descend way) = Text.join ['/'] way := by
  have hSome : way.isEmpty = false := List.isEmpty_eq_false_iff.mpr h
  rw [below, FilePath.relativeTo?_descend, Option.getD_some, FilePath.text, hSome]
  rfl

theorem wantedFrom_texts (extensions : List Text) :
    wantedFrom (extensions.map .text) = .ok (extensions.flatMap wantedExtension) := by
  induction extensions with
  | nil => rfl
  | cons first rest ih =>
    rw [List.map_cons, wantedFrom, ih]
    rfl

theorem walk_texts {place : List Text} (h : ComesTo tree root place) (c : Collector)
    (extensions : List Text) : walk tree c root (.list (extensions.map .text)) =
      .ok (walkFrom tree c (extensions.flatMap wantedExtension) root Tree.longestPath root) := by
  obtain ⟨entries, hAt⟩ := h.entries
  have hWanted : wantedExtensions (.list (extensions.map .text)) =
      .ok (extensions.flatMap wantedExtension) := wantedFrom_texts extensions
  rw [walk, Tree.isDirectory_eq_ok h.locate hAt]
  dsimp only [Node.isDirectory]
  rw [hWanted]
  rfl

/-- The files of a walk are what it looks for on the ways along which all kinds can be told, each of them
once and in order, in whatever order directories list their entries. -/
theorem walk_in_order (hDistinct : tree.root.WellNamed) (hNamed : tree.root.Named) {place : List Text}
    (h : ComesTo tree root place) (c : Collector) (extensions : List Text) :
    ∃ (visits : List Visit) (ways : List (List Text)),
      walk tree c root (.list (extensions.map .text)) = .ok visits ∧
      visits.filterMap Visit.file? = ways.map root.descend ∧
      (∀ way, way ∈ ways ↔
        IsSought tree place (fun upper => c.isExcluded (Text.join ['/'] upper))
          (extensions.flatMap wantedExtension) way ∧ TellsKindsAlong tree root place way) ∧
      ways.Nodup ∧ ways.Pairwise Precedes ∧
      ∀ other : Tree, other.cwd = tree.cwd → tree.root.Reordered other.root →
        walk other c root (.list (extensions.map .text)) = .ok visits := by
  have hWalk := walk_texts h c extensions
  generalize hVisits : walkFrom tree c (extensions.flatMap wantedExtension) root Tree.longestPath root =
    visits at hWalk
  have hMem : ∀ path, path ∈ visits.filterMap Visit.file? ↔ ∃ way, path = root.descend way ∧
      IsSought tree place (fun upper => c.isExcluded (Text.join ['/'] upper))
        (extensions.flatMap wantedExtension) way ∧ TellsKindsAlong tree root place way := by
    intro path
    rw [mem_filterMap_file?, ← hVisits]
    exact mem_walkFrom_iff hNamed h (fun way hSome => by rw [below_descend root hSome]) (by simp)
  have hOrder : (visits.filterMap Visit.file?).Pairwise (Follows root) :=
    hVisits ▸ pairwise_walkFrom hDistinct Tree.longestPath root
  obtain ⟨ways, hWays⟩ : visits.filterMap Visit.file? ∈ Set.range (List.map root.descend) := by
    rw [Set.range_list_map]
    intro path hPath
    obtain ⟨way, rfl, -⟩ := (hMem path).mp hPath
    exact ⟨way, rfl⟩
  rw [← hWays] at hMem hOrder
  have hPrecedes : ways.Pairwise Precedes := (List.pairwise_map.mp hOrder).imp follows_iff.mp
  refine ⟨visits, ways, hWalk, hWays.symm, fun way => ?_, hPrecedes.imp Precedes.ne, hPrecedes,
    fun other hCwd hReordered => (walk_reordered hReordered hCwd root _).symm.trans hWalk⟩
  rw [← List.mem_map_of_injective (FilePath.descend_injective root), hMem]
  constructor
  · rintro ⟨other, hSame, hOther⟩
    rw [FilePath.descend_injective root hSame]
    exact hOther
  · exact fun hWay => ⟨way, rfl, hWay⟩

def scripts : Tree where
  root := .directory [("app".toList, .directory [("b.js".toList, .file []), ("dist".toList, .directory
    [("x.js".toList, .file [])]), ("a.js".toList, .file []), ("lib".toList, .directory
      [("c.JS".toList, .file [])])])]
  cwd := ⟨['/'], []⟩

theorem walk_in_order_scripts : ∃ c visits ways,
    Collector.create (.list [.text "dist".toList]) = .ok c ∧
      walk scripts c (.ofText "/app".toList) (.list [.text "js".toList]) = .ok visits ∧
      visits.filterMap Visit.file? = ways.map (FilePath.ofText "/app".toList).descend ∧
      ways = [["lib".toList, "c.JS".toList], ["a.js".toList], ["b.js".toList]] ∧
      ways.Pairwise Precedes := by
  have hPlain : scripts.root.Plain := Node.plain_of_isPlain (by decide +kernel)
  have hProper : scripts.root.Proper := Node.proper_of_isProper (by decide +kernel)
  have hComes : ComesTo scripts (.ofText "/app".toList) ["app".toList] :=
    ⟨rfl, ⟨_, rfl⟩, fun way target hLink => absurd hLink (hPlain.noLink _ target)⟩
  obtain ⟨c, hCreate, hFiles⟩ := Outcome.exists_of_toOption_map
    (f := fun c => (walk scripts c (.ofText "/app".toList) (.list [.text "js".toList])).toOption.map
      (·.filterMap Visit.file?))
    (x := Collector.create (.list [.text "dist".toList]))
    (b := some ([["lib".toList, "c.JS".toList], ["a.js".toList], ["b.js".toList]].map
      (FilePath.ofText "/app".toList).descend)) (by decide +kernel)
  obtain ⟨visits, ways, hWalk, hWays, -, -, hOrder, -⟩ :=
    walk_in_order (fun place entries hAt => (hProper place entries hAt).1) hPlain.named hComes c
      ["js".toList]
  refine ⟨c, visits, ways, hCreate, hWalk, hWays, ?_, hOrder⟩
  have hSame := hFiles
  rw [show Value.list [.text "js".toList] = .list (["js".toList].map .text) from rfl, hWalk] at hSame
  exact (FilePath.descend_injective _).list_map (hWays.symm.trans (Option.some.inj hSame))

def linked (target : Text) : Tree where
  root := .directory
    [("app".toList, .directory [("a.js".toList, .file []), ("b.js".toList, .link target)])]
  cwd := ⟨['/'], []⟩

theorem eq_of_linked {target other : Text} {way : List Text}
    (h : (linked target).root.at? (["app".toList] ++ way) = some (.link other)) :
    way = ["b.js".toList] := by
  cases way with
  | nil => cases h
  | cons name rest =>
    by_cases hScript : name = "a.js".toList
    · subst hScript
      cases rest with
      | nil => cases h
      | cons next rest => cases h
    · by_cases hLink : name = "b.js".toList
      · subst hLink
        cases rest with
        | nil => rfl
        | cons next rest => cases h
      · have hNone : (Node.directory [("a.js".toList, .file []), ("b.js".toList, .link target)]).child?
            name = none := by
          rw [Node.child?, Node.entries, List.find?_cons_of_neg (by simpa using Ne.symm hScript),
            List.find?_cons_of_neg (by simpa using Ne.symm hLink)]
          rfl
        have hWay : ((Node.directory [("a.js".toList, .file []), ("b.js".toList, .link target)]).at?
            (name :: rest)) = some (.link other) := h
        rw [Node.at?, hNone] at hWay
        cases hWay

/-- A link that leads to too long a name hides the script beside it. -/
theorem long_link_hides_script :
    let tree := linked (List.replicate 256 'x')
    let c : Collector := ⟨[], []⟩
    ComesTo tree (.ofText "/app".toList) ["app".toList] ∧
      IsSought tree ["app".toList] (fun upper => c.isExcluded (Text.join ['/'] upper)) [".js".toList]
        ["a.js".toList] ∧
      ∃ reason, walk tree c (.ofText "/app".toList) (.list [.text ".js".toList]) =
        .ok [.unreadable (.ofText "/app".toList) reason] := by
  intro tree c
  have hLong : tree.isDirectory (.ofText "/app/b.js".toList) =
      .error ⟨.nameTooLong, "/app/b.js".toList⟩ := by
    decide +kernel
  refine ⟨⟨rfl, ⟨_, rfl⟩, fun way target hLink hDirectory => ?_⟩, ?_, ?_⟩
  · rw [eq_of_linked hLink] at hDirectory
    cases hLong.symm.trans hDirectory
  · exact isSought_single_iff.mpr ⟨⟨_, rfl, rfl⟩, by decide⟩
  · exact ⟨Error.message ⟨.nameTooLong, "/app/b.js".toList⟩, by decide +kernel⟩

end AssetAudit.Files
