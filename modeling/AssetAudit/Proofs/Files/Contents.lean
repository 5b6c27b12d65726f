import AssetAudit.Proofs.Files.Places
import AssetAudit.Proofs.Files.Walk

/-!
# What a walk finds in a tree without links

The files that a walk meets in such a tree can be read off the node that it starts from. So what is
collected below a directory depends on that node and on the path to it alone.
-/
namespace AssetAudit.Files

namespace Node

def names (node : Node) : List Text :=
  Text.sort (node.entries.map (·.1))

theorem mem_names_iff (node : Node) (name : Text) :
    name ∈ node.names ↔ name ∈ node.entries.map (·.1) :=
  (Text.sort_perm _).mem_iff

def isDirectory : Node → Bool
  | .directory _ => true
  | .file _ | .link _ => false

end Node

structure Found where
  path : FilePath
  data : List UInt8

section

variable (c : Collector) (wanted : List Text) (root : FilePath)

def filesBelow (walk : Node → FilePath → List Found) (node : Node) (directory : FilePath)
    (name : Text) : List Found :=
  match node.child? name with
  | some (.directory entries) =>
    if c.isExcluded (below root (directory.child name)) then []
    else walk (.directory entries) (directory.child name)
  | _ => []

def filesHere (node : Node) (directory : FilePath) (name : Text) : List Found :=
  match node.child? name with
  | some (.file data) =>
    if isWanted wanted (directory.child name) then [⟨directory.child name, data⟩] else []
  | _ => []

/-- The wanted files below a node that a walk has come to by a path. A directory is passed over
when the path of one of its entries is too long. -/
def filesIn : Nat → Node → FilePath → List Found
  | 0, _, _ => []
  | fuel + 1, node, directory =>
    if node.names.all fun name => (directory.child name).fits then
      node.names.flatMap (filesBelow c root (filesIn fuel) node directory) ++
        node.names.flatMap (filesHere wanted node directory)
    else []

end

def Visit.file? : Visit → Option FilePath
  | .file path => some path
  | .unreadable _ _ => none

variable {tree : Tree} {c : Collector} {wanted : List Text} {root directory : FilePath}
  {place : List Text}

namespace Tree

theorem node_eq_ok {path : FilePath} {found : Node} (h : tree.locate path = .ok place)
    (hAt : tree.root.at? place = some found) : tree.node path = .ok found :=
  (node_eq_ok_iff ..).mpr ⟨place, h, hAt⟩

theorem isDirectory_eq_ok {path : FilePath} {found : Node} (h : tree.locate path = .ok place)
    (hAt : tree.root.at? place = some found) : tree.isDirectory path = .ok found.isDirectory := by
  rw [Tree.isDirectory, holds, node_eq_ok h hAt]
  cases found <;> rfl

theorem exists_place_of_isDirectory {path : FilePath} (h : tree.isDirectory path = .ok true) :
    ∃ place entries, tree.locate path = .ok place ∧
      tree.root.at? place = some (.directory entries) := by
  unfold Tree.isDirectory holds at h
  cases hNode : tree.node path with
  | error fault =>
    rw [hNode] at h
    cases hAbsent : fault.meansAbsent <;> simp [hAbsent] at h
  | ok found =>
    obtain ⟨place, hLocate, hAt⟩ := (node_eq_ok_iff ..).mp hNode
    rw [hNode] at h
    cases found with
    | file data => cases h
    | link target => cases h
    | directory entries => exact ⟨place, entries, hLocate, hAt⟩

theorem node_child (hPlain : tree.root.Plain) (h : tree.locate directory = .ok place)
    {entries : List (Text × Node)} (hAt : tree.root.at? place = some (.directory entries))
    {name : Text} {child : Node} (hChild : (Node.directory entries).child? name = some child)
    (hFits : (directory.child name).fits = true) :
    tree.locate (directory.child name) = .ok (place ++ [name]) ∧
      tree.root.at? (place ++ [name]) = some child ∧
      tree.node (directory.child name) = .ok child := by
  have hMem : name ∈ entries.map (·.1) := Node.mem_of_child? hChild
  have hLocate := locate_child hPlain h hAt hMem
  rw [if_pos hFits] at hLocate
  have hThere := Node.at?_child hAt hChild
  exact ⟨hLocate, hThere, node_eq_ok hLocate hThere⟩

theorem isDirectory_child (hPlain : tree.root.Plain) (h : tree.locate directory = .ok place)
    {entries : List (Text × Node)} (hAt : tree.root.at? place = some (.directory entries))
    {name : Text} {child : Node} (hChild : (Node.directory entries).child? name = some child) :
    tree.isDirectory (directory.child name) =
      if (directory.child name).fits then .ok child.isDirectory
      else .error ⟨.nameTooLong, (directory.child name).text⟩ := by
  by_cases hFits : (directory.child name).fits = true
  · obtain ⟨hLocate, hThere, -⟩ := node_child hPlain h hAt hChild hFits
    rw [if_pos hFits]
    exact isDirectory_eq_ok hLocate hThere
  · have hMem : name ∈ entries.map (·.1) := Node.mem_of_child? hChild
    have hLocate := locate_child hPlain h hAt hMem
    rw [if_neg hFits] at hLocate
    rw [if_neg hFits, Tree.isDirectory, holds, Tree.node, hLocate]
    rfl

theorem leadsToDirectory_child (hPlain : tree.root.Plain) (h : tree.locate directory = .ok place)
    {entries : List (Text × Node)} (hAt : tree.root.at? place = some (.directory entries))
    {name : Text} {child : Node} (hChild : (Node.directory entries).child? name = some child)
    (hFits : (directory.child name).fits = true) :
    tree.leadsToDirectory (directory.child name) = child.isDirectory := by
  rw [leadsToDirectory, isDirectory_child hPlain h hAt hChild, if_pos hFits]

end Tree

theorem exists_listing_iff {names : List Text} (h : tree.names directory = .ok names) :
    (∃ kinds, listing tree directory = .ok kinds) ↔
      ∀ name ∈ names, ∃ answer, tree.isDirectory (directory.child name) = .ok answer := by
  have hKinds := Outcome.exists_mapM_iff
    (fun path => (tree.isDirectory path).map (path, ·)) (names.map directory.child)
  rw [List.forall_mem_map] at hKinds
  simp only [Outcome.map_eq_ok_iff] at hKinds
  constructor
  · rintro ⟨listed, hListing⟩
    obtain ⟨same, hSame, hListing⟩ := (Outcome.bind_eq_ok_iff _ _ _).mp hListing
    obtain ⟨kinds, hMap, -⟩ := (Outcome.bind_eq_ok_iff _ _ _).mp hListing
    rw [h] at hSame
    obtain rfl := Except.ok.inj hSame
    intro name hMem
    obtain ⟨_, answer, hAnswer, -⟩ := hKinds.mp ⟨kinds, hMap⟩ name hMem
    exact ⟨answer, hAnswer⟩
  · intro hAll
    obtain ⟨kinds, hMap⟩ := hKinds.mpr fun name hMem => by
      obtain ⟨answer, hAnswer⟩ := hAll name hMem
      exact ⟨_, answer, hAnswer, rfl⟩
    refine ⟨((kinds.filter (·.2)).map (·.1), (kinds.filter (!·.2)).map (·.1)), ?_⟩
    refine (Outcome.bind_eq_ok_iff _ _ _).mpr ⟨names, h, ?_⟩
    exact (Outcome.bind_eq_ok_iff _ _ _).mpr ⟨kinds, hMap, rfl⟩

theorem flatMap_filter {α β : Type} (p : α → Bool) (f : α → List β) (l : List α) :
    (l.filter p).flatMap f = l.flatMap fun a => if p a then f a else [] := by
  induction l with
  | nil => rfl
  | cons a rest ih =>
    rw [List.filter_cons, List.flatMap_cons]
    split
    · rw [List.flatMap_cons, ih]
    · rw [ih, List.nil_append]

section

variable (hPlain : tree.root.Plain) (h : tree.locate directory = .ok place)
  {entries : List (Text × Node)} (hAt : tree.root.at? place = some (.directory entries))

include hPlain h hAt

theorem exists_listing_of_plain :
    (∃ kinds, listing tree directory = .ok kinds) ↔
      ((Node.directory entries).names.all fun name => (directory.child name).fits) = true := by
  have hNames : tree.names directory = .ok (Node.directory entries).names := by
    rw [Tree.names, Tree.node_eq_ok h hAt]
    rfl
  rw [exists_listing_iff hNames, List.all_eq_true]
  refine forall₂_congr fun name hMem => ?_
  obtain ⟨child, hChild⟩ := Node.exists_child?_of_mem ((Node.mem_names_iff _ _).mp hMem)
  rw [Tree.isDirectory_child hPlain h hAt hChild]
  cases (directory.child name).fits <;> simp

/-- The directories of a listing are walked as the entries that are directories. -/
theorem filterMap_directories
    (hAll : ((Node.directory entries).names.all fun name => (directory.child name).fits) = true)
    {walkOf : FilePath → List Visit} {walk : Node → FilePath → List Found}
    (hWalk : ∀ {name child}, tree.locate (directory.child name) = .ok (place ++ [name]) →
      tree.root.at? (place ++ [name]) = some child →
        (walkOf (directory.child name)).filterMap Visit.file? =
          (walk child (directory.child name)).map (·.path)) :
    ((((((Node.directory entries).names.map directory.child).filter tree.leadsToDirectory).filter
      fun d => !c.isExcluded (below root d)).flatMap walkOf).filterMap Visit.file?) =
    ((Node.directory entries).names.flatMap
      (filesBelow c root walk (.directory entries) directory)).map (·.path) := by
  rw [List.filter_filter, flatMap_filter, List.flatMap_map, List.filterMap_flatMap,
    List.map_flatMap]
  refine List.flatMap_congr fun name hMem => ?_
  have hFits := List.all_eq_true.mp hAll name hMem
  obtain ⟨child, hChild⟩ := Node.exists_child?_of_mem ((Node.mem_names_iff _ _).mp hMem)
  obtain ⟨hLocate, hThere, -⟩ := Tree.node_child hPlain h hAt hChild hFits
  rw [filesBelow, hChild, Tree.leadsToDirectory_child hPlain h hAt hChild hFits]
  cases child with
  | link target => simp [Node.isDirectory]
  | file data => simp [Node.isDirectory]
  | directory inside =>
    have hInside := hWalk hLocate hThere
    cases c.isExcluded (below root (directory.child name)) with
    | true => rfl
    | false => exact hInside

/-- The other entries of a listing are the files. -/
theorem filterMap_others
    (hAll : ((Node.directory entries).names.all fun name => (directory.child name).fits) = true) :
    (((((Node.directory entries).names.map directory.child).filter
      fun p => !tree.leadsToDirectory p).filter (isWanted wanted)).map Visit.file).filterMap
        Visit.file? =
    ((Node.directory entries).names.flatMap
      (filesHere wanted (.directory entries) directory)).map (·.path) := by
  rw [List.filter_filter, List.filterMap_map, List.map_flatMap]
  change List.filterMap some _ = _
  rw [List.filterMap_some, List.filter_map, List.map_eq_flatMap, flatMap_filter]
  refine List.flatMap_congr fun name hMem => ?_
  have hFits := List.all_eq_true.mp hAll name hMem
  obtain ⟨child, hChild⟩ := Node.exists_child?_of_mem ((Node.mem_names_iff _ _).mp hMem)
  rw [filesHere, hChild, Function.comp_apply,
    Tree.leadsToDirectory_child hPlain h hAt hChild hFits]
  cases child with
  | link target => exact absurd (Node.at?_child hAt hChild) (hPlain.noLink _ target)
  | directory inside => simp [Node.isDirectory]
  | file data => cases isWanted wanted (directory.child name) <;> simp [Node.isDirectory]

end

/-- The files that a walk meets are those in the node that it starts from. -/
theorem filterMap_walkFrom (hPlain : tree.root.Plain) (fuel : Nat) {node : Node}
    (h : tree.locate directory = .ok place) (hAt : tree.root.at? place = some node) :
    (walkFrom tree c wanted root fuel directory).filterMap Visit.file? =
      (filesIn c wanted root fuel node directory).map (·.path) := by
  induction fuel generalizing directory place node with
  | zero => rfl
  | succ fuel ih =>
    cases node with
    | link target => exact absurd hAt (hPlain.noLink place target)
    | file data =>
      have hListing : listing tree directory = .error ⟨.notADirectory, directory.text⟩ := by
        rw [listing, Tree.names, Tree.node_eq_ok h hAt]
        rfl
      rw [walkFrom, hListing]
      rfl
    | directory entries =>
      have hListed := exists_listing_of_plain hPlain h hAt
      rw [walkFrom, filesIn]
      cases hListing : listing tree directory with
      | error e =>
        rw [hListing] at hListed
        rw [if_neg (fun hAll => nomatch hListed.mpr hAll)]
        rfl
      | ok kinds =>
        have hAll := hListed.mp ⟨kinds, hListing⟩
        obtain ⟨directories, others⟩ := kinds
        obtain ⟨names, hNames, rfl, rfl⟩ := listing_spec hListing
        rw [Tree.names, Tree.node_eq_ok h hAt] at hNames
        obtain rfl := Except.ok.inj hNames
        rw [if_pos hAll, List.filterMap_append, List.map_append]
        exact congrArg₂ (· ++ ·) (filterMap_directories hPlain h hAt hAll ih)
          (filterMap_others hPlain h hAt hAll)

theorem node_of_mem_filesIn (hPlain : tree.root.Plain) {fuel : Nat} {node : Node}
    (h : tree.locate directory = .ok place) (hAt : tree.root.at? place = some node)
    {found : Found} (hMem : found ∈ filesIn c wanted root fuel node directory) :
    tree.node found.path = .ok (.file found.data) := by
  induction fuel generalizing directory place node with
  | zero => cases hMem
  | succ fuel ih =>
    cases node with
    | link target => exact absurd hAt (hPlain.noLink place target)
    | file data => cases hMem
    | directory entries =>
      rw [filesIn] at hMem
      split at hMem
      · rename_i hAll
        rcases List.mem_append.mp hMem with hBelow | hHere
        · obtain ⟨name, hName, hFound⟩ := List.mem_flatMap.mp hBelow
          have hFits := List.all_eq_true.mp hAll name hName
          unfold filesBelow at hFound
          split at hFound
          · rename_i inside hChild
            obtain ⟨hLocate, hThere, -⟩ := Tree.node_child hPlain h hAt hChild hFits
            split at hFound
            · cases hFound
            · exact ih hLocate hThere hFound
          · cases hFound
        · obtain ⟨name, hName, hFound⟩ := List.mem_flatMap.mp hHere
          have hFits := List.all_eq_true.mp hAll name hName
          unfold filesHere at hFound
          split at hFound
          · rename_i data hChild
            obtain ⟨-, -, hNode⟩ := Tree.node_child hPlain h hAt hChild hFits
            split at hFound
            · obtain rfl := List.mem_singleton.mp hFound
              exact hNode
            · cases hFound
          · cases hFound
      · cases hMem

theorem filesIn_of_not_isDirectory {node : Node} (h : node.isDirectory = false) (fuel : Nat) :
    filesIn c wanted root fuel node directory = [] := by
  cases fuel with
  | zero => rfl
  | succ fuel =>
    cases node with
    | directory entries => cases h
    | file data => rfl
    | link target => rfl

def filesAt (tree : Tree) (c : Collector) (root : FilePath) (extensions : Value) : List Found :=
  match tree.locate root, wantedExtensions extensions with
  | .ok place, .ok wanted =>
    match tree.root.at? place with
    | some node => filesIn c wanted root Tree.longestPath node root
    | none => []
  | _, _ => []

theorem node_of_mem_filesAt (hPlain : tree.root.Plain) {extensions : Value} {found : Found}
    (hMem : found ∈ filesAt tree c root extensions) :
    tree.node found.path = .ok (.file found.data) := by
  unfold filesAt at hMem
  split at hMem
  · rename_i place wanted hLocate hWanted
    split at hMem
    · rename_i node hAt
      exact node_of_mem_filesIn hPlain hLocate hAt hMem
    · cases hMem
  · cases hMem

theorem filterMap_walk (hPlain : tree.root.Plain) {extensions : Value} {visits : List Visit}
    (h : walk tree c root extensions = .ok visits) :
    visits.filterMap Visit.file? = (filesAt tree c root extensions).map (·.path) := by
  obtain ⟨hAnswer, wanted, hWanted, rfl⟩ | ⟨hAnswer, rfl⟩ := walk_eq_ok_iff.mp h
  · obtain ⟨place, entries, hLocate, hAt⟩ := Tree.exists_place_of_isDirectory hAnswer
    rw [filesAt, hLocate, hWanted]
    dsimp only
    rw [hAt]
    exact filterMap_walkFrom hPlain _ hLocate hAt
  · unfold filesAt
    split
    · rename_i place wanted hLocate hWanted
      split
      · rename_i node hAt
        rw [Tree.isDirectory_eq_ok hLocate hAt] at hAnswer
        rw [filesIn_of_not_isDirectory (Except.ok.inj hAnswer)]
        rfl
      · rfl
    · rfl

def Found.asset (app : FilePath) (found : Found) : Asset where
  path := found.path
  size := found.data.length
  relative := ((found.path.relativeTo? app).getD found.path).text

theorem assetsOf_value {app : FilePath} {visits : List Visit} {files : List Found}
    (hFiles : visits.filterMap Visit.file? = files.map (·.path))
    (hNodes : ∀ found ∈ files, tree.node found.path = .ok (.file found.data)) :
    (assetsOf tree app visits).value = files.map (·.asset app) := by
  induction visits generalizing files with
  | nil =>
    obtain rfl := List.map_eq_nil_iff.mp hFiles.symm
    rfl
  | cons visit rest ih =>
    cases visit with
    | unreadable directory reason => exact ih hFiles hNodes
    | file path =>
      cases files with
      | nil => cases hFiles
      | cons found others =>
        obtain ⟨rfl, hOthers⟩ := List.cons.inj hFiles
        rw [List.forall_mem_cons] at hNodes
        have hSize : tree.size found.path = .ok found.data.length := by
          rw [Tree.size, hNodes.1]
        have hAsset : (assetOf tree app (.file found.path)).value = some (found.asset app) := by
          rw [assetOf, hSize]
          rfl
        have hValue : (assetsOf tree app (.file found.path :: rest)).value =
            (assetOf tree app (.file found.path)).value.toList ++ (assetsOf tree app rest).value :=
          rfl
        rw [hValue, hAsset, ih hOthers hNodes.2]
        rfl

theorem sourcesOf_value (visits : List Visit) :
    (sourcesOf visits).value = visits.filterMap Visit.file? := by
  induction visits with
  | nil => rfl
  | cons visit rest ih =>
    cases visit with
    | unreadable directory reason => exact ih
    | file path => exact congrArg (path :: ·) ih

theorem collectAssets_eq_ok (hPlain : tree.root.Plain) {app : FilePath} {extensions : Value}
    {assets : List Asset}
    (h : (collectAssets tree c directory app extensions).outcome = .ok assets) :
    assets = (filesAt tree c directory extensions).map (·.asset app) := by
  obtain ⟨visits, hWalk, hValue⟩ := (Attempt.bind_eq_ok_iff _ _ _).mp h
  cases hValue
  exact assetsOf_value (filterMap_walk hPlain hWalk) fun _ hMem => node_of_mem_filesAt hPlain hMem

theorem collectSources_eq_ok (hPlain : tree.root.Plain) {extensions : Value}
    {paths : List FilePath}
    (h : (collectSources tree c directory extensions).outcome = .ok paths) :
    paths = (filesAt tree c directory extensions).map (·.path) := by
  obtain ⟨visits, hWalk, hValue⟩ := (Attempt.bind_eq_ok_iff _ _ _).mp h
  cases hValue
  exact (sourcesOf_value visits).trans (filterMap_walk hPlain hWalk)

end AssetAudit.Files
