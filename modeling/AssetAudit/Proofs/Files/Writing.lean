import AssetAudit.Files.Write
import AssetAudit.Proofs.Files.Growth
import AssetAudit.Proofs.Files.Whole

/-!
# What is written is read back

A file that is written changes no other node into one of another kind, so every way through the tree
stays a way. A link that leads nowhere is written through: the file comes to stand where the path
found nothing, and the path leads there over the links it was followed over before.
-/
namespace AssetAudit.Files

namespace Node

def Alike : Node → Node → Prop
  | .file _, .file _ => True
  | .link target, .link other => target = other
  | .directory _, .directory _ => True
  | _, _ => False

theorem Alike.refl (node : Node) : node.Alike node := by
  cases node with
  | file data => trivial
  | link target => rfl
  | directory entries => trivial

theorem Alike.directory {entries : List (Text × Node)} {later : Node}
    (h : (Node.directory entries).Alike later) : ∃ found, later = .directory found := by
  cases later with
  | file data => exact h.elim
  | link target => exact h.elim
  | directory found => exact ⟨found, rfl⟩

theorem Alike.link {target : Text} {later : Node} (h : (Node.link target).Alike later) :
    later = .link target := by
  cases later with
  | file data => exact h.elim
  | link other => exact congrArg _ (Eq.symm h)
  | directory found => exact h.elim

theorem Alike.ne_link {node later : Node} (h : node.Alike later)
    (hLink : ∀ target, node ≠ .link target) : ∀ target, later ≠ .link target := by
  rintro target rfl
  cases node with
  | file data => exact h.elim
  | link other => exact hLink other rfl
  | directory entries => exact h.elim

/-- Where a node was, there is one of its kind. -/
def Stays (before after : Node) : Prop :=
  ∀ place node, before.at? place = some node → ∃ later, after.at? place = some later ∧ node.Alike later

/-- What lies on the way are directories, and at its end there is nothing or a file. -/
def TakesFile : Node → List Text → Prop
  | node, [] => ∃ data, node = .file data
  | node, name :: rest =>
    (∃ entries, node = .directory entries) ∧
      ∀ child, node.child? name = some child → TakesFile child rest

variable {node new : Node} {place : List Text} {data : List UInt8}

theorem takesFile_of_file (h : node.at? place = some (.file data)) : node.TakesFile place := by
  induction place generalizing node with
  | nil => exact ⟨data, Option.some.inj h⟩
  | cons name rest ih =>
    cases node with
    | file other => cases h
    | link target => cases h
    | directory entries =>
      refine ⟨⟨entries, rfl⟩, fun child hChild => ih ?_⟩
      rw [at?, hChild] at h
      exact h

theorem takesFile_of_vacant {entries : List (Text × Node)} {name : Text}
    (h : node.at? place = some (.directory entries))
    (hNone : (directory entries).child? name = none) : node.TakesFile (place ++ [name]) := by
  induction place generalizing node with
  | nil =>
    obtain rfl := Option.some.inj h
    exact ⟨⟨entries, rfl⟩, fun child hChild => nomatch hNone.symm.trans hChild⟩
  | cons next rest ih =>
    cases node with
    | file other => cases h
    | link target => cases h
    | directory above =>
      refine ⟨⟨above, rfl⟩, fun child hChild => ih ?_⟩
      rw [at?, hChild] at h
      exact h

theorem at?_put_self (node new : Node) (place : List Text) :
    (node.put new place).at? place = some new := by
  induction place generalizing node with
  | nil => rfl
  | cons name rest ih =>
    rw [at?, child?_put, if_pos rfl]
    exact ih _

theorem stays_put (h : node.TakesFile place) (data : List UInt8) :
    node.Stays (node.put (.file data) place) := by
  intro way found hAt
  -- Down both ways at once; where they part, the node is the one that was there.
  induction way generalizing node place with
  | nil =>
    obtain rfl := Option.some.inj hAt
    cases place with
    | nil =>
      obtain ⟨old, rfl⟩ := h
      exact ⟨.file data, rfl, trivial⟩
    | cons name rest =>
      obtain ⟨⟨entries, rfl⟩, -⟩ := h
      exact ⟨_, rfl, trivial⟩
  | cons k way ih =>
    cases place with
    | nil =>
      obtain ⟨old, rfl⟩ := h
      cases hAt
    | cons name rest =>
      rw [at?] at hAt ⊢
      rw [child?_put]
      by_cases hName : k = name
      · subst hName
        cases hChild : node.child? k with
        | none => rw [hChild] at hAt; cases hAt
        | some child =>
          rw [hChild] at hAt
          rw [if_pos rfl]
          exact ih (h.2 child hChild) hAt
      · rw [if_neg hName]
        exact ⟨found, hAt, Alike.refl found⟩

end Node

namespace Tree

variable {root after : Node} {start place : List Text} {component target : Text}

theorem Leads.of_stays (hStays : root.Stays after) (h : Leads root start component place) :
    Leads after start component place := by
  cases h with
  | stay hAt hSame =>
    obtain ⟨later, hLater, hAlike⟩ := hStays _ _ hAt
    obtain ⟨found, rfl⟩ := hAlike.directory
    exact .stay hLater hSame
  | up hAt hUp =>
    obtain ⟨later, hLater, hAlike⟩ := hStays _ _ hAt
    obtain ⟨found, rfl⟩ := hAlike.directory
    exact .up hLater hUp
  | down hAt hPart hDown hShort hChild hLink =>
    obtain ⟨later, hLater, hAlike⟩ := hStays _ _ hAt
    obtain ⟨found, rfl⟩ := hAlike.directory
    obtain ⟨child, hThere, hKind⟩ := hStays _ _ (Node.at?_child hAt hChild)
    rw [at?_append_singleton hLater] at hThere
    exact .down hLater hPart hDown hShort hThere (hKind.ne_link hLink)

theorem LinksTo.of_stays (hStays : root.Stays after) (h : LinksTo root start component target) :
    LinksTo after start component target := by
  obtain ⟨⟨⟨entries, hAt⟩, hPart, hDown, hShort⟩, hLink⟩ := h
  obtain ⟨later, hLater, hAlike⟩ := hStays _ _ hAt
  obtain ⟨found, rfl⟩ := hAlike.directory
  obtain ⟨child, hThere, hKind⟩ := hStays _ _ hLink
  obtain rfl := hKind.link
  exact ⟨⟨⟨found, hLater⟩, hPart, hDown, hShort⟩, hThere⟩

namespace Reaches

variable {n m : Nat} {rest left : List Text} {last : Text}

theorem of_stays (hStays : root.Stays after) (h : Reaches root n start rest place left) :
    Reaches after n start rest place left := by
  induction h with
  | here place rest => exact .here _ _
  | step hLeads _ ih => exact .step (hLeads.of_stays hStays) ih
  | link hLink _ ih => exact .link (hLink.of_stays hStays) ih

theorem eq_of_nil (h : Reaches root n start [] place left) : place = start ∧ left = [] := by
  cases h with
  | here => exact ⟨rfl, rfl⟩

end Reaches

theorem Leads.at?_eq (h : Leads root start component place) :
    ∃ entries, root.at? start = some (.directory entries) := by
  cases h with
  | stay hAt _ => exact ⟨_, hAt⟩
  | up hAt _ => exact ⟨_, hAt⟩
  | down hAt _ _ _ _ _ => exact ⟨_, hAt⟩

theorem Leads.eq (h : Leads root start component place) {next : List Text}
    (h' : Leads root start component next) : next = place := by
  have hSame : Except.ok next = (Except.ok place : Except Fault (List Text)) :=
    (h'.follow_eq 0).symm.trans (h.follow_eq 0)
  exact Except.ok.inj hSame

theorem Leads.not_linksTo (h : Leads root start component place) :
    ¬LinksTo root start component target := by
  intro hLink
  have hSame : follow root 0 start [component] = .error .linkLoop := hLink.followUntil_eq _ []
  rw [h.follow_eq] at hSame
  cases hSame

theorem Leads.not_lacks (h : Leads root start component place) : ¬Lacks root start component := by
  intro hLacks
  have hSame := hLacks.follow_cons 0 []
  rw [h.follow_eq] at hSame
  cases hSame

theorem LinksTo.not_lacks (h : LinksTo root start component target) :
    ¬Lacks root start component :=
  fun hLacks => nomatch h.link.symm.trans hLacks.none

theorem LinksTo.target_eq (h : LinksTo root start component target) {other : Text}
    (h' : LinksTo root start component other) : other = target :=
  Node.link.inj (Option.some.inj (h'.link.symm.trans h.link))

/-- A way to where nothing is goes on from the end of its first stretch. -/
theorem Reaches.rest_of_first {n i : Nat} {first second left middle : List Text} {last : Text}
    (hFirst : Reaches root i start first middle [])
    (h : Reaches root n start (first ++ second) place (last :: left)) (hLacks : Lacks root place last) :
    ∃ j, n = i + j ∧ Reaches root j middle second place (last :: left) := by
  -- Along the first stretch: at each component both ways take the same step, since a component leads
  -- to one place only, and the longer way cannot end before it.
  generalize hNone : ([] : List Text) = none at hFirst
  induction hFirst generalizing n with
  | here middle first =>
    subst hNone
    exact ⟨n, (Nat.zero_add n).symm, h⟩
  | step hLeads _ ih =>
    cases h with
    | here => exact absurd hLacks hLeads.not_lacks
    | step hOther hMore =>
      obtain rfl := hLeads.eq hOther
      exact ih hMore hNone
    | link hLink _ => exact absurd hLink hLeads.not_linksTo
  | link hLink _ ih =>
    cases h with
    | here => exact absurd hLacks hLink.not_lacks
    | step hOther _ => exact absurd hLink hOther.not_linksTo
    | link hOther hMore =>
      obtain rfl := hLink.target_eq hOther
      rw [List.append_eq, ← List.append_assoc] at hMore
      obtain ⟨j, rfl, hRest⟩ := ih hMore hNone
      exact ⟨j, by omega, hRest⟩

/-- The first components are the second ones without some that stay at their place. The last one is
never left out. -/
inductive Thins : List Text → List Text → Prop
  | nil : Thins [] []
  | keep {thin rest : List Text} (component : Text) (h : Thins thin rest) :
      Thins (component :: thin) (component :: rest)
  | drop {thin rest : List Text} {component : Text} (hStay : FilePath.isPart component = false)
      (hMore : rest ≠ []) (h : Thins thin rest) : Thins thin (component :: rest)

namespace Thins

variable {thin rest : List Text}

theorem append (h : Thins thin rest) (front : List Text) : Thins (front ++ thin) (front ++ rest) := by
  induction front with
  | nil => exact h
  | cons component front ih => exact .keep component ih

theorem eq_nil (h : Thins [] rest) : rest = [] := by
  generalize hNil : ([] : List Text) = thin at h
  induction h with
  | nil => rfl
  | keep => cases hNil
  | drop hStay hMore _ ih =>
    obtain rfl := hNil
    exact absurd (ih rfl) hMore

theorem filter (rest : List Text) (hLast : ∀ last ∈ rest.getLast?, FilePath.isPart last = true) :
    Thins (rest.filter FilePath.isPart) rest := by
  induction rest with
  | nil => exact .nil
  | cons component rest ih =>
    cases hPart : FilePath.isPart component with
    | true =>
      rw [List.filter_cons_of_pos hPart]
      refine .keep component (ih fun last hMem => hLast last ?_)
      exact List.mem_getLast?_cons hMem
    | false =>
      rw [List.filter_cons_of_neg (by simp [hPart])]
      have hMore : rest ≠ [] := by
        rintro rfl
        exact absurd (hLast component rfl) (by simp [hPart])
      refine .drop hPart hMore (ih fun last hMem => hLast last ?_)
      exact List.mem_getLast?_cons hMem

end Thins

theorem Leads.eq_start (h : Leads root start component place)
    (hStay : FilePath.isPart component = false) : place = start := by
  have hSame : component = [] ∨ component = ['.'] := by
    by_contra hPart
    exact absurd ((FilePath.isPart_iff component).mpr (not_or.mp hPart)) (by simp [hStay])
  cases h with
  | stay _ _ => rfl
  | up _ hUp =>
    subst hUp
    cases hStay
  | down _ hPart _ _ _ _ => exact absurd hSame hPart

theorem Asks.isPart (h : Asks root start component) : FilePath.isPart component = true :=
  (FilePath.isPart_iff component).mpr (not_or.mp h.part)

/-- Components that stay at their place can be left out on a way to where nothing is. -/
theorem Reaches.of_thins {n : Nat} {thin rest left : List Text} {last : Text}
    (h : Reaches root n start rest place (last :: left)) (hLacks : Lacks root place last)
    (hThin : Thins thin rest) :
    ∃ fewer, Reaches root n start thin place (last :: fewer) ∧ Thins fewer left := by
  -- Along the way, for every thinner rest: behind a link the components of its target are kept.
  generalize hEnd : last :: left = behindPlace at h
  induction h generalizing thin with
  | here place rest =>
    subst hEnd
    cases hThin with
    | keep _ hThin => exact ⟨_, .here _ _, hThin⟩
    | drop hStay _ _ => exact absurd hLacks.isPart (by simp [hStay])
  | step hLeads _ ih =>
    cases hThin with
    | keep _ hThin =>
      obtain ⟨fewer, hWay, hFewer⟩ := ih hLacks hThin hEnd
      exact ⟨fewer, .step hLeads hWay, hFewer⟩
    | drop hStay _ hThin =>
      obtain rfl := hLeads.eq_start hStay
      exact ih hLacks hThin hEnd
  | link hLink _ ih =>
    cases hThin with
    | keep _ hThin =>
      obtain ⟨fewer, hWay, hFewer⟩ := ih hLacks (hThin.append _) hEnd
      exact ⟨fewer, .link hLink hWay, hFewer⟩
    | drop hStay _ _ => exact absurd hLink.isPart (by simp [hStay])

theorem isAbsolute_ofText (t : Text) : (FilePath.ofText t).isAbsolute = Path.isAbsolute t := by
  unfold FilePath.isAbsolute FilePath.ofText
  dsimp only
  cases hAbsolute : Path.isAbsolute t with
  | false => rfl
  | true => rcases FilePath.leadingSlashes_cases t with hRoot | hRoot <;> rw [if_pos rfl, hRoot] <;> rfl

/-- A link through which a file can be made ends in a name. -/
theorem isPart_of_targetFault? (h : targetFault? target = none) :
    ∀ last ∈ (Text.splitOn '/' target).getLast?, FilePath.isPart last = true := by
  intro last hLast
  obtain ⟨front, hPieces⟩ := List.getLast?_eq_some_iff.mp hLast
  unfold targetFault? at h
  dsimp only at h
  rw [hPieces] at h
  split at h
  · cases h
  · rename_i hDot
    split at h
    · cases h
    · rename_i hSlash
      have hGiven : last ≠ [] := by simpa using hSlash
      have hNoDot : last ≠ ['.'] := by simpa [List.filter_append, hGiven] using hDot
      exact (FilePath.isPart_iff last).mpr ⟨hGiven, hNoDot⟩

variable {tree saved : Tree} {path : FilePath} {data : List UInt8}

theorem holder_eq_ok_iff (tree : Tree) (path : FilePath) (place : List Text)
    (entries : List (Text × Node)) : tree.holder path = .ok (place, entries) ↔
      tree.locate path.parent = .ok place ∧ tree.root.at? place = some (.directory entries) := by
  unfold holder
  rw [Outcome.bind_eq_ok_iff]
  constructor
  · rintro ⟨found, hLocate, hFound⟩
    split at hFound
    · rename_i inside hAt
      cases hFound
      exact ⟨hLocate, hAt⟩
    · cases hFound
  · rintro ⟨hLocate, hAt⟩
    refine ⟨place, hLocate, ?_⟩
    rw [hAt]
    rfl

theorem reaches_of_locate (h : tree.locate path = .ok place) :
    ∃ n ≤ mostLinks, Reaches tree.root n [] (tree.cwd.join path).parts place [] :=
  (explains_follow _ _ _ _).ok _ ((locate_eq_ok_iff ..).mp h).2.2

theorem parts_join_parent (cwd : FilePath) (h : path.parts ≠ []) :
    (cwd.join path).parts = (cwd.join path.parent).parts ++ [path.name] := by
  have hParts := (FilePath.dropLast_append_name h).symm
  unfold FilePath.join
  have hAbsolute : path.parent.isAbsolute = path.isAbsolute := rfl
  rw [hAbsolute]
  split
  · exact hParts
  · rw [List.append_assoc]
    exact congrArg _ hParts

/-- The way behind a link is the way of the target's path seen from the directory of the link. -/
theorem reaches_behind {i j : Nat} {base : FilePath} {left : List Text}
    (hBase : Reaches root i [] base.parts start [])
    (h : Reaches root j (behind start target) ((Text.splitOn '/' target).filter FilePath.isPart) place
      left) :
    ∃ m ≤ i + j, Reaches root m [] (base.join (.ofText target)).parts place left := by
  unfold behind at h
  unfold FilePath.join
  rw [isAbsolute_ofText]
  split at h
  · rename_i hAbsolute
    rw [if_pos hAbsolute]
    exact ⟨j, Nat.le_add_left j i, h⟩
  · rename_i hRelative
    rw [if_neg hRelative]
    exact ⟨i + j, Nat.le_refl _, (hBase.append _).trans h⟩

/-- Written through links that lead nowhere, a file comes to stand where the path found nothing. -/
theorem writeThrough_eq_ok {k n : Nat} {left : List Text} {last : Text}
    (hWrite : tree.writeThrough data k path = .ok saved)
    (hWay : Reaches tree.root n [] (tree.cwd.join path).parts place (last :: left))
    (hEnough : n ≤ mostLinks) (hLacks : Lacks tree.root place last) :
    left = [] ∧ saved = tree.withNode (place ++ [last]) (.file data) := by
  -- On the links that are written through. The next path is the target seen from the directory of the
  -- link: it spells the way behind the link without its dots, and so leads to the same place.
  induction k generalizing path n left with
  | zero => cases hWrite
  | succ k ih =>
    have hNowhere : follow tree.root mostLinks [] (tree.cwd.join path).parts = .error .missing := by
      rw [hWay.follow_eq hEnough, hLacks.follow_cons]
    unfold writeThrough at hWrite
    split at hWrite
    · rename_i found hLocate
      rw [((locate_eq_ok_iff ..).mp hLocate).2.2] at hNowhere
      cases hNowhere
    · obtain ⟨⟨upper, entries⟩, hHolder, hWrite⟩ := (Outcome.bind_eq_ok_iff _ _ _).mp hWrite
      obtain ⟨hLocate, hAt⟩ := (holder_eq_ok_iff ..).mp hHolder
      dsimp only at hWrite
      obtain ⟨i, -, hUpper⟩ := reaches_of_locate hLocate
      have hParts : path.parts ≠ [] := by
        intro hNone
        rw [FilePath.parent_eq_self hNone, locate_eq_ok_iff, hNowhere] at hLocate
        cases hLocate.2.2
      rw [parts_join_parent _ hParts] at hWay
      obtain ⟨j, rfl, hName⟩ := hUpper.rest_of_first hWay hLacks
      have hChild := at?_append_singleton hAt path.name
      split at hWrite
      · rename_i target hTarget
        rw [hTarget] at hChild
        split at hWrite
        · rename_i hFault
          cases hName with
          | here => cases hChild.symm.trans hLacks.none
          | step hLeads hMore => cases hMore.eq_of_nil.2
          | @link j _ _ _ _ _ other hLink hMore =>
            obtain rfl := Node.link.inj (Option.some.inj (hLink.link.symm.trans hChild))
            rw [List.append_nil] at hMore
            have hThin := Thins.filter _ (isPart_of_targetFault? hFault)
            obtain ⟨fewer, hMore, hFewer⟩ := hMore.of_thins hLacks hThin
            obtain ⟨m, hLe, hNext⟩ := reaches_behind hUpper hMore
            rw [FilePath.join_join] at hNext
            obtain ⟨rfl, hSaved⟩ := ih hWrite hNext (by omega)
            exact ⟨hFewer.eq_nil, hSaved⟩
        · obtain ⟨-, -, hWrite⟩ := (Outcome.bind_eq_ok_iff _ _ _).mp hWrite
          cases hWrite
      · rename_i hOther
        cases hWrite
        cases hName with
        | here => exact ⟨rfl, rfl⟩
        | step hLeads hMore => cases hMore.eq_of_nil.2
        | link hLink hMore => exact absurd (hChild.symm.trans hLink.link) (hOther _)
    · cases hWrite

def IsGround (root : Node) (place : List Text) : Prop :=
  ∃ node, root.at? place = some node ∧ ∀ target, node ≠ .link target

theorem at?_dropLast {entries : List (Text × Node)}
    (h : root.at? place = some (.directory entries)) :
    ∃ above, root.at? place.dropLast = some (.directory above) := by
  rcases List.eq_nil_or_concat place with rfl | ⟨upper, last, rfl⟩
  · exact ⟨entries, h⟩
  · rw [List.concat_eq_append] at h
    rw [List.concat_eq_append, List.dropLast_concat]
    exact Node.exists_directory_of_at? h

theorem Leads.isGround (h : Leads root start component place) : IsGround root place := by
  cases h with
  | stay hAt _ => exact ⟨_, hAt, nofun⟩
  | up hAt _ =>
    obtain ⟨above, hAbove⟩ := at?_dropLast hAt
    exact ⟨_, hAbove, nofun⟩
  | down hAt _ _ _ hChild hLink => exact ⟨_, Node.at?_child hAt hChild, hLink⟩

theorem Reaches.isGround {n : Nat} {rest left : List Text} (hTop : IsGround root [])
    (h : Reaches root n start rest place left) (hStart : IsGround root start) : IsGround root place := by
  induction h with
  | here place rest => exact hStart
  | step hLeads _ ih => exact ih hLeads.isGround
  | link hLink _ ih =>
    refine ih ?_
    unfold behind
    split
    · exact hTop
    · obtain ⟨entries, hAt⟩ := hLink.directory
      exact ⟨_, hAt, nofun⟩

theorem node_withNode {n : Nat} {node : Node} (hNull : path.hasNull = false) (hFits : path.fits = true)
    (hWay : Reaches (tree.root.put node place) n [] (tree.cwd.join path).parts place [])
    (hEnough : n ≤ mostLinks) : (tree.withNode place node).node path = .ok node := by
  have hLocate : (tree.withNode place node).locate path = .ok place :=
    (locate_eq_ok_iff ..).mpr ⟨hNull, hFits, hWay.follow_eq_ok hEnough⟩
  exact node_eq_ok hLocate (Node.at?_put_self _ _ _)

/-- A file that is written over another is read back. -/
theorem node_of_overwritten (hLocate : tree.locate path = .ok place)
    (hAt : ∀ entries, tree.root.at? place ≠ some (.directory entries)) (data : List UInt8) :
    (tree.withNode place (.file data)).node path = .ok (.file data) := by
  obtain ⟨hNull, hFits, -⟩ := (locate_eq_ok_iff ..).mp hLocate
  obtain ⟨n, hEnough, hWay⟩ := reaches_of_locate hLocate
  refine node_withNode hNull hFits ?_ hEnough
  by_cases hTop : IsGround tree.root []
  · obtain ⟨node, hNode, hLink⟩ := hWay.isGround hTop hTop
    cases node with
    | link target => exact absurd rfl (hLink target)
    | directory entries => exact absurd hNode (hAt entries)
    | file old => exact hWay.of_stays (Node.stays_put (Node.takesFile_of_file hNode) data)
  · -- a root that is a link is no directory to take a step in
    have hNoStep : ∀ entries, tree.root.at? [] ≠ some (.directory entries) :=
      fun entries hDirectory => hTop ⟨_, hDirectory, nofun⟩
    generalize (tree.cwd.join path).parts = parts at hWay
    cases hWay with
    | here => exact .here _ _
    | step hLeads _ =>
      obtain ⟨entries, hDirectory⟩ := hLeads.at?_eq
      exact absurd hDirectory (hNoStep entries)
    | link hLink _ =>
      obtain ⟨entries, hDirectory⟩ := hLink.directory
      exact absurd hDirectory (hNoStep entries)

/-- A file that is put where a path found nothing is read back by this path. -/
theorem node_of_vacant {n : Nat} {last : Text} (hNull : path.hasNull = false)
    (hFits : path.fits = true)
    (hWay : Reaches tree.root n [] (tree.cwd.join path).parts place [last]) (hEnough : n ≤ mostLinks)
    (hLacks : Lacks tree.root place last) (data : List UInt8) :
    (tree.withNode (place ++ [last]) (.file data)).node path = .ok (.file data) := by
  obtain ⟨⟨⟨entries, hAt⟩, hPart, hDown, hShort⟩, hNone⟩ := hLacks
  rw [at?_append_singleton hAt] at hNone
  have hStays := Node.stays_put (Node.takesFile_of_vacant hAt hNone) data
  obtain ⟨later, hLater, hAlike⟩ := hStays _ _ hAt
  obtain ⟨found, rfl⟩ := hAlike.directory
  have hSelf := Node.at?_put_self tree.root (.file data) (place ++ [last])
  rw [at?_append_singleton hLater] at hSelf
  have hLast := Leads.down hLater hPart hDown hShort hSelf nofun
  exact node_withNode hNull hFits ((hWay.of_stays hStays).trans (.step hLast (.here _ _))) hEnough

theorem node_of_write (h : tree.write path data = .ok saved) : saved.node path = .ok (.file data) := by
  have hThrough : tree.writeThrough data mostLinks path = .ok saved := by
    unfold write at h
    split at h
    · rename_i written hWritten
      cases h
      exact hWritten
    · cases h
  have hAll := hThrough
  unfold mostLinks writeThrough at hThrough
  split at hThrough
  · rename_i place hLocate
    split at hThrough
    · cases hThrough
    · rename_i hOther
      cases hThrough
      exact node_of_overwritten hLocate (fun entries hAt => hOther entries hAt) data
  · rename_i hMissing
    rw [locate_eq] at hMissing
    split at hMissing
    · cases hMissing
    · rename_i hNull
      split at hMissing
      · rename_i hFits
        obtain ⟨n, hEnough, place, last, left, hWay, hLacks⟩ :=
          (explains_follow _ _ _ _).missing hMissing
        obtain ⟨rfl, rfl⟩ := writeThrough_eq_ok hAll hWay hEnough hLacks
        exact node_of_vacant (by simpa using hNull) hFits hWay hEnough hLacks data
      · cases hMissing
  · cases hThrough

end Tree

end AssetAudit.Files
