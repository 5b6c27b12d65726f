import AssetAudit.Proofs.Files.Places
import AssetAudit.Proofs.Path.Spelling

/-!
# Ways through a tree

A path is followed from a place and the components that are left to another place and what is left
there. The links on the way are counted: with enough links left, the rest of the path decides where it
leads. A way without links can be read off the text of the path.
-/
namespace AssetAudit

namespace FilePath

/-- How many bytes components take when each one is followed by a slash. -/
def byteWeight : List Text → Nat
  | [] => 0
  | part :: rest => (Text.utf8 part).length + 1 + byteWeight rest

theorem byteWeight_append (upper lower : List Text) :
    byteWeight (upper ++ lower) = byteWeight upper + byteWeight lower := by
  induction upper with
  | nil => exact (Nat.zero_add _).symm
  | cons part rest ih =>
    rw [List.cons_append, byteWeight, byteWeight, ih]
    exact (Nat.add_assoc _ _ _).symm

theorem byteWeight_dropLast (parts : List Text) : byteWeight parts.dropLast ≤ byteWeight parts := by
  rcases List.eq_nil_or_concat parts with rfl | ⟨upper, last, rfl⟩
  · exact Nat.le_refl _
  · rw [List.concat_eq_append, List.dropLast_concat, byteWeight_append]
    exact Nat.le_add_right _ _

theorem byteWeight_step (base : List Text) (part : Text) :
    byteWeight (Path.step base part) ≤ byteWeight base + byteWeight [part] := by
  unfold Path.step
  split
  · exact Nat.le_add_right _ _
  · split
    · exact Nat.le_trans (byteWeight_dropLast base) (Nat.le_add_right _ _)
    · exact Nat.le_of_eq (byteWeight_append base [part])

theorem byteWeight_foldl_step (base parts : List Text) :
    byteWeight (parts.foldl Path.step base) ≤ byteWeight base + byteWeight parts := by
  induction parts generalizing base with
  | nil => exact Nat.le_refl _
  | cons part rest ih =>
    have hStep := byteWeight_step base part
    have hRest := ih (Path.step base part)
    have hCons : byteWeight (part :: rest) = byteWeight [part] + byteWeight rest :=
      byteWeight_append [part] rest
    rw [List.foldl_cons, hCons]
    omega

theorem length_utf8_join (parts : List Text) :
    (Text.utf8 (Text.join ['/'] parts)).length = byteWeight parts - 1 := by
  induction parts with
  | nil => rfl
  | cons part rest ih =>
    cases rest with
    | nil => exact (Nat.add_sub_cancel _ 1).symm
    | cons next rest =>
      have hJoin : Text.join ['/'] (part :: next :: rest) =
          part ++ '/' :: Text.join ['/'] (next :: rest) := by simp [Text.join]
      have hCons : byteWeight (part :: next :: rest) =
          (Text.utf8 part).length + 1 + byteWeight (next :: rest) := rfl
      have hPositive : 0 < byteWeight (next :: rest) := by
        rw [byteWeight]
        omega
      have hSlash : Text.utf8 ('/' :: Text.join ['/'] (next :: rest)) =
          47 :: Text.utf8 (Text.join ['/'] (next :: rest)) := rfl
      rw [hJoin, Text.utf8, List.flatMap_append, ← Text.utf8, ← Text.utf8, List.length_append,
        hSlash, List.length_cons, ih, hCons]
      omega

theorem byteWeight_le_of_fits {p : FilePath} (h : p.fits = true) :
    byteWeight p.parts ≤ Files.Tree.longestPath + 1 := by
  unfold fits text at h
  simp only [Bool.not_eq_eq_eq_not, Bool.not_true, decide_eq_false_iff_not] at h
  split at h
  · rename_i hNone
    rw [List.isEmpty_iff.mp ((Bool.and_eq_true _ _).mp hNone).2]
    exact Nat.zero_le _
  · rw [Text.utf8, List.flatMap_append, List.length_append, ← Text.utf8, ← Text.utf8,
      length_utf8_join] at h
    omega

theorem byteWeight_child (p : FilePath) {name : Text} (h : isPart name = true) :
    byteWeight p.parts + 2 ≤ byteWeight (p.child name).parts := by
  obtain ⟨c, rest, rfl⟩ := List.exists_cons_of_ne_nil ((isPart_iff name).mp h).1
  have hChar : 0 < (Text.utf8Char c).length := by
    unfold Text.utf8Char
    dsimp only
    split
    · exact Nat.zero_lt_one
    · split
      · exact Nat.two_pos
      · split
        · exact Nat.succ_pos 2
        · exact Nat.succ_pos 3
  rw [child, byteWeight_append, byteWeight, byteWeight, Text.utf8, List.flatMap_cons,
    List.length_append]
  omega

theorem fits_straightened {p : FilePath} (hAbsolute : p.isAbsolute = true) (h : p.fits = true) :
    p.straightened.fits = true := by
  have hStraight : p.straightened.isAbsolute = true := hAbsolute
  have hWeight := byteWeight_foldl_step [] p.parts
  unfold fits at h ⊢
  rw [text_of_absolute hAbsolute, Text.utf8, List.flatMap_append, List.length_append, ← Text.utf8,
    ← Text.utf8, length_utf8_join] at h
  rw [text_of_absolute hStraight, Text.utf8, List.flatMap_append, List.length_append, ← Text.utf8,
    ← Text.utf8, length_utf8_join, straightened]
  have hNone : byteWeight [] = 0 := rfl
  simp only [Bool.not_eq_eq_eq_not, Bool.not_true, decide_eq_false_iff_not] at h ⊢
  omega

theorem hasNull_iff (p : FilePath) :
    p.hasNull = true ↔ Char.ofNat 0 ∈ p.root ∨ ∃ part ∈ p.parts, Char.ofNat 0 ∈ part := by
  have hSlash : Char.ofNat 0 ≠ '/' := by decide
  have hDot : Char.ofNat 0 ≠ '.' := by decide
  unfold hasNull text
  rw [List.contains_iff_mem]
  split
  · rename_i hNone
    obtain ⟨hRoot, hParts⟩ := (Bool.and_eq_true _ _).mp hNone
    rw [List.isEmpty_iff.mp hRoot, List.isEmpty_iff.mp hParts]
    simp [hDot]
  · rw [List.mem_append, mem_join_iff _ hSlash]

theorem hasNull_straightened {p : FilePath} (h : p.hasNull = false) :
    p.straightened.hasNull = false := by
  rw [Bool.eq_false_iff, ne_eq, hasNull_iff, not_or] at h ⊢
  refine ⟨h.1, ?_⟩
  rintro ⟨part, hMem, hNull⟩
  exact h.2 ⟨part, mem_of_mem_straightened hMem, hNull⟩

end FilePath

namespace Files.Tree

variable {root : Node} {start place : List Text} {component target : Text}

structure Asks (root : Node) (start : List Text) (component : Text) : Prop where
  directory : ∃ entries, root.at? start = some (.directory entries)
  part : ¬(component = [] ∨ component = ['.'])
  down : component ≠ ['.', '.']
  short : isLongName component = false

structure LinksTo (root : Node) (start : List Text) (component target : Text) : Prop
    extends Asks root start component where
  link : root.at? (start ++ [component]) = some (.link target)

structure Lacks (root : Node) (start : List Text) (component : Text) : Prop
    extends Asks root start component where
  none : root.at? (start ++ [component]) = none

def behind (start : List Text) (target : Text) : List Text :=
  if Path.isAbsolute target then [] else start

theorem at?_append_singleton {entries : List (Text × Node)}
    (h : root.at? start = some (.directory entries)) (component : Text) :
    root.at? (start ++ [component]) = (Node.directory entries).child? component := by
  rw [Node.at?_append, h, Option.bind_some, Node.at?]
  cases (Node.directory entries).child? component <;> rfl

theorem Asks.followUntil_eq (h : Asks root start component)
    (onLink : List Text → List Text → Except Fault (List Text)) (rest : List Text) :
    followUntil root onLink start (component :: rest) =
      match root.at? (start ++ [component]) with
      | none => .error .missing
      | some (.link target) => onLink (behind start target) (Text.splitOn '/' target ++ rest)
      | some _ => followUntil root onLink (start ++ [component]) rest := by
  obtain ⟨⟨entries, hAt⟩, hPart, hDown, hShort⟩ := h
  rw [followUntil, hAt, at?_append_singleton hAt]
  dsimp only
  rw [if_neg hPart, if_neg hDown, if_neg (by simp [hShort])]
  cases (Node.directory entries).child? component with
  | none => rfl
  | some child => cases child <;> rfl

theorem LinksTo.followUntil_eq (h : LinksTo root start component target)
    (onLink : List Text → List Text → Except Fault (List Text)) (rest : List Text) :
    followUntil root onLink start (component :: rest) =
      onLink (behind start target) (Text.splitOn '/' target ++ rest) := by
  rw [h.toAsks.followUntil_eq, h.link]

theorem Lacks.followUntil_eq (h : Lacks root start component)
    (onLink : List Text → List Text → Except Fault (List Text)) (rest : List Text) :
    followUntil root onLink start (component :: rest) = .error .missing := by
  rw [h.toAsks.followUntil_eq, h.none]

theorem Asks.leads (h : Asks root start component) {child : Node}
    (hAt : root.at? (start ++ [component]) = some child) (hLink : ∀ target, child ≠ .link target) :
    Leads root start component (start ++ [component]) := by
  obtain ⟨⟨entries, hDirectory⟩, hPart, hDown, hShort⟩ := h
  rw [at?_append_singleton hDirectory] at hAt
  exact .down hDirectory hPart hDown hShort hAt hLink

/-- What can happen at a component: it leads on, to a link or nowhere, or the path cannot be followed
for another reason. -/
theorem component_cases (root : Node) (start : List Text) (component : Text) :
    (∃ next, Leads root start component next) ∨ (∃ target, LinksTo root start component target) ∨
      Lacks root start component ∨ ∃ fault, fault ≠ .missing ∧
        ∀ onLink rest, followUntil root onLink start (component :: rest) = .error fault := by
  have hNotDirectory : Fault.notADirectory ≠ .missing := by decide
  have hTooLong : Fault.nameTooLong ≠ .missing := by decide
  cases hAt : root.at? start with
  | none => exact .inr (.inr (.inr ⟨_, hNotDirectory, fun _ _ => by rw [followUntil, hAt]⟩))
  | some node =>
    cases node with
    | file data => exact .inr (.inr (.inr ⟨_, hNotDirectory, fun _ _ => by rw [followUntil, hAt]⟩))
    | link other => exact .inr (.inr (.inr ⟨_, hNotDirectory, fun _ _ => by rw [followUntil, hAt]⟩))
    | directory entries =>
      by_cases hSame : component = [] ∨ component = ['.']
      · exact .inl ⟨start, .stay hAt hSame⟩
      by_cases hUp : component = ['.', '.']
      · exact .inl ⟨start.dropLast, .up hAt hUp⟩
      by_cases hLong : isLongName component = true
      · refine .inr (.inr (.inr ⟨_, hTooLong, fun onLink rest => ?_⟩))
        rw [followUntil, hAt]
        dsimp only
        rw [if_neg hSame, if_neg hUp, if_pos hLong]
      have hAsks : Asks root start component :=
        ⟨⟨entries, hAt⟩, hSame, hUp, Bool.eq_false_iff.mpr hLong⟩
      cases hChild : root.at? (start ++ [component]) with
      | none => exact .inr (.inr (.inl ⟨hAsks, hChild⟩))
      | some child =>
        cases child with
        | link target => exact .inr (.inl ⟨target, hAsks, hChild⟩)
        | file data =>
          refine .inl ⟨_, hAsks.leads hChild ?_⟩
          rintro target ⟨⟩
        | directory below =>
          refine .inl ⟨_, hAsks.leads hChild ?_⟩
          rintro target ⟨⟩

theorem follow_nil (root : Node) (k : Nat) (start : List Text) :
    follow root k start [] = .ok start := by
  cases k <;> rfl

/-- The next step of `follow` at any number of links that are left. -/
theorem Leads.follow_cons (h : Leads root start component place) (k : Nat) (rest : List Text) :
    follow root k start (component :: rest) = follow root k place rest := by
  cases k with
  | zero => exact h.followUntil_eq rest
  | succ k => exact h.followUntil_eq rest

theorem Lacks.follow_cons (h : Lacks root start component) (k : Nat) (rest : List Text) :
    follow root k start (component :: rest) = .error .missing := by
  cases k with
  | zero => exact h.followUntil_eq _ rest
  | succ k => exact h.followUntil_eq _ rest

/-- A path leads from a place and components to a place and what is left of the components, over so
many links. -/
inductive Reaches (root : Node) : Nat → List Text → List Text → List Text → List Text → Prop
  | here (place rest : List Text) : Reaches root 0 place rest place rest
  | step {links : Nat} {start next place rest left : List Text} {component : Text}
      (h : Leads root start component next) (more : Reaches root links next rest place left) :
      Reaches root links start (component :: rest) place left
  | link {links : Nat} {start place rest left : List Text} {component target : Text}
      (h : LinksTo root start component target)
      (more : Reaches root links (behind start target) (Text.splitOn '/' target ++ rest) place left) :
      Reaches root (links + 1) start (component :: rest) place left

namespace Reaches

variable {n m : Nat} {rest left last more : List Text}

theorem append (h : Reaches root n start rest place left) (more : List Text) :
    Reaches root n start (rest ++ more) place (left ++ more) := by
  induction h with
  | here place rest => exact .here _ _
  | step hLeads _ ih => exact .step hLeads ih
  | link hLink _ ih =>
    rw [List.append_assoc] at ih
    exact .link hLink ih

theorem trans {middle : List Text} (h : Reaches root n start rest middle left)
    (h' : Reaches root m middle left place last) : Reaches root (n + m) start rest place last := by
  induction h with
  | here place rest => simpa using h'
  | step hLeads _ ih => exact .step hLeads (ih h')
  | link hLink _ ih =>
    have hMore := ih h'
    rw [Nat.add_right_comm]
    exact .link hLink hMore

/-- With enough links left, what is left of a path decides where it leads. -/
theorem follow_eq (h : Reaches root n start rest place left) {k : Nat} (hEnough : n ≤ k) :
    follow root k start rest = follow root (k - n) place left := by
  induction h generalizing k with
  | here place rest => rfl
  | step hLeads _ ih => rw [hLeads.follow_cons, ih hEnough]
  | link hLink _ ih =>
    obtain ⟨k, rfl⟩ := Nat.exists_eq_add_one_of_ne_zero (Nat.ne_zero_of_lt hEnough)
    rw [Nat.add_sub_add_right, ← ih (Nat.le_of_succ_le_succ hEnough)]
    exact hLink.followUntil_eq _ _

theorem follow_eq_ok (h : Reaches root n start rest place []) {k : Nat} (hEnough : n ≤ k) :
    follow root k start rest = .ok place := by
  rw [h.follow_eq hEnough, follow_nil]

/-- A way to the end of two stretches of a path goes through the end of the first one. -/
theorem exists_middle {first second : List Text} (h : Reaches root n start (first ++ second) place []) :
    ∃ i j middle, n = i + j ∧ Reaches root i start first middle [] ∧
      Reaches root j middle second place [] := by
  -- Along the way, for every first stretch: a link in it puts the components of its target before
  -- what is left of the stretch.
  generalize hAll : first ++ second = all at h
  generalize hLeft : ([] : List Text) = left at h
  induction h generalizing first with
  | here place rest =>
    subst hLeft
    obtain ⟨rfl, rfl⟩ := List.append_eq_nil_iff.mp hAll
    exact ⟨0, 0, place, rfl, .here _ _, .here _ _⟩
  | @step links start next place rest left component hLeads hMore ih =>
    cases first with
    | nil =>
      obtain rfl : second = component :: rest := hAll
      subst hLeft
      exact ⟨0, links, start, (Nat.zero_add _).symm, .here _ _, .step hLeads hMore⟩
    | cons name first =>
      obtain ⟨rfl, hRest⟩ := List.cons.inj hAll
      obtain ⟨i, j, middle, hCount, hFirst, hSecond⟩ := ih hRest hLeft
      exact ⟨i, j, middle, hCount, .step hLeads hFirst, hSecond⟩
  | @link links start place rest left component target hLink hMore ih =>
    cases first with
    | nil =>
      obtain rfl : second = component :: rest := hAll
      subst hLeft
      exact ⟨0, links + 1, start, (Nat.zero_add _).symm, .here _ _, .link hLink hMore⟩
    | cons name first =>
      obtain ⟨rfl, hRest⟩ := List.cons.inj hAll
      have hSplit : (Text.splitOn '/' target ++ first) ++ second = Text.splitOn '/' target ++ rest := by
        rw [List.append_assoc]
        exact congrArg _ hRest
      obtain ⟨i, j, middle, hCount, hFirst, hSecond⟩ := ih hSplit hLeft
      exact ⟨i + 1, j, middle, by omega, .link hLink hFirst, hSecond⟩

end Reaches

/-- What comes out of a path tells where it leads, or at which component there is nothing, over no more
links than so many. -/
structure Explains (root : Node) (most : Nat) (start rest : List Text)
    (outcome : Except Fault (List Text)) : Prop where
  ok : ∀ place, outcome = .ok place → ∃ n ≤ most, Reaches root n start rest place []
  missing : outcome = .error .missing → ∃ n ≤ most, ∃ place component left,
    Reaches root n start rest place (component :: left) ∧ Lacks root place component

theorem explains_of_ne {most : Nat} {start rest : List Text} {fault : Fault} (h : fault ≠ .missing) :
    Explains root most start rest (.error fault) where
  ok _ hOk := nomatch hOk
  missing hMissing := absurd (Except.error.inj hMissing) h

theorem Leads.explains {most : Nat} {start next rest : List Text}
    {outcome : Except Fault (List Text)} (hLeads : Leads root start component next)
    (h : Explains root most next rest outcome) :
    Explains root most start (component :: rest) outcome where
  ok place hOk := by
    obtain ⟨n, hLe, hWay⟩ := h.ok place hOk
    exact ⟨n, hLe, .step hLeads hWay⟩
  missing hMissing := by
    obtain ⟨n, hLe, place, name, left, hWay, hLacks⟩ := h.missing hMissing
    exact ⟨n, hLe, place, name, left, .step hLeads hWay, hLacks⟩

theorem LinksTo.explains {most : Nat} {start rest : List Text}
    {outcome : Except Fault (List Text)} (hLink : LinksTo root start component target)
    (h : Explains root most (behind start target) (Text.splitOn '/' target ++ rest) outcome) :
    Explains root (most + 1) start (component :: rest) outcome where
  ok place hOk := by
    obtain ⟨n, hLe, hWay⟩ := h.ok place hOk
    exact ⟨n + 1, Nat.succ_le_succ hLe, .link hLink hWay⟩
  missing hMissing := by
    obtain ⟨n, hLe, place, name, left, hWay, hLacks⟩ := h.missing hMissing
    exact ⟨n + 1, Nat.succ_le_succ hLe, place, name, left, .link hLink hWay, hLacks⟩

-- `follow` is a recursion on the links around one on the components, and so is the proof.
theorem explains_followUntil {most : Nat}
    {onLink : List Text → List Text → Except Fault (List Text)}
    (hOnLink : ∀ {start component target}, LinksTo root start component target → ∀ rest,
      Explains root most start (component :: rest)
        (onLink (behind start target) (Text.splitOn '/' target ++ rest)))
    (start rest : List Text) : Explains root most start rest (followUntil root onLink start rest) := by
  induction rest generalizing start with
  | nil =>
    refine ⟨?_, nofun⟩
    rintro place ⟨⟩
    exact ⟨0, Nat.zero_le _, .here _ _⟩
  | cons component rest ih =>
    rcases component_cases root start component with
      ⟨next, hLeads⟩ | ⟨target, hLink⟩ | hLacks | ⟨fault, hFault, hStuck⟩
    · rw [hLeads.followUntil_eq]
      exact hLeads.explains (ih next)
    · rw [hLink.followUntil_eq]
      exact hOnLink hLink rest
    · rw [hLacks.followUntil_eq]
      exact ⟨nofun, fun _ => ⟨0, Nat.zero_le _, start, component, rest, .here _ _, hLacks⟩⟩
    · rw [hStuck]
      exact explains_of_ne hFault

/-- Every path that leads somewhere, or to nothing, is followed over no more links than are left. -/
theorem explains_follow (root : Node) (k : Nat) (start rest : List Text) :
    Explains root k start rest (follow root k start rest) := by
  induction k generalizing start rest with
  | zero =>
    refine explains_followUntil ?_ start rest
    intro start component target _ rest
    exact explains_of_ne nofun
  | succ k ih =>
    refine explains_followUntil ?_ start rest
    intro start component target hLink rest
    exact hLink.explains (ih _ _)

/-- A place whose names lead down to it one after another. -/
structure IsStraight (root : Node) (place : List Text) : Prop where
  names : ∀ name ∈ place, FilePath.isPart name = true ∧ name ≠ ['.', '.'] ∧ isLongName name = false
  nodes : ∀ upper lower, upper ++ lower = place →
    ∃ node, root.at? upper = some node ∧ ∀ target, node ≠ .link target

namespace IsStraight

theorem top (root : Node) (h : ∀ target, root ≠ .link target) : IsStraight root [] where
  names := nofun
  nodes upper lower hEq := by
    obtain ⟨rfl, -⟩ := List.append_eq_nil_iff.mp hEq
    exact ⟨root, rfl, h⟩

theorem dropLast (h : IsStraight root place) : IsStraight root place.dropLast where
  names name hMem := h.names name (List.dropLast_subset _ hMem)
  nodes upper lower hEq := by
    obtain ⟨rest, hRest⟩ := List.dropLast_prefix place
    exact h.nodes upper (lower ++ rest) (by rw [← List.append_assoc, hEq, hRest])

theorem snoc (h : IsStraight root place) (hLeads : Leads root place component (place ++ [component])) :
    IsStraight root (place ++ [component]) := by
  generalize hNext : place ++ [component] = next at hLeads
  cases hLeads with
  | stay hAt hSame => simp at hNext
  | up hAt hUp =>
    have hLength := congrArg List.length hNext
    simp at hLength
    omega
  | down hAt hPart hDown hShort hChild hLink =>
    rename_i entries child
    constructor
    · intro name hMem
      rcases List.mem_append.mp hMem with hMem | hMem
      · exact h.names name hMem
      · obtain rfl := List.mem_singleton.mp hMem
        exact ⟨(FilePath.isPart_iff name).mpr (not_or.mp hPart), hDown, hShort⟩
    · intro upper lower hEq
      rcases List.eq_nil_or_concat lower with rfl | ⟨lower, last, rfl⟩
      · rw [List.append_nil] at hEq
        subst hEq
        exact ⟨child, Node.at?_child hAt hChild, hLink⟩
      · rw [List.concat_eq_append, ← List.append_assoc] at hEq
        exact h.nodes upper lower (List.append_inj_left' hEq rfl)

theorem leads {upper lower : List Text} {name : Text} (h : IsStraight root place)
    (hPlace : upper ++ name :: lower = place) : Leads root upper name (upper ++ [name]) := by
  subst hPlace
  obtain ⟨hPart, hDown, hShort⟩ := h.names name (by simp)
  obtain ⟨child, hChild, hLink⟩ := h.nodes (upper ++ [name]) lower (by simp)
  obtain ⟨node, hAt, -⟩ := h.nodes upper (name :: lower) rfl
  rw [Node.at?_append, hAt, Option.bind_some, Node.at?] at hChild
  cases node with
  | file data => cases hChild
  | link target => cases hChild
  | directory entries =>
    refine .down hAt (not_or.mpr ((FilePath.isPart_iff name).mp hPart)) hDown hShort ?_ hLink
    cases hFound : (Node.directory entries).child? name with
    | none =>
      rw [hFound] at hChild
      cases hChild
    | some found =>
      rw [hFound] at hChild
      exact hChild

theorem reaches (h : IsStraight root place) : Reaches root 0 [] place place [] := by
  have hFrom : ∀ lower upper, upper ++ lower = place → Reaches root 0 upper lower place [] := by
    intro lower
    induction lower with
    | nil =>
      intro upper hEq
      rw [List.append_nil] at hEq
      subst hEq
      exact .here _ _
    | cons name lower ih =>
      intro upper hEq
      exact .step (h.leads hEq) (ih (upper ++ [name]) (by simpa using hEq))
  exact hFrom place [] rfl

end IsStraight

theorem Leads.straight (h : Leads root start component place) (hStart : IsStraight root start) :
    place = Path.step start component ∧ IsStraight root place := by
  have hAll := h
  cases h with
  | stay hAt hSame => exact ⟨(if_pos hSame).symm, hStart⟩
  | up hAt hUp =>
    subst hUp
    exact ⟨rfl, hStart.dropLast⟩
  | down hAt hPart hDown hShort hChild hLink =>
    refine ⟨?_, hStart.snoc hAll⟩
    rw [Path.step, if_neg hPart, if_neg hDown]

/-- A way without links ends where the components lead by their text. -/
theorem Reaches.straight {rest left : List Text} (h : Reaches root 0 start rest place left)
    (hStart : IsStraight root start) :
    IsStraight root place ∧ ∃ used, rest = used ++ left ∧ place = used.foldl Path.step start := by
  generalize hNone : 0 = links at h
  induction h with
  | here place rest => exact ⟨hStart, [], rfl, rfl⟩
  | step hLeads _ ih =>
    rename_i component _
    obtain ⟨hNext, hStraight⟩ := hLeads.straight hStart
    obtain ⟨hPlace, used, hUsed, hFold⟩ := ih hStraight hNone
    refine ⟨hPlace, component :: used, by rw [hUsed, List.cons_append], ?_⟩
    rw [hFold, hNext, List.foldl_cons]
  | link hLink _ ih => cases hNone

/-- A path that meets no link leads where the straightened path leads. -/
theorem locate_straightened {tree : Tree} {path : FilePath} (hAbsolute : path.isAbsolute = true)
    (hRoot : ∀ target, tree.root ≠ .link target)
    (hWay : ∃ place, follow tree.root 0 [] path.parts = .ok place)
    (h : tree.locate path = .ok place) : tree.locate path.straightened = .ok place := by
  have hStraight : path.straightened.isAbsolute = true := hAbsolute
  have hSeen : ∀ p : FilePath, p.isAbsolute = true → tree.cwd.join p = p := by
    intro p hp
    rw [FilePath.join, if_pos hp]
  obtain ⟨hNull, hFits, hFollow⟩ := (locate_eq_ok_iff ..).mp h
  rw [hSeen _ hAbsolute] at hFollow
  obtain ⟨last, hEnd⟩ := hWay
  obtain ⟨n, hLinks, hReaches⟩ := (explains_follow tree.root 0 [] path.parts).ok last hEnd
  obtain rfl := Nat.le_zero.mp hLinks
  obtain rfl : place = last :=
    Except.ok.inj (hFollow.symm.trans (hReaches.follow_eq_ok (Nat.zero_le mostLinks)))
  obtain ⟨hPlace, used, hUsed, hFold⟩ := hReaches.straight (.top tree.root hRoot)
  rw [List.append_nil] at hUsed
  subst hUsed
  refine (locate_eq_ok_iff ..).mpr ⟨FilePath.hasNull_straightened hNull,
    FilePath.fits_straightened hAbsolute hFits, ?_⟩
  have hParts : path.straightened.parts = place := hFold.symm
  rw [hSeen _ hStraight, hParts]
  exact hPlace.reaches.follow_eq_ok (Nat.zero_le mostLinks)

end Files.Tree

end AssetAudit
