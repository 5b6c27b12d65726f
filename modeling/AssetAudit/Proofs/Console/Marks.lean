import AssetAudit.Console.Markup
import AssetAudit.Proofs.Console.Lines
import Mathlib.Data.List.TakeWhile

/-!
# What marks leave of a text

A text without brackets is printed as it would be without marks. A text with one style in it is printed
without a fault when the style is ended by its own name. A text without colons and controls stays as it
is where no marks are read.
-/
namespace AssetAudit.Console

variable {s t before content rest : Text}

theorem mark?_of_not_mem (h : '[' ∉ s) : mark? s = none := by
  unfold mark?
  split
  · exact absurd List.mem_cons_self h
  · rfl

theorem piecesFrom_of_not_mem (h : '[' ∉ s) (before : Text) (slashes : Nat) :
    piecesFrom before slashes s =
      plainPiece (s.reverse ++ (List.replicate slashes '\\' ++ before)) := by
  induction s generalizing before slashes with
  | nil => 
    unfold piecesFrom
    rfl
  | cons c rest ih =>
    have hRest : '[' ∉ rest := fun hMem => h (List.mem_cons_of_mem _ hMem)
    unfold piecesFrom
    split
    · rename_i hMark
      rw [mark?_of_not_mem h] at hMark
      cases hMark
    · dsimp only
      split
      · rename_i hSlash
        rw [ih hRest, beq_iff_eq.mp hSlash]
        simp [List.replicate_succ]
      · rw [ih hRest]
        simp

theorem pieces_of_not_mem (h : '[' ∉ s) : pieces s = plainPiece s.reverse := by
  rw [pieces, piecesFrom_of_not_mem h]
  simp

theorem unescaped_of_not_mem (h : '[' ∉ s) : unescaped s = s := by
  fun_induction unescaped s with
  | case1 rest ih => exact absurd (List.mem_cons_of_mem _ List.mem_cons_self) h
  | case2 c rest _ ih => rw [ih fun hMem => h (List.mem_cons_of_mem _ hMem)]
  | case3 => rfl

theorem printPieces_plain (h : '[' ∉ s) (open_ : List Opened) (pieces : List Piece) :
    printPieces open_ (.plain s :: pieces) = (printPieces open_ pieces).map (unmarked s ++ ·) := by
  rw [printPieces, unescaped_of_not_mem h]
  rfl

theorem marked_of_not_mem (h : '[' ∉ s) : marked s = .ok (unmarked s) := by
  rw [marked, pieces_of_not_mem h]
  cases s with
  | nil =>
    unfold unmarked withPictures
    rfl
  | cons c rest =>
    have hPieces : plainPiece (c :: rest).reverse = [.plain (c :: rest)] := by simp [plainPiece]
    rw [hPieces, printPieces_plain h]
    simp [printPieces, Except.map]

/-- No character of a text begins a mark or keeps one from beginning. -/
def IsBare (s : Text) : Prop :=
  ∀ c ∈ s, c ≠ '[' ∧ c ≠ '\\'

instance (s : Text) : Decidable (IsBare s) :=
  List.decidableBAll (fun c => c ≠ '[' ∧ c ≠ '\\') s

theorem IsBare.not_mem (h : IsBare s) : '[' ∉ s :=
  fun hMem => (h _ hMem).1 rfl

theorem IsBare.append (h : IsBare s) (ht : IsBare t) : IsBare (s ++ t) :=
  List.forall_mem_append.mpr ⟨h, ht⟩

theorem isBare_ofNat (n : Nat) : IsBare (Text.ofNat n) := by
  intro c hMem
  have hDigit := Nat.isDigit_of_mem_toDigits (by decide) (by decide) hMem
  constructor
  · rintro rfl
    cases hDigit
  · rintro rfl
    cases hDigit

theorem piecesFrom_bare (h : IsBare s) (before t : Text) :
    piecesFrom before 0 (s ++ t) = piecesFrom (s.reverse ++ before) 0 t := by
  induction s generalizing before with
  | nil => rfl
  | cons c rest ih =>
    obtain ⟨⟨hOpen, hSlash⟩, hRest⟩ := List.forall_mem_cons.mp h
    have hMark : mark? (c :: (rest ++ t)) = none := by
      unfold mark?
      split
      · rename_i hCons
        exact absurd (List.cons.inj hCons).1 hOpen
      · rfl
    rw [List.cons_append, piecesFrom]
    split
    · rename_i hSome
      rw [hMark] at hSome
      cases hSome
    · dsimp only
      rw [if_neg (by simpa using hSlash), List.replicate_zero, List.cons_append, List.nil_append,
        ih hRest, List.reverse_cons, List.append_assoc, List.singleton_append]

theorem piecesFrom_of_mark? (h : mark? s = some (content, rest)) (before : Text) :
    piecesFrom before 0 s = plainPiece before ++ .mark content :: pieces rest := by
  rw [piecesFrom]
  split
  · rename_i hMark
    rw [h] at hMark
    cases hMark
    simp [escapedMark, plainPiece, pieces]
  · rename_i hMark
    rw [h] at hMark
    cases hMark

/-- The name of a style in small letters, as a mark may hold it. -/
structure IsTag (tag : Text) : Prop where
  inner : ∀ c ∈ tag, c ≠ '[' ∧ c ≠ ']' ∧ c ≠ '='
  first : (tag.head?.any fun c => startsMark c && c != '/') = true
  trim : Text.trim tag = tag

instance (tag : Text) : Decidable (IsTag tag) :=
  have : Decidable (∀ c ∈ tag, c ≠ '[' ∧ c ≠ ']' ∧ c ≠ '=') :=
    List.decidableBAll (fun c => c ≠ '[' ∧ c ≠ ']' ∧ c ≠ '=') tag
  decidable_of_iff ((∀ c ∈ tag, c ≠ '[' ∧ c ≠ ']' ∧ c ≠ '=') ∧
      (tag.head?.any fun c => startsMark c && c != '/') = true ∧ Text.trim tag = tag)
    ⟨fun ⟨inner, first, trim⟩ => ⟨inner, first, trim⟩, fun h => ⟨h.inner, h.first, h.trim⟩⟩

theorem IsTag.exists_cons {tag : Text} (h : IsTag tag) :
    ∃ c rest, tag = c :: rest ∧ startsMark c = true ∧ c ≠ '/' := by
  cases tag with
  | nil => cases h.first
  | cons c rest =>
    have hFirst : (startsMark c && c != '/') = true := h.first
    rw [Bool.and_eq_true, bne_iff_ne] at hFirst
    exact ⟨c, rest, rfl, hFirst⟩

theorem markRest?_append (h : ∀ c ∈ s, c ≠ '[' ∧ c ≠ ']') (t : Text) :
    markRest? (s ++ ']' :: t) = some (s, t) := by
  induction s with
  | nil => rfl
  | cons c rest ih =>
    obtain ⟨⟨hOpen, hClose⟩, hRest⟩ := List.forall_mem_cons.mp h
    rw [List.cons_append, markRest?, ih hRest]
    · rfl
    · exact hClose
    · exact hOpen

theorem mark?_append {c : Char} (hFirst : startsMark c = true) (h : ∀ c ∈ s, c ≠ '[' ∧ c ≠ ']')
    (t : Text) : mark? ('[' :: c :: (s ++ ']' :: t)) = some (c :: s, t) := by
  rw [mark?, if_pos hFirst, markRest?_append h]
  rfl

def styled (lead tag body tail : Text) : Text :=
  lead ++ '[' :: (tag ++ ']' :: (body ++ '[' :: '/' :: (tag ++ ']' :: tail)))

variable {lead tag body tail : Text}

theorem pieces_styled (hTag : IsTag tag) (hLead : IsBare lead) (hBody : IsBare body)
    (hTail : '[' ∉ tail) :
    pieces (styled lead tag body tail) = plainPiece lead.reverse ++ .mark tag ::
      (plainPiece body.reverse ++ .mark ('/' :: tag) :: plainPiece tail.reverse) := by
  have hInner : ∀ c ∈ tag, c ≠ '[' ∧ c ≠ ']' := fun c hMem =>
    ⟨(hTag.inner c hMem).1, (hTag.inner c hMem).2.1⟩
  have hEnd : mark? ('[' :: '/' :: (tag ++ ']' :: tail)) = some ('/' :: tag, tail) :=
    mark?_append rfl hInner tail
  have hBegin : ∀ t, mark? ('[' :: (tag ++ ']' :: t)) = some (tag, t) := by
    obtain ⟨c, rest, rfl, hFirst, -⟩ := hTag.exists_cons
    exact fun t => mark?_append hFirst (fun d hMem => hInner d (List.mem_cons_of_mem _ hMem)) t
  rw [pieces, styled, piecesFrom_bare hLead, List.append_nil, piecesFrom_of_mark? (hBegin _), pieces,
    piecesFrom_bare hBody, List.append_nil, piecesFrom_of_mark? hEnd, pieces_of_not_mem hTail]

theorem unmarked_nil : unmarked [] = [] := by
  unfold unmarked withPictures
  rfl

theorem printPieces_plainPiece (h : '[' ∉ s) (open_ : List Opened) (pieces : List Piece) :
    printPieces open_ (plainPiece s.reverse ++ pieces) =
      (printPieces open_ pieces).map (unmarked s ++ ·) := by
  cases s with
  | nil =>
    rw [unmarked_nil]
    change printPieces open_ pieces = _
    cases printPieces open_ pieces with
    | error fault => rfl
    | ok printed => rfl
  | cons c rest =>
    have hPiece : plainPiece (c :: rest).reverse = [.plain (c :: rest)] := by simp [plainPiece]
    rw [hPiece, List.singleton_append, printPieces_plain h]

theorem splitMark_of_not_mem (h : '=' ∉ content) : splitMark content = ⟨content, none⟩ := by
  have hName : content.takeWhile (· != '=') = content := by
    rw [List.takeWhile_eq_self_iff]
    intro c hMem
    exact bne_iff_ne.mpr fun hEq => h (hEq ▸ hMem)
  simp [splitMark, hName]

/-- One style that is ended by its name leaves the text around and inside it. -/
theorem marked_styled (hTag : IsTag tag) (hLead : IsBare lead) (hBody : IsBare body)
    (hTail : '[' ∉ tail) :
    marked (styled lead tag body tail) = .ok (unmarked lead ++ (unmarked body ++ unmarked tail)) := by
  have hSplit : splitMark tag = ⟨tag, none⟩ :=
    splitMark_of_not_mem fun hMem => (hTag.inner _ hMem).2.2 rfl
  have hSplitEnd : splitMark ('/' :: tag) = ⟨'/' :: tag, none⟩ := by
    refine splitMark_of_not_mem fun hMem => ?_
    rcases List.mem_cons.mp hMem with hEq | hMem
    · exact absurd hEq (by decide)
    · exact (hTag.inner _ hMem).2.2 rfl
  have hTailPrints : printPieces [] (plainPiece tail.reverse) = .ok (unmarked tail) := by
    have hPrints := printPieces_plainPiece hTail [] []
    rw [List.append_nil] at hPrints
    simpa [printPieces, Except.map] using hPrints
  have hClose : ∀ pieces, printPieces [⟨styleName tag, none⟩] (.mark ('/' :: tag) :: pieces) =
      printPieces [] pieces := by
    intro pieces
    have hSome : tag.isEmpty = false := by
      obtain ⟨c, rest, rfl, -, -⟩ := hTag.exists_cons
      rfl
    rw [printPieces, hSplitEnd]
    simp [hTag.trim, closeMark, hSome, closeNamed?, checkAction, Except.map, bind, Except.bind]
  have hOpen : ∀ pieces, printPieces [] (.mark tag :: pieces) =
      printPieces [⟨styleName tag, none⟩] pieces := by
    intro pieces
    obtain ⟨c, rest, rfl, -, hSlash⟩ := hTag.exists_cons
    rw [printPieces, hSplit]
    dsimp only
    split
    · rename_i name hName
      exact absurd (List.cons.inj hName).1 hSlash
    · rfl
  rw [marked, pieces_styled hTag hLead hBody hTail, printPieces_plainPiece hLead.not_mem, hOpen,
    printPieces_plainPiece hBody.not_mem, hClose, hTailPrints]
  rfl

def IsLiteral (s : Text) : Prop :=
  ∀ c ∈ s, c ≠ ':' ∧ isSilent c = false ∧ c ≠ '\t' ∧ Unicode.isLineEnd c.toNat = false

instance (s : Text) : Decidable (IsLiteral s) :=
  List.decidableBAll
    (fun c => c ≠ ':' ∧ isSilent c = false ∧ c ≠ '\t' ∧ Unicode.isLineEnd c.toNat = false) s

theorem IsLiteral.isOneLine (h : IsLiteral s) : s.IsOneLine :=
  fun c hMem => (h c hMem).2.2

theorem withPictures_append (h : ':' ∉ s) (t : Text) : withPictures (s ++ t) = s ++ withPictures t := by
  induction s with
  | nil => rfl
  | cons c rest ih =>
    have hFirst : ¬(c == ':') = true := fun hEq => h (beq_iff_eq.mp hEq ▸ List.mem_cons_self)
    rw [List.cons_append, withPictures, if_neg hFirst, ih fun hMem => h (List.mem_cons_of_mem _ hMem)]
    rfl

theorem unmarked_append (h : IsLiteral s) (t : Text) : unmarked (s ++ t) = s ++ unmarked t := by
  have hAudible : audible s = s := by
    rw [audible, List.filter_eq_self]
    intro c hMem
    rw [(h c hMem).2.1]
    rfl
  rw [unmarked, withPictures_append fun hMem => (h _ hMem).1 rfl, audible, List.filter_append]
  exact congrArg (· ++ unmarked t) hAudible

theorem unmarked_of_isLiteral (h : IsLiteral s) : unmarked s = s := by
  have hAppend := unmarked_append h []
  rwa [unmarked_nil, List.append_nil] at hAppend

end AssetAudit.Console
