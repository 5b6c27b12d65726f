import AssetAudit.Proofs.Regex.Ends
import AssetAudit.Proofs.Whitelist.Kinds

/-!
# Expressions between slashes

However many slashes and line feeds a body has, an expression between slashes is taken apart at the last
slash before its flag letters, as a greedy match of the whole pattern does. Behind the gate it is compiled
from its body with the flags that its letters choose, and without such letters it is the same expression as
behind the mark.
-/
namespace AssetAudit.Whitelist

open Regex (Anchor Behind Cursor Ends Expr Flags run)

variable {body letters pattern : Text} {flags : Flags}

def literalExpression : Text :=
  "^/(.*)/([dgimsuvy]*)$".toList

def literalBody : Expr :=
  .group (some 1) {} {} (.many .greedy 0 none .anyChar)

def literalLetters : Expr :=
  .group (some 2) {} {} (.many .greedy 0 none
    (.set false ("dgimsuvy".toList.map fun c => .code c.toNat)))

def literalExpr : Expr :=
  .sequence [.anchor .lineStart, .code '/'.toNat, literalBody, .code '/'.toNat, literalLetters,
    .anchor .lineEnd]

theorem compile_literalExpression : Regex.compile literalExpression { dotAll := true } =
    .ok { pattern := literalExpression, flags := { dotAll := true, unicode := true }, expr := literalExpr } :=
  rfl

def literalGroups (pattern : Text) : Option (Option Text × Option Text) :=
  (run [1, 2] literalExpr { dotAll := true, unicode := true } (Cursor.start pattern) some).map
    fun last => (last.group? 1, last.group? 2)

section Groups

variable {kept : List Nat}

theorem ends_literalBody (hAll : flags.dotAll = true) (hKept : kept.contains 1 = true) :
    Ends kept flags literalBody fun c next =>
      ∃ u rest, c.after = u ++ rest ∧ next = (c.past u).remember 1 u := by
  apply ((Regex.ends_anyChar hAll).many.remembered hKept).congr
  simp

theorem ends_literalLetters (hCase : flags.ignoreCase = false) (hKept : kept.contains 2 = true) :
    Ends kept flags literalLetters fun c next =>
      ∃ u rest, c.after = u ++ rest ∧ (∀ x ∈ u, isFlagLetter x = true) ∧
        next = (c.past u).remember 2 u := by
  apply ((Regex.ends_charSet hCase false _).many.remembered hKept).congr
  simp [isFlagLetter]

/-- What is remembered on the way does not change where a match comes to. -/
theorem remember_groups (c : Cursor) (body letters : Text) :
    (((((c.past ['/']).past body).remember 1 body).past ['/']).past letters).remember 2 letters =
      ((c.past ('/' :: body ++ '/' :: letters)).remember 1 body).remember 2 letters := by
  rw [Cursor.past_remember, Cursor.past_remember, ← Cursor.past_append, ← Cursor.past_append,
    ← Cursor.past_append]
  simp

/-- A match from the front ends behind a slash and flag letters that only a line feed may follow, and
remembers them and what stands before them. -/
theorem ends_literalExpr (hAll : flags.dotAll = true) (hLines : flags.multiline = false)
    (hCase : flags.ignoreCase = false) (hBody : kept.contains 1 = true) (hLetters : kept.contains 2 = true) :
    Ends kept flags literalExpr fun c next => ∃ body letters tail, c.before = [] ∧
      c.after = '/' :: body ++ '/' :: letters ++ tail ∧ (∀ x ∈ letters, isFlagLetter x = true) ∧
      (tail = [] ∨ tail = ['\n']) ∧
      next = ((c.past ('/' :: body ++ '/' :: letters)).remember 1 body).remember 2 letters := by
  have hSlash : Ends kept flags (.code '/'.toNat) (Behind fun u => u = ['/']) := Regex.ends_code hCase '/'
  apply ((Regex.ends_anchor .lineStart).seq (hSlash.seq ((ends_literalBody hAll hBody).seq (hSlash.seq
    ((ends_literalLetters hCase hLetters).seq (Regex.ends_anchor .lineEnd)))))).congr
  have hStart : ∀ c : Cursor, c.stands flags .lineStart = true ↔ c.before = [] := by
    simp [Cursor.stands, hLines]
  have hEnd : ∀ c : Cursor, c.stands flags .lineEnd = true ↔ c.after = [] ∨ c.after = ['\n'] := by
    simp [Cursor.stands, hLines]
  intro c next
  simp only [hStart, hEnd]
  constructor
  · rintro ⟨c, ⟨hFront, rfl⟩, _, ⟨_, rest, hFirst, rfl, rfl⟩, _, ⟨body, more, hSecond, rfl⟩, _,
      ⟨_, behind, hThird, rfl, rfl⟩, _, ⟨letters, tail, hFourth, hFlags, rfl⟩, hTail, rfl⟩
    have hRest := (Cursor.after_past hFirst).symm.trans hSecond
    have hMore := (Cursor.after_past hSecond).symm.trans hThird
    have hBehind := (Cursor.after_past hThird).symm.trans hFourth
    rw [Cursor.after_remember, Cursor.after_past hFourth] at hTail
    refine ⟨body, letters, tail, hFront, ?_, hFlags, hTail, ?_⟩
    · rw [hFirst, hRest, hMore, hBehind]
      simp
    · exact remember_groups c body letters
  · rintro ⟨body, letters, tail, hFront, hAfter, hFlags, hTail, rfl⟩
    have hAll : c.after = ['/'] ++ (body ++ (['/'] ++ (letters ++ tail))) := by simpa using hAfter
    have hBody := Cursor.after_past hAll
    have hSlash := Cursor.after_past hBody
    have hLetters := Cursor.after_past hSlash
    refine ⟨c, ⟨hFront, rfl⟩, _, ⟨['/'], _, hAll, rfl, rfl⟩, _, ⟨body, _, hBody, rfl⟩, _,
      ⟨['/'], _, hSlash, rfl, rfl⟩, _, ⟨letters, tail, hLetters, hFlags, rfl⟩, ?_, ?_⟩
    · rwa [← Cursor.after_past hLetters] at hTail
    · exact (remember_groups c body letters).symm

end Groups

/-- The groups of the match are what the pattern is taken apart into. -/
theorem literalGroups_eq (pattern : Text) :
    literalGroups pattern = (splitLiteral? pattern).map fun (body, letters) => (some body, some letters) := by
  have hEnds : Ends [1, 2] { dotAll := true, unicode := true } literalExpr _ :=
    ends_literalExpr rfl rfl rfl rfl rfl
  unfold literalGroups
  cases hRun : run [1, 2] literalExpr { dotAll := true, unicode := true } (Cursor.start pattern) some with
  | some last =>
    obtain ⟨_, ⟨body, letters, tail, -, hText, hLetters, hTail, rfl⟩, ⟨⟩⟩ := hEnds.found hRun
    have hPattern : pattern = '/' :: body ++ '/' :: letters ++ tail := hText
    rw [hPattern, splitLiteral?_slashes body hLetters hTail]
    rfl
  | none =>
    cases hSplit : splitLiteral? pattern with
    | none => rfl
    | some parts =>
      obtain ⟨hLetters, tail, hTail, hText⟩ := exists_of_splitLiteral? hSplit
      have hSome : (run [1, 2] literalExpr { dotAll := true, unicode := true } (Cursor.start pattern)
          some).isSome = true :=
        hEnds.finds ⟨parts.1, parts.2, tail, rfl, hText, hLetters, hTail, rfl⟩ rfl
      rw [hRun] at hSome
      cases hSome

theorem flagOf_eq (c : Char) :
    flagOf c = { ignoreCase := 'i' == c, multiline := 'm' == c, dotAll := 's' == c } := by
  unfold flagOf
  split
  · rfl
  · rfl
  · rfl
  · rename_i hI hM hS
    simp [beq_eq_false_iff_ne.mpr (Ne.symm hI), beq_eq_false_iff_ne.mpr (Ne.symm hM),
      beq_eq_false_iff_ne.mpr (Ne.symm hS)]

/-- The letters choose their flags in whatever order they come, and as often. -/
theorem foldl_flagOf (letters : Text) (flags : Flags) :
    letters.foldl (fun flags c => flags.union (flagOf c)) flags = flags.union {
      ignoreCase := letters.contains 'i', multiline := letters.contains 'm',
      dotAll := letters.contains 's' } := by
  induction letters generalizing flags with
  | nil => simp [Flags.union]
  | cons c letters ih =>
    rw [List.foldl_cons, ih, flagOf_eq]
    simp only [Flags.union, List.contains_cons, Bool.or_assoc, Bool.or_false]

theorem flagsOf_eq (letters : Text) : flagsOf letters = {
    ignoreCase := letters.contains 'i', multiline := letters.contains 'm',
    dotAll := letters.contains 's' } := by
  rw [flagsOf, foldl_flagOf]
  simp [Flags.union]

/-- An expression between slashes is what its body is, compiled with the flags that its letters choose. -/
theorem classify_slashes (body : Text) (hLetters : ∀ c ∈ letters, isFlagLetter c = true) :
    classify ('/' :: body ++ '/' :: letters) =
      compileExpression ('/' :: body ++ '/' :: letters) body (flagsOf letters) := by
  have hSplit := splitLiteral?_slashes body hLetters (.inl rfl)
  rw [List.append_nil] at hSplit
  have hSome : '/' :: body ++ '/' :: letters ≠ [] := List.cons_ne_nil _ _
  have hMark : ¬Text.startsWith ('/' :: body ++ '/' :: letters) expressionMark = true := nofun
  rw [classify_eq hSome, expression?, if_neg hMark, hSplit]
  rfl

theorem classify_marked (body : Text) :
    classify (expressionMark ++ body) = compileExpression (expressionMark ++ body) body {} := by
  have hSome : expressionMark ++ body ≠ [] := List.cons_ne_nil _ _
  have hMark : (expressionMark ++ body).startsWith expressionMark = true :=
    List.isPrefixOf_iff_prefix.mpr (List.prefix_append _ _)
  rw [classify_eq hSome, expression?, if_pos hMark, List.drop_left]

theorem compileExpression_of_refused (source : Text) (flags : Flags) {e : GateError}
    (h : gate body = .error e) : compileExpression source body flags = .error (.gate e) := by
  rw [compileExpression, h]

theorem compileExpression_of_passed (source : Text) (flags : Flags) (h : gate body = .ok ()) :
    compileExpression source body flags = match Regex.compile body flags with
      | .ok program => .ok (.expression source program)
      | .error e => .error (if e.isFault then .malformed body e else .limit e) := by
  rw [compileExpression, h]
  dsimp only
  cases Regex.compile body flags with
  | ok program => rfl
  | error e =>
    dsimp only
    split
    · rfl
    · rfl

/-- What is refused or compiled does not hang on the text that the expression was written as. -/
theorem compileExpression_alike (one other body : Text) (flags : Flags) :
    (∃ e, compileExpression one body flags = .error e ∧ compileExpression other body flags = .error e) ∨
      ∃ program, compileExpression one body flags = .ok (.expression one program) ∧
        compileExpression other body flags = .ok (.expression other program) := by
  cases hGate : gate body with
  | error e => exact .inl ⟨_, compileExpression_of_refused one flags hGate,
      compileExpression_of_refused other flags hGate⟩
  | ok =>
    rw [compileExpression_of_passed one flags hGate, compileExpression_of_passed other flags hGate]
    cases Regex.compile body flags with
    | error e => exact .inl ⟨_, rfl, rfl⟩
    | ok program => exact .inr ⟨program, rfl, rfl⟩

/-- An expression between slashes is taken apart in one way, which is that of a greedy match. It is refused
when its body is, and is otherwise its body compiled with the flags of its letters. Where they choose none,
it is the same expression as its body behind the mark. -/
theorem slashes_around_body (body : Text) (hLetters : ∀ c ∈ letters, isFlagLetter c = true) :
    let literal := '/' :: body ++ '/' :: letters
    let marked := expressionMark ++ body
    splitLiteral? literal = some (body, letters) ∧
      (∃ program, Regex.compile literalExpression { dotAll := true } = .ok program ∧
        (run [1, 2] program.expr program.flags (Cursor.start literal) some).map
          (fun last => (last.group? 1, last.group? 2)) = some (some body, some letters)) ∧
      (∀ b f tail, literal = '/' :: b ++ '/' :: f ++ tail → (∀ c ∈ f, isFlagLetter c = true) →
        tail = [] ∨ tail = ['\n'] → b = body ∧ f = letters ∧ tail = []) ∧
      (∀ e, gate body = .error e →
        classify literal = .error (.gate e) ∧ classify marked = .error (.gate e)) ∧
      (gate body = .ok () → classify literal = match Regex.compile body {
          ignoreCase := letters.contains 'i', multiline := letters.contains 'm',
          dotAll := letters.contains 's' } with
        | .ok program => .ok (.expression literal program)
        | .error e => .error (if e.isFault then .malformed body e else .limit e)) ∧
      ('i' ∉ letters → 'm' ∉ letters → 's' ∉ letters →
        (∃ e, classify literal = .error e ∧ classify marked = .error e) ∨
          ∃ program, classify literal = .ok (.expression literal program) ∧
            classify marked = .ok (.expression marked program)) := by
  intro literal marked
  have hSplit : splitLiteral? literal = some (body, letters) := by
    have hOpen := splitLiteral?_slashes body hLetters (.inl rfl)
    rwa [List.append_nil] at hOpen
  have hLiteral := classify_slashes body hLetters
  have hMarked := classify_marked body
  rw [flagsOf_eq] at hLiteral
  refine ⟨hSplit, ⟨_, compile_literalExpression, ?_⟩, ?_, ?_, ?_, ?_⟩
  · have hGroups := literalGroups_eq literal
    rw [hSplit] at hGroups
    exact hGroups
  · intro b f tail hSame hFlags hTail
    have hOther := splitLiteral?_slashes b hFlags hTail
    rw [← hSame, hSplit] at hOther
    obtain ⟨rfl, rfl⟩ := Prod.mk.inj (Option.some.inj hOther)
    exact ⟨rfl, rfl, List.self_eq_append_right.mp hSame⟩
  · intro e hGate
    rw [hLiteral, hMarked]
    exact ⟨compileExpression_of_refused _ _ hGate, compileExpression_of_refused _ _ hGate⟩
  · intro hGate
    rw [hLiteral]
    exact compileExpression_of_passed _ _ hGate
  · intro hI hM hS
    have hNone : ∀ {c : Char}, c ∉ letters → letters.contains c = false := by
      intro c hAbsent
      simpa using hAbsent
    rw [hLiteral, hMarked, hNone hI, hNone hM, hNone hS]
    exact compileExpression_alike _ _ _ _

/-- A body with slashes, flag letters and line feeds before the slash that ends it. -/
theorem slashes_around_body_feeds :
    let body := "src/gi/s\n/a+/".toList
    let letters := "gg".toList
    (∀ c ∈ letters, isFlagLetter c = true) ∧
      splitLiteral? ('/' :: body ++ '/' :: letters) = some (body, letters) ∧
      ∃ program, classify ('/' :: body ++ '/' :: letters) =
          .ok (.expression ('/' :: body ++ '/' :: letters) program) ∧
        classify (expressionMark ++ body) = .ok (.expression (expressionMark ++ body) program) := by
  intro body letters
  have hLetters : ∀ c ∈ letters, isFlagLetter c = true := List.all_eq_true.mp (by decide)
  obtain ⟨hSplit, -, -, -, -, hSame⟩ := slashes_around_body body hLetters
  refine ⟨hLetters, hSplit, (hSame (by decide) (by decide) (by decide)).resolve_left ?_⟩
  rintro ⟨e, -, hMarked⟩
  have hPassed : (classify (expressionMark ++ body)).isOk = true := rfl
  rw [hMarked] at hPassed
  cases hPassed

end AssetAudit.Whitelist
