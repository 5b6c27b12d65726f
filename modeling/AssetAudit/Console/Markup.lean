import AssetAudit.Console.Picture
import AssetAudit.Console.Style

/-!
# Marked-up text

Marks in brackets begin and end styles. What is printed is the text between the marks; a mark that
ends a style has to find one that was begun. A backslash makes a mark part of the text.
-/
namespace AssetAudit.Console

inductive MarkupFault where
  | nothingToClose
  | notOpen (name : Text)
  /-- An action that is attached to the text is malformed. -/
  | action (parameters : Text)
  deriving DecidableEq, Repr

inductive Piece where
  | plain (s : Text)
  | mark (content : Text)
  deriving DecidableEq, Repr

def startsMark (c : Char) : Bool :=
  ('a' ≤ c && c ≤ 'z') || c == '#' || c == '/' || c == '@'

def markRest? : Text → Option (Text × Text)
  | [] => none
  | ']' :: rest => some ([], rest)
  | '[' :: _ => none
  | c :: rest => (markRest? rest).map fun r => (c :: r.1, r.2)

def mark? : Text → Option (Text × Text)
  | '[' :: c :: rest =>
    if startsMark c then (markRest? rest).map fun r => (c :: r.1, r.2) else none
  | _ => none

theorem length_markRest?_lt {s content rest : Text} (h : markRest? s = some (content, rest)) :
    rest.length < s.length := by
  induction s generalizing content rest with
  | nil => simp [markRest?] at h
  | cons c t ih =>
    unfold markRest? at h
    split at h
    · simp_all
    · cases h; simp_all
    · simp at h
    · rename_i heq
      cases heq
      obtain ⟨⟨a, b⟩, hab, heq⟩ := Option.map_eq_some_iff.1 h
      cases heq
      have := ih hab
      simp only [List.length_cons]
      omega

theorem length_mark?_lt {s content rest : Text} (h : mark? s = some (content, rest)) :
    rest.length < s.length := by
  unfold mark? at h
  split at h
  · split at h
    · obtain ⟨⟨a, b⟩, hab, heq⟩ := Option.map_eq_some_iff.1 h
      cases heq
      have := length_markRest?_lt hab
      simp; omega
    · simp at h
  · simp at h

def plainPiece (reversed : Text) : List Piece :=
  if reversed.isEmpty then [] else [.plain reversed.reverse]

/-- A mark behind some backslashes: two of them stand for one, and one that is left over makes the
mark a text. -/
def escapedMark (slashes : Nat) (content : Text) : List Piece :=
  plainPiece (List.replicate (slashes / 2) '\\') ++
    if slashes % 2 = 0 then [.mark content] else [.plain ('[' :: content ++ [']'])]

/-- Cut a text into plain pieces and marks; `slashes` counts the backslashes just before. -/
def piecesFrom (before : Text) (slashes : Nat) (s : Text) : List Piece :=
  match _h : mark? s with
  | some (content, rest) =>
    plainPiece before ++ escapedMark slashes content ++ piecesFrom [] 0 rest
  | none =>
    match s with
    | [] => plainPiece (List.replicate slashes '\\' ++ before)
    | c :: rest =>
      if c == '\\' then piecesFrom before (slashes + 1) rest
      else piecesFrom (c :: List.replicate slashes '\\' ++ before) 0 rest
termination_by s.length
decreasing_by
  · exact length_mark?_lt _h
  · simp
  · simp

def pieces (s : Text) : List Piece :=
  piecesFrom [] 0 s

/-- A backslash before a bracket is left out. -/
def unescaped : Text → Text
  | '\\' :: '[' :: rest => '[' :: unescaped rest
  | c :: rest => c :: unescaped rest
  | [] => []

/-- Controls that are never printed: the bell, steps back, and the line ends of old. -/
def isSilent (c : Char) : Bool :=
  c.toNat == 7 || c.toNat == 8 || c.toNat == 11 || c.toNat == 12 || c.toNat == 13

def audible (s : Text) : Text :=
  s.filter fun c => !isSilent c

structure Opened where
  name : Text
  parameters : Option Text

def splitMark (content : Text) : Opened :=
  let name := content.takeWhile (· != '=')
  ⟨name, if name.length < content.length then some (content.drop (name.length + 1)) else none⟩

def closeNamed? (name : Text) : List Opened → Option (Opened × List Opened)
  | [] => none
  | o :: rest =>
    if o.name = name then some (o, rest)
    else (closeNamed? name rest).map fun r => (r.1, o :: r.2)

def isHandlerChar (c : Char) : Bool :=
  Unicode.isWord c.toNat || c == '.'

/-- An action is a name, or a name with arguments in parentheses. -/
def isAction (parameters : Text) : Bool :=
  let rest : Text := parameters.trim.dropWhile isHandlerChar
  rest.isEmpty || (rest.startsWith ['('] && rest.endsWith [')'])

def checkAction (o : Opened) : Except MarkupFault Unit :=
  match o.parameters with
  | some parameters =>
    if o.name.startsWith ['@'] && !parameters.isEmpty && !isAction parameters then
      .error (.action parameters)
    else .ok ()
  | none => .ok ()

def closeMark (name : Text) (open_ : List Opened) : Except MarkupFault (List Opened) :=
  if name.isEmpty then
    match open_ with
    | [] => .error .nothingToClose
    | o :: rest => (checkAction o).map fun _ => rest
  else
    match closeNamed? (styleName name) open_ with
    | none => .error (.notOpen name)
    | some (o, rest) => (checkAction o).map fun _ => rest

def printPieces (open_ : List Opened) : List Piece → Except MarkupFault Text
  | [] => .ok []
  | .plain s :: rest =>
    (printPieces open_ rest).map fun printed => audible (withPictures (unescaped s)) ++ printed
  | .mark content :: rest => do
    let mark := splitMark content
    match mark.name with
    | '/' :: name => printPieces (← closeMark (Text.trim name) open_) rest
    | name => printPieces (⟨styleName name, mark.parameters⟩ :: open_) rest

def marked (s : Text) : Except MarkupFault Text :=
  printPieces [] (pieces s)

def unmarked (s : Text) : Text :=
  audible (withPictures s)

end AssetAudit.Console
