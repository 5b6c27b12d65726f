import AssetAudit.Settings.Environment
import AssetAudit.Settings.File

/-!
# Files of variables

A file may define variables of the environment, one on a line. A value may be quoted, and it may
refer to variables that are set or were defined before it. What cannot be read is passed over up
to the end of its line. A variable that is set already keeps its value.
-/
namespace AssetAudit.Settings

structure Definition where
  name : Text
  /-- None if the line only names the variable. -/
  value : Option Text
  deriving DecidableEq, Repr

namespace Definition

def isSpace (c : Char) : Bool :=
  Text.isBlank c && c != '\n'

def skipSpaces (s : Text) : Text :=
  s.dropWhile isSpace

/-- The word that marks a definition for other programs means nothing here. -/
def skipExport (s : Text) : Text :=
  let rest := s.drop 6
  if s.startsWith "export".toList && rest.head?.any isSpace then skipSpaces rest else s

def isNameChar (c : Char) : Bool :=
  !Text.isBlank c && c != '=' && c != '#'

/-- A name with or without quotes, and what follows it. There is no name before a comment. Where
no name can be read, the place is given. -/
def readName : Text → Except Text (Option Text × Text)
  | '#' :: rest => .ok (none, '#' :: rest)
  | '\'' :: rest =>
    let name := rest.takeWhile (· != '\'')
    match name.isEmpty, rest.dropWhile (· != '\'') with
    | false, _ :: after => .ok (some name, after)
    | _, _ => .error ('\'' :: rest)
  | s =>
    let name := s.takeWhile isNameChar
    if name.isEmpty then .error s else .ok (some name, s.dropWhile isNameChar)

/-- A quoted text up to its closing mark, and what follows it. A mark behind a backslash closes the
text only if no other mark does. -/
def untilMark? (mark : Char) : Text → Option (Text × Text)
  | [] => none
  | '\\' :: c :: rest =>
    if c = mark then
      match untilMark? mark rest with
      | some (t, after) => some ('\\' :: c :: t, after)
      | none => some (['\\'], rest)
    else (untilMark? mark (c :: rest)).map fun r => ('\\' :: r.1, r.2)
  | c :: rest =>
    if c = mark then some ([], rest)
    else (untilMark? mark rest).map fun r => (c :: r.1, r.2)

def escapes (mark : Char) : List (Char × Char) :=
  if mark = '\'' then [('\\', '\\'), ('\'', '\'')]
  else [('\\', '\\'), ('\'', '\''), ('"', '"'), ('a', Char.ofNat 7), ('b', Char.ofNat 8),
    ('f', Char.ofNat 12), ('n', '\n'), ('r', '\r'), ('t', '\t'), ('v', Char.ofNat 11)]

def unescape (table : List (Char × Char)) : Text → Text
  | '\\' :: c :: rest =>
    match table.lookup c with
    | some meant => meant :: unescape table rest
    | none => '\\' :: unescape table (c :: rest)
  | c :: rest => c :: unescape table rest
  | [] => []

/-- The part of a line before its comment, which begins behind a blank. -/
def uncommented (afterBlank : Bool) : Text → Text
  | [] => []
  | c :: rest =>
    if c == '#' && afterBlank then [] else c :: uncommented (Text.isBlank c) rest

def readValue : Text → Except Text (Text × Text)
  | [] => .ok ([], [])
  | c :: rest =>
    if c = '\'' ∨ c = '"' then
      match untilMark? c rest with
      | some (t, after) => .ok (unescape (escapes c) t, after)
      | none => .error (c :: rest)
    else
      let line := (c :: rest).takeWhile (· != '\n')
      .ok (Text.trimRightBy Text.isBlank (uncommented false line), (c :: rest).dropWhile (· != '\n'))

def skipComment (s : Text) : Text :=
  match skipSpaces s with
  | '#' :: rest => rest.dropWhile (· != '\n')
  | _ => s

def readLineEnd (s : Text) : Except Text Text :=
  match skipSpaces s with
  | [] => .ok []
  | '\n' :: rest => .ok rest
  | _ => .error s

def read (s : Text) : Except Text (Option Definition × Text) := do
  let s := s.dropWhile Text.isBlank
  if s.isEmpty then return (none, [])
  else
    let (name, s) ← readName (skipExport s)
    let (value, s) ← match skipSpaces s with
      | '=' :: s => (readValue (skipSpaces s)).map fun r => (some r.1, r.2)
      | s => .ok (none, s)
    let s ← readLineEnd (skipComment s)
    return (name.map (⟨·, value⟩), s)

/-- One definition or none, and what follows; a failure ends with its line. -/
def next (s : Text) : Option Definition × Text :=
  match read s with
  | .ok r => r
  | .error s => (none, (s.dropWhile (· != '\n')).drop 1)

def readAll (s : Text) : List Definition :=
  if (next s).2.length < s.length then (next s).1.toList ++ readAll (next s).2
  else (next s).1.toList
termination_by s.length

/-- A reference to a variable behind its opening: the name, the text that stands in for it when it
is not set, and what follows. -/
def reference? (s : Text) : Option (Text × Text × Text) :=
  let isEnd (c : Char) := c == '}' || c == ':'
  match s.dropWhile (!isEnd ·) with
  | '}' :: rest => some (s.takeWhile (!isEnd ·), [], rest)
  | ':' :: '-' :: rest =>
    match rest.dropWhile (· != '}') with
    | _ :: after => some (s.takeWhile (!isEnd ·), rest.takeWhile (· != '}'), after)
    | [] => none
  | _ => none

theorem length_dropWhile_le {α : Type} (p : α → Bool) (s : List α) :
    (s.dropWhile p).length ≤ s.length :=
  (List.dropWhile_sublist p).length_le

theorem length_reference?_lt {s name default rest : Text}
    (h : reference? s = some (name, default, rest)) : rest.length < s.length := by
  simp only [reference?] at h
  split at h
  · rename_i after heq
    cases h
    have := length_dropWhile_le (fun c => !(c == '}' || c == ':')) s
    rw [heq] at this
    exact this
  · rename_i after heq
    have hs := length_dropWhile_le (fun c => !(c == '}' || c == ':')) s
    rw [heq] at hs
    split at h
    · rename_i behind hbehind
      cases h
      have := length_dropWhile_le (· != '}') after
      rw [hbehind] at this
      simp only [List.length_cons] at this hs
      omega
    · cases h
  · cases h

def expand (value : Text → Option Text) : Text → Text
  | [] => []
  | '$' :: '{' :: rest =>
    match _h : reference? rest with
    | some (name, default, after) => (value name).getD default ++ expand value after
    | none => '$' :: expand value ('{' :: rest)
  | c :: rest => c :: expand value rest
termination_by s => s.length
decreasing_by
  · have := length_reference?_lt _h
    simp only [List.length_cons]
    omega
  · simp
  · simp

end Definition

namespace Environment

def lookup? (env : Environment) (name : Text) : Option Text :=
  (env.find? (·.1 == name)).map (·.2)

/-- What a name stands for: what is set wins over what was defined before. A variable that was
only named stands for nothing. -/
def meaning? (env : Environment) (known : List Definition) (name : Text) : Option Text :=
  match env.lookup? name with
  | some t => some t
  | none => (known.find? (·.name == name)).map fun d => d.value.getD []

def define (d : Definition) : List Definition → List Definition
  | [] => [d]
  | e :: rest => if e.name = d.name then d :: rest else e :: define d rest

/-- Definitions with references replaced. The last definition of a name counts. -/
def resolve (env : Environment) (definitions : List Definition) : List Definition :=
  definitions.foldl
    (fun known d => define ⟨d.name, d.value.map (Definition.expand (env.meaning? known))⟩ known) []

end Environment

inductive VariableFault where
  | nullCharacter
  | name
  deriving DecidableEq, Repr

def VariableFault.message : VariableFault → Text
  | .nullCharacter => "embedded null byte".toList
  | .name => "illegal environment variable name".toList

namespace Environment

/-- Set a variable that is not set already. -/
def add (env : Environment) (d : Definition) : Except VariableFault Environment :=
  match d.value with
  | none => .ok env
  | some value =>
    if (env.lookup? d.name).isSome then .ok env
    else if (d.name ++ value).contains (Char.ofNat 0) then .error .nullCharacter
    else if d.name.contains '=' then .error .name
    else .ok (env ++ [(d.name, value)])

def extend (env : Environment) (document : Text) : Except VariableFault Environment :=
  (env.resolve (Definition.readAll document)).foldlM add env

end Environment

end AssetAudit.Settings
