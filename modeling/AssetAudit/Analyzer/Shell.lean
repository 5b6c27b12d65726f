import AssetAudit.Analyzer.Run
import AssetAudit.Decimal.Read

/-!
# A small shell

Command lines of the settings are run on a tree of files: words and quotes, lists with `;`, `&&`
and `||`, redirection to the other output or to nowhere, and a few commands that need no other
program. Time passes only in `sleep`.
-/
namespace AssetAudit.Analyzer.Shell

inductive Token where
  | word (t : Text)
  | ends
  | both
  | either
  | pipe
  /-- Send an output, 1 or 2, to the other one or to a file, or read the input, 0, from a file. -/
  | redirect (stream : Nat) (target : Text)
  deriving DecidableEq, Repr

/-- A word that is being read, backwards, and the quote that it is in. -/
structure Lexer where
  word : Option Text := none
  quote : Option Char := none
  escaped : Bool := false
  comment : Bool := false
  tokens : List Token := []

namespace Lexer

def push (l : Lexer) (c : Char) : Lexer :=
  { l with word := some (c :: l.word.getD []), escaped := false }

def finish (l : Lexer) : Lexer :=
  match l.word with
  | some w => { l with word := none, tokens := .word w.reverse :: l.tokens }
  | none => l

/-- Two signs that follow each other directly may be one token. -/
def operator (l : Lexer) (c : Char) : Lexer :=
  let l := l.finish
  match c, l.tokens with
  | '&', .word ['&'] :: rest => { l with tokens := .both :: rest }
  | '|', .pipe :: rest => { l with tokens := .either :: rest }
  | '|', tokens => { l with tokens := .pipe :: tokens }
  | '&', tokens => { l with tokens := .word ['&'] :: tokens }
  | _, tokens => { l with tokens := .ends :: tokens }

def redirect (l : Lexer) : Lexer :=
  match l.word with
  | some ['2'] => { l with word := none, tokens := .redirect 2 [] :: l.tokens }
  | some ['1'] => { l with word := none, tokens := .redirect 1 [] :: l.tokens }
  | _ => let l := l.finish; { l with tokens := .redirect 1 [] :: l.tokens }

def inRedirect (l : Lexer) : Bool :=
  match l.word, l.tokens with
  | none, .redirect _ [] :: _ => true
  | _, _ => false

def step (l : Lexer) (c : Char) : Lexer :=
  match l.quote with
  | some '\'' => if c == '\'' then { l with quote := none } else l.push c
  | some q =>
    if l.escaped then
      if c == '"' || c == '\\' || c == '$' then l.push c else (l.push '\\').push c
    else if c == q then { l with quote := none }
    else if c == '\\' then { l with escaped := true } else l.push c
  | none =>
    if l.comment && c != '\n' then l
    else if l.escaped then l.push c
    else if c == '#' && l.word.isNone then { l with comment := true }
    else if c == '\\' then { l with escaped := true }
    else if c == '\'' || c == '"' then { l with quote := some c, word := some (l.word.getD []) }
    else if c == ' ' || c == '\t' then l.finish
    else if c == '>' then l.redirect
    else if c == '<' then let l := l.finish; { l with tokens := .redirect 0 [] :: l.tokens }
    else if c == '&' && l.inRedirect then l.push c
    else if c == '\n' then { l.operator c with comment := false }
    else if c == ';' || c == '&' || c == '|' then l.operator c
    else l.push c

end Lexer

def attach : List Token → List Token
  | .redirect n [] :: .word target :: rest => .redirect n target :: attach rest
  | t :: rest => t :: attach rest
  | [] => []

/-- The tokens of a line; none if a quote is not closed. -/
def tokens? (line : Text) : Option (List Token) :=
  let l := line.foldl Lexer.step {}
  if l.quote.isSome then none else some (attach l.finish.tokens.reverse)

structure Simple where
  words : List Text := []
  redirects : List (Nat × Text) := []
  deriving DecidableEq, Repr

def group (lead : Token) (current : Simple) : List Token → List (Token × Simple)
  | [] => [(lead, current)]
  | .word w :: rest => group lead { current with words := current.words ++ [w] } rest
  | .redirect n t :: rest =>
    group lead { current with redirects := current.redirects ++ [(n, t)] } rest
  | op :: rest => (lead, current) :: group op {} rest

/-- Where a run stands. Time is counted in microseconds. -/
structure State where
  stdout : List UInt8 := []
  stderr : List UInt8 := []
  piped : List UInt8 := []
  status : Nat := 0
  elapsed : Nat := 0
  /-- The exit code once the shell has ended. -/
  ended : Option Int := none

structure Effect where
  out : List UInt8 := []
  err : List UInt8 := []
  status : Nat := 0
  takes : Nat := 0
  ends : Option Int := none

def isOctal (c : Char) : Bool :=
  '0' ≤ c && c ≤ '7'

/-- The byte that a sign behind a backslash stands for. -/
def meaning? : Char → Option UInt8
  | '\\' => some 92
  | 'a' => some 7
  | 'b' => some 8
  | 'f' => some 12
  | 'n' => some 10
  | 'r' => some 13
  | 't' => some 9
  | 'v' => some 11
  | _ => none

def octalByte (digits : Text) : UInt8 :=
  (digits.foldl (fun n c => n * 8 + (c.toNat - '0'.toNat)) 0).toUInt8

/-- The byte that stands behind a backslash, and how many signs it takes. A sign without a meaning
keeps its backslash. -/
def escaped (rest : Text) : UInt8 × Nat :=
  let digits := (rest.take 3).takeWhile isOctal
  if !digits.isEmpty then (octalByte digits, digits.length)
  else match rest.head?.bind meaning? with
    | some b => (b, 1)
    | none => (92, 0)

/-- The bytes of a text with escapes; `skip` signs are read already. -/
def unescaped (skip : Nat) : Text → List UInt8
  | [] => []
  | c :: rest =>
    match skip with
    | n + 1 => unescaped n rest
    | 0 =>
      if c == '\\' then (escaped rest).1 :: unescaped (escaped rest).2 rest
      else Text.utf8Char c ++ unescaped 0 rest

/-- A zero in front of octal digits is left out. -/
def withoutZeros : Text → Text
  | '\\' :: '0' :: d :: rest =>
    if isOctal d then '\\' :: d :: withoutZeros rest else '\\' :: '0' :: withoutZeros (d :: rest)
  | '\\' :: c :: rest => '\\' :: c :: withoutZeros rest
  | c :: rest => c :: withoutZeros rest
  | [] => []

/-- What stands before the mark that ends all writing, and whether there is such a mark. -/
def untilEnd : Text → Text × Bool
  | '\\' :: 'c' :: _ => ([], true)
  | '\\' :: c :: rest => let (t, ended) := untilEnd rest; ('\\' :: c :: t, ended)
  | c :: rest => let (t, ended) := untilEnd rest; (c :: t, ended)
  | [] => ([], false)

def echo (words : List Text) : List UInt8 :=
  let silent := words.head? == some ['-', 'n']
  let (text, ended) := untilEnd (Text.join [' '] (if silent then words.tail else words))
  unescaped 0 (withoutZeros text) ++ if silent || ended then [] else [10]

/-- What a directive of a format writes for an argument, if there is such a directive. -/
def directive? (c : Char) (argument : Text) : Option (List UInt8) :=
  if c == 's' then some (Text.utf8 argument)
  else if c == 'b' then some (unescaped 0 (withoutZeros argument))
  else if c == 'c' then some (Text.utf8 (argument.take 1))
  else if c == 'd' || c == 'i' then
    some (Text.utf8 (if argument.isEmpty then ['0'] else argument))
  else none

/-- A format used once: its parts, and the arguments that are left. A part is none where there is
no such directive. -/
def formatOnce (skip : Nat) : Text → List Text → List (Option (List UInt8)) × List Text
  | [], args => ([], args)
  | c :: rest, args =>
    match skip with
    | n + 1 => formatOnce n rest args
    | 0 =>
      let (part, skip, args) :=
        if c == '\\' then (some [(escaped rest).1], (escaped rest).2, args)
        else if c != '%' then (some (Text.utf8Char c), 0, args)
        else match rest.head? with
          | some '%' => (some [37], 1, args)
          | some d => (directive? d (args.headD []), 1, args.tail)
          | none => (none, 0, args)
      let (parts, left) := formatOnce skip rest args
      (part :: parts, left)

def formatAll (format : Text) : Nat → List Text → List (Option (List UInt8))
  | 0, _ => []
  | fuel + 1, args =>
    let (parts, left) := formatOnce 0 format args
    if left.isEmpty || left.length == args.length then parts
    else parts ++ formatAll format fuel left

def number? (t : Text) : Option Nat :=
  if t.isEmpty || !t.all Char.isDigit then none else some (Decimal.readDigits t).1

def duration? (t : Text) : Option Nat :=
  let whole := t.takeWhile Char.isDigit
  match t.drop whole.length with
  | [] => (number? whole).map (· * 1000000)
  | '.' :: fraction =>
    (number? (('0' :: whole) ++ (fraction ++ List.replicate 6 '0').take 6))
  | _ => none

def signalNames : List (String × Nat) :=
  [("HUP", 1), ("INT", 2), ("QUIT", 3), ("ILL", 4), ("TRAP", 5), ("ABRT", 6), ("BUS", 7),
    ("FPE", 8), ("KILL", 9), ("USR1", 10), ("SEGV", 11), ("USR2", 12), ("PIPE", 13), ("ALRM", 14),
    ("TERM", 15)]

def signalOf? (t : Text) : Option Nat :=
  (number? t).or ((signalNames.find? (·.1.toList == t)).map (·.2))

def signal? (words : List Text) : Option Nat :=
  match words with
  | [['$', '$']] => some 15
  | [['-', 's'], name, ['$', '$']] => signalOf? name
  | ['-' :: name, ['$', '$']] => signalOf? name
  | _ => none

def nowhere : Text := "/dev/null".toList

def readAll (tree : Files.Tree) (dir : FilePath) : List Text → Effect
  | [] => {}
  | name :: rest =>
    let after := readAll tree dir rest
    if name = nowhere then after
    else match tree.read (dir.join (.ofText name)) with
    | .ok data => { after with out := data ++ after.out }
    | .error e => { after with err := Text.utf8 e.message ++ after.err, status := 1 }

def perform (tree : Files.Tree) (dir : FilePath) (s : State) : List Text → Effect
  | [] => {}
  | name :: args =>
    match String.ofList name with
    | "true" | ":" => {}
    | "false" => { status := 1 }
    | "echo" => { out := echo args }
    | "printf" =>
      match args with
      | [] => { status := 2 }
      | format :: args =>
        let parts := formatAll format (args.length + 1) args
        { out := ((parts.takeWhile Option.isSome).filterMap id).flatten
          status := if parts.all Option.isSome then 0 else 2 }
    | "cat" => if args.isEmpty then { out := s.piped } else readAll tree dir args
    | "sleep" =>
      match args with
      | [t] => match duration? t with
        | some d => { takes := d }
        | none => { status := 1 }
      | _ => { status := 1 }
    | "exit" =>
      match args with
      | [] => { ends := some s.status, status := s.status }
      | t :: _ =>
        if t == "$?".toList then { ends := some s.status, status := s.status }
        else match number? t with
          | some n =>
            if n < 2147483648 then { ends := some (n % 256 : Nat), status := n % 256 }
            else { ends := some 2, status := 2 }
          | none => { ends := some 2, status := 2 }
    | "kill" =>
      match signal? args with
      | some 0 => {}
      | some n => { ends := some (-Int.ofNat n), status := 0 }
      | none => { status := if args.length < 2 then 2 else 1 }
    | _ => { status := 127 }

def performLine (tree : Files.Tree) (dir : FilePath) (s : State) (words : List Text) : Effect :=
  match words with
  | [] => {}
  | first :: rest =>
    if first == "exec".toList then
      if rest.isEmpty then {}
      else
        let e := perform tree dir s rest
        { e with ends := e.ends.or (some e.status) }
    else perform tree dir s words

def input? (tree : Files.Tree) (dir : FilePath) (piped : List UInt8) :
    List (Nat × Text) → Option (List UInt8)
  | [] => some piped
  | (0, name) :: rest =>
    if name = nowhere then input? tree dir [] rest
    else match tree.read (dir.join (.ofText name)) with
      | .ok data => input? tree dir data rest
      | .error _ => none
  | _ :: rest => input? tree dir piped rest

def redirected (e : Effect) : List (Nat × Text) → Effect
  | [] => e
  | (0, _) :: rest => redirected e rest
  | (1, target) :: rest =>
    redirected (if target == "&2".toList then { e with out := [], err := e.err ++ e.out }
      else { e with out := [] }) rest
  | (_, target) :: rest =>
    redirected (if target == "&1".toList then { e with out := e.out ++ e.err, err := [] }
      else { e with err := [] }) rest

/-- One command of a line; what it writes goes on to the next one behind a bar. -/
def step (tree : Files.Tree) (dir : FilePath) (s : State) (lead : Token) (next : Option Token)
    (c : Simple) : State :=
  let runs := s.ended.isNone && match lead with
    | .both => s.status == 0
    | .either => s.status != 0
    | _ => true
  if !runs || (c.words.isEmpty && c.redirects.isEmpty) then s
  else
    let e := match input? tree dir s.piped c.redirects with
      | some piped => redirected (performLine tree dir { s with piped } c.words) c.redirects
      | none => { status := 2 }
    let toPipe := next == some .pipe
    { stdout := if toPipe then s.stdout else s.stdout ++ e.out
      piped := if toPipe then e.out else []
      stderr := s.stderr ++ e.err
      status := e.status
      elapsed := s.elapsed + e.takes
      ended := if toPipe || lead == .pipe then none else e.ends }

def runAll (tree : Files.Tree) (dir : FilePath) (s : State) : List (Token × Simple) → State
  | [] => s
  | (lead, c) :: rest => runAll tree dir (step tree dir s lead (rest.head?.map (·.1)) c) rest

/-- A time limit in microseconds; none if there is no limit. -/
def limit? (timeout : Value) : Except RunError (Option Nat) :=
  match timeout with
  | .null => .ok none
  | .scalar s =>
    match s.parts? with
    | some (.finite negative m e) =>
      let (num, den) := Decimal.ratio m e
      .ok (some (if negative then 0 else num * 1000000 / den))
    | some (.infinite negative) => .ok (if negative then some 0 else none)
    | some .nan => .ok (some 0)
    | none => .error .timeout
  | _ => .error .timeout

def execute (tree : Files.Tree) (timeout : Value) : Executor := fun dir command =>
  match command with
  | .text line =>
    match tree.names dir with
    | .error e =>
      if e.fault = .nullCharacter then .error (.system e)
      else .ok (.failed ("could not start: ".toList ++ e.message))
    | .ok _ =>
      if line.contains (Char.ofNat 0) then .error (.system ⟨.nullCharacter, line⟩)
      else match limit? timeout with
        | .error e => .error e
        | .ok limit =>
          let s := match tokens? line with
            | some tokens => runAll tree (dir.absolute tree.cwd) {} (group .ends {} tokens)
            | none => { ended := some 2 }
          if limit.any fun l => l ≤ s.elapsed then
            .ok (.failed ("timed out after ".toList ++ timeout.plain ++ ['s']))
          else .ok (.finished
            { code := s.ended.getD s.status
              stdout := Text.ofUtf8Replacing s.stdout
              stderr := Text.ofUtf8Replacing s.stderr })
  | _ => .error .noCommand

end AssetAudit.Analyzer.Shell
