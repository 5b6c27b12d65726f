import AssetAudit.Text.Basic

/-!
# Arguments of the program

Arguments are options and words. An option has a long name or a letter; letters may stand together
behind one dash. Two dashes alone end the options. The first word names what to analyze.
-/
namespace AssetAudit.CommandLine

structure Options where
  target : Option Text := none
  /-- The directory from which the target is seen. -/
  directory : Option Text := none
  json : Bool := false
  /-- Run the analyzer even if the settings do not enable it. -/
  analyzer : Bool := false
  deriving DecidableEq, Repr

inductive Request where
  | analysis (o : Options)
  | version
  | help
  deriving DecidableEq, Repr

inductive ArgumentError where
  | unknownOption (name : Text)
  | missingValue (name : Text)
  | unwantedValue (name : Text)
  | extraWord (word : Text)
  /-- The directory is no path. -/
  | nullCharacter (path : Text)
  deriving DecidableEq, Repr

inductive Switch where
  | directory
  | json
  | analyzer
  | version
  | help
  deriving DecidableEq, Repr

namespace Switch

def ofName? (name : Text) : Option Switch :=
  if name = "--cwd".toList then some .directory
  else if name = "--json".toList then some .json
  else if name = "--knip".toList then some .analyzer
  else if name = "--version".toList then some .version
  else if name = "--help".toList then some .help
  else none

def ofLetter? : Char → Option Switch
  | 'C' => some .directory
  | 'j' => some .json
  | _ => none

end Switch

structure Progress where
  words : List Text := []
  directory : Option Text := none
  json : Bool := false
  analyzer : Bool := false
  /-- The first request for something else than an analysis. -/
  instead : Option Request := none

namespace Progress

def turn (p : Progress) : Switch → Progress
  | .json => { p with json := true }
  | .analyzer => { p with analyzer := true }
  | .version => { p with instead := p.instead.or (some .version) }
  | .help => { p with instead := p.instead.or (some .help) }
  | .directory => p

/-- Read letters. What follows a letter that takes a value is its value; if nothing follows, the
next argument is, and the option that waits for it is given. -/
def letters (p : Progress) : Text → Except ArgumentError (Progress × Option Text)
  | [] => .ok (p, none)
  | c :: rest =>
    match Switch.ofLetter? c with
    | none => .error (.unknownOption ['-', c])
    | some .directory =>
      if rest.isEmpty then .ok (p, some ['-', c])
      else .ok ({ p with directory := some rest }, none)
    | some s => letters (p.turn s) rest

/-- The name of an option, and the value that an equals sign joins to it. -/
def nameAndValue (argument : Text) : Text × Option Text :=
  (argument.takeWhile (· != '='),
    match argument.dropWhile (· != '=') with
    | _ :: value => some value
    | [] => none)

/-- Read an option; one that waits for its value is given. -/
def option (p : Progress) (argument : Text) : Except ArgumentError (Progress × Option Text) :=
  let (name, value) := nameAndValue argument
  match Switch.ofName? name, value with
  | some .directory, some value => .ok ({ p with directory := some value }, none)
  | some .directory, none => .ok (p, some name)
  | some s, none => .ok (p.turn s, none)
  | some _, some _ => .error (.unwantedValue name)
  | none, _ =>
    if argument.startsWith ['-', '-'] then .error (.unknownOption name)
    else p.letters (argument.drop 1)

/-- A dash alone is a word. -/
def isOption (argument : Text) : Bool :=
  argument.startsWith ['-'] && argument != ['-']

def read (p : Progress) : List Text → Except ArgumentError Progress
  | [] => .ok p
  | argument :: rest =>
    if argument = ['-', '-'] then .ok { p with words := p.words ++ rest }
    else if !isOption argument then read { p with words := p.words ++ [argument] } rest
    else
      match p.option argument, rest with
      | .error e, _ => .error e
      | .ok (p, none), rest => read p rest
      | .ok (_, some name), [] => .error (.missingValue name)
      | .ok (p, some _), value :: rest => read { p with directory := some value } rest

/-- What the arguments ask for. A request for something else than an analysis wins. -/
def request (p : Progress) : Except ArgumentError Request :=
  match p.instead, p.directory.filter (·.contains (Char.ofNat 0)), p.words with
  | some r, _, _ => .ok r
  | none, some path, _ => .error (.nullCharacter path)
  | none, none, _ :: extra :: _ => .error (.extraWord extra)
  | none, none, words => .ok (.analysis {
      target := words.head?
      directory := p.directory
      json := p.json
      analyzer := p.analyzer })

end Progress

def Request.ofArguments (arguments : List Text) : Except ArgumentError Request :=
  (Progress.read {} arguments).bind Progress.request

end AssetAudit.CommandLine
