import AssetAudit.Text.Basic

/-!
# The gate before expressions

Expressions from settings are refused when they are empty, too long, or have one of five shapes
known for matching very slowly. The shapes are read off the text.
-/
namespace AssetAudit.Whitelist

inductive Shape where
  | nestedQuantifier
  | wildcardGroup
  | quantifiedAlternation
  | backreference
  | lookaround
  deriving DecidableEq, Repr

def Shape.label : Shape → Text
  | .nestedQuantifier => "nested quantifier".toList
  | .wildcardGroup => "quantified wildcard group".toList
  | .quantifiedAlternation => "quantified alternation".toList
  | .backreference => "backreference".toList
  | .lookaround => "lookaround assertion".toList

def isQuantifier (c : Char) : Bool :=
  c == '+' || c == '*'

def opensRepeat (c : Char) : Bool :=
  isQuantifier c || c == '\x7b'

/-- Behind an opening parenthesis: does it close before a quantifier, with parentheses inside it
only one deep, after a quantifier outside them? -/
def closesNested (inner seen : Bool) : Text → Bool
  | [] => false
  | c :: rest =>
    if c = '(' then !inner && closesNested true seen rest
    else if c = ')' then
      if inner then closesNested false seen rest else seen && (rest.head?.any opensRepeat)
    else closesNested inner (seen || (!inner && isQuantifier c)) rest

/-- Behind an opening parenthesis: does it close before a quantifier, with a bar and no
parentheses inside it? -/
def closesAlternation (bar : Bool) : Text → Bool
  | [] => false
  | c :: rest =>
    if c = '(' then false
    else if c = ')' then bar && (rest.head?.any opensRepeat)
    else closesAlternation (bar || c == '|') rest

def Shape.beginsAt : Shape → Text → Bool
  | .nestedQuantifier, '(' :: rest => closesNested false false rest
  | .wildcardGroup, '(' :: '.' :: q :: ')' :: r :: _ => isQuantifier q && isQuantifier r
  | .quantifiedAlternation, '(' :: rest => closesAlternation false rest
  | .backreference, '\\' :: d :: _ => '1' ≤ d && d ≤ '9'
  | .backreference, '(' :: '?' :: 'P' :: '=' :: _ => true
  | .lookaround, '(' :: '?' :: '<' :: c :: _ => c == '=' || c == '!'
  | .lookaround, '(' :: '?' :: c :: _ => c == '=' || c == '!'
  | _, _ => false

def Shape.occursIn (shape : Shape) : Text → Bool
  | [] => false
  | c :: rest => shape.beginsAt (c :: rest) || shape.occursIn rest

def Shape.all : List Shape :=
  [.nestedQuantifier, .wildcardGroup, .quantifiedAlternation, .backreference, .lookaround]

inductive GateError where
  | length
  | shape (s : Shape)
  deriving DecidableEq, Repr

def longest : Nat := 300

def gate (body : Text) : Except GateError Unit :=
  if body.isEmpty || longest < body.length then .error .length
  else match Shape.all.find? (·.occursIn body) with
    | some s => .error (.shape s)
    | none => .ok ()

def GateError.message : GateError → Text
  | .length =>
    "Regex pattern is empty or too long (>".toList ++ Text.ofNat longest ++ " characters)".toList
  | .shape s =>
    "Regex pattern rejected: potential catastrophic backtracking (".toList ++ s.label ++ [')']

end AssetAudit.Whitelist
