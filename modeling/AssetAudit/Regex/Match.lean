import AssetAudit.Regex.CharSet

/-!
# Matching

An expression is matched from a cursor in the text. It offers the cursors where it can end, in
order of preference, to what follows, and the first that what follows accepts is the outcome.
-/
namespace AssetAudit.Regex

/-- A place in a text: what lies before it, the nearest character first, and what lies after. -/
structure Cursor where
  before : Text
  after : Text
  place : Nat
  groups : List (Nat × Text)
  deriving Repr

abbrev Follow := Cursor → Option Cursor

namespace Cursor

def start (text : Text) : Cursor where
  before := []
  after := text
  place := 0
  groups := []

def next (c : Cursor) (x : Char) (rest : Text) : Cursor where
  before := x :: c.before
  after := rest
  place := c.place + 1
  groups := c.groups

def accept (c : Cursor) (p : Nat → Bool) (follow : Follow) : Option Cursor :=
  match c.after with
  | [] => none
  | x :: rest => if p x.toNat then follow (c.next x rest) else none

def back : Nat → Cursor → Option Cursor
  | 0, c => some c
  | n + 1, c =>
    match c.before with
    | [] => none
    | x :: rest => back n { c with before := rest, after := x :: c.after, place := c.place - 1 }

def remember (c : Cursor) (group : Nat) (text : Text) : Cursor :=
  { c with groups := (group, text) :: c.groups.filter (·.1 != group) }

def group? (c : Cursor) (group : Nat) : Option Text :=
  (c.groups.find? (·.1 == group)).map (·.2)

def wordAt (flags : Flags) : Text → Bool
  | [] => false
  | x :: _ => categoryHolds flags .word x.toNat

def stands (c : Cursor) (flags : Flags) : Anchor → Bool
  | .lineStart => c.before.isEmpty || (flags.multiline && c.before.head? == some '\n')
  | .lineEnd => c.after.isEmpty || c.after == ['\n'] ||
      (flags.multiline && c.after.head? == some '\n')
  | .textStart => c.before.isEmpty
  | .textEnd => c.after.isEmpty
  | .wordEdge => wordAt flags c.before != wordAt flags c.after
  | .wordInside => !(c.before.isEmpty && c.after.isEmpty) &&
      wordAt flags c.before == wordAt flags c.after

def acceptText (flags : Flags) : Text → Cursor → Follow → Option Cursor
  | [], c, follow => follow c
  | x :: rest, c, follow =>
    let same y := if flags.ignoreCase then foldCase flags y == foldCase flags x.toNat
      else y == x.toNat
    c.accept same fun c => acceptText flags rest c follow

end Cursor

/-- Repeat a step. An optional round is begun only where the round before it made progress. -/
def iterate (step : Cursor → Follow → Option Cursor) (reluctant : Bool) :
    (fuel least : Nat) → (most : Option Nat) → (last : Option Nat) → Cursor → Follow →
      Option Cursor
  | 0, _, _, _, c, follow => follow c
  | fuel + 1, least + 1, most, last, c, follow =>
    step c fun c => iterate step reluctant fuel least (most.map (· - 1)) last c follow
  | fuel + 1, 0, most, last, c, follow =>
    let again (_ : Unit) : Option Cursor :=
      if most = some 0 ∨ last = some c.place then none
      else step c fun next =>
        iterate step reluctant fuel 0 (most.map (· - 1)) (some c.place) next follow
    if reluctant then (follow c).or (again ()) else
      match again () with
      | some found => some found
      | none => follow c

/-- Repeat a step and keep the first outcome of every round. -/
def commit (step : Cursor → Follow → Option Cursor) :
    (fuel least : Nat) → (most : Option Nat) → (last : Option Nat) → Cursor → Option Cursor
  | 0, _, _, _, c => some c
  | fuel + 1, least + 1, most, last, c =>
    match step c some with
    | none => none
    | some next => commit step fuel least (most.map (· - 1)) last next
  | fuel + 1, 0, most, last, c =>
    if most = some 0 ∨ last = some c.place then some c
    else match step c some with
      | none => some c
      | some next => commit step fuel 0 (most.map (· - 1)) (some c.place) next

/-- Match an expression. Only the groups in `kept` are remembered. -/
def run (kept : List Nat) : Expr → Flags → Cursor → Follow → Option Cursor
  | .empty, _, c, follow => follow c
  | .code x, flags, c, follow => c.accept (acceptsCode flags x) follow
  | .anyChar, flags, c, follow => c.accept (acceptsAny flags) follow
  | .set negated items, flags, c, follow => c.accept (acceptsSet flags negated items) follow
  | .anchor a, flags, c, follow => if c.stands flags a then follow c else none
  | .seq a b, flags, c, follow => run kept a flags c fun c => run kept b flags c follow
  | .alt a b, flags, c, follow =>
    match run kept a flags c follow with
    | some found => some found
    | none => run kept b flags c follow
  | .group index on off body, flags, c, follow =>
    run kept body (flags.enter on off) c fun last =>
      match index with
      | none => follow last
      | some n =>
        if kept.contains n then follow (last.remember n (c.after.take (last.place - c.place)))
        else follow last
  | .many greed least most body, flags, c, follow =>
    match greed with
    | .greedy =>
      iterate (run kept body flags) false (least + c.after.length + 2) least most none c follow
    | .reluctant =>
      iterate (run kept body flags) true (least + c.after.length + 2) least most none c follow
    | .possessive =>
      match commit (run kept body flags) (least + c.after.length + 2) least most none c with
      | none => none
      | some last => follow last
  | .atomic body, flags, c, follow =>
    match run kept body flags c some with
    | none => none
    | some last => follow last
  | .look behind negated body, flags, c, follow =>
    let from? := if behind then c.back (body.width fun _ => (0, some 0)).1 else some c
    match from?.bind fun c => run kept body flags c some with
    | none => if negated then follow c else none
    | some last => if negated then none else follow { c with groups := last.groups }
  | .backref n, flags, c, follow =>
    match c.group? n with
    | none => none
    | some text => c.acceptText flags text follow
  | .ifGroup n yes no, flags, c, follow =>
    if (c.group? n).isSome then run kept yes flags c follow else run kept no flags c follow

def searchFrom (go : Cursor → Option Cursor) (c : Cursor) : Text → Option Cursor
  | [] => go c
  | x :: rest =>
    match go c with
    | some found => some found
    | none => searchFrom go (c.next x rest) rest

def search (expr : Expr) (flags : Flags) (text : Text) : Bool :=
  (searchFrom (fun c => run expr.referenced expr flags c some) (Cursor.start text) text).isSome

end AssetAudit.Regex
