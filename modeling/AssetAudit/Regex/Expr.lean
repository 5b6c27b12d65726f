import AssetAudit.Text.Basic

/-!
# Regular expressions

The tree of a regular expression, with the flags that decide how its leaves read a character.
-/
namespace AssetAudit.Regex

structure Flags where
  template : Bool := false
  ignoreCase : Bool := false
  multiline : Bool := false
  dotAll : Bool := false
  unicode : Bool := false
  verbose : Bool := false
  ascii : Bool := false
  deriving DecidableEq, Repr

namespace Flags

def none : Flags := {}

def union (a b : Flags) : Flags where
  template := a.template || b.template
  ignoreCase := a.ignoreCase || b.ignoreCase
  multiline := a.multiline || b.multiline
  dotAll := a.dotAll || b.dotAll
  unicode := a.unicode || b.unicode
  verbose := a.verbose || b.verbose
  ascii := a.ascii || b.ascii

def without (a b : Flags) : Flags where
  template := a.template && !b.template
  ignoreCase := a.ignoreCase && !b.ignoreCase
  multiline := a.multiline && !b.multiline
  dotAll := a.dotAll && !b.dotAll
  unicode := a.unicode && !b.unicode
  verbose := a.verbose && !b.verbose
  ascii := a.ascii && !b.ascii

def inter (a b : Flags) : Flags :=
  a.without (a.without b)

def choosesAlphabet (a : Flags) : Bool :=
  a.ascii || a.unicode

/-- The flags inside a group: choosing an alphabet gives up the one chosen outside. -/
def enter (outer on off : Flags) : Flags :=
  let kept := if on.choosesAlphabet then { outer with ascii := false, unicode := false } else outer
  (kept.union on).without off

def toNat (a : Flags) : Nat :=
  (if a.template then 1 else 0) + (if a.ignoreCase then 2 else 0) + (if a.multiline then 8 else 0) +
    (if a.dotAll then 16 else 0) + (if a.unicode then 32 else 0) +
    (if a.verbose then 64 else 0) + (if a.ascii then 256 else 0)

end Flags

inductive Category where
  | digit
  | space
  | word
  deriving DecidableEq, Repr

inductive SetItem where
  | code (c : Nat)
  | range (lo hi : Nat)
  | category (kind : Category) (negated : Bool)
  deriving DecidableEq, Repr

inductive Anchor where
  | lineStart
  | lineEnd
  | textStart
  | textEnd
  | wordEdge
  | wordInside
  deriving DecidableEq, Repr

inductive Greed where
  | greedy
  | reluctant
  | possessive
  deriving DecidableEq, Repr

/-- Codes are numbers and not characters, because an escape may name a surrogate. -/
inductive Expr where
  | empty
  | code (c : Nat)
  | anyChar
  | set (negated : Bool) (items : List SetItem)
  | anchor (a : Anchor)
  | seq (first second : Expr)
  | alt (left right : Expr)
  | group (index : Option Nat) (on off : Flags) (body : Expr)
  | many (greed : Greed) (least : Nat) (most : Option Nat) (body : Expr)
  | atomic (body : Expr)
  | look (behind negated : Bool) (body : Expr)
  | backref (index : Nat)
  | ifGroup (index : Nat) (yes no : Expr)
  deriving DecidableEq, Repr

namespace Expr

def sequence : List Expr → Expr
  | [] => .empty
  | [e] => e
  | e :: rest => .seq e (sequence rest)

def choice : List Expr → Expr
  | [] => .empty
  | [e] => e
  | e :: rest => .alt e (choice rest)

def referenced : Expr → List Nat
  | .seq a b | .alt a b => referenced a ++ referenced b
  | .group _ _ _ e | .many _ _ _ e | .atomic e | .look _ _ e => referenced e
  | .backref n => [n]
  | .ifGroup n a b => n :: referenced a ++ referenced b
  | .empty | .code _ | .anyChar | .set _ _ | .anchor _ => []

def repeats : Expr → Option Greed
  | .seq a b | .alt a b | .ifGroup _ a b => (repeats a).or (repeats b)
  | .group _ _ _ e | .atomic e | .look _ _ e => repeats e
  | .many greed _ _ _ => some greed
  | .empty | .code _ | .anyChar | .set _ _ | .anchor _ | .backref _ => Option.none

def addMost : Option Nat → Option Nat → Option Nat
  | some a, some b => some (a + b)
  | _, _ => Option.none

/-- The least and the greatest number of characters that the expression reads; a group that was
read before has the width given for it. -/
def width (groups : Nat → Nat × Option Nat) : Expr → Nat × Option Nat
  | .empty | .anchor _ | .look _ _ _ => (0, some 0)
  | .code _ | .anyChar | .set _ _ => (1, some 1)
  | .seq a b =>
    ((width groups a).1 + (width groups b).1, addMost (width groups a).2 (width groups b).2)
  | .alt a b =>
    (min (width groups a).1 (width groups b).1,
      match (width groups a).2, (width groups b).2 with
      | some m, some n => some (max m n)
      | _, _ => Option.none)
  | .group _ _ _ e | .atomic e => width groups e
  | .many _ least most e =>
    (least * (width groups e).1,
      match (width groups e).2, most with
      | some 0, _ => some 0
      | some m, some n => some (m * n)
      | _, _ => Option.none)
  | .backref n => groups n
  | .ifGroup _ a b =>
    (min (width groups a).1 (width groups b).1,
      match (width groups a).2, (width groups b).2 with
      | some m, some n => some (max m n)
      | _, _ => Option.none)

end Expr

end AssetAudit.Regex
