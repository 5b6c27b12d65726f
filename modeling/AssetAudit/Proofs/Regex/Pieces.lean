import AssetAudit.Regex.Parse

/-!
# Expressions as they are written

The tree of an expression forgets how it was spelled. Here an expression is a list of branches, each
a list of pieces that keep their text: atoms, references, signs of repetition, groups, and pieces
that stand for nothing. Text and tree are both read off the pieces.
-/
namespace AssetAudit.Regex

inductive Sign where
  | star
  | plus
  | optional
  | counted (low : Text) (high : Option Text)
  deriving DecidableEq, Repr

namespace Sign

def text : Sign → Text
  | .star => ['*']
  | .plus => ['+']
  | .optional => ['?']
  | .counted low none => '\x7b' :: low ++ ['\x7d']
  | .counted low (some high) => '\x7b' :: low ++ ',' :: high ++ ['\x7d']

theorem text_ne_nil (sign : Sign) : sign.text ≠ [] := by
  cases sign with
  | counted low high => cases high <;> exact List.cons_ne_nil _ _
  | _ => exact List.cons_ne_nil _ _

def bound (digits : Text) : Option Nat :=
  if digits.isEmpty then none else some (readBase 10 digits)

def bounds : Sign → Nat × Option Nat
  | .star => (0, none)
  | .plus => (1, none)
  | .optional => (0, some 1)
  | .counted low high => (readBase 10 low, bound (high.getD low))

end Sign

def Greed.suffix : Greed → Text
  | .greedy => []
  | .reluctant => ['?']
  | .possessive => ['+']

def Expr.isSingle : Expr → Bool
  | .code _ | .anyChar | .set _ _ | .anchor _ => true
  | _ => false

structure Atom where
  text : Text
  expr : Expr
  single : expr.isSingle = true

structure Reference where
  text : Text
  group : Nat
  marked : (∃ d more, text = '\\' :: d :: more ∧ ('1' ≤ d && d ≤ '9') = true) ∨
    ∃ more, text = '(' :: '?' :: 'P' :: '=' :: more

inductive GroupKind where
  | capture (name : Option Text) (index : Nat)
  | flagged (letters : Text) (on off : Flags)
  | atomic
  | look (behind negated : Bool)
  | condition (name : Text) (index : Nat)
  deriving DecidableEq, Repr

namespace GroupKind

def opening : GroupKind → Text
  | .capture none _ => []
  | .capture (some name) _ => '?' :: 'P' :: '<' :: name ++ ['>']
  | .flagged letters _ _ => '?' :: letters ++ [':']
  | .atomic => ['?', '>']
  | .look behind negated =>
    '?' :: (if behind then ['<'] else []) ++ [if negated then '!' else '=']
  | .condition name _ => '?' :: '(' :: name ++ [')']

def expr (branches : List Expr) : GroupKind → Expr
  | .capture _ index => .group (some index) {} {} (Expr.choice branches)
  | .flagged _ on off => .group none on off (Expr.choice branches)
  | .atomic => .atomic (Expr.choice branches)
  | .look behind negated => .look behind negated (Expr.choice branches)
  | .condition _ index => .ifGroup index (branches.headD .empty) (branches.tail.headD .empty)

end GroupKind

inductive Piece where
  | atom (a : Atom)
  | reference (r : Reference)
  /-- Comments, blanks in a verbose expression, and flags for the whole expression. -/
  | silent (text : Text)
  | repetition (sign : Sign) (greed : Greed)
  | group (kind : GroupKind) (branches : List (List Piece))

namespace Piece

mutual

def text : Piece → Text
  | .atom a => a.text
  | .reference r => r.text
  | .silent t => t
  | .repetition sign greed => sign.text ++ greed.suffix
  | .group kind branches => '(' :: kind.opening ++ branchesText branches ++ [')']

def listText : List Piece → Text
  | [] => []
  | piece :: rest => piece.text ++ listText rest

def branchesText : List (List Piece) → Text
  | [] => []
  | [branch] => listText branch
  | branch :: rest => listText branch ++ '|' :: branchesText rest

end

def wrapLast (sign : Sign) (greed : Greed) : List Expr → List Expr
  | [] => []
  | item :: before => .many greed sign.bounds.1 sign.bounds.2 item :: before

mutual

def addTo (items : List Expr) : Piece → List Expr
  | .atom a => a.expr :: items
  | .reference r => .backref r.group :: items
  | .silent _ => items
  | .repetition sign greed => wrapLast sign greed items
  | .group kind branches => kind.expr (branchExprs branches) :: items

def addList (items : List Expr) : List Piece → List Expr
  | [] => items
  | piece :: rest => addList (piece.addTo items) rest

def branchExprs : List (List Piece) → List Expr
  | [] => []
  | branch :: rest => Expr.sequence (addList [] branch).reverse :: branchExprs rest

end

end Piece

end AssetAudit.Regex
