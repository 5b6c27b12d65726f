import AssetAudit.Decimal.Binary
import AssetAudit.Text.Basic

/-!
# Values of settings

What a settings file or an analyzer report may hold. Mappings keep the order in which their keys
came; their keys are scalars, and numbers that are equal are one key.
-/
namespace AssetAudit

/-- A point in time with its distance from universal time in seconds, if it has one. -/
structure Moment where
  year : Nat
  month : Nat
  day : Nat
  hour : Nat
  minute : Nat
  second : Nat
  microsecond : Nat
  offset : Option Int := none
  deriving DecidableEq, Repr

inductive Scalar where
  | null
  | bool (b : Bool)
  | int (n : Int)
  | float (bits : UInt64)
  | text (s : Text)
  | bytes (data : List UInt8)
  | date (year month day : Nat)
  | moment (m : Moment)
  deriving DecidableEq, Repr

inductive Value where
  | scalar (s : Scalar)
  | list (items : List Value)
  | tuple (items : List Value)
  | set (items : List Scalar)
  | map (entries : List (Scalar × Value))
  deriving Repr

namespace Value

@[match_pattern] abbrev null : Value := .scalar .null
@[match_pattern] abbrev bool (b : Bool) : Value := .scalar (.bool b)
@[match_pattern] abbrev int (n : Int) : Value := .scalar (.int n)
@[match_pattern] abbrev float (bits : UInt64) : Value := .scalar (.float bits)
@[match_pattern] abbrev text (s : Text) : Value := .scalar (.text s)

instance : Inhabited Value := ⟨null⟩

end Value

namespace Scalar

/-- A number as `mantissa * 2 ^ exponent` with a sign; truth values count as numbers. -/
def parts? : Scalar → Option Decimal.Parts
  | .bool b => some (.finite false b.toNat 0)
  | .int n => some (.finite (n < 0) n.natAbs 0)
  | .float bits => some (Decimal.Parts.ofBits bits)
  | _ => none

def sameNumber : Decimal.Parts → Decimal.Parts → Bool
  | .finite s m e, .finite t n f =>
    (m == 0 && n == 0) ||
      (s == t && m * Nat.pow 2 (e - min e f).toNat == n * Nat.pow 2 (f - min e f).toNat)
  | .infinite s, .infinite t => s == t
  | _, _ => false

/-- Equality of keys: numbers by their value, everything else by itself. -/
def same (a b : Scalar) : Bool :=
  match a.parts?, b.parts? with
  | some p, some q => sameNumber p q
  | none, none => a == b
  | _, _ => false

def isTruthy : Scalar → Bool
  | .null => false
  | .bool b => b
  | .int n => n != 0
  | .float bits => !(Decimal.Parts.ofBits bits).isZero
  | .text s => !s.isEmpty
  | .bytes data => !data.isEmpty
  | .date _ _ _ => true
  | .moment _ => true

end Scalar

namespace Value

def isNull : Value → Bool
  | .scalar .null => true
  | _ => false

/-- What counts as given: everything but null, false, zero and what is empty. -/
def isTruthy : Value → Bool
  | .scalar s => s.isTruthy
  | .list items | .tuple items => !items.isEmpty
  | .set items => !items.isEmpty
  | .map entries => !entries.isEmpty

end Value

abbrev Entries (α : Type) := List (Scalar × α)

namespace Entries

variable {α : Type}

def get? (entries : Entries α) (key : Scalar) : Option α :=
  (entries.find? fun e => e.1.same key).map (·.2)

/-- Change the value of a key in its place, or add the key at the end. -/
def insert (entries : Entries α) (key : Scalar) (value : α) : Entries α :=
  match entries with
  | [] => [(key, value)]
  | (k, v) :: rest => if k.same key then (k, value) :: rest else (k, v) :: insert rest key value

def ofList (pairs : List (Scalar × α)) : Entries α :=
  pairs.foldl (fun entries (key, value) => entries.insert key value) []

def getText? (entries : Entries α) (key : Text) : Option α :=
  entries.get? (.text key)

end Entries

namespace Value

def record (fields : List (String × Value)) : Value :=
  .map (fields.map fun f => (.text f.1.toList, f.2))

def field? (v : Value) (name : Text) : Option Value :=
  match v with
  | .map entries => Entries.getText? entries name
  | _ => none

/-- What going through the value gives, one at a time; nothing if it cannot be gone through. -/
def items? : Value → Option (List Value)
  | .list items | .tuple items => some items
  | .set items => some (items.map .scalar)
  | .map entries => some (entries.map fun e => .scalar e.1)
  | .text s => some (s.map fun c => text [c])
  | .scalar (.bytes data) => some (data.map fun b => int b.toNat)
  | .scalar _ => none

mutual

/-- Equality of values: numbers by their value, mappings and sets without regard to order. -/
def equal : Value → Value → Bool
  | .scalar a, .scalar b => a.same b
  | .list a, .list b | .tuple a, .tuple b => equalLists a b
  | .set a, .set b => a.length == b.length && a.all fun x => b.any fun y => x.same y
  | .map a, .map b => a.length == b.length && equalEntries a b
  | _, _ => false

def equalLists : List Value → List Value → Bool
  | [], [] => true
  | x :: xs, y :: ys => equal x y && equalLists xs ys
  | _, _ => false

def equalEntries : List (Scalar × Value) → List (Scalar × Value) → Bool
  | [], _ => true
  | (k, v) :: rest, other =>
    (match Entries.get? other k with
      | some w => equal v w
      | none => false) && equalEntries rest other

end

end Value

end AssetAudit
