import AssetAudit.Yaml.Node
import AssetAudit.Yaml.Scalar

/-!
# Reading YAML

The value of a document. A mapping under the key `<<` is taken in where it stands in its parent,
before the parent's own entries; of equal keys the last value counts.
-/
namespace AssetAudit.Yaml

namespace Node

def isMerge : Node → Bool
  | .scalar .merge _ => true
  | _ => false

/-- A lone `=` as a key is a text. -/
def plainKey : Node → Node
  | .scalar .value text => .scalar .str text
  | node => node

/-- The entries of the mappings in a list, those of the last mapping first. -/
def mergedAll (got : List (Node × Node)) : List Node → Outcome (List (Node × Node))
  | [] => .ok got
  | .mapping _ entries :: rest => mergedAll (entries ++ got) rest
  | _ :: _ => fault .wrongKind

def merged : Node → Outcome (List (Node × Node))
  | .mapping _ entries => .ok entries
  | .sequence _ items => mergedAll [] items
  | .scalar _ _ => fault .wrongKind

/-- Split the entries of a mapping into those brought in and its own. -/
def spread : List (Node × Node) → Outcome (List (Node × Node) × List (Node × Node))
  | [] => .ok ([], [])
  | (key, value) :: rest => do
    if key.isMerge then
      let first ← merged value
      let (brought, own) ← spread rest
      return (first ++ brought, own)
    else
      let (brought, own) ← spread rest
      return (brought, (key.plainKey, value) :: own)

mutual

def flatten : Node → Outcome Node
  | .scalar tag text => .ok (.scalar tag text)
  | .sequence tag items => do
    let items ← flattenItems items
    return .sequence tag items
  | .mapping tag entries => do
    let entries ← flattenEntries entries
    let (brought, own) ← spread entries
    return .mapping tag (brought ++ own)

def flattenItems : List Node → Outcome (List Node)
  | [] => .ok []
  | item :: rest => do
    let item ← flatten item
    let rest ← flattenItems rest
    return item :: rest

def flattenEntries : List (Node × Node) → Outcome (List (Node × Node))
  | [] => .ok []
  | (key, value) :: rest => do
    let key ← flatten key
    let value ← flatten value
    let rest ← flattenEntries rest
    return (key, value) :: rest

end

def key (v : Value) : Outcome Scalar :=
  match v with
  | .scalar s => .ok s
  | _ => fault .unhashableKey

mutual

def value : Node → Outcome Value
  | .scalar tag text => (scalarValue tag text).map .scalar
  | .sequence tag items =>
    match tag with
    | .seq => (itemValues items).map .list
    | .omap | .pairs => (pairValues items).map .list
    | .merge | .value | .other => fault .unknownTag
    | _ => fault .wrongKind
  | .mapping tag entries =>
    match tag with
    | .map => (entryValues [] entries).map .map
    | .set => (entryValues [] entries).map fun entries => .set (entries.map (·.1))
    | .merge | .value | .other => fault .unknownTag
    | _ => fault .wrongKind

def itemValues : List Node → Outcome (List Value)
  | [] => .ok []
  | item :: rest => do
    let v ← value item
    let vs ← itemValues rest
    return v :: vs

def entryValues (got : Entries Value) : List (Node × Node) → Outcome (Entries Value)
  | [] => .ok got
  | (k, node) :: rest => do
    let k ← value k
    let k ← key k
    let v ← value node
    entryValues (Entries.insert got k v) rest

def pairValues : List Node → Outcome (List Value)
  | [] => .ok []
  | .mapping _ [(k, node)] :: rest => do
    let k ← value k
    let v ← value node
    let vs ← pairValues rest
    return .tuple [k, v] :: vs
  | _ :: _ => fault .wrongKind

end

end Node

/-- The value of a document; an empty one is null. -/
def read (document : Text) : Outcome Value := do
  let tokens ← tokensOf document
  match ← Reading.readDocument tokens with
  | none => return .null
  | some node => (← node.flatten).value

end AssetAudit.Yaml
