import AssetAudit.Yaml.Resolve
import AssetAudit.Yaml.Token.Read

/-!
# Nodes of YAML documents

A document as a tree of scalars, sequences and mappings with their tags. An alias stands for the
node with its anchor, which has to come before it.
-/
namespace AssetAudit.Yaml

inductive Node where
  | scalar (tag : Tag) (text : Text)
  | sequence (tag : Tag) (items : List Node)
  | mapping (tag : Tag) (entries : List (Node × Node))

namespace Node

instance : Inhabited Node := ⟨.scalar .null []⟩

def missing : Node := .scalar .null []

end Node

structure Reading where
  tokens : List Token
  /-- Anchors with their nodes; a node that is not complete has none yet. -/
  anchors : List (Text × Option Node) := []
  handles : List (Text × Text) := []

structure Properties where
  anchor : Option Text := none
  tag : Option Text := none

namespace Reading

def head (r : Reading) : Token :=
  r.tokens.headD .streamEnd

def drop (r : Reading) : Reading :=
  { r with tokens := r.tokens.drop 1 }

def expect (r : Reading) (t : Token) : Outcome Reading :=
  if r.head = t then .ok r.drop else fault .unexpectedToken

def usualHandles : List (Text × Text) :=
  [(['!'], ['!']), (['!', '!'], Tag.address)]

def fullTag (r : Reading) (t : WrittenTag) : Outcome Text :=
  match t.handle with
  | none => .ok t.rest
  | some handle =>
    match r.handles.find? (·.1 == handle) with
    | some (_, address) => .ok (address ++ t.rest)
    | none => fault .tag

def properties (r : Reading) : Outcome (Properties × Reading) := do
  match r.head with
  | .anchor name =>
    let r := r.drop
    match r.head with
    | .tag t => return ({ anchor := some name, tag := some (← r.fullTag t) }, r.drop)
    | _ => return ({ anchor := some name }, r)
  | .tag t =>
    let tag ← r.fullTag t
    let r := r.drop
    match r.head with
    | .anchor name => return ({ anchor := some name, tag := some tag }, r.drop)
    | _ => return ({ tag := some tag }, r)
  | _ => return ({}, r)

/-- Make an anchor known before its node is complete. -/
def open_ (r : Reading) (p : Properties) : Outcome Reading :=
  match p.anchor with
  | none => .ok r
  | some name =>
    if r.anchors.any (·.1 == name) then fault .duplicateAnchor
    else .ok { r with anchors := (name, none) :: r.anchors }

def close (r : Reading) (p : Properties) (node : Node) : Reading :=
  match p.anchor with
  | none => r
  | some name => { r with anchors := (name, some node) :: r.anchors.filter (·.1 != name) }

def isUntagged (p : Properties) : Bool :=
  p.tag.isNone || p.tag == some ['!']

def collectionTag (p : Properties) (usual : Tag) : Tag :=
  if isUntagged p then usual else Tag.ofText (p.tag.getD [])

def scalarNode (p : Properties) (text : Text) (isPlain : Bool) : Node :=
  match p.tag with
  | none => .scalar (if isPlain then plainTag text else .str) text
  | some ['!'] => .scalar (plainTag text) text
  | some tag => .scalar (Tag.ofText tag) text

/-- Does the token end an entry of a block collection, so that the entry is empty? -/
def endsBlockEntry (isSequence isIndentless : Bool) : Token → Bool
  | .blockEnd => true
  | .blockEntry => isSequence
  | .key | .value => !isSequence || isIndentless
  | _ => false

mutual

/-- A node; `isBlock` allows block collections and `indentless` a sequence on the level of its
mapping. -/
def readNode (isBlock indentless : Bool) : Nat → Reading → Outcome (Node × Reading)
  | 0, _ => fault .unexpectedToken
  | fuel + 1, r =>
    match r.head with
    | .alias name =>
      match r.anchors.find? (·.1 == name) with
      | some (_, some node) => .ok (node, r.drop)
      | some (_, none) => .error .cyclic
      | none => fault .undefinedAlias
    | _ => do
      let (p, r) ← r.properties
      let r ← r.open_ p
      let (node, r) ← match r.head with
        | .blockEntry =>
          if indentless then do
            let (items, r) ← readBlockItems true fuel r
            pure (Node.sequence (collectionTag p .seq) items, r)
          else emptyNode p r
        | .scalar text isPlain => pure (scalarNode p text isPlain, r.drop)
        | .flowSequenceStart => do
          let (items, r) ← readFlowItems true fuel r.drop
          pure (Node.sequence (collectionTag p .seq) items, r)
        | .flowMappingStart => do
          let (entries, r) ← readFlowEntries true fuel r.drop
          pure (Node.mapping (collectionTag p .map) entries, r)
        | .blockSequenceStart =>
          if isBlock then do
            let (items, r) ← readBlockItems false fuel r.drop
            let r ← r.expect .blockEnd
            pure (Node.sequence (collectionTag p .seq) items, r)
          else emptyNode p r
        | .blockMappingStart =>
          if isBlock then do
            let (entries, r) ← readBlockEntries fuel r.drop
            pure (Node.mapping (collectionTag p .map) entries, r)
          else emptyNode p r
        | _ => emptyNode p r
      return (node, r.close p node)

def emptyNode (p : Properties) (r : Reading) : Outcome (Node × Reading) :=
  if p.anchor.isSome || p.tag.isSome then
    .ok (if isUntagged p then Node.missing else .scalar (Tag.ofText (p.tag.getD [])) [], r)
  else fault .unexpectedToken

def readBlockItems (indentless : Bool) : Nat → Reading → Outcome (List Node × Reading)
  | 0, _ => fault .unexpectedToken
  | fuel + 1, r =>
    if r.head = .blockEntry then do
      let r := r.drop
      let (item, r) ← if endsBlockEntry true indentless r.head then pure (Node.missing, r)
        else readNode true false fuel r
      let (items, r) ← readBlockItems indentless fuel r
      return (item :: items, r)
    else .ok ([], r)

def readBlockEntries : Nat → Reading → Outcome (List (Node × Node) × Reading)
  | 0, _ => fault .unexpectedToken
  | fuel + 1, r =>
    if r.head = .key then do
      let r := r.drop
      let (key, r) ← if endsBlockEntry false false r.head then pure (Node.missing, r)
        else readNode true true fuel r
      let (value, r) ← readBlockValue fuel r
      let (entries, r) ← readBlockEntries fuel r
      return ((key, value) :: entries, r)
    else if r.head = .blockEnd then .ok ([], r.drop)
    else fault .unexpectedToken

def readBlockValue : Nat → Reading → Outcome (Node × Reading)
  | 0, _ => fault .unexpectedToken
  | fuel + 1, r =>
    if r.head = .value then
      let r := r.drop
      if endsBlockEntry false false r.head then .ok (Node.missing, r)
      else readNode true true fuel r
    else .ok (Node.missing, r)

/-- The items of a flow sequence with its end. An item with a key is a mapping of one entry. -/
def readFlowItems (first : Bool) : Nat → Reading → Outcome (List Node × Reading)
  | 0, _ => fault .unexpectedToken
  | fuel + 1, r =>
    if r.head = .flowSequenceEnd then .ok ([], r.drop)
    else do
      let r ← if first then pure r else r.expect .flowEntry
      if r.head = .flowSequenceEnd then return ([], r.drop)
      else
        let (item, r) ← if r.head = .key then do
            let r := r.drop
            let (key, r) ← readFlowPart [.value, .flowEntry, .flowSequenceEnd] fuel r
            let (value, r) ← if r.head = .value then
                readFlowPart [.flowEntry, .flowSequenceEnd] fuel r.drop
              else pure (Node.missing, r)
            pure (Node.mapping .map [(key, value)], r)
          else readNode false false fuel r
        let (items, r) ← readFlowItems false fuel r
        return (item :: items, r)

/-- A node of a flow collection, unless one of the tokens comes that end it. -/
def readFlowPart (ends : List Token) : Nat → Reading → Outcome (Node × Reading)
  | 0, _ => fault .unexpectedToken
  | fuel + 1, r =>
    if ends.contains r.head then .ok (Node.missing, r) else readNode false false fuel r

def readFlowEntries (first : Bool) : Nat → Reading → Outcome (List (Node × Node) × Reading)
  | 0, _ => fault .unexpectedToken
  | fuel + 1, r =>
    if r.head = .flowMappingEnd then .ok ([], r.drop)
    else do
      let r ← if first then pure r else r.expect .flowEntry
      if r.head = .flowMappingEnd then return ([], r.drop)
      else
        let (entry, r) ← if r.head = .key then do
            let (key, r) ← readFlowPart [.value, .flowEntry, .flowMappingEnd] fuel r.drop
            let (value, r) ← if r.head = .value then
                readFlowPart [.flowEntry, .flowMappingEnd] fuel r.drop
              else pure (Node.missing, r)
            pure ((key, value), r)
          else do
            let (key, r) ← readNode false false fuel r
            pure ((key, Node.missing), r)
        let (entries, r) ← readFlowEntries false fuel r
        return (entry :: entries, r)

end

def readDirectives (version : Bool) (handles : List (Text × Text)) :
    List Token → Outcome (List (Text × Text) × List Token)
  | .directive (.version major _) :: rest =>
    if version || major ≠ 1 then fault .directive else readDirectives true handles rest
  | .directive (.handle handle address) :: rest =>
    if handles.any (·.1 == handle) then fault .directive
    else readDirectives version ((handle, address) :: handles) rest
  | .directive .other :: rest => readDirectives version handles rest
  | tokens => .ok (handles ++ usualHandles, tokens)

def isDocumentBound : Token → Bool
  | .directive _ | .documentStart | .documentEnd | .streamEnd => true
  | _ => false

/-- The root of a document, which may be missing behind an explicit start. -/
def readRoot (isExplicit : Bool) (r : Reading) : Outcome (Node × Reading) :=
  if isExplicit && isDocumentBound r.head then .ok (Node.missing, r)
  else readNode true false (3 * r.tokens.length + 3) r

def isDocumentEnd (t : Token) : Bool :=
  t == .documentEnd

/-- Behind the only document nothing may follow. -/
def finish (node : Node) (r : Reading) : Outcome (Option Node) :=
  match r.tokens.dropWhile isDocumentEnd with
  | [.streamEnd] => .ok (some node)
  | _ => fault .severalDocuments

def readDocument (tokens : List Token) : Outcome (Option Node) := do
  match tokens with
  | [.streamEnd] => return none
  | .directive _ :: _ | .documentStart :: _ => do
    let (handles, tokens) ← readDirectives false [] tokens
    match tokens with
    | .documentStart :: tokens =>
      let (node, r) ← readRoot true { tokens, handles }
      finish node r
    | _ => fault .unexpectedToken
  | _ =>
    let (node, r) ← readRoot false { tokens, handles := usualHandles }
    finish node r

end Reading

end AssetAudit.Yaml
