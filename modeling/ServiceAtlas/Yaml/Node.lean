import ServiceAtlas.Yaml.Token

/-!
The nodes of a YAML document, each with the tag that it bears or that its text calls for. An alias is
one more way to the node that it names, even from inside that node.
-/

namespace ServiceAtlas.Yaml

inductive Tag where
  | kind (k : ScalarKind)
  | bytes
  | orderedTable
  | pairs
  | set
  | list
  | table
  | foreign
deriving DecidableEq

namespace Tag

/-- Where the standard tags are defined. -/
def standardLead : String := "tag:yaml.org,2002:"

def standard : List (String × Tag) :=
  [("null", kind .null), ("bool", kind .bool), ("int", kind .int), ("float", kind .float),
    ("timestamp", kind .date), ("merge", kind .merge), ("value", kind .defaultValue),
    ("str", kind .text), ("binary", bytes), ("omap", orderedTable), ("pairs", pairs), ("set", set),
    ("seq", list), ("map", table)]

def ofName (name : String) : Tag :=
  match Text.after? standardLead.toList name.toList with
  | some rest => (standard.lookup (String.ofList rest)).getD foreign
  | none => foreign

end Tag

/-- What a node is made of. The parts of a collection are known by their numbers. -/
inductive Body where
  | scalar (text : List Char)
  | list (items : List Nat)
  | table (entries : List (Nat × Nat))

structure Node where
  tag : Tag
  body : Body

/-- The nodes of a document by number. A node may lead back to itself. -/
abbrev Graph := Array Node

namespace Node

/-- The tokens that are left, the nodes so far, those that have names, the handles of tags, and how many
collections are open. -/
structure Reading where
  tokens : List Token
  graph : Graph
  anchors : List (String × Nat)
  handles : List (String × String)
  depth : Nat

abbrev Parse := StateT Reading (Except Malformation)

def standardHandles : List (String × String) := [("!", "!"), ("!!", Tag.standardLead)]

def next : Parse Token := do
  match (← get).tokens with
  | [] => return .streamEnd
  | .fault m :: _ => throw m
  | t :: _ => return t

def pass : Parse Unit := modify fun r => { r with tokens := r.tokens.drop 1 }

def endsItem : Token → Bool
  | .entry | .blockEnd => true
  | _ => false

def endsEntry : Token → Bool
  | .key | .value | .blockEnd => true
  | _ => false

def endsFlowItem : Token → Bool
  | .flowEntry | .flowListEnd => true
  | _ => false

def endsFlowEntry : Token → Bool
  | .flowEntry | .flowTableEnd => true
  | _ => false

def isValue : Token → Bool
  | .value => true
  | _ => false

/-- The full name of a tag. -/
def tagName (handle : Option String) (suffix : String) : Parse String := do
  match handle with
  | none => return suffix
  | some h =>
    match (← get).handles.lookup h with
    | none => throw .undefinedTag
    | some lead => return lead ++ suffix

def readAnchor? : Parse (Option String) := do
  match ← next with
  | .anchor name => do pass; return some name
  | _ => return none

def readTag? : Parse (Option (Option String × String)) := do
  match ← next with
  | .tag handle suffix => do pass; return some (handle, suffix)
  | _ => return none

def named? (tag : Option (Option String × String)) : Parse (Option String) := do
  match tag with
  | none => return none
  | some (handle, suffix) => some <$> tagName handle suffix

/-- Anchor and tag of a node, in either order. -/
def readProperties : Parse (Option String × Option String) := do
  match ← readAnchor? with
  | some anchor => return (some anchor, ← named? (← readTag?))
  | none =>
    match ← readTag? with
    | none => return (none, none)
    | tag =>
      let anchor ← readAnchor?
      return (anchor, ← named? tag)

def scalarTag (tag : Option String) (isPlain : Bool) (text : List Char) : Tag :=
  match tag with
  | none => if isPlain then .kind (.ofPlain text) else .kind .text
  | some "!" => .kind (.ofPlain text)
  | some name => .ofName name

def nodeTag (tag : Option String) (usual : Tag) : Tag :=
  match tag with
  | none | some "!" => usual
  | some name => .ofName name

/-- A new node. Its anchor is known before what stands inside is read. -/
def add (anchor : Option String) (n : Node) : Parse Nat := do
  let r ← get
  let id := r.graph.size
  match anchor with
  | none => set { r with graph := r.graph.push n }
  | some name =>
    if (r.anchors.lookup name).isSome then throw .repeatedAnchor
    set { r with graph := r.graph.push n, anchors := (name, id) :: r.anchors }
  return id

def addScalar (anchor tag : Option String) (isPlain : Bool) (text : List Char) : Parse Nat :=
  add anchor ⟨scalarTag tag isPlain text, .scalar text⟩

def addEmpty : Parse Nat := addScalar none none true []

variable [Stack]

/-- A new collection, with its parts as `read` gives them. -/
def addCollection {α : Type} (anchor : Option String) (tag : Tag) (body : List α → Body)
    (read : Parse (List α)) : Parse Nat := do
  if Stack.levels .readYaml ≤ (← get).depth then throw .endless
  let id ← add anchor ⟨tag, body []⟩
  modify fun r => { r with depth := r.depth + 1 }
  let parts ← read
  modify fun r => { r with graph := r.graph.set! id ⟨tag, body parts⟩, depth := r.depth - 1 }
  return id

mutual
/-- The node at the head of the tokens. Every step into the tokens uses a unit of `fuel`. -/
def read (fuel : Nat) (block level : Bool) : Parse Nat := do
  match fuel with
  | 0 => throw .unexpectedToken
  | fuel + 1 =>
    match ← next with
    | .reference name =>
      pass
      match (← get).anchors.lookup name with
      | some id => return id
      | none => throw .undefinedAlias
    | _ =>
      let (anchor, tag) ← readProperties
      readContent fuel block level anchor tag

/-- What stands behind anchor and tag. `level` says that a list may stand level with its key. -/
def readContent (fuel : Nat) (block level : Bool) (anchor tag : Option String) : Parse Nat := do
  match fuel with
  | 0 => throw .unexpectedToken
  | fuel + 1 =>
    match ← next, block, level with
    | .entry, _, true => addCollection anchor (nodeTag tag .list) .list (readLevelItems fuel)
    | .scalar text isPlain, _, _ =>
      pass
      addScalar anchor tag isPlain text
    | .flowListStart, _, _ =>
      pass
      addCollection anchor (nodeTag tag .list) .list (readFlowItems fuel true)
    | .flowTableStart, _, _ =>
      pass
      addCollection anchor (nodeTag tag .table) .table (readFlowEntries fuel true)
    | .listStart, true, _ =>
      pass
      addCollection anchor (nodeTag tag .list) .list (readItems fuel)
    | .tableStart, true, _ =>
      pass
      addCollection anchor (nodeTag tag .table) .table (readEntries fuel)
    | _, _, _ =>
      if anchor.isSome || tag.isSome then addScalar anchor tag true [] else throw .unexpectedToken

def readItems (fuel : Nat) : Parse (List Nat) := do
  match fuel with
  | 0 => throw .unexpectedToken
  | fuel + 1 =>
    match ← next with
    | .entry =>
      pass
      let n ← if endsItem (← next) then addEmpty else read fuel true false
      return n :: (← readItems fuel)
    | .blockEnd => do pass; return []
    | _ => throw .unexpectedToken

def readLevelItems (fuel : Nat) : Parse (List Nat) := do
  match fuel with
  | 0 => throw .unexpectedToken
  | fuel + 1 =>
    match ← next with
    | .entry =>
      pass
      let t ← next
      let n ← if endsItem t || endsEntry t then addEmpty else read fuel true false
      return n :: (← readLevelItems fuel)
    | _ => return []

def readEntries (fuel : Nat) : Parse (List (Nat × Nat)) := do
  match fuel with
  | 0 => throw .unexpectedToken
  | fuel + 1 =>
    match ← next with
    | .key =>
      pass
      let k ← if endsEntry (← next) then addEmpty else read fuel true true
      let v ← readValue fuel
      return (k, v) :: (← readEntries fuel)
    | .blockEnd => do pass; return []
    | _ => throw .unexpectedToken

def readValue (fuel : Nat) : Parse Nat := do
  match fuel with
  | 0 => throw .unexpectedToken
  | fuel + 1 =>
    match ← next with
    | .value =>
      pass
      if endsEntry (← next) then addEmpty else read fuel true true
    | _ => addEmpty

/-- The items of a list in brackets. A single entry of a table may stand for an item. -/
def readFlowItems (fuel : Nat) (first : Bool) : Parse (List Nat) := do
  match fuel with
  | 0 => throw .unexpectedToken
  | fuel + 1 =>
    match ← next with
    | .flowListEnd => do pass; return []
    | t =>
      if !first then
        match t with
        | .flowEntry => pass
        | _ => throw .unexpectedToken
      match ← next with
      | .flowListEnd => do pass; return []
      | .key =>
        pass
        let n ← addCollection none .table .table do return [← readFlowEntry fuel endsFlowItem]
        return n :: (← readFlowItems fuel false)
      | _ =>
        let n ← read fuel false false
        return n :: (← readFlowItems fuel false)

/-- The rest of an entry behind the mark of its key. -/
def readFlowEntry (fuel : Nat) (ends : Token → Bool) : Parse (Nat × Nat) := do
  match fuel with
  | 0 => throw .unexpectedToken
  | fuel + 1 =>
    let t ← next
    let k ← if isValue t || ends t then addEmpty else read fuel false false
    return (k, ← readFlowValue fuel)

def readFlowEntries (fuel : Nat) (first : Bool) : Parse (List (Nat × Nat)) := do
  match fuel with
  | 0 => throw .unexpectedToken
  | fuel + 1 =>
    match ← next with
    | .flowTableEnd => do pass; return []
    | t =>
      if !first then
        match t with
        | .flowEntry => pass
        | _ => throw .unexpectedToken
      match ← next with
      | .flowTableEnd => do pass; return []
      | .key =>
        pass
        let e ← readFlowEntry fuel endsFlowEntry
        return e :: (← readFlowEntries fuel false)
      | _ =>
        let k ← read fuel false false
        let v ← addEmpty
        return (k, v) :: (← readFlowEntries fuel false)

def readFlowValue (fuel : Nat) : Parse Nat := do
  match fuel with
  | 0 => throw .unexpectedToken
  | fuel + 1 =>
    match ← next with
    | .value =>
      pass
      let t ← next
      if endsFlowItem t || endsFlowEntry t then addEmpty else read fuel false false
    | _ => addEmpty
end

/-- What the directives say: whether the version is known, and the handles. -/
def readDirectives (fuel : Nat) (versioned : Bool) (handles : List (String × String)) :
    Parse (List (String × String)) := do
  match fuel with
  | 0 => return handles
  | fuel + 1 =>
    match ← next with
    | .directive (.version major) =>
      if versioned || major ≠ 1 then throw .directive
      pass
      readDirectives fuel true handles
    | .directive (.tag handle lead) =>
      if (handles.lookup handle).isSome then throw .directive
      pass
      readDirectives fuel versioned ((handle, lead) :: handles)
    | .directive .unknown =>
      pass
      readDirectives fuel versioned handles
    | _ => return handles

def isDocumentEnd : Token → Bool
  | .documentEnd => true
  | _ => false

def skipDocumentEnds : Parse Unit :=
  modify fun r => { r with tokens := r.tokens.dropWhile isDocumentEnd }

/-- The node of a document whose start is marked. -/
def readMarked (fuel : Nat) : Parse Nat := do
  let handles ← readDirectives fuel false []
  modify fun r => { r with handles := handles ++ standardHandles }
  match ← next with
  | .documentStart =>
    pass
    match ← next with
    | .directive _ | .documentStart | .documentEnd | .streamEnd => addEmpty
    | _ => read fuel true false
  | _ => throw .unexpectedToken

/-- The one document of a text, if it holds any. -/
def readDocument (fuel : Nat) : Parse (Option Nat) := do
  let document ← match ← next with
    | .streamEnd => pure none
    | .directive _ | .documentStart => some <$> readMarked fuel
    | _ => some <$> read fuel true false
  skipDocumentEnds
  match ← next with
  | .streamEnd => return document
  | _ => throw .severalDocuments

/-- The nodes in a text, and the one that is the document. -/
def ofText (cs : List Char) : Except Malformation (Option Nat × Graph) := do
  let tokens := Token.ofText cs
  let (root, r) ← (readDocument (4 * tokens.length + 8)).run ⟨tokens, #[], [], standardHandles, 0⟩
  return (root, r.graph)

end Node
end ServiceAtlas.Yaml
