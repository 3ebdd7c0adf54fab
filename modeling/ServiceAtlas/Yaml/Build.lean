import ServiceAtlas.Text.Base64
import ServiceAtlas.Yaml.Node
import ServiceAtlas.Yaml.Number
import ServiceAtlas.Yaml.Slots
import ServiceAtlas.Yaml.Store

/-!
Data built from nodes. A collection is put into the store empty, and filled in a later round, so that
it may hold itself; only what a key holds is filled at once. Tables merged into others come first; a
tag without a reading, and a collection for a key, are faults.
-/

namespace ServiceAtlas.Yaml

/-- How far the building has come: what is made of each node, the nodes that are under way, and the
collections that wait to be filled, the last one first. -/
structure Building where
  graph : Graph
  store : Store
  made : Array (Option Item)
  active : List Nat
  waiting : List (Nat × Nat)

abbrev Build := StateT Building (Except Malformation)

namespace Build

def node (id : Nat) : Build Node := return ((← get).graph[id]?).getD ⟨.foreign, .scalar []⟩

def setNode (id : Nat) (n : Node) : Build Unit :=
  modify fun b => { b with graph := b.graph.setIfInBounds id n }

/-- The entries of a node that is a table. -/
def entriesOf (id : Nat) : Build (List (Nat × Nat)) := do
  match (← node id).body with
  | .table entries => return entries
  | _ => throw .otherNode

def setEntries (id : Nat) (entries : List (Nat × Nat)) : Build Unit := do
  setNode id { ← node id with body := .table entries }

/-! Tables merged into others. -/

mutual
/-- Gives a table the entries of those that it asks to be merged with, in front of its own. The key `=`
stands for text where a table is built. -/
def merge (fuel : Nat) (id position : Nat) (merged : List (Nat × Nat)) : Build Unit := do
  match fuel with
  | 0 => throw .endless
  | fuel + 1 =>
    let entries ← entriesOf id
    match entries[position]? with
    | none => if !merged.isEmpty then setEntries id (merged ++ entries)
    | some (key, value) =>
      let k ← node key
      if k.tag = .kind .merge then
        setEntries id (entries.eraseIdx position)
        merge fuel id position (merged ++ (← mergedEntries fuel value))
      else
        if k.tag = .kind .defaultValue then setNode key { k with tag := .kind .text }
        merge fuel id (position + 1) merged

/-- The entries of a table that is merged into another, or of several, the last one first. -/
def mergedEntries (fuel : Nat) (id : Nat) : Build (List (Nat × Nat)) := do
  match fuel with
  | 0 => throw .endless
  | fuel + 1 =>
    match (← node id).body with
    | .table _ =>
      merge fuel id 0 []
      entriesOf id
    | .list items =>
      let parts ← items.mapM fun item => do
        let _ ← entriesOf item
        merge fuel item 0 []
        entriesOf item
      return parts.reverse.flatten
    | .scalar _ => throw .otherNode
end

/-- Enough for every way through the tables of a document. -/
def mergeFuel (g : Graph) : Nat :=
  g.foldl (fun n k => match k.body with
    | .table entries => n + 4 * entries.length
    | _ => n + 4) 1000

/-! Scalars. -/

/-- The text of a node. A table stands for the value under its key `=`. -/
def textOf (fuel : Nat) (id : Nat) : Build (List Char) := do
  match fuel with
  | 0 => throw .endless
  | fuel + 1 =>
    match (← node id).body with
    | .scalar cs => return cs
    | .list _ => throw .otherNode
    | .table entries =>
      match ← entries.findM? fun e => return (← node e.1).tag = .kind .defaultValue with
      | some e => textOf fuel e.2
      | none => throw .otherNode

def bytesOf (cs : List Char) : Except Malformation Datum := do
  if cs.any fun c => 0x80 ≤ c.toNat then throw .otherNode
  Datum.bytes <$> Number.require (Text.Base64.decode? cs) .otherNode

def ofDate : Day × Option Clock → Datum
  | (d, none) => .date d
  | (d, some c) => .moment d c

/-- A date is read from the scalar itself. -/
def dateOf (body : Body) : Except Malformation Datum :=
  match body with
  | .scalar cs => ofDate <$> Date.read cs
  | _ => .error .noDateText

def scalarOf (tag : Tag) (body : Body) (cs : List Char) : Except Malformation Datum :=
  match tag with
  | .kind .null => .ok .null
  | .kind .bool => .bool <$> Number.boolOf cs
  | .kind .int => .int <$> Number.intOf cs
  | .kind .float => .float <$> Number.floatOf cs
  | .kind .date => dateOf body
  | .kind .text => .ok (.text (String.ofList cs))
  | .bytes => bytesOf cs
  | _ => .error .noReading

/-- Whether a tag is read from the text of a node. -/
def isTextual : Tag → Bool
  | .bytes | .kind .null | .kind .bool | .kind .int | .kind .float | .kind .date | .kind .text => true
  | _ => false

/-! Collections. -/

/-- The empty collection of a tag. -/
def empty? : Tag → Option Collection
  | .list => some (.list [])
  | .table => some (.table [])
  | .set => some (.set [])
  | .pairs | .orderedTable => some (.pairs [])
  | _ => none

/-- What may be a key: anything but a collection. -/
def keyOf : Item → Build Datum
  | .plain d => return d
  | .shared _ => throw .unhashableKey

/-- Entries with one more. A known key keeps its place and its form, and takes the new value. -/
def insert (entries : List (Datum × Item)) (key : Datum) (value : Item) : List (Datum × Item) :=
  match entries with
  | [] => [(key, value)]
  | (k, v) :: rest => if k.sameKey key then (k, value) :: rest else (k, v) :: insert rest key value

mutual
/-- What a node stands for. With `atOnce` its collection is filled before it is known, so that it cannot
hold itself. -/
def construct (fuel : Nat) (atOnce : Bool) (id : Nat) : Build Item := do
  match fuel with
  | 0 => throw .endless
  | fuel + 1 =>
    let b ← get
    match b.made[id]? with
    | some (some item) => return item
    | _ =>
      if b.active.contains id then throw .selfContained
      set { b with active := id :: b.active }
      let item ← constructNew fuel atOnce id
      modify fun b =>
        { b with made := b.made.setIfInBounds id (some item), active := b.active.erase id }
      return item

def constructNew (fuel : Nat) (atOnce : Bool) (id : Nat) : Build Item := do
  match fuel with
  | 0 => throw .endless
  | fuel + 1 =>
    let n ← node id
    match empty? n.tag with
    | some c =>
      let place := (← get).store.size
      modify fun b => { b with store := b.store.push c }
      if atOnce then fill fuel true id place
      else modify fun b => { b with waiting := (id, place) :: b.waiting }
      return .shared place
    | none =>
      if !isTextual n.tag then throw .noReading
      let cs ← textOf ((← get).graph.size + 1) id
      return .plain (← scalarOf n.tag n.body cs)

/-- Fills the collection at a place with the parts of its node. -/
def fill (fuel : Nat) (atOnce : Bool) (id place : Nat) : Build Unit := do
  match fuel with
  | 0 => throw .endless
  | fuel + 1 =>
    let n ← node id
    let c ← match n.tag, n.body with
      | .list, .list items => Collection.list <$> items.mapM (construct fuel atOnce)
      | .table, .table _ => Collection.table <$> constructEntries fuel atOnce id
      | .set, .table _ =>
        (fun entries => Collection.set (Slots.ordered (entries.map Prod.fst))) <$>
          constructEntries fuel atOnce id
      | .pairs, .list items | .orderedTable, .list items =>
        Collection.pairs <$> items.mapM (constructPair fuel atOnce)
      | _, _ => throw .otherNode
    modify fun b => { b with store := b.store.setIfInBounds place c }

def constructEntries (fuel : Nat) (atOnce : Bool) (id : Nat) : Build (List (Datum × Item)) := do
  match fuel with
  | 0 => throw .endless
  | fuel + 1 =>
    merge (mergeFuel (← get).graph) id 0 []
    (← entriesOf id).foldlM (fun entries e => do
      let key ← keyOf (← construct fuel true e.1)
      return insert entries key (← construct fuel atOnce e.2)) []

/-- A pair is a table of one entry, whose key may be anything. -/
def constructPair (fuel : Nat) (atOnce : Bool) (id : Nat) : Build (Item × Item) := do
  match fuel with
  | 0 => throw .endless
  | fuel + 1 =>
    match ← entriesOf id with
    | [(k, v)] => return (← construct fuel atOnce k, ← construct fuel atOnce v)
    | _ => throw .otherNode
end

/-- Enough for every way down: no node is under way twice, and each takes three steps. -/
def fuelFor (g : Graph) : Nat := 4 * g.size + 4

/-- Fills what waits, and what comes to wait meanwhile, in rounds; each node waits at most once. -/
def fillAll (rounds : Nat) : Build Unit := do
  match rounds with
  | 0 => return
  | rounds + 1 =>
    let b ← get
    if b.waiting.isEmpty then return
    set { b with waiting := [] }
    b.waiting.reverse.forM fun (id, place) => fill (fuelFor b.graph) false id place
    fillAll rounds

def constructAll (root : Nat) : Build Item := do
  let g := (← get).graph
  let item ← construct (fuelFor g) false root
  fillAll (g.size + 1)
  return item

end Build

/-- What a text holds: a datum and the store that it lies in. -/
structure Content where
  store : Store
  root : Item

namespace Content

/-- A text without a document holds null. -/
def ofText [Stack] (cs : List Char) : Except Malformation Content := do
  match ← Node.ofText cs with
  | (none, _) => return ⟨#[], .plain .null⟩
  | (some root, g) =>
    let (item, b) ← (Build.constructAll root).run ⟨g, #[], Array.replicate g.size none, [], []⟩
    return ⟨b.store, item⟩

def datum (c : Content) : Datum := c.store.view c.root

end Content
end ServiceAtlas.Yaml
