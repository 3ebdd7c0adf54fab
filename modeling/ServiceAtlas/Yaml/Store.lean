import ServiceAtlas.Yaml.Datum

/-!
Data that may hold themselves. Collections lie in a store under their numbers, and what holds a
collection holds its number. Seen from one item on, everything below it is a datum in which a
collection that stands inside of itself is not unfolded again.
-/

namespace ServiceAtlas.Yaml

/-- A datum by itself, or the collection with a number. -/
inductive Item where
  | plain (d : Datum)
  | shared (id : Nat)

inductive Collection where
  | list (items : List Item)
  | table (entries : List (Datum × Item))
  | set (items : List Datum)
  | pairs (entries : List (Item × Item))

abbrev Store := Array Collection

/-- A collection where it stands inside of itself. -/
def Collection.again : Collection → Datum
  | list _ | pairs _ => .listAgain
  | table _ | set _ => .tableAgain

namespace Store

/-- The datum that an item leads to. `inside` are the collections that the item stands in; each of them
is unfolded only once on the way, so that `depth` has to cover their number. -/
def unfold (s : Store) (depth : Nat) (inside : List Nat) : Item → Datum
  | .plain d => d
  | .shared id =>
    match s[id]?, depth with
    | none, _ => .null
    | some c, 0 => c.again
    | some c, depth + 1 =>
      if inside.contains id then c.again
      else
        let view := unfold s depth (id :: inside)
        match c with
        | .list items => .list (items.map view)
        | .table entries => .table (entries.map fun e => (e.1, view e.2))
        | .set items => .set items
        | .pairs entries => .pairs (entries.map fun e => (view e.1, view e.2))

def view (s : Store) (i : Item) : Datum := s.unfold (s.size + 1) [] i

/-- The entries of a table. -/
def entries? (s : Store) : Item → Option (List (Datum × Item))
  | .plain (.table entries) => some (entries.map fun e => (e.1, .plain e.2))
  | .plain _ => none
  | .shared id =>
    match s[id]? with
    | some (.table entries) => some entries
    | _ => none

end Store
end ServiceAtlas.Yaml
