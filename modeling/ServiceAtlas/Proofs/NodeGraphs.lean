import ServiceAtlas.Proofs.BlockTokens
import ServiceAtlas.Proofs.JsonReadBack
import ServiceAtlas.Proofs.SeenValues
import ServiceAtlas.Yaml.Node

/-!
The nodes of a written document. The reader gives numbers to nodes in the order in which they begin, so
that a value lies in the graph behind its own number, part by part.
-/

namespace ServiceAtlas.Yaml

/-! ### The nodes of a value -/

mutual
/-- A value with all that stands inside it, keys with the rest, in the order of a text. -/
def parts : Value → List Value
  | .list items => .list items :: partsOfItems items
  | .object fields => .object fields :: partsOfFields fields
  | v => [v]

def partsOfItems : List Value → List Value
  | [] => []
  | v :: rest => parts v ++ partsOfItems rest

def partsOfFields : List (String × Value) → List Value
  | [] => []
  | (key, v) :: rest => .text key :: parts v ++ partsOfFields rest
end

/-- The numbers of items that lie behind each other. -/
def idsOfItems (base : Nat) : List Value → List Nat
  | [] => []
  | v :: rest => base :: idsOfItems (base + (parts v).length) rest

def idsOfFields (base : Nat) : List (String × Value) → List (Nat × Nat)
  | [] => []
  | (_, v) :: rest => (base, base + 1) :: idsOfFields (base + 1 + (parts v).length) rest

/-- The node of a value, if it has this number. -/
def nodeOf (id : Nat) : Value → Node
  | .text s => ⟨.kind .text, .scalar s.toList⟩
  | .list items => ⟨.list, .list (idsOfItems (id + 1) items)⟩
  | .object fields => ⟨.table, .table (idsOfFields (id + 1) fields)⟩
  | v => ⟨.kind (.ofPlain ((wordOf v).getD [])), .scalar ((wordOf v).getD [])⟩

mutual
/-- The nodes of a value whose own node has this number. -/
def nodesOf (id : Nat) : Value → List Node
  | .list items => nodeOf id (.list items) :: nodesOfItems (id + 1) items
  | .object fields => nodeOf id (.object fields) :: nodesOfFields (id + 1) fields
  | v => [nodeOf id v]

def nodesOfItems (base : Nat) : List Value → List Node
  | [] => []
  | v :: rest => nodesOf base v ++ nodesOfItems (base + (parts v).length) rest

def nodesOfFields (base : Nat) : List (String × Value) → List Node
  | [] => []
  | (key, v) :: rest =>
    nodeOf base (.text key) :: nodesOf (base + 1) v ++ nodesOfFields (base + 1 + (parts v).length) rest
end

theorem mapIdx_shift (vals : List Value) {base base' shift : Nat} (h : base' = base + shift) :
    (vals.mapIdx fun i w => nodeOf (base' + i) w) = vals.mapIdx fun i w => nodeOf (base + (i + shift)) w := by
  subst h
  simp only [Nat.add_assoc, Nat.add_comm shift]

mutual
theorem nodesOf_eq (id : Nat) : ∀ v : Value, nodesOf id v = (parts v).mapIdx fun i w => nodeOf (id + i) w
  | .null | .bool _ | .int _ | .float _ | .text _ => by simp [nodesOf, parts]
  | .list items => by
    rw [nodesOf, parts, List.mapIdx_cons, nodesOfItems_eq, mapIdx_shift _ rfl, Nat.add_zero]
  | .object fields => by
    rw [nodesOf, parts, List.mapIdx_cons, nodesOfFields_eq, mapIdx_shift _ rfl, Nat.add_zero]

theorem nodesOfItems_eq (base : Nat) : ∀ items : List Value,
    nodesOfItems base items = (partsOfItems items).mapIdx fun i w => nodeOf (base + i) w
  | [] => by simp [nodesOfItems, partsOfItems]
  | v :: rest => by
    rw [nodesOfItems, partsOfItems, List.mapIdx_append, nodesOf_eq, nodesOfItems_eq, mapIdx_shift _ rfl]

theorem nodesOfFields_eq (base : Nat) : ∀ fields : List (String × Value),
    nodesOfFields base fields = (partsOfFields fields).mapIdx fun i w => nodeOf (base + i) w
  | [] => by simp [nodesOfFields, partsOfFields]
  | (key, v) :: rest => by
    rw [nodesOfFields, partsOfFields, List.mapIdx_append, List.mapIdx_cons, nodesOf_eq, nodesOfFields_eq,
      mapIdx_shift (parts v) rfl, List.length_cons,
      mapIdx_shift (partsOfFields rest) (by omega : base + 1 + _ = base + ((parts v).length + 1))]
    rfl
end

theorem length_nodesOf (id : Nat) (v : Value) : (nodesOf id v).length = (parts v).length := by
  rw [nodesOf_eq, List.length_mapIdx]

namespace Node

/-! ### One step -/

theorem run_next {t : Token} (ht : ∀ m, t ≠ .fault m) (ts : List Token) (g : Graph)
    (as : List (String × Nat)) (hs : List (String × String)) (d : Nat) :
    next.run ⟨t :: ts, g, as, hs, d⟩ = .ok (t, ⟨t :: ts, g, as, hs, d⟩) := by
  cases t with
  | fault m => exact absurd rfl (ht m)
  | _ => rfl

theorem run_get (r : Reading) : (get : Parse Reading).run r = .ok (r, r) := rfl

/-- The reading ends in this state if the value is not too deep, and else with a fault. -/
def Parses {α : Type} (fits : Prop) (m : Parse α) (r : Reading) (a : α) (r' : Reading) : Prop :=
  (fits → m.run r = .ok (a, r')) ∧ (¬fits → m.run r = .error .endless)

theorem parses_ok {α : Type} {fits : Prop} (hfits : fits) {m : Parse α} {r r' : Reading} {a : α}
    (h : m.run r = .ok (a, r')) : Parses fits m r a r' :=
  ⟨fun _ => h, fun hn => absurd hfits hn⟩

theorem Parses.bind {α β : Type} {P Q : Prop} {m : Parse α} {f : α → Parse β} {r r' r'' : Reading} {a : α}
    {b : β} (h : Parses P m r a r') (hf : Parses Q (f a) r' b r'') : Parses (P ∧ Q) (m >>= f) r b r'' := by
  refine ⟨fun ⟨hp, hq⟩ => ?_, fun hn => ?_⟩
  · rw [StateT.run_bind, h.1 hp, ok_bind, hf.1 hq]
  · by_cases hp : P
    · rw [StateT.run_bind, h.1 hp, ok_bind, hf.2 fun hq => hn ⟨hp, hq⟩]
    · rw [StateT.run_bind, h.2 hp]
      rfl

/-- A token that a node without anchor and tag may begin with. -/
def beginsNode : Token → Bool
  | .scalar _ _ | .flowListStart | .flowTableStart | .listStart | .tableStart | .entry => true
  | _ => false

theorem set_append (ns more : List Node) (n m : Node) :
    (ns ++ n :: more).toArray.set! ns.length m = (ns ++ m :: more).toArray := by
  simp [Array.set!_eq_setIfInBounds]

theorem Parses.of_run_eq {α : Type} {fits : Prop} {m m' : Parse α} {r r' q : Reading} {a : α}
    (h : m.run r = m'.run r') (h' : Parses fits m' r' a q) : Parses fits m r a q := by
  unfold Parses
  rwa [h]

theorem Parses.congr {α : Type} {P Q : Prop} {m : Parse α} {r q : Reading} {a : α} (h : Parses P m r a q)
    (hiff : Q ↔ P) : Parses Q m r a q := by
  rwa [show Q = P from propext hiff]

/-- An item of a list, with those behind it. -/
def andThen {α : Type} (m : Parse α) (more : Parse (List α)) : Parse (List α) := do
  return (← m) :: (← more)

theorem Parses.andThen {α : Type} {P Q : Prop} {m : Parse α} {more : Parse (List α)} {r r' r'' : Reading}
    {a : α} {as : List α} (h : Parses P m r a r') (hmore : Parses Q more r' as r'') :
    Parses (P ∧ Q) (andThen m more) r (a :: as) r'' := by
  refine h.bind (Parses.congr (P := Q ∧ True) (hmore.bind (parses_ok trivial rfl)) (by simp))

theorem Parses.map {α β : Type} {P : Prop} {m : Parse α} {r r' : Reading} {a : α} (h : Parses P m r a r')
    (f : α → β) : Parses P (f <$> m) r (f a) r' := by
  refine ⟨fun hp => ?_, fun hn => ?_⟩
  · rw [StateT.run_map, h.1 hp]
    rfl
  · rw [StateT.run_map, h.2 hn]
    rfl

/-! ### The tokens of a value -/

theorem scalarTag_textToken (fold : Bool) (indent : Nat) (cs : List Char) :
    scalarTag none (TextStyle.of cs = .plain) (seenText fold indent cs) = .kind .text := by
  by_cases h : TextStyle.of cs = .plain
  · have hkind := allowsPlain_of_plain h
    simp only [allowsPlain, Bool.and_eq_true, decide_eq_true_eq] at hkind
    simp [scalarTag, seenText, h, hkind.2]
  · simp [scalarTag, h]

/-- The tokens of a list, wherever it stands. -/
theorem tokensOf_list {spot : Spot} {indent : Nat} {items : List Value} (h : items ≠ []) :
    tokensOf spot indent (.list items) =
      if spot = .value then tokensOfItems (spot.listIndent indent) items
      else .listStart :: tokensOfItems (spot.listIndent indent) items ++ [.blockEnd] := by
  obtain ⟨v, rest, rfl⟩ := List.exists_cons_of_ne_nil h
  rw [tokensOf, tokensOfItems]

theorem tokensOfItems_head (indent : Nat) {items : List Value} (h : items ≠ []) :
    ∃ ts, tokensOfItems indent items = .entry :: ts := by
  obtain ⟨v, rest, rfl⟩ := List.exists_cons_of_ne_nil h
  exact ⟨_, by rw [tokensOfItems]; rfl⟩

theorem tokensOf_object {spot : Spot} {indent : Nat} {fields : List (String × Value)} (h : fields ≠ []) :
    tokensOf spot indent (.object fields) =
      .tableStart :: tokensOfEntries (spot.tableIndent indent) fields ++ [.blockEnd] := by
  obtain ⟨⟨key, v⟩, rest, rfl⟩ := List.exists_cons_of_ne_nil h
  rw [tokensOf, tokensOfEntries]
  simp

/-- A value begins as a node, and with the mark of an item only where it is level with its key. -/
theorem tokensOf_head (spot : Spot) (indent : Nat) (v : Value) :
    ∃ t ts, tokensOf spot indent v = t :: ts ∧ beginsNode t = true ∧ (spot ≠ .value → t ≠ .entry) := by
  cases v with
  | null | bool _ | int _ | float _ => exact ⟨_, [], rfl, rfl, by simp⟩
  | text s => exact ⟨_, [], rfl, rfl, by simp [textToken]⟩
  | list items =>
    cases items with
    | nil => exact ⟨_, _, rfl, rfl, by simp⟩
    | cons w rest =>
      rw [tokensOf_list (by simp)]
      by_cases hs : spot = .value
      · exact ⟨.entry, _, by rw [if_pos hs, tokensOfItems]; rfl, rfl, fun h => absurd hs h⟩
      · exact ⟨.listStart, _, by rw [if_neg hs]; rfl, rfl, by simp⟩
  | object fields =>
    cases fields with
    | nil => exact ⟨_, _, rfl, rfl, by simp⟩
    | cons f rest => exact ⟨.tableStart, _, by rw [tokensOf]; rfl, rfl, by simp⟩

theorem length_tokensOf_pos (spot : Spot) (indent : Nat) (v : Value) :
    0 < (tokensOf spot indent v).length := by
  obtain ⟨t, ts, h, _⟩ := tokensOf_head spot indent v
  simp [h]

/-- Behind a value stands the next key, or the end of its table. -/
theorem tokensOfEntries_head (indent : Nat) (fields : List (String × Value)) (rest : List Token) :
    ∃ t us, tokensOfEntries indent fields ++ .blockEnd :: rest = t :: us ∧ t ≠ .entry ∧
      ∀ m, t ≠ .fault m := by
  match fields with
  | [] => exact ⟨.blockEnd, rest, rfl, by simp, by simp⟩
  | (key, v) :: fields => exact ⟨.key, _, by rw [tokensOfEntries]; rfl, by simp, by simp⟩

/-! ### Nodes that are read -/

section Nodes
variable {t : Token} {ts : List Token} {g : Graph} {as : List (String × Nat)}
  {hs : List (String × String)} {d fuel : Nat} {block level : Bool}

variable [Stack]

theorem run_read (ht : beginsNode t = true) :
    (read (fuel + 1) block level).run ⟨t :: ts, g, as, hs, d⟩ =
      (readContent fuel block level none none).run ⟨t :: ts, g, as, hs, d⟩ := by
  cases t <;> first | (rw [read]; rfl) | cases ht

theorem run_read_scalar {ns : List Node} {cs : List Char} {isPlain : Bool} :
    (read (fuel + 2) block level).run ⟨.scalar cs isPlain :: ts, ns.toArray, as, hs, d⟩ =
      .ok (ns.length, ⟨ts, (ns ++ [Node.mk (scalarTag none isPlain cs) (.scalar cs)]).toArray, as, hs, d⟩) := by
  rw [run_read rfl, readContent, ← List.push_toArray]
  rfl

/-- A collection is there before its parts, and takes them when they are read. -/
theorem Parses.collection {α : Type} {tag : Tag} {body : List α → Body} {m : Parse (List α)}
    {parts : List α} {ts' : List Token} {ns more : List Node} {fits : Prop}
    (h : d < Stack.levels .readYaml → Parses fits m
      ⟨ts, (ns ++ [Node.mk tag (body [])]).toArray, as, hs, d + 1⟩ parts
      ⟨ts', (ns ++ Node.mk tag (body []) :: more).toArray, as, hs, d + 1⟩) :
    Parses (d < Stack.levels .readYaml ∧ fits) (addCollection none tag body m)
      ⟨ts, ns.toArray, as, hs, d⟩ ns.length
      ⟨ts', (ns ++ Node.mk tag (body parts) :: more).toArray, as, hs, d⟩ := by
  by_cases hd : Stack.levels .readYaml ≤ d
  · refine ⟨fun hfits => absurd hfits.1 (Nat.not_lt.mpr hd), fun _ => ?_⟩
    simp only [addCollection, StateT.run_bind, run_get, ok_bind, hd, if_true]
    rfl
  · have hrun : (addCollection none tag body m).run ⟨ts, ns.toArray, as, hs, d⟩ =
        (m.run ⟨ts, (ns ++ [Node.mk tag (body [])]).toArray, as, hs, d + 1⟩ >>= fun r =>
          .ok (ns.length, { r.2 with
            graph := r.2.graph.set! ns.length ⟨tag, body r.1⟩, depth := r.2.depth - 1 })) := by
      rw [← List.push_toArray]
      simp only [addCollection, StateT.run_bind, run_get, ok_bind, hd, if_false]
      rfl
    have hparts := h (Nat.not_le.mp hd)
    refine ⟨fun hfits => ?_, fun hn => ?_⟩
    · rw [hrun, hparts.1 hfits.2, ok_bind, set_append]
      rfl
    · rw [hrun, hparts.2 fun hfits => hn ⟨Nat.not_le.mp hd, hfits⟩]
      rfl

theorem run_readItems_end {g : Graph} :
    (readItems (fuel + 1)).run ⟨.blockEnd :: ts, g, as, hs, d⟩ = .ok ([], ⟨ts, g, as, hs, d⟩) := by
  rw [readItems]
  rfl

theorem run_readItems_entry {g : Graph} (ht : beginsNode t = true) (hentry : t ≠ .entry) :
    (readItems (fuel + 1)).run ⟨.entry :: t :: ts, g, as, hs, d⟩ =
      (andThen (read fuel true false) (readItems fuel)).run ⟨t :: ts, g, as, hs, d⟩ := by
  rw [readItems]
  cases t with
  | entry => exact absurd rfl hentry
  | scalar _ _ | flowListStart | flowTableStart | listStart | tableStart => rfl
  | _ => cases ht

theorem run_readLevelItems_end {g : Graph} (ht : ∀ m, t ≠ .fault m) (hentry : t ≠ .entry) :
    (readLevelItems (fuel + 1)).run ⟨t :: ts, g, as, hs, d⟩ = .ok ([], ⟨t :: ts, g, as, hs, d⟩) := by
  rw [readLevelItems]
  cases t with
  | entry => exact absurd rfl hentry
  | fault m => exact absurd rfl (ht m)
  | _ => rfl

theorem run_readLevelItems_entry {g : Graph} (ht : beginsNode t = true) (hentry : t ≠ .entry) :
    (readLevelItems (fuel + 1)).run ⟨.entry :: t :: ts, g, as, hs, d⟩ =
      (andThen (read fuel true false) (readLevelItems fuel)).run ⟨t :: ts, g, as, hs, d⟩ := by
  rw [readLevelItems]
  cases t with
  | entry => exact absurd rfl hentry
  | scalar _ _ | flowListStart | flowTableStart | listStart | tableStart => rfl
  | _ => cases ht

theorem run_readEntries_end {g : Graph} :
    (readEntries (fuel + 1)).run ⟨.blockEnd :: ts, g, as, hs, d⟩ = .ok ([], ⟨ts, g, as, hs, d⟩) := by
  rw [readEntries]
  rfl

theorem run_readValue {g : Graph} (ht : beginsNode t = true) :
    (readValue (fuel + 1)).run ⟨.value :: t :: ts, g, as, hs, d⟩ =
      (read fuel true true).run ⟨t :: ts, g, as, hs, d⟩ := by
  rw [readValue]
  cases t with
  | scalar _ _ | flowListStart | flowTableStart | listStart | tableStart | entry => rfl
  | _ => cases ht

/-- A key that is a scalar, with its value, and the entries behind them. -/
theorem run_readEntries_key {ns : List Node} {cs : List Char} {isPlain : Bool} (ht : beginsNode t = true) :
    (readEntries (fuel + 3)).run ⟨.key :: .scalar cs isPlain :: .value :: t :: ts, ns.toArray, as, hs, d⟩ =
      (andThen (Prod.mk ns.length <$> read (fuel + 1) true true) (readEntries (fuel + 2))).run
        ⟨t :: ts, (ns ++ [Node.mk (scalarTag none isPlain cs) (.scalar cs)]).toArray, as, hs, d⟩ := by
  have hkey : (readEntries (fuel + 3)).run
      ⟨.key :: .scalar cs isPlain :: .value :: t :: ts, ns.toArray, as, hs, d⟩ =
        StateT.run (do
          let k ← read (fuel + 2) true true
          let v ← readValue (fuel + 2)
          return (k, v) :: (← readEntries (fuel + 2)))
          ⟨.scalar cs isPlain :: .value :: t :: ts, ns.toArray, as, hs, d⟩ := by
    rw [readEntries]
    rfl
  rw [hkey, StateT.run_bind, run_read_scalar, ok_bind, StateT.run_bind, run_readValue ht, andThen,
    StateT.run_bind, StateT.run_map]
  cases (read (fuel + 1) true true).run ⟨t :: ts, _, as, hs, d⟩ <;> rfl

/-! ### What a mark leads to -/

theorem run_read_listStart :
    (read (fuel + 2) true level).run ⟨.listStart :: ts, g, as, hs, d⟩ =
      (addCollection none .list .list (readItems fuel)).run ⟨ts, g, as, hs, d⟩ := by
  rw [run_read rfl, readContent]
  rfl

theorem run_read_levelList :
    (read (fuel + 2) true true).run ⟨.entry :: ts, g, as, hs, d⟩ =
      (addCollection none .list .list (readLevelItems fuel)).run ⟨.entry :: ts, g, as, hs, d⟩ := by
  rw [run_read rfl, readContent]
  rfl

theorem run_read_tableStart :
    (read (fuel + 2) true level).run ⟨.tableStart :: ts, g, as, hs, d⟩ =
      (addCollection none .table .table (readEntries fuel)).run ⟨ts, g, as, hs, d⟩ := by
  rw [run_read rfl, readContent]
  rfl

theorem run_read_flowListStart :
    (read (fuel + 2) block level).run ⟨.flowListStart :: ts, g, as, hs, d⟩ =
      (addCollection none .list .list (readFlowItems fuel true)).run ⟨ts, g, as, hs, d⟩ := by
  rw [run_read rfl, readContent]
  rfl

theorem run_readFlowItems_end {first : Bool} :
    (readFlowItems (fuel + 1) first).run ⟨.flowListEnd :: ts, g, as, hs, d⟩ =
      .ok ([], ⟨ts, g, as, hs, d⟩) := by
  rw [readFlowItems]
  rfl

theorem run_read_flowTableStart :
    (read (fuel + 2) block level).run ⟨.flowTableStart :: ts, g, as, hs, d⟩ =
      (addCollection none .table .table (readFlowEntries fuel true)).run ⟨ts, g, as, hs, d⟩ := by
  rw [run_read rfl, readContent]
  rfl

theorem run_readFlowEntries_end {first : Bool} :
    (readFlowEntries (fuel + 1) first).run ⟨.flowTableEnd :: ts, g, as, hs, d⟩ =
      .ok ([], ⟨ts, g, as, hs, d⟩) := by
  rw [readFlowEntries]
  rfl

/-! ### Written values -/

/-- What stands behind items is no item. -/
structure ItemReader (more : Nat → Parse (List Nat)) (behind after : List Token) : Prop where
  last : ∀ fuel g as hs d, (more (fuel + 1)).run ⟨behind, g, as, hs, d⟩ = .ok ([], ⟨after, g, as, hs, d⟩)
  next : ∀ fuel t ts g as hs d, beginsNode t = true → t ≠ .entry →
    (more (fuel + 1)).run ⟨.entry :: t :: ts, g, as, hs, d⟩ =
      (andThen (read fuel true false) (more fuel)).run ⟨t :: ts, g, as, hs, d⟩

theorem itemReader_items (ts : List Token) : ItemReader readItems (.blockEnd :: ts) ts :=
  ⟨fun _ _ _ _ _ => run_readItems_end, fun _ _ _ _ _ _ _ => run_readItems_entry⟩

theorem itemReader_levelItems {t : Token} (ht : ∀ m, t ≠ .fault m) (hentry : t ≠ .entry)
    (ts : List Token) : ItemReader readLevelItems (t :: ts) (t :: ts) :=
  ⟨fun _ _ _ _ _ => run_readLevelItems_end ht hentry, fun _ _ _ _ _ _ _ => run_readLevelItems_entry⟩

theorem parses_scalar {ns : List Node} {cs : List Char} {isPlain : Bool} {kind : ScalarKind}
    (htag : scalarTag none isPlain cs = .kind kind) (hd : d ≤ Stack.levels .readYaml) (hfuel : 3 ≤ fuel) :
    Parses (d + 0 ≤ Stack.levels .readYaml) (read fuel block level)
      ⟨.scalar cs isPlain :: ts, ns.toArray, as, hs, d⟩ ns.length
      ⟨ts, (ns ++ [Node.mk (.kind kind) (.scalar cs)]).toArray, as, hs, d⟩ := by
  obtain ⟨fuel, rfl⟩ := Nat.exists_eq_add_of_le' (show 2 ≤ fuel by omega)
  rw [← htag]
  exact parses_ok hd run_read_scalar

/-- A collection that is opened by a mark in front of its parts. -/
theorem parses_opened {α : Type} {tag : Tag} {body : List α → Body} {m : Parse (List α)} {parts : List α}
    {us ts' : List Token} {ns more : List Node} {inner : Nat}
    (hrun : ∀ g d, (read fuel block level).run ⟨us, g, as, hs, d⟩ =
      (addCollection none tag body m).run ⟨ts, g, as, hs, d⟩)
    (h : d < Stack.levels .readYaml → Parses (d + 1 + inner ≤ Stack.levels .readYaml) m
      ⟨ts, (ns ++ [Node.mk tag (body [])]).toArray, as, hs, d + 1⟩ parts
      ⟨ts', (ns ++ [Node.mk tag (body [])] ++ more).toArray, as, hs, d + 1⟩) :
    Parses (d + (inner + 1) ≤ Stack.levels .readYaml) (read fuel block level)
      ⟨us, ns.toArray, as, hs, d⟩ ns.length
      ⟨ts', (ns ++ Node.mk tag (body parts) :: more).toArray, as, hs, d⟩ := by
  have hfits : d + (inner + 1) ≤ Stack.levels .readYaml ↔
      d < Stack.levels .readYaml ∧ d + 1 + inner ≤ Stack.levels .readYaml := by omega
  refine .of_run_eq (hrun _ _) (.congr (.collection fun hd => ?_) hfits)
  simpa using h hd

end Nodes

section Values
variable {as : List (String × Nat)} {hs : List (String × String)}

variable [Stack]

mutual
/-- The tokens of a value are read as its nodes, unless it is too deep. -/
theorem parses_value {spot : Spot} {indent d : Nat} {level : Bool} {rest : List Token} (ns : List Node)
    (hlevel : spot = .value → level = true)
    (hrest : spot = .value → ∃ t us, rest = t :: us ∧ t ≠ .entry ∧ ∀ m, t ≠ .fault m)
    (hd : d ≤ Stack.levels .readYaml) : ∀ {v : Value}, v.FloatFree → ∀ {fuel : Nat},
    3 * (tokensOf spot indent v).length ≤ fuel →
    Parses (d + v.depth ≤ Stack.levels .readYaml) (read fuel true level)
      ⟨tokensOf spot indent v ++ rest, ns.toArray, as, hs, d⟩ ns.length
      ⟨rest, (ns ++ nodesOf ns.length (seen spot indent v)).toArray, as, hs, d⟩
  | .null, _, _, hfuel => parses_scalar rfl hd hfuel
  | .bool b, _, _, hfuel => parses_scalar rfl hd hfuel
  | .int n, _, _, hfuel => parses_scalar rfl hd hfuel
  | .text s, _, _, hfuel => by
    rw [seen, nodesOf_eq, parts, List.mapIdx_singleton, nodeOf, String.toList_ofList]
    · exact parses_scalar (scalarTag_textToken true (indent + 2) s.toList) hd hfuel
    · simp
    · simp
  | .list items, hf, fuel, hfuel => by
    by_cases hitems : items = []
    · subst hitems
      obtain ⟨fuel, rfl⟩ := Nat.exists_eq_add_of_le' (show 3 ≤ fuel by simp [tokensOf] at hfuel; omega)
      refine parses_opened (fun _ _ => run_read_flowListStart) fun h => parses_ok h ?_
      simpa [seenItems, nodesOfItems, idsOfItems] using run_readFlowItems_end
    · rw [tokensOf_list hitems] at hfuel ⊢
      rw [Value.depth, seen, nodesOf, nodeOf]
      split_ifs at hfuel ⊢ with hspot
      · obtain ⟨t, us, rfl, hentry, hfault⟩ := hrest hspot
        obtain rfl := hlevel hspot
        obtain ⟨inside, hinside⟩ := tokensOfItems_head (spot.listIndent indent) hitems
        have hlength : 0 < (tokensOfItems (spot.listIndent indent) items).length := by simp [hinside]
        obtain ⟨fuel, rfl⟩ := Nat.exists_eq_add_of_le' (show 2 ≤ fuel by omega)
        refine parses_opened (fun _ _ => by rw [hinside]; exact run_read_levelList) fun h => ?_
        have := parses_items (ns ++ [⟨.list, .list []⟩]) (itemReader_levelItems hfault hentry us) h hf
          (show 3 * (tokensOfItems (spot.listIndent indent) items).length ≤ fuel + 2 by omega) (by omega)
        simpa [hinside] using this
      · simp only [List.length_cons, List.length_append] at hfuel
        obtain ⟨fuel, rfl⟩ := Nat.exists_eq_add_of_le' (show 2 ≤ fuel by omega)
        refine parses_opened (fun _ _ => run_read_listStart) fun h => ?_
        have := parses_items (ns ++ [⟨.list, .list []⟩]) (itemReader_items rest) h hf
          (show 3 * (tokensOfItems (spot.listIndent indent) items).length ≤ fuel + 2 by omega) (by omega)
        simpa using this
  | .object fields, hf, fuel, hfuel => by
    by_cases hfields : fields = []
    · subst hfields
      obtain ⟨fuel, rfl⟩ := Nat.exists_eq_add_of_le' (show 3 ≤ fuel by simp [tokensOf] at hfuel; omega)
      refine parses_opened (fun _ _ => run_read_flowTableStart) fun h => parses_ok h ?_
      simpa [seenFields, nodesOfFields, idsOfFields] using run_readFlowEntries_end
    · rw [tokensOf_object hfields] at hfuel ⊢
      rw [Value.depth, seen, nodesOf, nodeOf]
      simp only [List.length_cons, List.length_append] at hfuel
      obtain ⟨fuel, rfl⟩ := Nat.exists_eq_add_of_le' (show 2 ≤ fuel by omega)
      refine parses_opened (fun _ _ => run_read_tableStart) fun h => ?_
      have := parses_entries rest (ns ++ [⟨.table, .table []⟩]) h hf
        (show 3 * (tokensOfEntries (spot.tableIndent indent) fields).length ≤ fuel + 2 by omega) (by omega)
      simpa using this
termination_by structural v => v

theorem parses_items {indent d : Nat} {behind after : List Token} (ns : List Node)
    {more : Nat → Parse (List Nat)} (hmore : ItemReader more behind after)
    (hd : d ≤ Stack.levels .readYaml) : ∀ {items : List Value}, Value.FloatFreeItems items → ∀ {fuel : Nat},
    3 * (tokensOfItems indent items).length ≤ fuel + 2 → 1 ≤ fuel →
    Parses (d + Value.depthOfItems items ≤ Stack.levels .readYaml) (more fuel)
      ⟨tokensOfItems indent items ++ behind, ns.toArray, as, hs, d⟩
      (idsOfItems ns.length (seenItems indent items))
      ⟨after, (ns ++ nodesOfItems ns.length (seenItems indent items)).toArray, as, hs, d⟩
  | [], _, fuel, _, hpos => by
    obtain ⟨fuel, rfl⟩ := Nat.exists_eq_add_of_le' hpos
    refine parses_ok hd ?_
    simpa [tokensOfItems, seenItems, idsOfItems, nodesOfItems] using hmore.last fuel _ as hs d
  | v :: vs, hf, fuel, hfuel, hpos => by
    obtain ⟨fuel, rfl⟩ := Nat.exists_eq_add_of_le' hpos
    have hlength := length_tokensOf_pos .item indent v
    simp only [tokensOfItems, List.length_cons, List.length_append] at hfuel
    have hfirst : Parses (d + v.depth ≤ Stack.levels .readYaml) (read fuel true false)
        ⟨tokensOf .item indent v ++ (tokensOfItems indent vs ++ behind), ns.toArray, as, hs, d⟩ _ _ :=
      parses_value ns (by simp) (by simp) hd hf.1 (by omega)
    have hboth := hfirst.andThen (parses_items _ hmore hd hf.2 (show _ ≤ fuel + 2 by omega) (by omega))
    rw [List.append_assoc, List.length_append, length_nodesOf] at hboth
    obtain ⟨t, ts, htokens, hbegins, hentry⟩ := tokensOf_head .item indent v
    refine .congr (.of_run_eq ?_ hboth) (by rw [Value.depthOfItems]; omega)
    rw [tokensOfItems, htokens]
    simpa using hmore.next fuel t _ _ as hs d hbegins (hentry (by simp))
termination_by structural items => items

theorem parses_entries {indent d : Nat} (rest : List Token) (ns : List Node)
    (hd : d ≤ Stack.levels .readYaml) : ∀ {fields : List (String × Value)}, Value.FloatFreeFields fields →
    ∀ {fuel : Nat}, 3 * (tokensOfEntries indent fields).length ≤ fuel + 2 → 1 ≤ fuel →
    Parses (d + Value.depthOfFields fields ≤ Stack.levels .readYaml) (readEntries fuel)
      ⟨tokensOfEntries indent fields ++ .blockEnd :: rest, ns.toArray, as, hs, d⟩
      (idsOfFields ns.length (seenFields indent fields))
      ⟨rest, (ns ++ nodesOfFields ns.length (seenFields indent fields)).toArray, as, hs, d⟩
  | [], _, fuel, _, hpos => by
    obtain ⟨fuel, rfl⟩ := Nat.exists_eq_add_of_le' hpos
    refine parses_ok hd ?_
    simpa [tokensOfEntries, seenFields, idsOfFields, nodesOfFields] using run_readEntries_end
  | (key, v) :: fields, hf, fuel, hfuel, hpos => by
    have hlength := length_tokensOf_pos (keyLine indent key.toList).spot indent v
    simp only [tokensOfEntries, List.length_cons, List.length_append] at hfuel
    obtain ⟨fuel, rfl⟩ := Nat.exists_eq_add_of_le' (show 3 ≤ fuel by omega)
    set n : Node := ⟨.kind .text, .scalar (seenText (!isShortKey key.toList) (indent + 2) key.toList)⟩
    have hvalue : Parses (d + v.depth ≤ Stack.levels .readYaml) (read (fuel + 1) true true)
        ⟨tokensOf (keyLine indent key.toList).spot indent v ++
          (tokensOfEntries indent fields ++ .blockEnd :: rest), (ns ++ [n]).toArray, as, hs, d⟩ _ _ :=
      parses_value (ns ++ [n]) (by simp) (fun _ => tokensOfEntries_head indent fields rest) hd hf.1 (by omega)
    have hboth := (hvalue.map (Prod.mk ns.length)).andThen
      (parses_entries _ _ hd hf.2 (show _ ≤ fuel + 2 + 2 by omega) (by omega))
    simp only [List.length_append, List.length_singleton, length_nodesOf] at hboth
    rw [List.append_assoc, List.append_assoc, List.singleton_append] at hboth
    obtain ⟨t, ts, htokens, hbegins, _⟩ := tokensOf_head (keyLine indent key.toList).spot indent v
    rw [seenFields, nodesOfFields, idsOfFields, seenKey, nodeOf, String.toList_ofList]
    refine .congr (.of_run_eq ?_ hboth) (by rw [Value.depthOfFields]; omega)
    rw [tokensOfEntries, htokens]
    have hkey : (readEntries (fuel + 3)).run
        ⟨.key :: textToken (!isShortKey key.toList) (indent + 2) key.toList :: .value :: t ::
          (ts ++ (tokensOfEntries indent fields ++ .blockEnd :: rest)), ns.toArray, as, hs, d⟩ = _ :=
      run_readEntries_key hbegins
    rw [scalarTag_textToken] at hkey
    simpa using hkey
termination_by structural fields => fields
end

/-- Nothing stands behind the node of a document. -/
def endDocument (document : Option Nat) : Parse (Option Nat) := do
  skipDocumentEnds
  match ← next with
  | .streamEnd => return document
  | _ => throw .severalDocuments

theorem run_readDocument {t : Token} (ht : beginsNode t = true) {ts : List Token} {g : Graph} {d fuel : Nat} :
    (readDocument fuel).run ⟨t :: ts, g, as, hs, d⟩ =
      ((some <$> read fuel true false) >>= endDocument).run ⟨t :: ts, g, as, hs, d⟩ := by
  cases t with
  | scalar _ _ | flowListStart | flowTableStart | listStart | tableStart | entry => rfl
  | _ => cases ht

/-- The tokens of a document are read as its nodes, of which the first one is the document. -/
theorem parses_document {v : Value} (hf : v.FloatFree) {fuel : Nat}
    (hfuel : 3 * (tokensOf .root 0 v).length ≤ fuel) :
    Parses (v.depth ≤ Stack.levels .readYaml) (readDocument fuel)
      ⟨tokensOf .root 0 v ++ [.streamEnd], #[], as, hs, 0⟩ (some 0)
      ⟨[.streamEnd], (nodesOf 0 (seen .root 0 v)).toArray, as, hs, 0⟩ := by
  have hvalue : Parses (0 + v.depth ≤ Stack.levels .readYaml) (read fuel true false)
      ⟨tokensOf .root 0 v ++ [.streamEnd], [].toArray, as, hs, 0⟩ _ _ :=
    parses_value [] (by simp) (by simp) (Nat.zero_le _) hf hfuel
  obtain ⟨t, ts, htokens, hbegins, _⟩ := tokensOf_head .root 0 v
  refine .congr (.of_run_eq ?_ ((hvalue.map some).bind (f := endDocument) (parses_ok trivial rfl))) (by simp)
  rw [htokens]
  exact run_readDocument hbegins

end Values

/-- The graph of a document, if its keys are short enough and it is not too deep. -/
theorem ofText_file [Stack] {fields : List (String × Value)} (hf : Value.FloatFreeFields fields)
    (hkeys : KeysFitFields fields) :
    ofText (file (.object fields)).toList =
      if (Value.object fields).depth ≤ Stack.levels .readYaml then
        .ok (some 0, (nodesOf 0 (seen .root 0 (.object fields))).toArray)
      else .error .endless := by
  have htokens := (Token.tokenized_file hf).done hkeys
  have hparses : Parses ((Value.object fields).depth ≤ Stack.levels .readYaml)
      (readDocument (4 * (tokensOf .root 0 (.object fields) ++ [Token.streamEnd]).length + 8))
      ⟨_, #[], [], standardHandles, 0⟩ _ _ :=
    parses_document (show (Value.object fields).FloatFree from hf) (by simp; omega)
  rw [ofText]
  dsimp only
  rw [htokens]
  split_ifs with hdepth
  · rw [hparses.1 hdepth]
    rfl
  · rw [hparses.2 hdepth]
    rfl

end Node
end ServiceAtlas.Yaml
