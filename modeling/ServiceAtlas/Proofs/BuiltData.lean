import ServiceAtlas.Proofs.NodeGraphs
import ServiceAtlas.Proofs.ReaderLimits
import ServiceAtlas.Yaml.Build

/-!
The data built from the nodes of a written document. While the collections are filled, round by round,
every place of the store either waits or shows the value of its node.
-/

namespace ServiceAtlas.Yaml

/-! ### Parts in their places -/

theorem parts_head (v : Value) : ∃ rest, parts v = v :: rest := by
  cases v <;> exact ⟨_, by rw [parts] <;> simp⟩

/-- The parts of a value stand here, one behind the other. -/
def Lies (vals : List Value) (id : Nat) (v : Value) : Prop := parts v <+: vals.drop id

theorem lies_root (v : Value) : Lies (parts v) 0 v := List.prefix_rfl

theorem Lies.get {vals : List Value} {id : Nat} {v : Value} (h : Lies vals id v) : vals[id]? = some v := by
  obtain ⟨rest, hrest⟩ := parts_head v
  obtain ⟨more, hmore⟩ := h
  rw [hrest, List.cons_append] at hmore
  rw [← List.head?_drop, ← hmore]
  rfl

theorem Lies.unique {vals : List Value} {id : Nat} {v w : Value} (hv : Lies vals id v)
    (hw : Lies vals id w) : v = w :=
  Option.some.inj (hv.get.symm.trans hw.get)

theorem prefix_drop_append {α : Type} {as bs vals : List α} {id : Nat} (h : as ++ bs <+: vals.drop id) :
    as <+: vals.drop id ∧ bs <+: vals.drop (id + as.length) := by
  refine ⟨(List.prefix_append as bs).trans h, ?_⟩
  obtain ⟨more, hmore⟩ := h
  rw [← List.drop_drop, ← hmore, List.append_assoc, List.drop_left]
  exact List.prefix_append _ _

theorem lies_items {vals : List Value} {id base : Nat} (hbase : id < base) :
    ∀ {items : List Value}, partsOfItems items <+: vals.drop base →
      List.Forall₂ (fun k w => id < k ∧ Lies vals k w) (idsOfItems base items) items
  | [], _ => .nil
  | v :: rest, h => by
    rw [partsOfItems] at h
    obtain ⟨hv, hrest⟩ := prefix_drop_append h
    exact .cons ⟨hbase, hv⟩ (lies_items (by omega) hrest)

theorem lies_fields {vals : List Value} {id base : Nat} (hbase : id < base) :
    ∀ {fields : List (String × Value)}, partsOfFields fields <+: vals.drop base →
      List.Forall₂ (fun k f => Lies vals k.1 (.text f.1) ∧ id < k.2 ∧ Lies vals k.2 f.2)
        (idsOfFields base fields) fields
  | [], _ => .nil
  | (key, v) :: rest, h => by
    rw [partsOfFields, List.cons_append, ← List.singleton_append] at h
    obtain ⟨hkey, hmore⟩ := prefix_drop_append h
    obtain ⟨hv, hrest⟩ := prefix_drop_append hmore
    refine .cons ⟨hkey, by omega, hv⟩ (lies_fields (by omega) ?_)
    simpa [Nat.add_assoc] using hrest

theorem Lies.items {vals : List Value} {id : Nat} {items : List Value} (h : Lies vals id (.list items)) :
    List.Forall₂ (fun k w => id < k ∧ Lies vals k w) (idsOfItems (id + 1) items) items := by
  rw [Lies, parts, ← List.singleton_append] at h
  exact lies_items (Nat.lt_succ_self id) (prefix_drop_append h).2

theorem Lies.fields {vals : List Value} {id : Nat} {fields : List (String × Value)}
    (h : Lies vals id (.object fields)) :
    List.Forall₂ (fun k f => Lies vals k.1 (.text f.1) ∧ id < k.2 ∧ Lies vals k.2 f.2)
      (idsOfFields (id + 1) fields) fields := by
  rw [Lies, parts, ← List.singleton_append] at h
  exact lies_fields (Nat.lt_succ_self id) (prefix_drop_append h).2

/-- A graph that holds the nodes of these parts, each under its number. -/
structure GraphOf (vals : List Value) (g : Graph) : Prop where
  node : ∀ id v, vals[id]? = some v → g[id]? = some (nodeOf id v)

theorem graphOf_nodesOf (v : Value) : GraphOf (parts v) (nodesOf 0 v).toArray where
  node id w h := by simp [nodesOf_eq, List.getElem?_mapIdx, h]

/-! ### What the data of a value are -/

/-- Entries with one more. A known key keeps its place and takes the new value. -/
def setEntry {α : Type} (entries : List (Datum × α)) (key : Datum) (value : α) : List (Datum × α) :=
  match entries with
  | [] => [(key, value)]
  | (k, v) :: rest => if k.sameKey key then (k, value) :: rest else (k, v) :: setEntry rest key value

theorem insert_eq_setEntry (entries : List (Datum × Item)) (key : Datum) (value : Item) :
    Build.insert entries key value = setEntry entries key value := by
  induction entries with
  | nil => rfl
  | cons e rest ih =>
    obtain ⟨k, v⟩ := e
    simp only [Build.insert, setEntry, ih]

/-- The entries of a table that is filled with these, one after the other. -/
def lastEntries {α : Type} (entries : List (Datum × α)) : List (Datum × α) :=
  entries.foldl (fun es e => setEntry es e.1 e.2) []

theorem setEntry_map {α β : Type} (f : α → β) (entries : List (Datum × α)) (key : Datum) (value : α) :
    (setEntry entries key value).map (Prod.map id f) =
      setEntry (entries.map (Prod.map id f)) key (f value) := by
  induction entries with
  | nil => rfl
  | cons e rest ih =>
    obtain ⟨k, v⟩ := e
    simp only [setEntry, List.map_cons, Prod.map_apply, id]
    split_ifs
    · rfl
    · rw [List.map_cons, ih]
      rfl

theorem lastEntries_map {α β : Type} (f : α → β) (entries : List (Datum × α)) :
    (lastEntries entries).map (Prod.map id f) = lastEntries (entries.map (Prod.map id f)) := by
  unfold lastEntries
  rw [List.foldl_map]
  suffices h : ∀ es : List (Datum × α),
      (entries.foldl (fun es e => setEntry es e.1 e.2) es).map (Prod.map id f) =
        entries.foldl (fun es e => setEntry es (Prod.map id f e).1 (Prod.map id f e).2)
          (es.map (Prod.map id f)) from h []
  induction entries with
  | nil => exact fun _ => rfl
  | cons e rest ih =>
    intro es
    rw [List.foldl_cons, List.foldl_cons, ih, setEntry_map]
    rfl

mutual
/-- The datum that is built from the nodes of a value. Of several entries with one key the last one
counts. -/
def dataOf : Value → Datum
  | .list items => .list (dataOfItems items)
  | .object fields => .table (lastEntries (dataOfFields fields))
  | v => .ofValue v

def dataOfItems : List Value → List Datum
  | [] => []
  | v :: rest => dataOf v :: dataOfItems rest

def dataOfFields : List (String × Value) → List (Datum × Datum)
  | [] => []
  | (key, v) :: rest => (.text key, dataOf v) :: dataOfFields rest
end

namespace Build

/-! ### Building that succeeds if the numbers are short enough -/

/-- The building comes to a result of this kind, or there is a number that is too long for it. -/
def Builds {α : Type} (fits : Prop) (m : Build α) (b : Building) (post : α → Building → Prop) : Prop :=
  (∃ a b', m.run b = .ok (a, b') ∧ post a b') ∨ (¬fits ∧ ∃ e, m.run b = .error e)

section Rules
variable {α β : Type} {fits : Prop} {m : Build α} {b b' : Building} {a : α} {post : α → Building → Prop}

theorem builds_ok (h : m.run b = .ok (a, b')) (hpost : post a b') : Builds fits m b post :=
  .inl ⟨a, b', h, hpost⟩

theorem Builds.mono {post' : α → Building → Prop} (h : Builds fits m b post)
    (himp : ∀ a b', post a b' → post' a b') : Builds fits m b post' :=
  h.imp (fun ⟨a, b', hrun, hpost⟩ => ⟨a, b', hrun, himp a b' hpost⟩) id

theorem Builds.of_run_eq {m' : Build α} (h : m.run b = m'.run b') (hm' : Builds fits m' b' post) :
    Builds fits m b post := by
  unfold Builds
  rwa [h]

theorem Builds.bind {f : α → Build β} {post' : β → Building → Prop} (h : Builds fits m b post)
    (hf : ∀ a b', post a b' → Builds fits (f a) b' post') : Builds fits (m >>= f) b post' := by
  unfold Builds
  rw [StateT.run_bind]
  rcases h with ⟨a, b', hrun, hpost⟩ | ⟨hn, e, hrun⟩
  · rw [hrun]
    exact hf a b' hpost
  · rw [hrun]
    exact .inr ⟨hn, e, rfl⟩

theorem run_get (b : Building) : (get : Build Building).run b = .ok (b, b) := rfl

theorem run_node (b : Building) (id : Nat) :
    (node id).run b = .ok ((b.graph[id]?).getD ⟨.foreign, .scalar []⟩, b) := rfl

end Rules

/-! ### What is known while the collections are filled -/

/-- What is made of a node: a datum, or the place that it was given. -/
def Stands (placed : List Nat) (item : Item) (id : Nat) : Value → Prop
  | .list _ | .object _ => ∃ place, item = .shared place ∧ placed[place]? = some id
  | v => item = .plain (.ofValue v) ∧ v.IntsFit Text.digitLimit

/-- What is made of a part of this node. -/
def ShowsItem (vals : List Value) (placed : List Nat) (id : Nat) (item : Item) (v : Value) : Prop :=
  ∃ k, id < k ∧ Lies vals k v ∧ Stands placed item k v

def ShowsField (vals : List Value) (placed : List Nat) (id : Nat) (entry : Datum × Item)
    (field : String × Value) : Prop :=
  entry.1 = .text field.1 ∧ ShowsItem vals placed id entry.2 field.2

/-- The collection that a node with parts was made for. -/
def Shows (vals : List Value) (placed : List Nat) (c : Collection) (id : Nat) : Value → Prop
  | .list items => ∃ shown, c = .list shown ∧ List.Forall₂ (ShowsItem vals placed id) shown items
  | .object fields => ∃ shown, c = .table (lastEntries shown) ∧
      List.Forall₂ (ShowsField vals placed id) shown fields
  | _ => False

/-- Whether a value gets a place in the store. -/
def Placed : Value → Prop
  | .list _ | .object _ => True
  | _ => False

/-- What holds between two steps. `placed` are the nodes of the places in the store; those in `pending`
are to be filled in this round, and nothing that waits for the next one is deeper than `levels`. -/
structure Sound (vals : List Value) (g : Graph) (placed : List Nat) (pending : List (Nat × Nat))
    (levels : Nat) (b : Building) : Prop where
  graph : b.graph = g
  idle : b.active = []
  size : b.store.size = placed.length
  made : ∀ id item v, b.made[id]? = some (some item) → Lies vals id v → Stands placed item id v
  waits : ∀ w ∈ pending ++ b.waiting, placed[w.2]? = some w.1
  low : ∀ w ∈ b.waiting, ∀ v, Lies vals w.1 v → v.depth ≤ levels
  node : ∀ id ∈ placed, ∃ v, Placed v ∧ Lies vals id v
  shown : ∀ place id, placed[place]? = some id →
    (id, place) ∈ pending ++ b.waiting ∨
      ∃ c v, b.store[place]? = some c ∧ Lies vals id v ∧ Shows vals placed c id v

theorem Stands.mono {placed : List Nat} {item : Item} {id : Nat} {v : Value} (h : Stands placed item id v)
    (more : List Nat) : Stands (placed ++ more) item id v := by
  unfold Stands at *
  split at h
  · obtain ⟨place, hitem, hplace⟩ := h
    exact ⟨place, hitem, by rw [List.getElem?_append_left (List.getElem?_eq_some_iff.mp hplace).1, hplace]⟩
  · obtain ⟨place, hitem, hplace⟩ := h
    exact ⟨place, hitem, by rw [List.getElem?_append_left (List.getElem?_eq_some_iff.mp hplace).1, hplace]⟩
  · exact h

theorem ShowsItem.mono {vals : List Value} {placed : List Nat} {id : Nat} {item : Item} {v : Value}
    (h : ShowsItem vals placed id item v) (more : List Nat) : ShowsItem vals (placed ++ more) id item v := by
  obtain ⟨k, hk, hlies, hstands⟩ := h
  exact ⟨k, hk, hlies, hstands.mono more⟩

theorem Shows.mono {vals : List Value} {placed : List Nat} {c : Collection} {id : Nat} {v : Value}
    (h : Shows vals placed c id v) (more : List Nat) : Shows vals (placed ++ more) c id v := by
  unfold Shows at *
  split at h
  · obtain ⟨shown, hc, hshown⟩ := h
    exact ⟨shown, hc, hshown.imp fun _ _ hitem => hitem.mono more⟩
  · obtain ⟨shown, hc, hshown⟩ := h
    exact ⟨shown, hc, hshown.imp fun _ _ hfield => ⟨hfield.1, hfield.2.mono more⟩⟩
  · exact h

/-- A document whose data are built: its parts, and the graph of their nodes. -/
structure Plan (vals : List Value) (g : Graph) (fits : Prop) : Prop extends GraphOf vals g where
  floatFree : ∀ id v, Lies vals id v → v.FloatFree
  intsFit : fits → ∀ id v, Lies vals id v → v.IntsFit Text.digitLimit

section Steps
variable {vals : List Value} {g : Graph} {placed : List Nat} {pending : List (Nat × Nat)} {levels : Nat}
  {b : Building}

/-- Something is made of one more node. -/
theorem Sound.remember (h : Sound vals g placed pending levels b) {id : Nat} {v : Value} {item : Item}
    (hv : Lies vals id v) (hitem : Stands placed item id v) :
    Sound vals g placed pending levels { b with made := b.made.setIfInBounds id (some item) } where
  graph := h.graph
  idle := h.idle
  size := h.size
  waits := h.waits
  low := h.low
  node := h.node
  shown := h.shown
  made k made w hmade hw := by
    rw [Array.getElem?_setIfInBounds] at hmade
    split_ifs at hmade with heq
    · subst heq
      cases hmade
      rwa [hw.unique hv]
    · exact h.made k made w hmade hw

/-- A node is given the next place in the store, and waits. -/
theorem Sound.place (h : Sound vals g placed pending levels b) {id : Nat} {v : Value} (hv : Lies vals id v)
    (hplaced : Placed v) (hlevels : v.depth ≤ levels) (c : Collection) :
    Sound vals g (placed ++ [id]) pending levels
      { b with store := b.store.push c, waiting := (id, b.store.size) :: b.waiting } where
  graph := h.graph
  idle := h.idle
  size := by simp [h.size]
  made k item w hmade hw := (h.made k item w hmade hw).mono _
  waits w hw := by
    rw [List.mem_append, List.mem_cons, or_left_comm, ← List.mem_append] at hw
    rcases hw with rfl | hw
    · simp [h.size]
    · have := h.waits w hw
      rw [List.getElem?_append_left (List.getElem?_eq_some_iff.mp this).1, this]
  low w hw u hu := by
    rcases List.mem_cons.mp hw with rfl | hw
    · rwa [hu.unique hv]
    · exact h.low w hw u hu
  node k hk := by
    rcases List.mem_append.mp hk with hk | hk
    · exact h.node k hk
    · rw [List.mem_singleton.mp hk]
      exact ⟨v, hplaced, hv⟩
  shown place k hplace := by
    rw [List.mem_append, List.mem_cons, or_left_comm, ← List.mem_append, or_assoc]
    by_cases hlast : place < placed.length
    · rw [List.getElem?_append_left hlast] at hplace
      refine .inr ((h.shown place k hplace).imp_right fun ⟨c', w, hstore, hw, hshows⟩ => ?_)
      refine ⟨c', w, ?_, hw, hshows.mono _⟩
      rw [Array.getElem?_push_lt (h.size ▸ hlast), ← Array.getElem?_eq_getElem, hstore]
    · obtain ⟨hlength, hid⟩ := List.getElem?_eq_some_iff.mp hplace
      have : place = placed.length := by simp at hlength; omega
      subst this
      simp at hid
      exact .inl (by rw [hid, h.size])

end Steps

/-! ### Scalars -/

theorem scalarOf_nodeOf (id : Nat) {v : Value} (hf : v.FloatFree) (hv : ¬Placed v) :
    ∃ cs, (nodeOf id v).body = .scalar cs ∧ empty? (nodeOf id v).tag = none ∧
      isTextual (nodeOf id v).tag = true ∧
      (v.IntsFit Text.digitLimit → scalarOf (nodeOf id v).tag (nodeOf id v).body cs = .ok (.ofValue v)) ∧
      (¬v.IntsFit Text.digitLimit → ∃ e, scalarOf (nodeOf id v).tag (nodeOf id v).body cs = .error e) := by
  match v with
  | .null => exact ⟨_, rfl, rfl, rfl, fun _ => rfl, fun h => absurd trivial h⟩
  | .bool true => exact ⟨_, rfl, rfl, rfl, fun _ => rfl, fun h => absurd trivial h⟩
  | .bool false => exact ⟨_, rfl, rfl, rfl, fun _ => rfl, fun h => absurd trivial h⟩
  | .text s => exact ⟨_, rfl, rfl, rfl, fun _ => by simp [nodeOf, scalarOf, Datum.ofValue], fun h => absurd trivial h⟩
  | .int n =>
    have htag : (nodeOf id (.int n)).tag = .kind .int := by
      rw [nodeOf]
      · simp [wordOf, ScalarKind.ofPlain_intChars]
      all_goals simp
    refine ⟨Text.intChars n, rfl, by rw [htag]; rfl, by rw [htag]; rfl, fun h => ?_, fun h => ?_⟩
    · rw [Value.IntsFit] at h
      rw [htag, scalarOf, intOf_intChars, if_pos h]
      rfl
    · rw [Value.IntsFit] at h
      rw [htag, scalarOf, intOf_intChars, if_neg h]
      exact ⟨_, rfl⟩
  | .float _ => exact hf.elim
  | .list _ | .object _ => exact absurd trivial hv

/-! ### One node -/

section Construct
variable {vals : List Value} {g : Graph} {placed : List Nat} {pending : List (Nat × Nat)} {levels : Nat}
  {b : Building} {id fuel : Nat} {atOnce : Bool} {v : Value} {fits : Prop}

theorem run_construct_made {item : Item} (h : b.made[id]? = some (some item)) :
    (construct (fuel + 1) atOnce id).run b = .ok (item, b) := by
  rw [construct, StateT.run_bind, run_get, ok_bind]
  simp only [h]
  rfl

/-- What is made of a node that nothing is made of yet. -/
theorem run_construct_new (h : ∀ item, b.made[id]? ≠ some (some item)) (hidle : b.active = []) :
    (construct (fuel + 1) atOnce id).run b =
      (constructNew fuel atOnce id).run { b with active := [id] } >>= fun r =>
        .ok (r.1, { r.2 with
          made := r.2.made.setIfInBounds id (some r.1), active := r.2.active.erase id }) := by
  rw [construct, StateT.run_bind, run_get, ok_bind]
  split
  · next item hitem => exact absurd hitem (h item)
  · simp only [hidle]
    rfl

theorem run_construct_scalar (h : ∀ item, b.made[id]? ≠ some (some item)) (hidle : b.active = [])
    {n : Node} {cs : List Char} (hnode : b.graph[id]? = some n) (hempty : empty? n.tag = none)
    (htextual : isTextual n.tag = true) (hbody : n.body = .scalar cs) :
    (construct (fuel + 2) atOnce id).run b =
      (scalarOf n.tag n.body cs >>= fun d =>
        .ok (.plain d, { b with made := b.made.setIfInBounds id (some (.plain d)) })) := by
  obtain ⟨g, store, made, active, waiting⟩ := b
  obtain rfl : active = [] := hidle
  rw [run_construct_new h rfl]
  have hread : (node id).run ⟨g, store, made, [id], waiting⟩ = .ok (n, ⟨g, store, made, [id], waiting⟩) := by
    rw [run_node, hnode]
    rfl
  have htext : (textOf (g.size + 1) id).run ⟨g, store, made, [id], waiting⟩ =
      .ok (cs, ⟨g, store, made, [id], waiting⟩) := by
    rw [textOf, StateT.run_bind, hread, ok_bind]
    simp only [hbody]
    rfl
  rw [constructNew, StateT.run_bind, hread, ok_bind]
  simp only [hempty, htextual, Bool.not_true, Bool.false_eq_true, if_false]
  rw [StateT.run_bind, run_get, ok_bind, StateT.run_bind, htext, ok_bind]
  cases scalarOf n.tag n.body cs with
  | error e => rfl
  | ok d =>
    exact congrArg (fun active => Except.ok (Item.plain d,
      Building.mk g store (made.setIfInBounds id (some (.plain d))) active waiting)) (List.erase_cons_head id [])

theorem run_construct_empty (h : ∀ item, b.made[id]? ≠ some (some item)) (hidle : b.active = [])
    {n : Node} {c : Collection} (hnode : b.graph[id]? = some n) (hempty : empty? n.tag = some c) :
    (construct (fuel + 2) false id).run b =
      .ok (.shared b.store.size, { b with
        store := b.store.push c, waiting := (id, b.store.size) :: b.waiting
        made := b.made.setIfInBounds id (some (.shared b.store.size)) }) := by
  obtain ⟨g, store, made, active, waiting⟩ := b
  obtain rfl : active = [] := hidle
  rw [run_construct_new h rfl]
  have hread : (node id).run ⟨g, store, made, [id], waiting⟩ = .ok (n, ⟨g, store, made, [id], waiting⟩) := by
    rw [run_node, hnode]
    rfl
  rw [constructNew, StateT.run_bind, hread, ok_bind]
  simp only [hempty]
  exact congrArg (fun active => Except.ok (Item.shared store.size,
    Building.mk g (store.push c) (made.setIfInBounds id (some (.shared store.size))) active
      ((id, store.size) :: waiting))) (List.erase_cons_head id [])

theorem placed_nodeOf (id : Nat) (hplaced : Placed v) : ∃ c, empty? (nodeOf id v).tag = some c := by
  cases v with
  | list items => exact ⟨_, rfl⟩
  | object fields => exact ⟨_, rfl⟩
  | _ => exact hplaced.elim

/-- Something is made of a node, at once or by a place to be filled later. -/
theorem builds_construct (hplan : Plan vals g fits) (h : Sound vals g placed pending levels b)
    (hv : Lies vals id v) (hlevels : v.depth ≤ levels) (hatOnce : atOnce = true → ¬Placed v) :
    Builds fits (construct (fuel + 2) atOnce id) b fun item b' =>
      ∃ more, Sound vals g (placed ++ more) pending levels b' ∧ Stands (placed ++ more) item id v := by
  have hnode : b.graph[id]? = some (nodeOf id v) := by
    rw [h.graph]
    exact hplan.node id v hv.get
  by_cases hmade : ∃ item, b.made[id]? = some (some item)
  · obtain ⟨item, hmade⟩ := hmade
    refine builds_ok (run_construct_made hmade) ⟨[], ?_⟩
    rw [List.append_nil]
    exact ⟨h, h.made id item v hmade hv⟩
  · rw [not_exists] at hmade
    by_cases hplaced : Placed v
    · obtain rfl : atOnce = false := Bool.eq_false_iff.mpr fun hat => hatOnce hat hplaced
      obtain ⟨c, hc⟩ := placed_nodeOf id hplaced
      have hstands : Stands (placed ++ [id]) (.shared b.store.size) id v := by
        cases v with
        | list items => exact ⟨_, rfl, by simp [h.size]⟩
        | object fields => exact ⟨_, rfl, by simp [h.size]⟩
        | _ => exact hplaced.elim
      exact builds_ok (run_construct_empty hmade h.idle hnode hc)
        ⟨[id], (h.place hv hplaced hlevels c).remember hv hstands, hstands⟩
    · obtain ⟨cs, hbody, hempty, htextual, hfits, hlong⟩ :=
        scalarOf_nodeOf id (hplan.floatFree id v hv) hplaced
      have hrun : (construct (fuel + 2) atOnce id).run b = _ :=
        run_construct_scalar hmade h.idle hnode hempty htextual hbody
      by_cases hint : v.IntsFit Text.digitLimit
      · rw [hfits hint] at hrun
        have hstands : Stands placed (.plain (.ofValue v)) id v := by
          cases v with
          | list items => exact absurd trivial hplaced
          | object fields => exact absurd trivial hplaced
          | _ => exact ⟨rfl, hint⟩
        refine builds_ok hrun ⟨[], ?_⟩
        rw [List.append_nil]
        exact ⟨h.remember hv hstands, hstands⟩
      · obtain ⟨e, he⟩ := hlong hint
        rw [he] at hrun
        exact .inr ⟨fun hfits => hint (hplan.intsFit hfits id v hv), e, hrun⟩

theorem builds_items (hplan : Plan vals g fits) {ids : List Nat} {items : List Value}
    (hitems : List.Forall₂ (fun k w => id < k ∧ Lies vals k w) ids items) {placed : List Nat} {b : Building}
    (h : Sound vals g placed pending levels b) (hlevels : Value.depthOfItems items ≤ levels) :
    Builds fits (ids.mapM (construct (fuel + 2) false)) b fun shown b' =>
      ∃ more, Sound vals g (placed ++ more) pending levels b' ∧
        List.Forall₂ (ShowsItem vals (placed ++ more) id) shown items := by
  induction hitems generalizing placed b with
  | nil => exact builds_ok rfl ⟨[], by rwa [List.append_nil], .nil⟩
  | @cons k w ids items hk _ ih =>
    rw [Value.depthOfItems, Nat.max_le] at hlevels
    rw [List.mapM_cons]
    refine (builds_construct hplan h hk.2 hlevels.1 (by simp)).bind fun item b' ⟨more, h', hitem⟩ => ?_
    refine (ih h' hlevels.2).bind fun shown b'' ⟨others, h'', hshown⟩ => ?_
    have hfirst : ShowsItem vals (placed ++ more) id item w := ⟨k, hk.1, hk.2, hitem⟩
    have hall := List.Forall₂.cons (hfirst.mono others) hshown
    rw [List.append_assoc] at h'' hall
    exact builds_ok rfl ⟨more ++ others, h'', hall⟩

/-- One more entry of a table that is filled. -/
def addEntry (fuel : Nat) (entries : List (Datum × Item)) (e : Nat × Nat) : Build (List (Datum × Item)) := do
  let key ← keyOf (← construct fuel true e.1)
  return insert entries key (← construct fuel false e.2)

theorem builds_addEntry (hplan : Plan vals g fits) (h : Sound vals g placed pending levels b)
    {k : Nat × Nat} {f : String × Value} (hkey : Lies vals k.1 (.text f.1)) (hless : id < k.2)
    (hvalue : Lies vals k.2 f.2) (hlevels : f.2.depth ≤ levels) (entries : List (Datum × Item)) :
    Builds fits (addEntry (fuel + 2) entries k) b fun filled b' =>
      ∃ more item, Sound vals g (placed ++ more) pending levels b' ∧
        filled = setEntry entries (.text f.1) item ∧ ShowsItem vals (placed ++ more) id item f.2 := by
  rw [addEntry]
  refine (builds_construct hplan h hkey (Nat.zero_le _) (fun _ hn => hn)).bind
    fun item b' ⟨more, h', hitem⟩ => ?_
  obtain ⟨rfl, _⟩ := hitem
  have htext : Builds fits (keyOf (.plain (.ofValue (.text f.1)))) b' fun key c => key = .text f.1 ∧ c = b' :=
    builds_ok rfl ⟨rfl, rfl⟩
  refine htext.bind ?_
  rintro _ _ ⟨rfl, rfl⟩
  refine (builds_construct hplan h' hvalue hlevels (by simp)).bind fun item b'' ⟨others, h'', hitem⟩ => ?_
  rw [List.append_assoc] at h'' hitem
  exact builds_ok rfl ⟨more ++ others, item, h'', insert_eq_setEntry _ _ _, k.2, hless, hvalue, hitem⟩

theorem builds_fields (hplan : Plan vals g fits) {ids : List (Nat × Nat)} {fields : List (String × Value)}
    (hfields : List.Forall₂ (fun k f => Lies vals k.1 (.text f.1) ∧ id < k.2 ∧ Lies vals k.2 f.2) ids fields)
    {placed : List Nat} {b : Building} (h : Sound vals g placed pending levels b)
    (hlevels : Value.depthOfFields fields ≤ levels) (entries : List (Datum × Item)) :
    Builds fits (ids.foldlM (addEntry (fuel + 2)) entries) b fun filled b' =>
      ∃ more, ∃ shown : List (Datum × Item), Sound vals g (placed ++ more) pending levels b' ∧
        filled = shown.foldl (fun es e => setEntry es e.1 e.2) entries ∧
        List.Forall₂ (ShowsField vals (placed ++ more) id) shown fields := by
  induction hfields generalizing placed b entries with
  | nil => exact builds_ok rfl ⟨[], [], by rwa [List.append_nil], rfl, .nil⟩
  | @cons k f ids fields hk _ ih =>
    obtain ⟨hkey, hless, hvalue⟩ := hk
    rw [Value.depthOfFields, Nat.max_le] at hlevels
    rw [List.foldlM_cons]
    refine (builds_addEntry hplan h hkey hless hvalue hlevels.1 entries).bind
      fun filled b' ⟨more, item, h', hfilled, hitem⟩ => ?_
    refine (ih h' hlevels.2 filled).mono fun filled' b'' ⟨others, shown, h'', hfilled', hshown⟩ => ?_
    have hfirst : ShowsField vals (placed ++ more ++ others) id (.text f.1, item) f :=
      ⟨rfl, hitem.mono others⟩
    have hall := List.Forall₂.cons hfirst hshown
    rw [List.append_assoc] at h'' hall
    refine ⟨more ++ others, _, h'', ?_, hall⟩
    rw [List.foldl_cons, ← hfilled, hfilled']

/-! ### Tables that are merged with no other -/

theorem run_entriesOf {n : Node} {entries : List (Nat × Nat)} (hnode : b.graph[id]? = some n)
    (hbody : n.body = .table entries) : (entriesOf id).run b = .ok (entries, b) := by
  rw [entriesOf, StateT.run_bind, run_node, hnode, ok_bind]
  simp only [Option.getD_some, hbody]
  rfl

theorem run_merge {n : Node} {entries : List (Nat × Nat)} (hnode : b.graph[id]? = some n)
    (hbody : n.body = .table entries)
    (hkeys : ∀ e ∈ entries, ∃ k, b.graph[e.1]? = some k ∧ k.tag = .kind .text) {position : Nat}
    (hfuel : entries.length < fuel + position) (hposition : position ≤ entries.length) :
    (merge fuel id position []).run b = .ok ((), b) := by
  induction fuel generalizing position with
  | zero => omega
  | succ fuel ih =>
    rw [merge, StateT.run_bind, run_entriesOf hnode hbody, ok_bind]
    cases hentry : entries[position]? with
    | none => rfl
    | some e =>
      obtain ⟨k, hk, htag⟩ := hkeys e (List.mem_of_getElem? hentry)
      have hlt := (List.getElem?_eq_some_iff.mp hentry).1
      dsimp only
      rw [StateT.run_bind, run_node, hk, ok_bind]
      simp only [Option.getD_some, htag]
      exact ih (by omega) hlt

theorem le_foldl {α : Type} {f : Nat → α → Nat} (hf : ∀ n a, n ≤ f n a) (l : List α) (n : Nat) :
    n ≤ l.foldl f n := by
  induction l generalizing n with
  | nil => exact Nat.le_refl n
  | cons a l ih => exact (hf n a).trans (ih (f n a))

theorem le_foldl_of_mem {α : Type} {f : Nat → α → Nat} (hf : ∀ n a, n ≤ f n a) {l : List α} {a : α}
    (ha : a ∈ l) {bound start : Nat} (hbound : ∀ n, start ≤ n → bound ≤ f n a) :
    bound ≤ l.foldl f start := by
  obtain ⟨before, after, rfl⟩ := List.append_of_mem ha
  rw [List.foldl_append, List.foldl_cons]
  exact (hbound _ (le_foldl hf before start)).trans (le_foldl hf after _)

theorem length_lt_mergeFuel {n : Node} {entries : List (Nat × Nat)} (hnode : g[id]? = some n)
    (hbody : n.body = .table entries) : entries.length < mergeFuel g := by
  rw [mergeFuel, ← Array.foldl_toList]
  refine le_foldl_of_mem (fun m k => ?_) (Array.mem_toList_iff.mpr (Array.mem_of_getElem? hnode)) fun m hm => ?_
  · split <;> omega
  · rw [hbody]
    dsimp only
    omega

/-! ### Rounds -/

theorem Sound.fill {place : Nat} (h : Sound vals g placed ((id, place) :: pending) levels b)
    (hv : Lies vals id v) {c : Collection} (hc : Shows vals placed c id v) :
    Sound vals g placed pending levels { b with store := b.store.setIfInBounds place c } where
  graph := h.graph
  idle := h.idle
  size := by simp [h.size]
  made := h.made
  low := h.low
  node := h.node
  waits w hw := h.waits w (List.mem_cons_of_mem _ hw)
  shown other k hother := by
    have hhead := h.waits (id, place) List.mem_cons_self
    have hbound := (List.getElem?_eq_some_iff.mp hhead).1
    by_cases heq : other = place
    · subst heq
      obtain rfl : id = k := Option.some.inj (hhead.symm.trans hother)
      exact .inr ⟨c, v, Array.getElem?_setIfInBounds_self_of_lt (h.size ▸ hbound), hv, hc⟩
    · rw [Array.getElem?_setIfInBounds_ne (Ne.symm heq)]
      refine (h.shown other k hother).imp_left fun hw => ?_
      rcases List.mem_cons.mp hw with hw | hw
      · exact absurd (Prod.mk.inj hw).2 heq
      · exact hw

/-- The collection of a node is filled with what is made of its parts. -/
theorem builds_fill (hplan : Plan vals g fits) {place : Nat}
    (h : Sound vals g placed ((id, place) :: pending) levels b) (hv : Lies vals id v)
    (hlevels : v.depth ≤ levels + 1) (hplaced : Placed v) :
    Builds fits (fill (fuel + 4) false id place) b fun _ b' =>
      ∃ more, Sound vals g (placed ++ more) pending levels b' := by
  have hnode : b.graph[id]? = some (nodeOf id v) := by
    rw [h.graph]
    exact hplan.node id v hv.get
  cases v with
  | list items =>
    have hrun : (fill (fuel + 4) false id place).run b =
        ((idsOfItems (id + 1) items).mapM (construct (fuel + 3) false) >>= fun shown =>
          modify fun b => { b with store := b.store.setIfInBounds place (.list shown) }).run b := by
      rw [fill, StateT.run_bind, run_node, hnode, ok_bind]
      exact congrArg (fun m => StateT.run m b) (bind_map_left Collection.list _ _)
    rw [Value.depth] at hlevels
    refine .of_run_eq hrun ((builds_items hplan hv.items h (by omega)).bind fun shown b' hitems => ?_)
    obtain ⟨more, h', hshown⟩ := hitems
    exact builds_ok rfl ⟨more, h'.fill hv ⟨shown, rfl, hshown⟩⟩
  | object fields =>
    have hentries : (constructEntries (fuel + 3) false id).run b =
        ((idsOfFields (id + 1) fields).foldlM (addEntry (fuel + 2)) []).run b := by
      have hkeys : ∀ e ∈ idsOfFields (id + 1) fields, ∃ k, b.graph[e.1]? = some k ∧ k.tag = .kind .text := by
        refine ((List.forall₂_and_left _ _).mp (hv.fields.imp fun e f hfield => ⟨?_, hfield.2⟩)).1
        rw [h.graph]
        exact ⟨_, hplan.node e.1 _ hfield.1.get, rfl⟩
      have hmerge : (merge (mergeFuel b.graph) id 0 []).run b = .ok ((), b) :=
        run_merge hnode rfl hkeys (length_lt_mergeFuel hnode rfl) (Nat.zero_le _)
      rw [constructEntries, StateT.run_bind, run_get, ok_bind, StateT.run_bind]
      dsimp only
      rw [hmerge, ok_bind, StateT.run_bind, run_entriesOf hnode rfl, ok_bind]
      rfl
    have hrun : (fill (fuel + 4) false id place).run b =
        (constructEntries (fuel + 3) false id >>= fun entries =>
          modify fun b => { b with store := b.store.setIfInBounds place (.table entries) }).run b := by
      rw [fill, StateT.run_bind, run_node, hnode, ok_bind]
      exact congrArg (fun m => StateT.run m b) (bind_map_left Collection.table _ _)
    rw [Value.depth] at hlevels
    refine .of_run_eq hrun (Builds.bind (.of_run_eq hentries (builds_fields hplan hv.fields h (by omega) []))
      fun entries b' hfields => ?_)
    obtain ⟨more, shown, h', hentries, hshown⟩ := hfields
    exact builds_ok rfl ⟨more, h'.fill hv ⟨shown, by rw [hentries]; rfl, hshown⟩⟩
  | _ => exact hplaced.elim

theorem one_le_depth (h : Placed v) : 1 ≤ v.depth := by
  cases v with
  | list items => exact Nat.le_add_left _ _
  | object fields => exact Nat.le_add_left _ _
  | _ => exact h.elim

theorem builds_round (hplan : Plan vals g fits) (h : Sound vals g placed pending levels b)
    (hlow : ∀ w ∈ pending, ∀ v, Lies vals w.1 v → v.depth ≤ levels + 1) :
    Builds fits (pending.forM fun (id, place) => fill (fuel + 4) false id place) b fun _ b' =>
      ∃ more, Sound vals g (placed ++ more) [] levels b' := by
  induction pending generalizing placed b with
  | nil => exact builds_ok rfl ⟨[], by rwa [List.append_nil]⟩
  | cons w pending ih =>
    obtain ⟨id, place⟩ := w
    rw [List.forall_mem_cons] at hlow
    obtain ⟨v, hplaced, hv⟩ := h.node id (List.mem_of_getElem? (h.waits (id, place) List.mem_cons_self))
    rw [List.forM]
    refine (builds_fill hplan h hv (hlow.1 v hv) hplaced).bind fun _ b' ⟨more, h'⟩ => ?_
    refine (ih h' hlow.2).mono fun _ b'' ⟨others, h''⟩ => ⟨more ++ others, ?_⟩
    rwa [← List.append_assoc]

/-- What waits is to be filled in the next round. -/
theorem Sound.nextRound (h : Sound vals g placed [] (levels + 1) b) :
    Sound vals g placed b.waiting.reverse levels { b with waiting := [] } where
  graph := h.graph
  idle := h.idle
  size := h.size
  made := h.made
  waits w hw := h.waits w (by simpa using hw)
  low _ hw := by cases hw
  node := h.node
  shown place id hplace := (h.shown place id hplace).imp_left fun hw => by simpa using hw

/-- What waits is deep enough for the rounds that are left. -/
theorem Sound.levels_pos (h : Sound vals g placed [] levels b) (hwaiting : b.waiting ≠ []) : 0 < levels := by
  obtain ⟨w, rest, hw⟩ := List.exists_cons_of_ne_nil hwaiting
  have hmem : w ∈ b.waiting := hw ▸ List.mem_cons_self
  obtain ⟨v, hplaced, hv⟩ := h.node w.1 (List.mem_of_getElem? (h.waits w hmem))
  exact (one_le_depth hplaced).trans (h.low w hmem v hv)

theorem builds_fillAll (hplan : Plan vals g fits) {rounds : Nat} (h : Sound vals g placed [] levels b)
    (hrounds : levels ≤ rounds) :
    Builds fits (fillAll rounds) b fun _ b' =>
      ∃ more levels', Sound vals g (placed ++ more) [] levels' b' ∧ b'.waiting = [] := by
  induction rounds generalizing placed b levels with
  | zero =>
    refine builds_ok rfl ⟨[], levels, by rwa [List.append_nil], ?_⟩
    by_contra hwaiting
    exact absurd (h.levels_pos hwaiting) (by omega)
  | succ rounds ih =>
    by_cases hwaiting : b.waiting = []
    · have hrun : (fillAll (rounds + 1)).run b = .ok ((), b) := by
        rw [fillAll, StateT.run_bind, run_get, ok_bind]
        simp only [hwaiting, List.isEmpty_nil, if_true]
        rfl
      exact builds_ok hrun ⟨[], levels, by rwa [List.append_nil], hwaiting⟩
    · have hrun : (fillAll (rounds + 1)).run b =
          ((b.waiting.reverse.forM fun (id, place) => fill (4 * b.graph.size + 4) false id place) >>= fun _ =>
            fillAll rounds).run { b with waiting := [] } := by
        have hfull : b.waiting.isEmpty = false := by simpa using hwaiting
        rw [fillAll, StateT.run_bind, run_get, ok_bind]
        simp only [hfull, Bool.false_eq_true, if_false]
        rfl
      obtain ⟨levels, rfl⟩ := Nat.exists_eq_add_of_le' (h.levels_pos hwaiting)
      have hlow : ∀ w ∈ b.waiting.reverse, ∀ v, Lies vals w.1 v → v.depth ≤ levels + 1 :=
        fun w hw => h.low w (List.mem_reverse.mp hw)
      refine .of_run_eq hrun ((builds_round hplan h.nextRound hlow).bind fun _ b' ⟨more, h'⟩ => ?_)
      refine (ih h' (by omega)).mono fun _ b'' ⟨others, levels', h'', hdone⟩ => ?_
      exact ⟨more ++ others, levels', by rwa [← List.append_assoc], hdone⟩

end Construct

/-- How the data of a graph begin. -/
def start (g : Graph) : Building := ⟨g, #[], Array.replicate g.size none, [], []⟩

/-- What is left when everything is filled. -/
structure Built (vals : List Value) (placed : List Nat) (store : Store) : Prop where
  size : store.size = placed.length
  shown : ∀ place id : Nat, placed[place]? = some id →
    ∃ c v, store[place]? = some c ∧ Lies vals id v ∧ Shows vals placed c id v

theorem builds_all {root : Value} {g : Graph} {fits : Prop} (hplan : Plan (parts root) g fits)
    (hdepth : root.depth ≤ g.size) :
    Builds fits (constructAll 0) (start g) fun item b =>
      ∃ placed, Built (parts root) placed b.store ∧ Stands placed item 0 root := by
  have hstart : Sound (parts root) g [] [] root.depth (start g) := by
    refine ⟨rfl, rfl, rfl, fun id item v hmade _ => ?_, by simp [start], by simp [start], by simp, by simp⟩
    rw [start, Array.getElem?_replicate] at hmade
    split_ifs at hmade
    cases hmade
  have hrun : (constructAll 0).run (start g) =
      (construct (4 * g.size + 4) false 0 >>= fun item =>
        fillAll (g.size + 1) >>= fun _ => pure item).run (start g) := rfl
  refine .of_run_eq hrun ((builds_construct hplan hstart (lies_root root) (Nat.le_refl _) (by simp)).bind
    fun item b ⟨placed, h, hitem⟩ => ?_)
  refine (builds_fillAll hplan h (by omega)).bind fun _ b' ⟨more, levels, h', hdone⟩ => ?_
  refine builds_ok rfl ⟨_, ⟨h'.size, fun place id hplace => ?_⟩, hitem.mono more⟩
  refine (h'.shown place id hplace).resolve_left ?_
  simp [hdone]

/-! ### What the store shows -/

/-- Everything around is older than this node, and there is room for the rest. -/
structure Room (placed : List Nat) (size depth : Nat) (inside : List Nat) (id : Nat) : Prop where
  nodup : inside.Nodup
  older : ∀ place ∈ inside, ∃ i, placed[place]? = some i ∧ i < id
  count : inside.length + depth = size + 1

theorem Room.notMem {placed : List Nat} {size depth : Nat} {inside : List Nat} {id place : Nat}
    (h : Room placed size depth inside id) (hplace : placed[place]? = some id) : place ∉ inside := by
  intro hmem
  obtain ⟨i, hi, hless⟩ := h.older place hmem
  obtain rfl : i = id := Option.some.inj (hi.symm.trans hplace)
  exact Nat.lt_irrefl i hless

/-- A collection is unfolded, and what it holds has room inside it. -/
theorem Room.enter {placed : List Nat} {depth : Nat} {inside : List Nat} {id place : Nat}
    (h : Room placed placed.length depth inside id) (hplace : placed[place]? = some id) :
    ∃ depth', depth = depth' + 1 ∧
      ∀ k, id < k → Room placed placed.length depth' (place :: inside) k := by
  have hnodup : (place :: inside).Nodup := List.nodup_cons.mpr ⟨h.notMem hplace, h.nodup⟩
  have hbelow : place :: inside ⊆ List.range placed.length := by
    intro q hq
    rw [List.mem_range]
    rcases List.mem_cons.mp hq with rfl | hq
    · exact (List.getElem?_eq_some_iff.mp hplace).1
    · obtain ⟨i, hi, _⟩ := h.older q hq
      exact (List.getElem?_eq_some_iff.mp hi).1
  have hlength := (List.subperm_of_subset hnodup hbelow).length_le
  rw [List.length_cons, List.length_range] at hlength
  have hcount := h.count
  obtain ⟨depth, rfl⟩ := Nat.exists_eq_add_of_le' (show 1 ≤ depth by omega)
  refine ⟨depth, rfl, fun k hk => ⟨hnodup, fun q hq => ?_, by rw [List.length_cons]; omega⟩⟩
  rcases List.mem_cons.mp hq with rfl | hq
  · exact ⟨id, hplace, hk⟩
  · obtain ⟨i, hi, hless⟩ := h.older q hq
    exact ⟨i, hi, hless.trans hk⟩

section Unfold
variable {vals : List Value} {placed : List Nat} {s : Store}

theorem unfold_list {depth place : Nat} {inside : List Nat} {shown : List Item}
    (hstore : s[place]? = some (.list shown)) (hplace : place ∉ inside) :
    s.unfold (depth + 1) inside (.shared place) = .list (shown.map (s.unfold depth (place :: inside))) := by
  have hcontains : inside.contains place = false := by simpa using hplace
  rw [Store.unfold.eq_def]
  simp only [hstore, hcontains, Bool.false_eq_true, if_false]

theorem unfold_table {depth place : Nat} {inside : List Nat} {entries : List (Datum × Item)}
    (hstore : s[place]? = some (.table entries)) (hplace : place ∉ inside) :
    s.unfold (depth + 1) inside (.shared place) =
      .table (entries.map (Prod.map id (s.unfold depth (place :: inside)))) := by
  have hcontains : inside.contains place = false := by simpa using hplace
  rw [Store.unfold.eq_def]
  simp only [hstore, hcontains, Bool.false_eq_true, if_false]
  rfl

/-- The collection at the place of a node. -/
theorem Built.at_place (h : Built vals placed s) {place id : Nat} {v : Value}
    (hplace : placed[place]? = some id) (hv : Lies vals id v) :
    ∃ c, s[place]? = some c ∧ Shows vals placed c id v := by
  obtain ⟨c, w, hstore, hw, hshows⟩ := h.shown place id hplace
  exact ⟨c, hstore, hw.unique hv ▸ hshows⟩

mutual
/-- What is made of a value shows the data of that value. -/
theorem unfold_stands (h : Built vals placed s) : ∀ {v : Value} {id : Nat} {item : Item} {depth : Nat}
    {inside : List Nat}, Lies vals id v → Stands placed item id v →
    Room placed placed.length depth inside id → s.unfold depth inside item = dataOf v
  | .null, _, _, _, _, _, hitem, _ => by rw [hitem.1, Store.unfold, dataOf] <;> simp
  | .bool b, _, _, _, _, _, hitem, _ => by rw [hitem.1, Store.unfold, dataOf] <;> simp
  | .int n, _, _, _, _, _, hitem, _ => by rw [hitem.1, Store.unfold, dataOf] <;> simp
  | .float x, _, _, _, _, _, hitem, _ => by rw [hitem.1, Store.unfold, dataOf] <;> simp
  | .text t, _, _, _, _, _, hitem, _ => by rw [hitem.1, Store.unfold, dataOf] <;> simp
  | .list items, _, _, _, _, hv, hitem, hroom => by
    obtain ⟨place, rfl, hplace⟩ := hitem
    obtain ⟨c, hstore, shown, rfl, hshown⟩ := h.at_place hplace hv
    obtain ⟨depth, rfl, hinner⟩ := hroom.enter hplace
    rw [unfold_list hstore (hroom.notMem hplace), dataOf, unfold_items h hshown hinner]
  | .object fields, _, _, _, _, hv, hitem, hroom => by
    obtain ⟨place, rfl, hplace⟩ := hitem
    obtain ⟨c, hstore, shown, rfl, hshown⟩ := h.at_place hplace hv
    obtain ⟨depth, rfl, hinner⟩ := hroom.enter hplace
    rw [unfold_table hstore (hroom.notMem hplace), dataOf, lastEntries_map, unfold_fields h hshown hinner]

theorem unfold_items (h : Built vals placed s) : ∀ {items : List Value} {shown : List Item}
    {outer depth : Nat} {inside : List Nat}, List.Forall₂ (ShowsItem vals placed outer) shown items →
    (∀ k, outer < k → Room placed placed.length depth inside k) →
    shown.map (s.unfold depth inside) = dataOfItems items
  | [], _, _, _, _, hshown, _ => by cases hshown; rfl
  | v :: items, _, _, _, _, hshown, hroom => by
    cases hshown with
    | cons hitem hrest =>
      obtain ⟨k, hk, hlies, hstands⟩ := hitem
      rw [List.map_cons, dataOfItems, unfold_stands h hlies hstands (hroom k hk), unfold_items h hrest hroom]

theorem unfold_fields (h : Built vals placed s) : ∀ {fields : List (String × Value)}
    {shown : List (Datum × Item)} {outer depth : Nat} {inside : List Nat},
    List.Forall₂ (ShowsField vals placed outer) shown fields →
    (∀ k, outer < k → Room placed placed.length depth inside k) →
    shown.map (Prod.map id (s.unfold depth inside)) = dataOfFields fields
  | [], _, _, _, _, hshown, _ => by cases hshown; rfl
  | (key, v) :: fields, _, _, _, _, hshown, hroom => by
    cases hshown with
    | cons hfield hrest =>
      obtain ⟨hkey, k, hk, hlies, hstands⟩ := hfield
      rw [List.map_cons, dataOfFields, Prod.map, hkey, unfold_stands h hlies hstands (hroom k hk),
        unfold_fields h hrest hroom]
      rfl
end

mutual
/-- Every number that was read is short enough. -/
theorem intsFit_of_stands (h : Built vals placed s) : ∀ {v : Value} {id : Nat} {item : Item},
    Lies vals id v → Stands placed item id v → v.IntsFit Text.digitLimit
  | .null, _, _, _, _ | .bool _, _, _, _, _ | .text _, _, _, _, _ | .float _, _, _, _, _ => trivial
  | .int _, _, _, _, hitem => hitem.2
  | .list items, _, _, hv, hitem => by
    obtain ⟨place, rfl, hplace⟩ := hitem
    obtain ⟨c, _, shown, rfl, hshown⟩ := h.at_place hplace hv
    exact intsFit_of_items h hshown
  | .object fields, _, _, hv, hitem => by
    obtain ⟨place, rfl, hplace⟩ := hitem
    obtain ⟨c, _, shown, rfl, hshown⟩ := h.at_place hplace hv
    exact intsFit_of_fields h hshown

theorem intsFit_of_items (h : Built vals placed s) : ∀ {items : List Value} {shown : List Item} {outer : Nat},
    List.Forall₂ (ShowsItem vals placed outer) shown items → Value.IntsFitItems Text.digitLimit items
  | [], _, _, _ => trivial
  | v :: items, _, _, hshown => by
    cases hshown with
    | cons hitem hrest =>
      obtain ⟨k, _, hlies, hstands⟩ := hitem
      exact ⟨intsFit_of_stands h hlies hstands, intsFit_of_items h hrest⟩

theorem intsFit_of_fields (h : Built vals placed s) : ∀ {fields : List (String × Value)}
    {shown : List (Datum × Item)} {outer : Nat}, List.Forall₂ (ShowsField vals placed outer) shown fields →
    Value.IntsFitFields Text.digitLimit fields
  | [], _, _, _ => trivial
  | (key, v) :: fields, _, _, hshown => by
    cases hshown with
    | cons hfield hrest =>
      obtain ⟨_, k, _, hlies, hstands⟩ := hfield
      exact ⟨intsFit_of_stands h hlies hstands, intsFit_of_fields h hrest⟩
end

end Unfold

/-! ### Documents -/

mutual
theorem depth_le_length_parts : ∀ v : Value, v.depth ≤ (parts v).length
  | .null | .bool _ | .int _ | .float _ | .text _ => Nat.zero_le _
  | .list items => by
    rw [Value.depth, parts, List.length_cons]
    exact Nat.succ_le_succ (depthOfItems_le_length_parts items)
  | .object fields => by
    rw [Value.depth, parts, List.length_cons]
    exact Nat.succ_le_succ (depthOfFields_le_length_parts fields)

theorem depthOfItems_le_length_parts : ∀ items : List Value,
    Value.depthOfItems items ≤ (partsOfItems items).length
  | [] => Nat.le_refl _
  | v :: rest => by
    have hv := depth_le_length_parts v
    have hrest := depthOfItems_le_length_parts rest
    rw [Value.depthOfItems, partsOfItems, List.length_append]
    omega

theorem depthOfFields_le_length_parts : ∀ fields : List (String × Value),
    Value.depthOfFields fields ≤ (partsOfFields fields).length
  | [] => Nat.le_refl _
  | (key, v) :: rest => by
    have hv := depth_le_length_parts v
    have hrest := depthOfFields_le_length_parts rest
    rw [Value.depthOfFields, partsOfFields, List.length_append, List.length_cons]
    omega
end

/-- What holds of a value for all that is inside it. -/
structure Inherited (holds : Value → Prop) : Prop where
  text : ∀ s, holds (.text s)
  items : ∀ {items}, holds (.list items) → ∀ v ∈ items, holds v
  fields : ∀ {fields}, holds (.object fields) → ∀ e ∈ fields, holds e.2

mutual
theorem Inherited.parts {holds : Value → Prop} (h : Inherited holds) : ∀ {v : Value}, holds v →
    ∀ w ∈ Yaml.parts v, holds w
  | .null, hv, _, hw | .bool _, hv, _, hw | .int _, hv, _, hw | .float _, hv, _, hw | .text _, hv, _, hw =>
    List.mem_singleton.mp hw ▸ hv
  | .list items, hv, w, hw => by
    rw [Yaml.parts, List.mem_cons] at hw
    rcases hw with rfl | hw
    · exact hv
    · exact h.partsOfItems (h.items hv) w hw
  | .object fields, hv, w, hw => by
    rw [Yaml.parts, List.mem_cons] at hw
    rcases hw with rfl | hw
    · exact hv
    · exact h.partsOfFields (h.fields hv) w hw

theorem Inherited.partsOfItems {holds : Value → Prop} (h : Inherited holds) : ∀ {items : List Value},
    (∀ v ∈ items, holds v) → ∀ w ∈ Yaml.partsOfItems items, holds w
  | [], _, w, hw => by cases hw
  | v :: rest, hall, w, hw => by
    rw [List.forall_mem_cons] at hall
    rw [Yaml.partsOfItems, List.mem_append] at hw
    rcases hw with hw | hw
    · exact h.parts hall.1 w hw
    · exact h.partsOfItems hall.2 w hw

theorem Inherited.partsOfFields {holds : Value → Prop} (h : Inherited holds) :
    ∀ {fields : List (String × Value)}, (∀ e ∈ fields, holds e.2) →
    ∀ w ∈ Yaml.partsOfFields fields, holds w
  | [], _, w, hw => by cases hw
  | (key, v) :: rest, hall, w, hw => by
    rw [List.forall_mem_cons] at hall
    rw [Yaml.partsOfFields, List.mem_append, List.mem_cons] at hw
    rcases hw with (rfl | hw) | hw
    · exact h.text key
    · exact h.parts hall.1 w hw
    · exact h.partsOfFields hall.2 w hw
end

theorem inherited_floatFree : Inherited Value.FloatFree :=
  ⟨fun _ => trivial, fun h => Value.floatFreeItems_iff.mp h, fun h => Value.floatFreeFields_iff.mp h⟩

theorem inherited_intsFit : Inherited (Value.IntsFit Text.digitLimit) :=
  ⟨fun _ => trivial, fun h => Value.intsFitItems_iff.mp h, fun h => Value.intsFitFields_iff.mp h⟩

theorem plan_nodesOf {v : Value} (hf : v.FloatFree) :
    Plan (parts v) (nodesOf 0 v).toArray (v.IntsFit Text.digitLimit) where
  toGraphOf := graphOf_nodesOf v
  floatFree _ _ hw := inherited_floatFree.parts hf _ (List.mem_of_getElem? hw.get)
  intsFit hfits _ _ hw := inherited_intsFit.parts hfits _ (List.mem_of_getElem? hw.get)

/-- What the table of a document shows. -/
theorem Built.entries {placed : List Nat} {s : Store} {fields : List (String × Value)} {item : Item}
    (h : Built (parts (.object fields)) placed s) (hitem : Stands placed item 0 (.object fields)) :
    ∃ entries, s.entries? item = some entries ∧
      entries.map (Prod.map id s.view) = lastEntries (dataOfFields fields) := by
  obtain ⟨place, rfl, hplace⟩ := hitem
  obtain ⟨c, hstore, shown, rfl, hshown⟩ := h.at_place hplace (lies_root _)
  refine ⟨lastEntries shown, by simp only [Store.entries?, hstore], ?_⟩
  have hroom : ∀ k, 0 < k → Room placed placed.length (s.size + 1) [] k :=
    fun k _ => ⟨List.nodup_nil, by simp, by rw [h.size, List.length_nil, Nat.zero_add]⟩
  rw [lastEntries_map]
  exact congrArg lastEntries (unfold_fields h hshown hroom)

/-- The data of a document are there if no number in it is too long. -/
theorem built_document {fields : List (String × Value)} (hf : (Value.object fields).FloatFree) :
    ((Value.object fields).IntsFit Text.digitLimit →
      ∃ item b entries, (constructAll 0).run (start (nodesOf 0 (.object fields)).toArray) = .ok (item, b) ∧
        b.store.entries? item = some entries ∧
        entries.map (Prod.map id b.store.view) = lastEntries (dataOfFields fields)) ∧
    (¬(Value.object fields).IntsFit Text.digitLimit →
      ∃ e, (constructAll 0).run (start (nodesOf 0 (.object fields)).toArray) = .error e) := by
  have hdepth : (Value.object fields).depth ≤ (nodesOf 0 (.object fields)).toArray.size := by
    rw [List.size_toArray, length_nodesOf]
    exact depth_le_length_parts _
  rcases builds_all (plan_nodesOf hf) hdepth with ⟨item, b, hrun, placed, hbuilt, hitem⟩ | ⟨hn, e, hrun⟩
  · obtain ⟨entries, hentries, hshown⟩ := hbuilt.entries hitem
    refine ⟨fun _ => ⟨item, b, entries, hrun, hentries, hshown⟩, fun hlong => ?_⟩
    exact absurd (intsFit_of_stands hbuilt (lies_root _) hitem) hlong
  · exact ⟨fun hfits => absurd hfits hn, fun _ => ⟨e, hrun⟩⟩

end Build

end ServiceAtlas.Yaml
