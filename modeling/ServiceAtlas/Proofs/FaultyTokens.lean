import ServiceAtlas.Proofs.NodeGraphs

/-!
Tokens that end in a fault make no document: what is read of them leaves the fault behind, and the end
of the text is never seen.
-/

namespace ServiceAtlas.Yaml.Node
open Token (Clean)

/-- The tokens end in a fault, and not before it. -/
def Pending (ts : List Token) : Prop := ∃ us m, ts = us ++ [.fault m] ∧ Clean us

/-- A reading that comes to a result leaves the fault behind it. -/
def Keeps {α : Type} (m : Parse α) : Prop :=
  ∀ r a r', Pending r.tokens → m.run r = .ok (a, r') → Pending r'.tokens

/-- The same behind a token that is known and may be passed. -/
def KeepsBehind {α : Type} (m : Parse α) : Prop :=
  ∀ r a r', Pending r.tokens → Pending (r.tokens.drop 1) → m.run r = .ok (a, r') → Pending r'.tokens

section Rules
variable {α β : Type} {m : Parse α}

theorem Keeps.behind (h : Keeps m) : KeepsBehind m := fun r a r' hr _ => h r a r' hr

theorem keeps_pure (a : α) : Keeps (pure a : Parse α) := by
  intro r b r' hr hrun
  cases hrun
  exact hr

theorem keeps_throw (e : Malformation) : Keeps (throw e : Parse α) := by
  intro r a r' _ hrun
  cases hrun

theorem keeps_throw_bind (e : Malformation) (f : α → Parse β) : Keeps (throw e >>= f) := by
  intro r a r' _ hrun
  cases hrun

theorem Keeps.bind {f : α → Parse β} (h : Keeps m) (hf : ∀ a, Keeps (f a)) : Keeps (m >>= f) := by
  intro r b r' hr hrun
  rw [StateT.run_bind] at hrun
  cases hm : m.run r with
  | error e => rw [hm] at hrun; cases hrun
  | ok p =>
    rw [hm] at hrun
    exact hf p.1 p.2 b r' (h r p.1 p.2 hr hm) hrun

theorem Keeps.map (f : α → β) (h : Keeps m) : Keeps (f <$> m) := by
  rw [map_eq_pure_bind]
  exact h.bind fun a => keeps_pure (f a)

/-- What leaves the tokens alone keeps the fault. -/
theorem keeps_modify {f : Reading → Reading} (hf : ∀ r, (f r).tokens = r.tokens) :
    Keeps (modify f : Parse Unit) := by
  intro r _ r' hr hrun
  cases hrun
  rw [hf]
  exact hr

theorem keeps_get : Keeps (get : Parse Reading) := by
  intro r a r' hr hrun
  cases hrun
  exact hr

theorem keepsBehind_pass {f : Unit → Parse α} (h : Keeps (f ())) : KeepsBehind (pass >>= f) :=
  fun r a r' _ hdrop hrun => h { r with tokens := r.tokens.drop 1 } a r' hdrop hrun

theorem pending_cons {t : Token} {ts : List Token} (h : Pending (t :: ts)) (ht : ∀ m, t ≠ .fault m) :
    t ≠ .streamEnd ∧ Pending ts := by
  obtain ⟨us, m, heq, hclean⟩ := h
  cases us with
  | nil => exact absurd (List.cons.inj heq).1 (ht m)
  | cons u us =>
    obtain ⟨rfl, rfl⟩ := List.cons.inj heq
    exact ⟨fun hend => hclean (hend ▸ List.mem_cons_self), us, m, rfl, fun hmem =>
      hclean (List.mem_cons_of_mem _ hmem)⟩

/-- A token that is seen before the fault may be passed, and does not end the text. -/
theorem run_next_pending {r : Reading} (h : Pending r.tokens) :
    (∃ e, next.run r = .error e) ∨
      ∃ t, t ≠ .streamEnd ∧ Pending (r.tokens.drop 1) ∧ next.run r = .ok (t, r) := by
  obtain ⟨ts, g, as, hs, d⟩ := r
  cases ts with
  | nil =>
    obtain ⟨us, m, heq, _⟩ := h
    simp at heq
  | cons t ts =>
    by_cases ht : ∀ m, t ≠ .fault m
    · obtain ⟨hend, hrest⟩ := pending_cons h ht
      exact .inr ⟨t, hend, hrest, run_next ht ts g as hs d⟩
    · rw [not_forall] at ht
      obtain ⟨m, hm⟩ := ht
      rw [not_not.mp hm]
      exact .inl ⟨m, rfl⟩

theorem keeps_next {f : Token → Parse α} (h : ∀ t, t ≠ .streamEnd → KeepsBehind (f t)) :
    Keeps (next >>= f) := by
  intro r a r' hr hrun
  rw [StateT.run_bind] at hrun
  rcases run_next_pending hr with ⟨e, hnext⟩ | ⟨t, hend, hrest, hnext⟩
  · rw [hnext] at hrun
    cases hrun
  · rw [hnext] at hrun
    exact h t hend r a r' hr hrest hrun

/-- A reading that wants more than a fault to come. -/
def Stops {α : Type} (m : Parse α) : Prop := ∀ r, Pending r.tokens → ∃ e, m.run r = .error e

theorem stops_throw (e : Malformation) : Stops (throw e : Parse α) := fun _ _ => ⟨e, rfl⟩

theorem Keeps.stops {f : α → Parse β} (h : Keeps m) (hf : ∀ a, Stops (f a)) : Stops (m >>= f) := by
  intro r hr
  rw [StateT.run_bind]
  cases hm : m.run r with
  | error e => exact ⟨e, rfl⟩
  | ok p => exact hf p.1 p.2 (h r p.1 p.2 hr hm)

theorem stops_next {f : Token → Parse α} (h : ∀ t, t ≠ .streamEnd → Stops (f t)) : Stops (next >>= f) := by
  intro r hr
  rw [StateT.run_bind]
  rcases run_next_pending hr with ⟨e, hnext⟩ | ⟨t, hend, _, hnext⟩
  · rw [hnext]
    exact ⟨e, rfl⟩
  · rw [hnext]
    exact h t hend r hr

end Rules

/-! ### Parts of a node -/

theorem keeps_tagName (handle : Option String) (suffix : String) : Keeps (tagName handle suffix) := by
  cases handle with
  | none => exact keeps_pure _
  | some name =>
    refine keeps_get.bind fun r => ?_
    split
    · exact keeps_throw _
    · exact keeps_pure _

theorem keeps_readAnchor : Keeps readAnchor? := by
  refine keeps_next fun t _ => ?_
  split
  · exact keepsBehind_pass (keeps_pure _)
  · exact (keeps_pure _).behind

theorem keeps_readTag : Keeps readTag? := by
  refine keeps_next fun t _ => ?_
  split
  · exact keepsBehind_pass (keeps_pure _)
  · exact (keeps_pure _).behind

theorem keeps_named (tag : Option (Option String × String)) : Keeps (named? tag) := by
  cases tag with
  | none => exact keeps_pure _
  | some tag => exact (keeps_tagName _ _).map _

theorem keeps_readProperties : Keeps readProperties := by
  refine keeps_readAnchor.bind fun anchor => ?_
  split
  · exact keeps_readTag.bind fun tag => (keeps_named tag).bind fun _ => keeps_pure _
  · refine keeps_readTag.bind fun tag => ?_
    split
    · exact keeps_pure _
    · exact keeps_readAnchor.bind fun _ => (keeps_named _).bind fun _ => keeps_pure _

theorem keeps_add (anchor : Option String) (n : Node) : Keeps (add anchor n) := by
  intro r id r' hr hrun
  cases anchor with
  | none =>
    cases hrun
    exact hr
  | some name =>
    rw [add, StateT.run_bind, run_get, ok_bind] at hrun
    dsimp only at hrun
    split at hrun
    · cases hrun
    · cases hrun
      exact hr

theorem keeps_addScalar (anchor tag : Option String) (isPlain : Bool) (text : List Char) :
    Keeps (addScalar anchor tag isPlain text) := keeps_add anchor _

theorem keeps_addEmpty : Keeps addEmpty := keeps_addScalar _ _ _ _

theorem keeps_readDirectives (fuel : Nat) (versioned : Bool) (handles : List (String × String)) :
    Keeps (readDirectives fuel versioned handles) := by
  induction fuel generalizing versioned handles with
  | zero => exact keeps_pure _
  | succ fuel ih =>
    refine keeps_next fun t _ => ?_
    split
    · split
      · exact (keeps_throw_bind _ _).behind
      · exact keepsBehind_pass (ih _ _)
    · split
      · exact (keeps_throw_bind _ _).behind
      · exact keepsBehind_pass (ih _ _)
    · exact keepsBehind_pass (ih _ _)
    · exact (keeps_pure _).behind

theorem keeps_skipDocumentEnds : Keeps skipDocumentEnds := by
  intro r _ r' hr hrun
  cases hrun
  obtain ⟨us, m, heq, hclean⟩ := hr
  refine ⟨us.dropWhile isDocumentEnd, m, ?_, fun hmem => hclean ((List.dropWhile_sublist _).mem hmem)⟩
  simp only [heq, List.dropWhile_append]
  split
  · next hempty => rw [List.isEmpty_iff.mp hempty]; rfl
  · rfl

theorem stops_endDocument (document : Option Nat) : Stops (endDocument document) := by
  refine keeps_skipDocumentEnds.stops fun _ => stops_next fun t ht => ?_
  split
  · exact absurd rfl ht
  · exact stops_throw _

variable [Stack]

theorem keeps_addCollection {α : Type} {m : Parse (List α)} (h : Keeps m) (anchor : Option String)
    (tag : Tag) (body : List α → Body) : Keeps (addCollection anchor tag body m) := by
  refine keeps_get.bind fun r => ?_
  split
  · exact keeps_throw_bind _ _
  · refine (keeps_add anchor _).bind fun id => Keeps.bind (keeps_modify ?_) fun _ => h.bind fun parts =>
      Keeps.bind (keeps_modify ?_) fun _ => keeps_pure id
    · exact fun _ => rfl
    · exact fun _ => rfl

/-! ### Nodes -/

/-- None of the readers gets past a fault. -/
structure AllKeep (fuel : Nat) : Prop where
  read : ∀ block level, Keeps (read fuel block level)
  content : ∀ block level anchor tag, Keeps (readContent fuel block level anchor tag)
  items : Keeps (readItems fuel)
  levelItems : Keeps (readLevelItems fuel)
  entries : Keeps (readEntries fuel)
  value : Keeps (readValue fuel)
  flowItems : ∀ first, Keeps (readFlowItems fuel first)
  flowEntry : ∀ ends, Keeps (readFlowEntry fuel ends)
  flowEntries : ∀ first, Keeps (readFlowEntries fuel first)
  flowValue : Keeps (readFlowValue fuel)

section Step
variable {fuel : Nat}

theorem keeps_read (h : AllKeep fuel) (block level : Bool) : Keeps (read (fuel + 1) block level) := by
  rw [Node.read]
  refine keeps_next fun t _ => ?_
  split
  · refine keepsBehind_pass (keeps_get.bind fun r => ?_)
    split
    · exact keeps_pure _
    · exact keeps_throw _
  · exact (keeps_readProperties.bind fun _ => h.content _ _ _ _).behind

theorem keeps_readContent (h : AllKeep fuel) (block level : Bool) (anchor tag : Option String) :
    Keeps (readContent (fuel + 1) block level anchor tag) := by
  rw [readContent]
  refine keeps_next fun t _ => ?_
  split
  · exact (keeps_addCollection h.levelItems _ _ _).behind
  · exact keepsBehind_pass (keeps_addScalar _ _ _ _)
  · exact keepsBehind_pass (keeps_addCollection (h.flowItems true) _ _ _)
  · exact keepsBehind_pass (keeps_addCollection (h.flowEntries true) _ _ _)
  · exact keepsBehind_pass (keeps_addCollection h.items _ _ _)
  · exact keepsBehind_pass (keeps_addCollection h.entries _ _ _)
  · split
    · exact (keeps_addScalar _ _ _ _).behind
    · exact (keeps_throw _).behind

theorem keeps_readItems (h : AllKeep fuel) : Keeps (readItems (fuel + 1)) := by
  rw [readItems]
  refine keeps_next fun t _ => ?_
  split
  · refine keepsBehind_pass (keeps_next fun t _ => Keeps.behind ?_)
    split
    · exact keeps_addEmpty.bind fun _ => h.items.bind fun _ => keeps_pure _
    · exact (h.read _ _).bind fun _ => h.items.bind fun _ => keeps_pure _
  · exact keepsBehind_pass (keeps_pure _)
  · exact (keeps_throw _).behind

theorem keeps_readLevelItems (h : AllKeep fuel) : Keeps (readLevelItems (fuel + 1)) := by
  rw [readLevelItems]
  refine keeps_next fun t _ => ?_
  split
  · refine keepsBehind_pass (keeps_next fun t _ => Keeps.behind ?_)
    split
    · exact keeps_addEmpty.bind fun _ => h.levelItems.bind fun _ => keeps_pure _
    · exact (h.read _ _).bind fun _ => h.levelItems.bind fun _ => keeps_pure _
  · exact (keeps_pure _).behind

theorem keeps_readEntries (h : AllKeep fuel) : Keeps (readEntries (fuel + 1)) := by
  rw [readEntries]
  refine keeps_next fun t _ => ?_
  split
  · refine keepsBehind_pass (keeps_next fun t _ => Keeps.behind ?_)
    split
    · exact keeps_addEmpty.bind fun _ => h.value.bind fun _ => h.entries.bind fun _ => keeps_pure _
    · exact (h.read _ _).bind fun _ => h.value.bind fun _ => h.entries.bind fun _ => keeps_pure _
  · exact keepsBehind_pass (keeps_pure _)
  · exact (keeps_throw _).behind

theorem keeps_readValue (h : AllKeep fuel) : Keeps (readValue (fuel + 1)) := by
  rw [readValue]
  refine keeps_next fun t _ => ?_
  split
  · refine keepsBehind_pass (keeps_next fun t _ => Keeps.behind ?_)
    split
    · exact keeps_addEmpty
    · exact h.read _ _
  · exact keeps_addEmpty.behind

/-- The items of a list on one line, behind its bracket or behind a comma. -/
def moreFlowItems (fuel : Nat) : Parse (List Nat) := do
  match ← next with
  | .flowListEnd => do pass; return []
  | .key =>
    pass
    let n ← addCollection none .table .table do return [← readFlowEntry fuel endsFlowItem]
    return n :: (← readFlowItems fuel false)
  | _ =>
    let n ← read fuel false false
    return n :: (← readFlowItems fuel false)

theorem keeps_moreFlowItems (h : AllKeep fuel) : Keeps (moreFlowItems fuel) := by
  rw [moreFlowItems]
  refine keeps_next fun t _ => ?_
  split
  · exact keepsBehind_pass (keeps_pure _)
  · refine keepsBehind_pass ((keeps_addCollection ?_ _ _ _).bind fun _ =>
      (h.flowItems _).bind fun _ => keeps_pure _)
    exact (h.flowEntry _).bind fun _ => keeps_pure _
  · exact ((h.read _ _).bind fun _ => (h.flowItems _).bind fun _ => keeps_pure _).behind

theorem keeps_readFlowItems (h : AllKeep fuel) (first : Bool) : Keeps (readFlowItems (fuel + 1) first) := by
  have hrest := keeps_moreFlowItems h
  rw [readFlowItems]
  refine keeps_next fun t _ => ?_
  split
  · exact keepsBehind_pass (keeps_pure _)
  · split
    · split
      · exact keepsBehind_pass hrest
      · exact (keeps_throw_bind _ _).behind
    · exact hrest.behind

theorem keeps_readFlowEntry (h : AllKeep fuel) (ends : Token → Bool) :
    Keeps (readFlowEntry (fuel + 1) ends) := by
  rw [readFlowEntry]
  refine keeps_next fun t _ => Keeps.behind ?_
  split
  · exact keeps_addEmpty.bind fun _ => h.flowValue.bind fun _ => keeps_pure _
  · exact (h.read _ _).bind fun _ => h.flowValue.bind fun _ => keeps_pure _

/-- The entries of a table on one line, behind its bracket or behind a comma. -/
def moreFlowEntries (fuel : Nat) : Parse (List (Nat × Nat)) := do
  match ← next with
  | .flowTableEnd => do pass; return []
  | .key =>
    pass
    let e ← readFlowEntry fuel endsFlowEntry
    return e :: (← readFlowEntries fuel false)
  | _ =>
    let k ← read fuel false false
    let v ← addEmpty
    return (k, v) :: (← readFlowEntries fuel false)

theorem keeps_moreFlowEntries (h : AllKeep fuel) : Keeps (moreFlowEntries fuel) := by
  rw [moreFlowEntries]
  refine keeps_next fun t _ => ?_
  split
  · exact keepsBehind_pass (keeps_pure _)
  · exact keepsBehind_pass ((h.flowEntry _).bind fun _ => (h.flowEntries _).bind fun _ => keeps_pure _)
  · exact ((h.read _ _).bind fun _ => keeps_addEmpty.bind fun _ =>
      (h.flowEntries _).bind fun _ => keeps_pure _).behind

theorem keeps_readFlowEntries (h : AllKeep fuel) (first : Bool) :
    Keeps (readFlowEntries (fuel + 1) first) := by
  have hrest := keeps_moreFlowEntries h
  rw [readFlowEntries]
  refine keeps_next fun t _ => ?_
  split
  · exact keepsBehind_pass (keeps_pure _)
  · split
    · split
      · exact keepsBehind_pass hrest
      · exact (keeps_throw_bind _ _).behind
    · exact hrest.behind

theorem keeps_readFlowValue (h : AllKeep fuel) : Keeps (readFlowValue (fuel + 1)) := by
  rw [readFlowValue]
  refine keeps_next fun t _ => ?_
  split
  · refine keepsBehind_pass (keeps_next fun t _ => Keeps.behind ?_)
    split
    · exact keeps_addEmpty
    · exact h.read _ _
  · exact keeps_addEmpty.behind

end Step

theorem allKeep (fuel : Nat) : AllKeep fuel := by
  induction fuel with
  | zero =>
    constructor <;> intros
    · rw [read]; exact keeps_throw _
    · rw [readContent]; exact keeps_throw _
    · rw [readItems]; exact keeps_throw _
    · rw [readLevelItems]; exact keeps_throw _
    · rw [readEntries]; exact keeps_throw _
    · rw [readValue]; exact keeps_throw _
    · rw [readFlowItems]; exact keeps_throw _
    · rw [readFlowEntry]; exact keeps_throw _
    · rw [readFlowEntries]; exact keeps_throw _
    · rw [readFlowValue]; exact keeps_throw _
  | succ fuel ih =>
    exact ⟨keeps_read ih, keeps_readContent ih, keeps_readItems ih, keeps_readLevelItems ih,
      keeps_readEntries ih, keeps_readValue ih, keeps_readFlowItems ih, keeps_readFlowEntry ih,
      keeps_readFlowEntries ih, keeps_readFlowValue ih⟩

/-! ### Documents -/

theorem keeps_readMarked (fuel : Nat) : Keeps (readMarked fuel) := by
  refine (keeps_readDirectives fuel false []).bind fun handles => Keeps.bind (keeps_modify ?_) fun _ => ?_
  · exact fun _ => rfl
  · refine keeps_next fun t _ => ?_
    split
    · refine keepsBehind_pass (keeps_next fun t _ => Keeps.behind ?_)
      split
      · exact keeps_addEmpty
      · exact keeps_addEmpty
      · exact keeps_addEmpty
      · exact keeps_addEmpty
      · exact (allKeep fuel).read _ _
    · exact (keeps_throw _).behind

/-- There is no document before the fault. -/
theorem stops_readDocument (fuel : Nat) : Stops (readDocument fuel) := by
  refine stops_next fun t ht => ?_
  split
  · exact absurd rfl ht
  · exact ((keeps_readMarked fuel).map _).stops stops_endDocument
  · exact ((keeps_readMarked fuel).map _).stops stops_endDocument
  · exact (((allKeep fuel).read _ _).map _).stops stops_endDocument

/-- A document with a key that is too long to be known for one has no nodes. -/
theorem ofText_file_long {fields : List (String × Value)} (hf : Value.FloatFreeFields fields)
    (hkeys : ¬KeysFitFields fields) : ∃ e, ofText (file (.object fields)).toList = .error e := by
  obtain ⟨us, m, htokens, hclean⟩ := (Token.tokenized_file hf).fails hkeys
  rw [ofText]
  dsimp only
  rw [htokens]
  obtain ⟨e, he⟩ := stops_readDocument (4 * (us ++ [Token.fault m]).length + 8)
    ⟨us ++ [.fault m], #[], [], standardHandles, 0⟩ ⟨us, m, rfl, hclean⟩
  rw [he]
  exact ⟨e, rfl⟩

end ServiceAtlas.Yaml.Node
