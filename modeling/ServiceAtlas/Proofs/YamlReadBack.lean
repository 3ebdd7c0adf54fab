import ServiceAtlas.Generation
import ServiceAtlas.Mapping
import ServiceAtlas.Proofs.BuiltData
import ServiceAtlas.Proofs.DistinctKeys
import ServiceAtlas.Proofs.FaultyTokens

/-!
YAML text read back. The document that comes back is the one that was written, unless a text in it is
garbled, a key is too long to be known for one, or the reader refuses its depth or its numbers.
-/

namespace ServiceAtlas.Yaml

/-! ### What is seen has the shape of what was written -/

mutual
theorem floatFree_seen (spot : Spot) (indent : Nat) : ∀ {v : Value}, v.FloatFree → (seen spot indent v).FloatFree
  | .null, _ | .bool _, _ | .int _, _ | .text _, _ => trivial
  | .float _, h => h
  | .list _, h => floatFree_seenItems _ (show Value.FloatFreeItems _ from h)
  | .object _, h => floatFree_seenFields _ (show Value.FloatFreeFields _ from h)

theorem floatFree_seenItems (indent : Nat) : ∀ {items : List Value}, Value.FloatFreeItems items →
    Value.FloatFreeItems (seenItems indent items)
  | [], _ => trivial
  | _ :: _, h => ⟨floatFree_seen _ _ h.1, floatFree_seenItems _ h.2⟩

theorem floatFree_seenFields (indent : Nat) : ∀ {fields : List (String × Value)},
    Value.FloatFreeFields fields → Value.FloatFreeFields (seenFields indent fields)
  | [], _ => trivial
  | (_, _) :: _, h => ⟨floatFree_seen _ _ h.1, floatFree_seenFields _ h.2⟩
end

mutual
theorem intsFit_seen (digits : Nat) (spot : Spot) (indent : Nat) : ∀ v : Value,
    (seen spot indent v).IntsFit digits ↔ v.IntsFit digits
  | .null | .bool _ | .int _ | .float _ => Iff.rfl
  | .text _ => Iff.rfl
  | .list items => intsFit_seenItems digits _ items
  | .object fields => intsFit_seenFields digits _ fields

theorem intsFit_seenItems (digits : Nat) (indent : Nat) : ∀ items : List Value,
    Value.IntsFitItems digits (seenItems indent items) ↔ Value.IntsFitItems digits items
  | [] => Iff.rfl
  | v :: rest => and_congr (intsFit_seen digits _ _ v) (intsFit_seenItems digits _ rest)

theorem intsFit_seenFields (digits : Nat) (indent : Nat) : ∀ fields : List (String × Value),
    Value.IntsFitFields digits (seenFields indent fields) ↔ Value.IntsFitFields digits fields
  | [] => Iff.rfl
  | (_, v) :: rest => and_congr (intsFit_seen digits _ _ v) (intsFit_seenFields digits _ rest)
end

/-! ### Entries under one key -/

section LastEntries
variable {α : Type}

theorem setEntry_append {entries : List (Datum × α)} {key : Datum} {value : α}
    (h : ∀ e ∈ entries, e.1.sameKey key = false) : setEntry entries key value = entries ++ [(key, value)] := by
  induction entries with
  | nil => rfl
  | cons e rest ih =>
    rw [List.forall_mem_cons] at h
    rw [setEntry, h.1, ih h.2]
    rfl

/-- An entry is added behind the others, or one of them is replaced. -/
theorem setEntry_cases (entries : List (Datum × α)) (key : Datum) (value : α) :
    setEntry entries key value = entries ++ [(key, value)] ∨
      (setEntry entries key value).length = entries.length := by
  induction entries with
  | nil => exact .inl rfl
  | cons e rest ih =>
    obtain ⟨k, v⟩ := e
    rw [setEntry]
    split_ifs
    · exact .inr rfl
    · exact ih.imp (fun h => by rw [h]; rfl) fun h => by rw [List.length_cons, h, List.length_cons]

theorem lastEntries_append (entries : List (Datum × α)) (e : Datum × α) :
    lastEntries (entries ++ [e]) = setEntry (lastEntries entries) e.1 e.2 := by
  rw [lastEntries, List.foldl_append]
  rfl

theorem length_lastEntries_le (entries : List (Datum × α)) :
    (lastEntries entries).length ≤ entries.length := by
  induction entries using List.reverseRecOn with
  | nil => exact Nat.le_refl _
  | append_singleton entries e ih =>
    rw [lastEntries_append, List.length_append, List.length_singleton]
    rcases setEntry_cases (lastEntries entries) e.1 e.2 with h | h
    · rw [h, List.length_append, List.length_singleton]
      omega
    · omega

/-- If no entry is lost, all of them stay as they are. -/
theorem lastEntries_eq_self {entries : List (Datum × α)}
    (h : (lastEntries entries).length = entries.length) : lastEntries entries = entries := by
  induction entries using List.reverseRecOn with
  | nil => rfl
  | append_singleton entries e ih =>
    have hle := length_lastEntries_le entries
    rw [lastEntries_append, List.length_append, List.length_singleton] at h
    rw [lastEntries_append]
    rcases setEntry_cases (lastEntries entries) e.1 e.2 with hset | hset
    · rw [hset, List.length_append, List.length_singleton] at h
      rw [hset, ih (by omega)]
    · omega

theorem lastEntries_of_distinct {entries : List (Datum × α)}
    (h : entries.Pairwise fun e f => e.1.sameKey f.1 = false) : lastEntries entries = entries := by
  induction entries using List.reverseRecOn with
  | nil => rfl
  | append_singleton entries e ih =>
    rw [List.pairwise_append] at h
    rw [lastEntries_append, ih h.1]
    exact setEntry_append fun f hf => h.2.2 f hf e (List.mem_singleton_self e)

end LastEntries

/-! ### Garbled data -/

theorem length_dataOfFields_seen (indent : Nat) (fields : List (String × Value)) :
    (dataOfFields (seenFields indent fields)).length = (Datum.ofFields fields).length := by
  induction fields with
  | nil => rfl
  | cons e rest ih =>
    rw [seenFields, dataOfFields, Datum.ofFields, List.length_cons, List.length_cons, ih]

theorem mem_ofFields {fields : List (String × Value)} {e : Datum × Datum} (h : e ∈ Datum.ofFields fields) :
    ∃ key ∈ fields.map Prod.fst, e.1 = .text key := by
  induction fields with
  | nil => cases h
  | cons f rest ih =>
    obtain ⟨key, v⟩ := f
    rw [Datum.ofFields, List.mem_cons] at h
    rcases h with rfl | h
    · exact ⟨key, List.mem_cons_self, rfl⟩
    · obtain ⟨other, hother, he⟩ := ih h
      exact ⟨other, List.mem_cons_of_mem _ hother, he⟩

theorem distinct_ofFields {fields : List (String × Value)} (h : (fields.map Prod.fst).Nodup) :
    (Datum.ofFields fields).Pairwise fun e f => e.1.sameKey f.1 = false := by
  induction fields with
  | nil => exact .nil
  | cons f rest ih =>
    obtain ⟨key, v⟩ := f
    rw [List.map_cons, List.nodup_cons] at h
    refine .cons (fun e he => ?_) (ih h.2)
    obtain ⟨other, hother, hkey⟩ := mem_ofFields he
    rw [hkey]
    exact decide_eq_false fun heq => h.1 (heq ▸ hother)

mutual
/-- What is built of a value is the datum of that value, unless something in it is garbled. -/
theorem dataOf_seen_iff (spot : Spot) (indent : Nat) : ∀ {v : Value}, v.WellFormed →
    (dataOf (seen spot indent v) = .ofValue v ↔ ¬HoldsGarbled spot indent v)
  | .null, _ => by simp [seen, dataOf, HoldsGarbled]
  | .bool _, _ => by simp [seen, dataOf, HoldsGarbled]
  | .int _, _ => by simp [seen, dataOf, HoldsGarbled]
  | .float _, _ => by simp [seen, dataOf, HoldsGarbled]
  | .text s, _ => by
    rw [HoldsGarbled, ← seenText_eq_iff, ← ofList_eq_iff]
    simp [seen, dataOf, Datum.ofValue]
  | .list items, h => by
    rw [HoldsGarbled, seen, dataOf, Datum.ofValue, Datum.list.injEq]
    exact dataOfItems_seen_iff _ h
  | .object fields, h => by
    rw [HoldsGarbled, seen, dataOf, Datum.ofValue, Datum.table.injEq, ← dataOfFields_seen_iff _ h.2]
    refine ⟨fun heq => ?_, fun heq => ?_⟩
    · rw [← heq, lastEntries_eq_self]
      rw [heq, length_dataOfFields_seen]
    · rw [heq, lastEntries_of_distinct (distinct_ofFields h.1)]

theorem dataOfItems_seen_iff (indent : Nat) : ∀ {items : List Value}, Value.WellFormedItems items →
    (dataOfItems (seenItems indent items) = Datum.ofItems items ↔ ¬ItemsGarbled indent items)
  | [], _ => by simp [seenItems, dataOfItems, Datum.ofItems, ItemsGarbled]
  | v :: rest, h => by
    rw [seenItems, dataOfItems, Datum.ofItems, ItemsGarbled, List.cons.injEq, dataOf_seen_iff _ _ h.1,
      dataOfItems_seen_iff _ h.2, not_or]

theorem dataOfFields_seen_iff (indent : Nat) : ∀ {fields : List (String × Value)},
    Value.WellFormedFields fields →
    (dataOfFields (seenFields indent fields) = Datum.ofFields fields ↔ ¬FieldsGarbled indent fields)
  | [], _ => by simp [seenFields, dataOfFields, Datum.ofFields, FieldsGarbled]
  | (key, v) :: rest, h => by
    rw [seenFields, dataOfFields, Datum.ofFields, FieldsGarbled, List.cons.injEq, Prod.mk.injEq,
      Datum.text.injEq, seenKey_eq_iff, dataOf_seen_iff _ _ h.1, dataOfFields_seen_iff _ h.2, not_or, not_or,
      and_assoc]
end

/-! ### Values with nothing to stumble over -/

theorem not_garbled {fold : Bool} {indent : Nat} {cs : List Char} (hmark : '\u0085' ∉ cs)
    (hroom : indent < width) : ¬Garbled fold indent cs := by
  unfold Garbled
  split
  · exact id
  · exact hmark
  · exact fun h => Nat.not_le.mpr hroom h.2.1

theorem length_escaped_le (ch : Char) : (escaped ch).length ≤ 10 := by
  unfold escaped Yaml.escape
  split
  · exact Nat.le_of_ble_eq_true rfl
  · split
    · exact Nat.le_of_ble_eq_true rfl
    · dsimp only
      split_ifs <;> simp [Token.length_hex]

theorem length_flatMap_le {α β : Type} {f : α → List β} {bound : Nat} (h : ∀ a, (f a).length ≤ bound)
    (l : List α) : (l.flatMap f).length ≤ bound * l.length := by
  induction l with
  | nil => exact Nat.le_refl _
  | cons a l ih =>
    have ha := h a
    rw [List.flatMap_cons, List.length_append, List.length_cons, Nat.mul_succ]
    omega

/-- Every key of so few characters is known for a key, whatever the characters are. -/
theorem keyFits_of_length {key : String} (h : key.toList.length ≤ 102) : KeyFits key := by
  intro hshort
  rw [textChars_unfolded (not_isBreak_of_isShortKey hshort)]
  have hescaped := length_flatMap_le length_escaped_le key.toList
  have hdoubled : (key.toList.flatMap doubleQuote).length ≤ 2 * key.toList.length :=
    length_flatMap_le (fun c => by unfold doubleQuote; split <;> simp) _
  have hlimit : Token.keyLimit = 1024 := rfl
  split
  · omega
  · rw [List.cons_append, List.length_cons, List.length_append, List.length_singleton]
    omega
  · rw [List.cons_append, List.length_cons, List.length_append, List.length_singleton]
    omega

mutual
/-- Without a next line mark, and where lines begin before the last column, nothing is garbled. -/
theorem not_holdsGarbled {spot : Spot} {indent : Nat} : ∀ {v : Value},
    (∀ s, .text s ∈ parts v → '\u0085' ∉ s.toList) → indent + 2 * v.depth + 2 < width →
    ¬HoldsGarbled spot indent v
  | .null, _, _ | .bool _, _, _ | .int _, _, _ | .float _, _, _ => id
  | .text s, hmarks, hroom => not_garbled (hmarks s (List.mem_singleton_self _)) (by omega)
  | .list items, hmarks, hroom => by
    have hinner : spot.listIndent indent ≤ indent + 2 := by cases spot <;> simp [Spot.listIndent]
    rw [Value.depth] at hroom
    exact not_itemsGarbled (fun s hs => hmarks s (List.mem_cons_of_mem _ hs)) (by omega)
  | .object fields, hmarks, hroom => by
    have hinner : spot.tableIndent indent ≤ indent + 2 := by unfold Spot.tableIndent; split <;> omega
    rw [Value.depth] at hroom
    exact not_fieldsGarbled (fun s hs => hmarks s (List.mem_cons_of_mem _ hs)) (by omega)

theorem not_itemsGarbled {indent : Nat} : ∀ {items : List Value},
    (∀ s, .text s ∈ partsOfItems items → '\u0085' ∉ s.toList) →
    indent + 2 * Value.depthOfItems items + 2 < width → ¬ItemsGarbled indent items
  | [], _, _ => id
  | v :: rest, hmarks, hroom => by
    rw [Value.depthOfItems] at hroom
    rw [ItemsGarbled, not_or]
    exact ⟨not_holdsGarbled (fun s hs => hmarks s (List.mem_append_left _ hs)) (by omega),
      not_itemsGarbled (fun s hs => hmarks s (List.mem_append_right _ hs)) (by omega)⟩

theorem not_fieldsGarbled {indent : Nat} : ∀ {fields : List (String × Value)},
    (∀ s, .text s ∈ partsOfFields fields → '\u0085' ∉ s.toList) →
    indent + 2 * Value.depthOfFields fields + 2 < width → ¬FieldsGarbled indent fields
  | [], _, _ => id
  | (key, v) :: rest, hmarks, hroom => by
    rw [Value.depthOfFields] at hroom
    rw [FieldsGarbled, not_or, not_or]
    exact ⟨not_garbled (hmarks key (by simp [partsOfFields])) (by omega),
      not_holdsGarbled (fun s hs => hmarks s (by simp [partsOfFields, hs])) (by omega),
      not_fieldsGarbled (fun s hs => hmarks s (by simp [partsOfFields, hs])) (by omega)⟩
end

/-! ### Documents -/

/-- What the reader takes: nothing in it is too deep or too long. -/
structure Takes [Stack] (v : Value) : Prop where
  within : v.Within .readYaml
  keys : KeysFit v

/-- The nodes are built, and make the content of the text. -/
theorem ofText_of_nodes [Stack] {cs : List Char} {ns : List Node} (h : Node.ofText cs = .ok (some 0, ns.toArray)) :
    Content.ofText cs =
      ((Build.constructAll 0).run (Build.start ns.toArray)).map fun r => ⟨r.2.store, r.1⟩ := by
  rw [Content.ofText, h]
  change ((Build.constructAll 0).run (Build.start ns.toArray) >>= fun r =>
    Except.ok (Content.mk r.2.store r.1)) = _
  cases (Build.constructAll 0).run (Build.start ns.toArray) <;> rfl

/-- What is read of a document: the data of what is seen of it. -/
theorem ofText_file [Stack] {fields : Table Value} (hf : (Value.object fields).FloatFree) :
    (Takes (.object fields) → ∃ c entries, Content.ofText (file (.object fields)).toList = .ok c ∧
      c.store.entries? c.root = some entries ∧
      entries.map (Prod.map id c.store.view) = lastEntries (dataOfFields (seenFields 0 fields))) ∧
    (¬Takes (.object fields) → ∃ e, Content.ofText (file (.object fields)).toList = .error e) := by
  have hseen : (Value.object (seenFields 0 fields)).FloatFree := floatFree_seenFields 0 hf
  have hbuilt := Build.built_document hseen
  have hdigits : (Value.object (seenFields 0 fields)).IntsFit Text.digitLimit ↔
      (Value.object fields).IntsFit Text.digitLimit := intsFit_seenFields _ 0 fields
  rw [hdigits] at hbuilt
  by_cases hkeys : KeysFitFields fields
  · have hnodes := Node.ofText_file hf hkeys
    by_cases hdepth : (Value.object fields).depth ≤ Stack.levels .readYaml
    · rw [if_pos hdepth] at hnodes
      have hcontent := ofText_of_nodes hnodes
      refine ⟨fun htakes => ?_, fun htakes => ?_⟩
      · obtain ⟨item, b, entries, hrun, hentries, hshown⟩ := hbuilt.1 htakes.within.digits
        refine ⟨⟨b.store, item⟩, entries, ?_, hentries, hshown⟩
        rw [hcontent]
        exact congrArg _ hrun
      · obtain ⟨e, he⟩ := hbuilt.2 fun hfits => htakes ⟨⟨hdepth, hfits⟩, hkeys⟩
        refine ⟨e, ?_⟩
        rw [hcontent]
        exact congrArg _ he
    · rw [if_neg hdepth] at hnodes
      refine ⟨fun htakes => absurd htakes.within.depth hdepth, fun _ => ⟨.endless, ?_⟩⟩
      rw [Content.ofText, hnodes]
      rfl
  · obtain ⟨e, he⟩ := Node.ofText_file_long hf hkeys
    refine ⟨fun htakes => absurd htakes.keys hkeys, fun _ => ⟨e, ?_⟩⟩
    rw [Content.ofText, he]
    rfl

end ServiceAtlas.Yaml

namespace ServiceAtlas

namespace Mapping

/-- The entries of a table in order, each with its value. -/
def data (m : Mapping) : List (Yaml.Datum × Yaml.Datum) := m.entries.map (Prod.map id m.datum)

theorem data_ofFields (fields : Table Value) : (ofFields fields).data = Yaml.Datum.ofFields fields := by
  rw [data, ofFields, List.map_map]
  exact List.map_id' _

end Mapping

namespace Document
open Yaml (Takes HoldsGarbled)

section
variable [Stack]

theorem read_yaml {fields : Table Value} (hf : (Value.object fields).FloatFree) (origin : String) :
    (Takes (.object fields) → ∃ m,
      Mapping.read .yaml origin (Yaml.file (.object fields)).toList = .ok m ∧
        m.data = Yaml.lastEntries (Yaml.dataOfFields (Yaml.seenFields 0 fields))) ∧
    (¬Takes (.object fields) →
      ∃ e, Mapping.read .yaml origin (Yaml.file (.object fields)).toList = .error e) := by
  have hread : Mapping.read .yaml origin (Yaml.file (.object fields)).toList =
      Mapping.readYaml origin none (Yaml.file (.object fields)).toList := rfl
  rw [hread, Mapping.readYaml]
  refine ⟨fun htakes => ?_, fun htakes => ?_⟩
  · obtain ⟨c, entries, hc, hentries, hdata⟩ := (Yaml.ofText_file hf).1 htakes
    rw [hc]
    simp only [hentries]
    exact ⟨_, rfl, hdata⟩
  · obtain ⟨e, he⟩ := (Yaml.ofText_file hf).2 htakes
    rw [he]
    exact ⟨_, rfl⟩

theorem read_json {fields : Table Value} (hw : (Value.object fields).WellFormed)
    (hf : (Value.object fields).FloatFree) (origin : String) :
    (Json.Takes (.object fields) →
      Mapping.read .json origin (Json.file (.object fields)).toList =
        .ok (Mapping.ofFields fields)) ∧
    (¬Json.Takes (.object fields) →
      ∃ e, Mapping.read .json origin (Json.file (.object fields)).toList = .error e) := by
  rw [Mapping.read, if_neg (by decide)]
  refine ⟨fun htakes => ?_, fun htakes => ?_⟩
  · rw [(Json.readChars_file hw hf).1 htakes]
  · obtain ⟨e, he, hexcess⟩ := (Json.readChars_file hw hf).2 htakes
    rw [he]
    simp only [hexcess, if_true]
    exact ⟨_, rfl⟩

/-- A document has a text in a format, and the text is read as this table. -/
def ReadsAs (format : Format) (hint : FormatHint) (v : Value) (origin : String) (m : Mapping) : Prop :=
  ∃ text, format.render v = .ok text ∧ Mapping.read hint origin text.toList = .ok m

/-- Both texts of a document are read, and as the same table. -/
def FormatsAgree (fields : Table Value) (origin : String) : Prop :=
  ∃ m n, ReadsAs .json .json (.object fields) origin m ∧
    ReadsAs .yaml .yaml (.object fields) origin n ∧ n.data = m.data

/-- A document that can be written and read in both formats. -/
structure Fits (v : Value) : Prop where
  json : v.Within .writeJson ∧ Json.Takes v
  yaml : v.Within .writeYaml ∧ Takes v

/-- What there is room for everywhere, and has keys that are short enough. -/
theorem fits_of_within {v : Value} (h : ∀ d, v.Within d) (hkeys : Yaml.KeysFit v) : Fits v :=
  ⟨⟨h _, h _⟩, h _, h _, hkeys⟩

theorem readsAs_yaml_iff {fields : Table Value} (hf : (Value.object fields).FloatFree)
    (origin : String) :
    (∃ n, ReadsAs .yaml .yaml (.object fields) origin n) ↔
      (Value.object fields).Within .writeYaml ∧ Takes (.object fields) := by
  constructor
  · rintro ⟨n, text, htext, hn⟩
    obtain ⟨hwithin, rfl⟩ := Value.written_ok_iff.mp htext
    refine ⟨hwithin, ?_⟩
    by_contra htakes
    obtain ⟨e, he⟩ := (read_yaml hf origin).2 htakes
    cases he.symm.trans hn
  · rintro ⟨hwithin, htakes⟩
    obtain ⟨n, hn, _⟩ := (read_yaml hf origin).1 htakes
    exact ⟨n, _, Value.written_of_within hwithin, hn⟩

theorem readsAs_json_iff {fields : Table Value} (hw : (Value.object fields).WellFormed)
    (hf : (Value.object fields).FloatFree) (origin : String) {m : Mapping} :
    ReadsAs .json .json (.object fields) origin m ↔
      ((Value.object fields).Within .writeJson ∧ Json.Takes (.object fields)) ∧
        m = Mapping.ofFields fields := by
  constructor
  · rintro ⟨text, htext, hm⟩
    obtain ⟨hwithin, rfl⟩ := Value.written_ok_iff.mp htext
    by_cases htakes : Json.Takes (.object fields)
    · exact ⟨⟨hwithin, htakes⟩,
        (Except.ok.inj (((read_json hw hf origin).1 htakes).symm.trans hm)).symm⟩
    · obtain ⟨e, he⟩ := (read_json hw hf origin).2 htakes
      cases he.symm.trans hm
  · rintro ⟨⟨hwithin, htakes⟩, rfl⟩
    exact ⟨_, Value.written_of_within hwithin, (read_json hw hf origin).1 htakes⟩

theorem formatsAgree_iff_clear {fields : Table Value} (hw : (Value.object fields).WellFormed)
    (hf : (Value.object fields).FloatFree) (hfits : Fits (.object fields)) (origin : String) :
    FormatsAgree fields origin ↔ ¬HoldsGarbled .root 0 (.object fields) := by
  obtain ⟨n, hn, hdata⟩ := (read_yaml hf origin).1 hfits.yaml.2
  have hm := (readsAs_json_iff hw hf origin).mpr ⟨hfits.json, rfl⟩
  have hwritten : Format.yaml.render (.object fields) = .ok (Yaml.file (.object fields)) :=
    Value.written_of_within hfits.yaml.1
  have hgarbled := Yaml.dataOf_seen_iff .root 0 hw
  rw [Yaml.seen, Yaml.dataOf, Yaml.Datum.ofValue, Yaml.Datum.table.injEq] at hgarbled
  rw [← hgarbled, ← Mapping.data_ofFields, show Yaml.seenFields (Yaml.Spot.root.tableIndent 0) fields =
    Yaml.seenFields 0 fields from rfl, ← hdata]
  refine ⟨?_, fun hsame => ⟨_, n, hm, ⟨_, hwritten, hn⟩, hsame⟩⟩
  rintro ⟨m', n', hm', ⟨text, htext, hn'⟩, hsame⟩
  obtain rfl := Except.ok.inj (hwritten.symm.trans htext)
  obtain rfl := Except.ok.inj (hn.symm.trans hn')
  rwa [((readsAs_json_iff hw hf origin).mp hm').2] at hsame

/-- The YAML text of a document is read as the same table as its JSON text exactly if the document fits
both formats and no text in it is garbled. A document that can be written is read if the reader takes
it, garbled or not. -/
theorem formats_agree_iff {fields : Table Value} (hw : (Value.object fields).WellFormed)
    (hf : (Value.object fields).FloatFree) (origin : String) :
    (FormatsAgree fields origin ↔ Fits (.object fields) ∧ ¬HoldsGarbled .root 0 (.object fields)) ∧
      ((∃ n, ReadsAs .yaml .yaml (.object fields) origin n) ↔
        (Value.object fields).Within .writeYaml ∧ Takes (.object fields)) := by
  have hyaml := readsAs_yaml_iff hf origin
  refine ⟨⟨fun hagree => ?_, fun ⟨hfits, hclear⟩ => ?_⟩, hyaml⟩
  · obtain ⟨m, n, hm, hn, _⟩ := id hagree
    have hfits : Fits (.object fields) :=
      ⟨((readsAs_json_iff hw hf origin).mp hm).1, hyaml.mp ⟨n, hn⟩⟩
    exact ⟨hfits, (formatsAgree_iff_clear hw hf hfits origin).mp hagree⟩
  · exact (formatsAgree_iff_clear hw hf hfits origin).mpr hclear

/-- Where lines begin before the last column, only next line marks are in the way. -/
theorem formatsAgree_of_shallow {fields : Table Value} (hw : (Value.object fields).WellFormed)
    (hf : (Value.object fields).FloatFree) (hfits : Fits (.object fields))
    (hdepth : (Value.object fields).depth ≤ 38)
    (hmarks : ∀ s, .text s ∈ Yaml.parts (.object fields) → '\u0085' ∉ s.toList) (origin : String) :
    FormatsAgree fields origin :=
  (formatsAgree_iff_clear hw hf hfits origin).mpr
    (Yaml.not_holdsGarbled hmarks (by rw [show Yaml.width = 80 from rfl]; omega))

end

/-- A document whose texts look like everything but text. -/
def lookalikes : Table Value :=
  [("yes", .text "no"), ("1.5", .list [.text "~", .text "2020-01-01", .text " a\n\n b ", .int (-12), .null]),
    ("", .text "a: b #c"), ("- x\ty", .object [("'", .text "\""), ("=", .list []), ("<<", .object [])])]

open Stack.Usual in
theorem lookalikes_agree : (Value.object lookalikes).WellFormed ∧ (Value.object lookalikes).FloatFree ∧
    FormatsAgree lookalikes "o.yaml" := by
  have hw : (Value.object lookalikes).WellFormed := by
    simp [lookalikes, Value.WellFormed, Value.WellFormedFields, Value.WellFormedItems, Table.Distinct,
      Table.keys]
  have hf : (Value.object lookalikes).FloatFree := by
    simp [lookalikes, Value.FloatFree, Value.FloatFreeFields, Value.FloatFreeItems]
  have hlength : (Text.natChars 12).length ≤ 1 + 1 := (Text.length_natChars_le_iff 12 1).mpr (by decide)
  have hwithin : ∀ d, (Value.object lookalikes).Within d := by
    refine fun d => ⟨Nat.le_trans (by decide) (Stack.ample d), ?_⟩
    simpa [lookalikes, Value.IntsFit, Value.IntsFitFields, Value.IntsFitItems] using
      Nat.le_trans hlength (by decide)
  have hkeys : Yaml.KeysFit (.object lookalikes) := by
    simp [lookalikes, Yaml.KeysFit, Yaml.KeysFitFields, Yaml.KeysFitItems, Yaml.keyFits_of_length]
  have hclear : ¬HoldsGarbled .root 0 (.object lookalikes) := by
    refine Yaml.not_holdsGarbled (fun s hs => ?_) (by decide)
    have hall : ∀ w ∈ Yaml.parts (.object lookalikes), ∀ s, w = .text s → '\u0085' ∉ s.toList := by
      simp [lookalikes, Yaml.parts, Yaml.partsOfFields, Yaml.partsOfItems]
    exact hall _ hs s rfl
  exact ⟨hw, hf, (formats_agree_iff hw hf "o.yaml").1.mpr ⟨fits_of_within hwithin hkeys, hclear⟩⟩

/-- The document of a service whose name holds a next line mark. -/
def nextLine : Table Value :=
  [("openapi", .text "3.0.0"),
    ("info", .object [("title", .text "a\u0085b API"), ("version", .text "0.0.0"),
      ("description", .text "Generated from /help")]),
    ("paths", .object []),
    ("components", .object
      [("securitySchemes", .object [("basicAuth", .object [("type", .text "http"), ("scheme", .text "basic")])]),
        ("responses", .object
          [("UnauthorizedError", .object [("description", .text "Missing authentication credentials")])]),
        ("schemas", .object [("AnyType", .object [("nullable", .bool true), ("anyOf", .list
          [.object [("type", .text "object")], .object [("type", .text "string")],
            .object [("type", .text "number")], .object [("type", .text "boolean")],
            .object [("type", .text "integer")],
            .object [("type", .text "array"), ("items", .object [])]])])])]),
    ("security", .list [.object [("basicAuth", .list [])]])]

open Stack.Usual in
/-- That document is made, written and read in both formats, but not as the same. -/
theorem next_line_lost :
    (∃ g, (Generation.generate { appInfo := [("name", .text "a\u0085b")] } {} [] none).result = .ok g ∧
      g.document.toValue = .object nextLine) ∧
    (Value.object nextLine).WellFormed ∧ (Value.object nextLine).FloatFree ∧
    ∃ m n, ReadsAs .json .json (.object nextLine) "o" m ∧
      ReadsAs .yaml .yaml (.object nextLine) "o" n ∧ n.data ≠ m.data := by
  have hw : (Value.object nextLine).WellFormed := by
    simp [nextLine, Value.WellFormed, Value.WellFormedFields, Value.WellFormedItems, Table.Distinct,
      Table.keys]
  have hf : (Value.object nextLine).FloatFree := by
    simp [nextLine, Value.FloatFree, Value.FloatFreeFields, Value.FloatFreeItems]
  have hwithin : ∀ d, (Value.object nextLine).Within d := by
    refine fun d => ⟨Nat.le_trans (by decide) (Stack.ample d), ?_⟩
    simp [nextLine, Value.IntsFit, Value.IntsFitFields, Value.IntsFitItems]
  have hfits : Fits (.object nextLine) := by
    refine fits_of_within hwithin ?_
    simp [nextLine, Yaml.KeysFit, Yaml.KeysFitFields, Yaml.KeysFitItems, Yaml.keyFits_of_length]
  have htitle : Yaml.Garbled true 4 "a\u0085b API".toList := by
    rw [Yaml.Garbled, show Yaml.TextStyle.of "a\u0085b API".toList = .single by decide +kernel]
    decide
  have hgarbled : HoldsGarbled .root 0 (.object nextLine) := .inr (.inr (.inr (.inl (.inr (.inl htitle)))))
  have hm := (readsAs_json_iff hw hf "o").mpr ⟨hfits.json, rfl⟩
  obtain ⟨n, hn⟩ := (readsAs_yaml_iff hf "o").mpr hfits.yaml
  refine ⟨⟨_, rfl, rfl⟩, hw, hf, _, n, hm, hn, fun hsame => ?_⟩
  exact (formatsAgree_iff_clear hw hf hfits "o").mp ⟨_, n, hm, hn, hsame⟩ hgarbled

end Document
end ServiceAtlas
