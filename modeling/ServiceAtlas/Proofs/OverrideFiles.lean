import ServiceAtlas.Proofs.BadFiles
import ServiceAtlas.Proofs.Precedence
import ServiceAtlas.Proofs.ReaderLimits
import ServiceAtlas.Proofs.SavedPayloads

/-!
Files of names in JSON. The names stand there by themselves, or in an object under their key with
anything else beside it. Either way exactly these names are loaded; an object with a value that is no
name is refused. The names of the settings go before those of the file.
-/

namespace ServiceAtlas
open Program

/-! ### Numbers that can be shown -/

namespace Yaml.Datum

mutual
/-- What the JSON reader takes can be shown as well. -/
theorem isOversized_ofValue :
    ∀ v : Value, v.IntsFit Text.digitLimit → (ofValue v).isOversized = false
  | .null, _ | .bool _, _ | .float _, _ | .text _, _ => rfl
  | .int n, h => by
    have hlt : n.natAbs < 10 ^ Text.digitLimit := Value.intsFit_int_iff.mp h
    change decide (10 ^ Text.digitLimit ≤ n.natAbs) = false
    exact decide_eq_false (Nat.not_le.mpr hlt)
  | .list items, h => anyOversized_ofItems items h
  | .object fields, h => anyEntryOversized_ofFields fields h

theorem anyOversized_ofItems :
    ∀ items, Value.IntsFitItems Text.digitLimit items → anyOversized (ofItems items) = false
  | [], _ => rfl
  | v :: rest, h => by
    rw [ofItems, anyOversized, isOversized_ofValue v h.1, anyOversized_ofItems rest h.2]
    rfl

theorem anyEntryOversized_ofFields :
    ∀ fields, Value.IntsFitFields Text.digitLimit fields →
      anyEntryOversized (ofFields fields) = false
  | [], _ => rfl
  | (_, v) :: rest, h => by
    rw [ofFields, anyEntryOversized, isOversized_ofValue v h.1,
      anyEntryOversized_ofFields rest h.2]
    rfl
end

end Yaml.Datum

namespace Overrides
variable {w : World} {path : String} {p : Path} {cs : List Char} {fields : Table Value}

/-! ### Objects as tables -/

/-- Names as they stand in a file. -/
def ofNames (names : Table String) : Table Value := names.map fun e => (e.1, .text e.2)

theorem find?_ofNames (names : Table String) (name : String) :
    Table.find? (ofNames names) name = (Table.find? names name).map .text :=
  Table.find?_map names Value.text name

theorem distinct_ofNames {names : Table String} (h : Table.Distinct names) :
    Table.Distinct (ofNames names) := by
  rwa [Table.Distinct, ofNames, Table.keys_map names Value.text]

/-- The table that counts: the object under the key if there is one, else the whole. -/
def selected (fields : Table Value) : Table Value :=
  match Table.find? fields tableKey with
  | some (.object inner) => inner
  | _ => fields

/-- Under the key of a flat table there is no object, only a name. -/
theorem selected_ofNames (names : Table String) : selected (ofNames names) = ofNames names := by
  unfold selected
  rw [find?_ofNames]
  cases Table.find? names tableKey <;> rfl

theorem selected_of_under {inner : Table Value}
    (h : Table.find? fields tableKey = some (.object inner)) : selected fields = inner := by
  rw [selected, h]

theorem find?_ofFields (fields : Table Value) (key : String) :
    find? (.ofFields fields) key =
      (Table.find? fields key).map fun v => .plain (.ofValue v) := by
  induction fields with
  | nil => rfl
  | cons e rest ih =>
    obtain ⟨k, v⟩ := e
    by_cases hk : k = key
    · simp [find?, Mapping.ofFields, Yaml.Datum.ofFields, Table.find?, hk]
    · simpa [find?, Mapping.ofFields, Yaml.Datum.ofFields, Table.find?, hk] using ih

theorem inside?_ofFields (fields : Table Value) (v : Value) :
    (Mapping.ofFields fields).inside? (.plain (.ofValue v)) =
      match v with
      | .object inner => some (.ofFields inner)
      | _ => none := by
  cases v <;> rfl

theorem innermost_ofFields (fields : Table Value) :
    innermost (.ofFields fields) = .ofFields (selected fields) := by
  unfold innermost selected
  rw [find?_ofFields]
  cases Table.find? fields tableKey with
  | none => rfl
  | some v =>
    rw [Option.map_some, Option.bind_some, inside?_ofFields]
    cases v <;> rfl

/-- Unless the file is known to hold YAML, an object in it is seen as the table that counts. -/
theorem ofText_of_object [Stack] (hhint : hintOf p ≠ .yaml) (h : Json.readChars cs = .ok (.object fields)) :
    ofText p cs = ofMapping p.text (.ofFields (selected fields)) := by
  rw [← innermost_ofFields]
  unfold ofText Mapping.read
  rw [if_neg hhint, h]
  rfl

/-- A JSON text that asks for too much is refused as a whole. -/
theorem ofText_of_excess [Stack] {e : Json.Error} (hhint : hintOf p ≠ .yaml)
    (h : Json.readChars cs = .error e) (hexcess : e.cause.isExcess = true) :
    ofText p cs = .error (.ofJson (.invalidJson p.text) e) := by
  unfold ofText Mapping.read
  rw [if_neg hhint, h]
  simp only [hexcess, if_true]
  rfl

/-! ### Names and other values -/

theorem ofMapping_ofFields_cons_text (path key s : String) (rest : Table Value) :
    ofMapping path (.ofFields ((key, .text s) :: rest)) = do
      return (key, .text s) :: (← ofMapping path (.ofFields rest)) :=
  List.mapM_cons

theorem ofMapping_ofFields_cons_other (path key : String) {v : Value} (rest : Table Value)
    (hv : ∀ s, v ≠ .text s) :
    ofMapping path (.ofFields ((key, v) :: rest)) =
      .error (refusal path (.text key) (.ofValue v)) := by
  simp only [ofMapping, Mapping.ofFields, Yaml.Datum.ofFields, List.map_cons, List.mapM_cons]
  cases v with
  | text s => exact absurd rfl (hv s)
  | _ => rfl

/-- Names are taken as they are. -/
theorem ofMapping_ofNames (path : String) (names : Table String) :
    ofMapping path (.ofFields (ofNames names)) = .ok (ofNames names) := by
  induction names with
  | nil => rfl
  | cons e rest ih =>
    refine (ofMapping_ofFields_cons_text path e.1 e.2 (ofNames rest)).trans ?_
    rw [ih]
    rfl

/-- The first value that is no name is refused. -/
theorem ofMapping_of_other (path : String) (h : ∃ e ∈ fields, ∀ s, e.2 ≠ .text s) :
    ∃ e ∈ fields, ofMapping path (.ofFields fields) =
      .error (refusal path (.text e.1) (.ofValue e.2)) := by
  induction fields with
  | nil => simp at h
  | cons first rest ih =>
    obtain ⟨key, v⟩ := first
    by_cases hv : ∀ s, v ≠ .text s
    · exact ⟨(key, v), List.mem_cons_self, ofMapping_ofFields_cons_other path key rest hv⟩
    · obtain ⟨s, rfl⟩ := not_forall_not.mp hv
      obtain ⟨e, he, hother⟩ := h
      have hrest : e ∈ rest := (List.mem_cons.mp he).resolve_left fun hfirst =>
        hother s (congrArg Prod.snd hfirst)
      obtain ⟨e', he', hrefused⟩ := ih ⟨e, hrest, hother⟩
      refine ⟨e', List.mem_cons_of_mem _ he', ?_⟩
      rw [ofMapping_ofFields_cons_text, hrefused]
      rfl

theorem intsFitFields_selected (h : Value.IntsFitFields Text.digitLimit fields) :
    Value.IntsFitFields Text.digitLimit (selected fields) := by
  unfold selected
  split
  · rename_i inner hinner
    exact Value.intsFitFields_iff.mp h _ (Table.mem_of_find? hinner)
  · exact h

/-- The refusal can always be shown: the reader has taken no number that is too long. -/
theorem ofText_refused [Stack] (hhint : hintOf p ≠ .yaml) (h : Json.readChars cs = .ok (.object fields))
    (hother : ∃ e ∈ selected fields, ∀ s, e.2 ≠ .text s) :
    ∃ e, ofText p cs = .error e ∧ e.family? = some .config := by
  obtain ⟨e, he, hrefused⟩ := ofMapping_of_other p.text hother
  refine ⟨_, (ofText_of_object hhint h).trans hrefused, documented_refusal_iff.mpr ?_⟩
  have hfits : e.2.IntsFit Text.digitLimit :=
    Value.intsFitFields_iff.mp (intsFitFields_selected (Json.intsFit_readChars h)) e he
  rw [Yaml.Datum.isOversized_ofValue e.2 hfits]
  exact Bool.false_ne_true

/-! ### Files -/

/-- The path leads to a file with the text. -/
structure Reaches (w : World) (path : String) (p : Path) (cs : List Char) : Prop where
  expand : ((Directories.expand (Path.ofText path)).run w).result = .ok p
  found : ((Directories.expand (Path.ofText path)).run w).world.found p = .file (.text cs)

theorem Reaches.result_load [Stack] (h : Reaches w path p cs) :
    ((load path).run w).result = ofText p cs := by
  rw [load, result_bind_of_ok h.expand]
  refine (Files.result_look rfl _).trans ?_
  rw [h.found]
  simp only [run_ofExcept]

theorem result_effective [Stack] {g : Generator} {file : Overrides} (hfile : g.overridesFile = some path)
    (hpath : path ≠ "") (h : ((load path).run w).result = .ok file) :
    ((effective g).run w).result = .ok (combine file g.overrides) := by
  unfold effective
  rw [hfile]
  split
  · rename_i hnone
    cases hnone
  · rename_i hempty
    exact absurd (Option.some.inj hempty) hpath
  · rename_i hsome
    cases hsome
    exact result_bind_of_ok h

theorem find?_combine {own : Table String} (hd : Table.Distinct own) (names : Table String)
    (name : String) :
    Table.find? (combine (ofNames names) own) name =
      ((Table.find? own name).or (Table.find? names name)).map .text := by
  refine (Table.find?_overwrite (distinct_ofNames hd)).trans ?_
  rw [find?_ofNames own, find?_ofNames names]
  cases Table.find? own name <;> rfl

theorem distinct_selected (h : (Value.object fields).WellFormed) :
    Table.Distinct (selected fields) := by
  unfold selected
  split
  · rename_i inner hinner
    exact (Value.wellFormedFields_iff.mp h.2 _ (Table.mem_of_find? hinner)).1
  · exact h.1

theorem readable_ofNames {names : Table String} (hd : Table.Distinct names) :
    Json.Readable 1 (.object (ofNames names)) := by
  refine .object (distinct_ofNames hd) fun e he => ?_
  obtain ⟨name, _, rfl⟩ := List.mem_map.mp he
  exact .text _

/-- Names that stand in a JSON file by themselves or under their key are loaded as they are, and what
applies to a run is the names of the settings and, where these have none, those of the file. An object
with another value among its names is refused. The text that is written of an object is read as this
object if the reader's limits allow it, as they always do for names alone; otherwise nothing of it is
loaded. -/
theorem names_loaded [Stack] (h : Reaches w path p cs) (hhint : hintOf p ≠ .yaml) :
    (∀ names fields, Json.readChars cs = .ok (.object fields) →
      fields = ofNames names ∨ Table.find? fields tableKey = some (.object (ofNames names)) →
      ((load path).run w).result = .ok (ofNames names) ∧
        ∀ g : Generator, g.overridesFile = some path → path ≠ "" → Table.Distinct g.overrides →
          ∃ table, ((effective g).run w).result = .ok table ∧ Table.Distinct table ∧
            ∀ name, Table.find? table name =
              ((Table.find? g.overrides name).or (Table.find? names name)).map .text) ∧
    (∀ fields, Json.readChars cs = .ok (.object fields) →
      (∃ e ∈ selected fields, ∀ s, e.2 ≠ .text s) →
      ∃ e, ((load path).run w).result = .error e ∧ e.family? = some .config) ∧
    (∀ fields, (Value.object fields).WellFormed → (Value.object fields).FloatFree →
      cs = (Json.file (.object fields)).toList →
      (Json.readChars cs = .ok (.object fields) ↔ Json.Takes (.object fields)) ∧
        (¬Json.Takes (.object fields) → ∃ e, ((load path).run w).result = .error e)) ∧
    ∀ names, Table.Distinct names → cs = (Json.file (.object (ofNames names))).toList →
      Json.readChars cs = .ok (.object (ofNames names)) := by
  refine ⟨fun names fields hread hnames => ?_, fun fields hread hother => ?_, ?_, ?_⟩
  · have hselected : selected fields = ofNames names := by
      rcases hnames with rfl | hunder
      · exact selected_ofNames names
      · exact selected_of_under hunder
    have hloaded : ((load path).run w).result = .ok (ofNames names) := by
      rw [h.result_load, ofText_of_object hhint hread, hselected, ofMapping_ofNames]
    have hdistinct : Table.Distinct (ofNames names) :=
      hselected ▸ distinct_selected (Json.wellFormed_readChars hread)
    refine ⟨hloaded, fun g hfile hpath hd => ?_⟩
    exact ⟨_, result_effective hfile hpath hloaded, Table.distinct_overwrite hdistinct,
      find?_combine hd names⟩
  · rw [h.result_load]
    exact ofText_refused hhint hread hother
  · rintro fields hw hf rfl
    refine ⟨Json.readChars_file_iff hw hf, fun htakes => ?_⟩
    obtain ⟨e, he, hexcess⟩ := (Json.readChars_file hw hf).2 htakes
    rw [h.result_load, ofText_of_excess hhint he hexcess]
    exact ⟨_, rfl⟩
  · rintro names hd rfl
    exact (readable_ofNames hd).readChars_file (Nat.le_trans (by decide) (Stack.ample .readJson))

/-- A machine with the text in a file of names. -/
def withNames (cs : List Char) : World :=
  Settings.machine [] [(["work", "o.json"], .file (Text.encode cs))]

theorem reaches_withNames {cs : List Char} (hline : '\r' ∉ cs) :
    Reaches (withNames cs) "o.json" ⟨"", ["o.json"]⟩ cs := by
  have hexpand : (Directories.expand (Path.ofText "o.json")).run (withNames cs) =
      ⟨.ok ⟨"", ["o.json"]⟩, [], withNames cs⟩ := rfl
  have hthere : (withNames cs).isFile ⟨"", ["o.json"]⟩ = .ok true := rfl
  have hbytes : ((withNames cs).handle (.readFile ⟨"", ["o.json"]⟩)).1 = .ok (Text.encode cs) := rfl
  refine ⟨congrArg Run.result hexpand, ?_⟩
  rw [hexpand]
  unfold World.found
  rw [if_neg (by decide +kernel), hthere]
  dsimp only
  rw [hbytes]
  dsimp only
  rw [Text.decode_encode]
  exact congrArg (fun lines => Found.file (.text lines)) (Text.unifyLines_eq hline)

/-- Two names, one of them the key itself, under this key and beside a number. -/
def keyAsName : Table Value :=
  [("version", .int 1), (tableKey, .object (ofNames [(tableKey, "A"), ("B", "C")]))]

theorem readable_keyAsName : Json.Readable 2 (.object keyAsName) := by
  refine .object (show List.Nodup _ by decide) ?_
  simp only [keyAsName, List.forall_mem_cons, List.not_mem_nil, false_implies, implies_true,
    and_true]
  exact ⟨.int (Text.inLimit_of_lt (by decide)), readable_ofNames (show List.Nodup _ by decide)⟩

open Stack.Usual in
/-- The file gives exactly its two names; of one of them the settings know better. -/
theorem names_loaded_under_key :
    Reaches (withNames (Json.file (.object keyAsName)).toList) "o.json" ⟨"", ["o.json"]⟩
        (Json.file (.object keyAsName)).toList ∧
      hintOf ⟨"", ["o.json"]⟩ ≠ .yaml ∧
      ((load "o.json").run (withNames (Json.file (.object keyAsName)).toList)).result =
        .ok (ofNames [(tableKey, "A"), ("B", "C")]) ∧
      ∃ table,
        ((effective { overridesFile := some "o.json", overrides := [("B", "D")] }).run
          (withNames (Json.file (.object keyAsName)).toList)).result = .ok table ∧
        Table.find? table tableKey = some (.text "A") ∧ Table.find? table "B" = some (.text "D") ∧
        Table.find? table "version" = none := by
  have hreaches := reaches_withNames (Json.no_return_file readable_keyAsName.floatFree)
  have hhint : hintOf ⟨"", ["o.json"]⟩ ≠ .yaml := by decide +kernel
  obtain ⟨hloads, _, hwritten, _⟩ := names_loaded hreaches hhint
  have hread := (hwritten keyAsName readable_keyAsName.wellFormed readable_keyAsName.floatFree
    rfl).1.mpr ⟨Nat.le_trans readable_keyAsName.depth (by decide), readable_keyAsName.digits⟩
  obtain ⟨hloaded, heffective⟩ := hloads [(tableKey, "A"), ("B", "C")] keyAsName hread (.inr rfl)
  obtain ⟨table, htable, _, hfind⟩ := heffective
    { overridesFile := some "o.json", overrides := [("B", "D")] } rfl (by decide)
    (show List.Nodup _ by decide)
  exact ⟨hreaches, hhint, hloaded, table, htable, hfind _, hfind _, hfind _⟩

/-- A name under its key, beside a number with more digits than can be read. -/
def besideLong : Table Value :=
  [(tableKey, .object (ofNames [("A", "B")])), ("x", .int (10 ^ Text.digitLimit))]

open Stack.Usual in
/-- The names are not loaded if the reader has to refuse what stands beside them. -/
theorem names_beside_long_number :
    (Value.object besideLong).WellFormed ∧ (Value.object besideLong).FloatFree ∧
      Table.find? besideLong tableKey = some (.object (ofNames [("A", "B")])) ∧
      Reaches (withNames (Json.file (.object besideLong)).toList) "o.json" ⟨"", ["o.json"]⟩
        (Json.file (.object besideLong)).toList ∧
      ((load "o.json").run (withNames (Json.file (.object besideLong)).toList)).result ≠
        .ok (ofNames [("A", "B")]) := by
  have hnames : Json.Readable 1 (.object (ofNames [("A", "B")])) :=
    readable_ofNames (show List.Nodup _ by decide)
  have hw : (Value.object besideLong).WellFormed :=
    ⟨show List.Nodup _ by decide, hnames.wellFormed, trivial, trivial⟩
  have hf : (Value.object besideLong).FloatFree := ⟨hnames.floatFree, trivial, trivial⟩
  have hreaches := reaches_withNames (Json.no_return_file hf)
  have hlong : ¬Json.Takes (.object besideLong) := fun ⟨_, _, hdigits, _⟩ =>
    Value.not_intsFit_pow (by decide) hdigits
  obtain ⟨e, he, hexcess⟩ := (Json.readChars_file hw hf).2 hlong
  have hhint : hintOf ⟨"", ["o.json"]⟩ ≠ .yaml := by decide +kernel
  refine ⟨hw, hf, rfl, hreaches, ?_⟩
  rw [hreaches.result_load, ofText_of_excess hhint he hexcess]
  intro hloaded
  cases hloaded

end Overrides
end ServiceAtlas
