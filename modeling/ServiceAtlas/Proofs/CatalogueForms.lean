import ServiceAtlas.Proofs.LastEntries
import ServiceAtlas.Routes

/-!
The two forms of a catalogue of functions. A list of named entries and a table of the same entries by
name make the same routes, whether the entries of the table keep the field with their name or not.
-/

namespace ServiceAtlas

/-- An entry of a catalogue of functions with a name of its own, whatever else it holds. -/
structure NamedEntry where
  name : String
  fields : Table Value
  named : fields.find? "name" = some (.text name)
  given : name ≠ ""
  distinct : fields.Distinct

namespace NamedEntry

def value (e : NamedEntry) : Value := .object e.fields

/-- The entry without the field with its name. -/
def unnamed (e : NamedEntry) : Value := .object (e.fields.erase "name")

/-- The entry with its name in front. -/
def fronted (e : NamedEntry) : Value := .object (("name", .text e.name) :: e.fields.erase "name")

/-- The forms in which the entries can be given: as a list, or as a table with their names for keys, in
which each entry keeps its own name or loses it. -/
inductive InForm (entries : List NamedEntry) : Value → Prop
  | list : InForm entries (.list (entries.map value))
  | table {given : Table Value}
    (each : List.Forall₂ (fun e g => g.1 = e.name ∧ (g.2 = e.value ∨ g.2 = e.unnamed)) entries
      given) : InForm entries (.object given)

/-! ### The Full catalogue -/

open JoinedFunction (addFull fullIndex withKey)

theorem getD_value (e : NamedEntry) : e.value.getD "name" = .text e.name := by
  simp [value, Value.getD, Value.get?, e.named]

theorem isGiven_name (e : NamedEntry) : (Value.text e.name).isGiven = true := by
  simp [Value.isGiven, e.given]

theorem find?_fronted (e : NamedEntry) (key : String) :
    Table.find? (("name", .text e.name) :: e.fields.erase "name") key = e.fields.find? key := by
  simp only [Table.find?, Table.find?_erase]
  split
  · rename_i h
    rw [← h, e.named]
  · rfl

theorem withKey_value (e : NamedEntry) : withKey (e.name, e.value) = e.fronted := by
  simp only [withKey, value]
  rw [Table.overwrite_cons e.distinct (by simp [Table.keys]) (by simp [Table.keys]), e.named]
  rfl

theorem withKey_unnamed (e : NamedEntry) : withKey (e.name, e.unnamed) = e.fronted := by
  have hd : Table.Distinct (e.fields.erase "name") := by
    unfold Table.Distinct
    rw [Table.keys_erase]
    exact e.distinct.filter _
  have hnone : "name" ∉ Table.keys (e.fields.erase "name") := by
    simp [Table.keys_erase]
  simp only [withKey, unnamed]
  rw [Table.overwrite_cons hd (by simp [Table.keys]) (by simp [Table.keys]),
    Table.find?_eq_none_iff.mpr hnone, Table.erase_of_notMem hnone]
  rfl

theorem holdsHalf_name : Text.holdsHalf "name".toList = false := by decide

/-- A record does not depend on the place of its name. -/
theorem read_fronted (e : NamedEntry) : FullView.read e.fronted = FullView.read e.value := by
  have hhalf : (("name", Value.text e.name) :: e.fields.erase "name").any
        (fun field => Text.holdsHalf field.1.toList) =
      e.fields.any fun field => Text.holdsHalf field.1.toList := by
    rw [List.any_cons, holdsHalf_name, Bool.false_or]
    exact Table.any_erase (p := fun key => Text.holdsHalf key.toList) holdsHalf_name
  have hextra : (("name", Value.text e.name) :: e.fields.erase "name").filter
        (fun field => !FullView.known.contains field.1) =
      e.fields.filter fun field => !FullView.known.contains field.1 := by
    rw [List.filter_cons_of_neg (by simp [FullView.known])]
    exact Table.filter_erase (p := fun key => !FullView.known.contains key) (by decide)
  simp only [FullView.read, fronted, value, Checked.openRecord, hhalf, FullView.readFields,
    Checked.required, Checked.optionalField, Checked.field, find?_fronted, hextra]

theorem addFull_fronted (index : Table FullView) (e : NamedEntry) :
    addFull index e.fronted = addFull index e.value := by
  have hname : e.fronted.getD "name" = .text e.name := by
    simp [fronted, Value.getD, Value.get?, Table.find?]
  simp only [addFull, hname, getD_value, isGiven_name, read_fronted, Bool.not_true,
    Bool.false_eq_true, if_false]

variable {entries : List NamedEntry} {functions : Value}

/-- In every form the entries of a Full catalogue make the same index. -/
theorem fullIndex_of_form (h : InForm entries functions) :
    fullIndex functions = (entries.map value).foldlM addFull [] := by
  cases h with
  | list => rfl
  | @table given each =>
    have hfronted : given.map withKey = entries.map fronted := by
      induction each with
      | nil => rfl
      | @cons e g entries given heg _ ih =>
        obtain ⟨key, v⟩ := g
        obtain ⟨hkey, hv⟩ := heg
        obtain rfl : key = e.name := hkey
        rw [List.map_cons, List.map_cons, ih]
        rcases hv with hv | hv
        · obtain rfl : v = e.value := hv
          rw [withKey_value]
        · obtain rfl : v = e.unnamed := hv
          rw [withKey_unnamed]
    change (given.map withKey).foldlM addFull [] = _
    rw [hfronted, List.foldlM_map, List.foldlM_map]
    simp only [addFull_fronted]

end NamedEntry

/-! ### The Console catalogue -/

namespace ConsoleView

/-- The view without the fields that nothing is made of. -/
def bare (c : ConsoleView) : ConsoleView := { c with extra := [] }

/-- What is read before those fields. -/
def readKnown (fields : Table Value) : Checked (Table Value → ConsoleView) :=
  ConsoleView.mk
    <$> Checked.optionalField fields "http_method" Checked.text
    <*> Checked.optionalField fields "url" Checked.text
    <*> Checked.optionalField fields "usage" Checked.text
    <*> Checked.field fields "arguments" [] (Checked.list Checked.any)
    <*> Checked.field fields "returns" .null Checked.any
    <*> Checked.optionalField fields "description" Checked.text
    <*> Checked.optionalField fields "help" Checked.text

theorem bare_readKnown (fields extra others : Table Value) :
    (readKnown fields <*> .good extra).map bare = (readKnown fields <*> .good others).map bare := by
  cases h : readKnown fields with
  | good make =>
    simp only [readKnown, Checked.seq_eq_good_iff, Checked.map_eq_good_iff] at h
    obtain ⟨_, _, ⟨_, _, ⟨_, _, ⟨_, _, ⟨_, _, ⟨_, _, ⟨_, _, rfl⟩, _, rfl⟩, _, rfl⟩, _, rfl⟩, _, rfl⟩,
      _, rfl⟩, _, rfl⟩ := h
    rfl
  | bad issues => rfl

/-- The name of an entry has no influence on how it is read. -/
theorem bare_read_erase (fields : Table Value) :
    (read (.object (fields.erase "name"))).map bare = (read (.object fields)).map bare := by
  have hhalf := Table.any_erase (t := fields) (p := fun key => Text.holdsHalf key.toList)
    NamedEntry.holdsHalf_name
  have hknown : readKnown (fields.erase "name") = readKnown fields := by
    simp [readKnown, Checked.optionalField, Checked.field, Table.find?_erase]
  simp only [read, Checked.openRecord, hhalf]
  split
  · rfl
  · change (readKnown (fields.erase "name") <*> .good _).map bare = _
    rw [hknown]
    exact bare_readKnown fields _ _

/-- Two entries that are both null or both not, and are read as one view as far as it counts. -/
structure ReadAlike (v w : Value) : Prop where
  null : v.isNull = w.isNull
  read : (read v).map bare = (read w).map bare

theorem ReadAlike.refl (v : Value) : ReadAlike v v := ⟨rfl, rfl⟩

theorem ReadAlike.symm {v w : Value} (h : ReadAlike v w) : ReadAlike w v :=
  ⟨h.null.symm, h.read.symm⟩

theorem ReadAlike.trans {u v w : Value} (h : ReadAlike u v) (h' : ReadAlike v w) : ReadAlike u w :=
  ⟨h.null.trans h'.null, h.read.trans h'.read⟩

/-- What is not there counts as null. -/
theorem ReadAlike.getD {x y : Option Value} (h : Option.Rel ReadAlike x y) :
    ReadAlike (x.getD .null) (y.getD .null) := by
  cases h with
  | some h => exact h
  | none => exact .refl _

end ConsoleView

namespace JoinedFunction
open ConsoleView (ReadAlike)

/-- The function with what counts of its Console view. -/
def bare (f : JoinedFunction) : JoinedFunction :=
  { f with console := f.console.map ConsoleView.bare }

theorem readConsole_alike {v w : Value} (h : ReadAlike v w) (name : String) :
    Option.map ConsoleView.bare <$> readConsole name v =
      Option.map ConsoleView.bare <$> readConsole name w := by
  have hread := h.read
  unfold readConsole
  rw [h.null]
  split
  · rfl
  · cases hv : ConsoleView.read v <;> cases hw : ConsoleView.read w <;> rw [hv, hw] at hread
    · simp only [Checked.toExcept, map_pure, Option.map_some]
      rw [Checked.good.inj hread]
    · cases hread
    · cases hread
    · rw [Checked.bad.inj hread]

theorem ofFull_alike {consoles others : Table Value} {entry : String × FullView}
    (h : ReadAlike ((consoles.find? entry.1).getD .null) ((others.find? entry.1).getD .null)) :
    bare <$> ofFull consoles entry = bare <$> ofFull others entry := by
  have hbare : ∀ table : Table Value, bare <$> ofFull table entry =
      (fun console => ⟨entry.1, entry.2, console⟩) <$> Option.map ConsoleView.bare <$>
        readConsole entry.1 ((table.find? entry.1).getD .null) := by
    intro table
    simp only [ofFull, bare, map_eq_pure_bind, bind_assoc, pure_bind]
  rw [hbare, hbare, readConsole_alike h]

/-- Console catalogues whose entries are read alike are joined alike. -/
theorem join_alike {console other : Table Value} (full : Table Value)
    (hnotes : (consoleIndex (functionsOf console)).notes =
      (consoleIndex (functionsOf other)).notes)
    (h : ∀ name, ReadAlike (((consolesOf console).find? name).getD .null)
      (((consolesOf other).find? name).getD .null)) :
    List.map bare <$> join console full = List.map bare <$> join other full := by
  have heach : ∀ e, bare <$> ofFull (consolesOf console) e = bare <$> ofFull (consolesOf other) e :=
    fun e => ofFull_alike (h e.1)
  apply Noted.ext
  · have hofFull : ∀ e, (ofFull (consolesOf console) e).notes = (ofFull (consolesOf other) e).notes :=
      fun e => by simpa using congrArg Noted.notes (heach e)
    simp only [Noted.notes_map, join, Noted.notes_bind, Noted.notes_mapM]
    change _ ++ (_ ++ List.flatMap (fun e => (ofFull (consolesOf console) e).notes) _) =
      _ ++ (_ ++ List.flatMap (fun e => (ofFull (consolesOf other) e).notes) _)
    rw [funext hofFull]
    exact congrArg (· ++ _) hnotes
  · rw [Noted.value_map, Noted.value_map, value_join, value_join, List.map_map, List.map_map]
    refine List.map_congr_left fun e _ => ?_
    simpa using congrArg Noted.value (heach e)

end JoinedFunction

namespace NamedEntry
open JoinedFunction (consoleIndex consolesOf functionsOf namedEntry?)
open ConsoleView (ReadAlike)
variable {entries : List NamedEntry} {functions : Value}

def byName (entries : List NamedEntry) : Table Value := entries.map fun e => (e.name, e.value)

theorem filterMap_named (entries : List NamedEntry) :
    (entries.map value).filterMap namedEntry? = byName entries := by
  rw [List.filterMap_map, byName, ← List.filterMap_eq_map]
  refine List.filterMap_congr fun e _ => ?_
  simp only [Function.comp_apply, namedEntry?, getD_value, isGiven_name, if_true,
    Value.display_text]

/-- In every form the entries of a Console catalogue are indexed under their names, and nothing is
noted. -/
theorem consoleIndex_of_form (hd : (entries.map name).Nodup) (h : InForm entries functions) :
    (consoleIndex functions).notes = [] ∧
      List.Forall₂ (fun a b => a.1 = b.1 ∧ ReadAlike a.2 b.2) (consoleIndex functions).value
        (byName entries) := by
  cases h with
  | list =>
    have hdistinct : Table.Distinct (byName entries) := by
      rw [Table.Distinct, Table.keys, byName, List.map_map]
      exact hd
    refine ⟨rfl, ?_⟩
    change List.Forall₂ _ (Table.ofEntries ((entries.map value).filterMap namedEntry?)) _
    rw [filterMap_named, Table.ofEntries_eq hdistinct]
    exact List.forall₂_same.mpr fun e _ => ⟨rfl, .refl _⟩
  | @table given each =>
    refine ⟨rfl, ?_⟩
    change List.Forall₂ _ given _
    rw [byName, List.forall₂_map_right_iff]
    refine each.flip.imp fun g e heg => ⟨heg.1, ?_⟩
    rcases heg.2 with hv | hv
    · rw [hv]
      exact .refl _
    · rw [hv]
      exact ⟨rfl, ConsoleView.bare_read_erase e.fields⟩

theorem readAlike_of_forms {console other : Table Value} (hd : (entries.map name).Nodup)
    (h : InForm entries (functionsOf console)) (ho : InForm entries (functionsOf other))
    (key : String) :
    ReadAlike (((consolesOf console).find? key).getD .null)
      (((consolesOf other).find? key).getD .null) := by
  have hcanonical : ∀ {catalogue : Table Value}, InForm entries (functionsOf catalogue) →
      ReadAlike (((consolesOf catalogue).find? key).getD .null)
        (((byName entries).find? key).getD .null) := by
    intro catalogue hc
    have hrel := Table.find?_rel (consoleIndex_of_form hd hc).2 key
    exact .getD hrel
  exact (hcanonical h).trans (hcanonical ho).symm

end NamedEntry

/-! ### Routes -/

namespace Routes
open JoinedFunction (bare functionsOf join)
open NamedEntry (InForm)
variable {overrides : Overrides} {options : Options}

theorem addFunction_bare [Stack] (routes : Routes) (f : JoinedFunction) :
    addFunction overrides options routes f.bare = addFunction overrides options routes f := by
  obtain ⟨name, full, console⟩ := f
  cases console <;> rfl

/-- The routes depend on nothing but what counts of the joined functions. -/
theorem build_congr [Stack] {console full other otherFull : Table Value}
    (h : List.map bare <$> join console full = List.map bare <$> join other otherFull) :
    build console full overrides options = build other otherFull overrides options := by
  have hbare : ∀ console full : Table Value, build console full overrides options =
      ExceptT.lift (List.map bare <$> join console full) >>= fun functions =>
        functions.foldlM (addFunction overrides options) [] := by
    intro console full
    have hfold : ∀ functions : List JoinedFunction,
        (functions.map bare).foldlM (addFunction overrides options) [] =
          functions.foldlM (addFunction overrides options) [] := by
      intro functions
      rw [List.foldlM_map]
      simp only [addFunction_bare]
    have hlift : (ExceptT.lift (List.map bare <$> join console full) : Traced _) =
        List.map bare <$> ExceptT.lift (join console full) := by
      simp [ExceptT.lift]
    rw [hlift, bind_map_left]
    simp only [hfold]
    rfl
  rw [hbare, hbare, h]

/-- In whichever form a catalogue is given, the routes are the same: those of the Full entries, and
those of the Console entries, whatever the other catalogue is. -/
theorem build_of_forms [Stack] (overrides : Overrides) (options : Options) :
    (∀ (entries : List NamedEntry) (console full other : Table Value),
      InForm entries (functionsOf full) → InForm entries (functionsOf other) →
        build console full overrides options = build console other overrides options) ∧
    ∀ (entries : List NamedEntry) (console other full : Table Value),
      (entries.map NamedEntry.name).Nodup →
        InForm entries (functionsOf console) → InForm entries (functionsOf other) →
          build console full overrides options = build other full overrides options := by
  constructor
  · intro entries console full other h ho
    have hindex : JoinedFunction.fullIndex (functionsOf full) =
        JoinedFunction.fullIndex (functionsOf other) := by
      rw [NamedEntry.fullIndex_of_form h, NamedEntry.fullIndex_of_form ho]
    have hjoin : join console full = join console other := by
      rw [join, join]
      change _ >>= (fun consoles => JoinedFunction.fullIndex (functionsOf full) >>= _) = _
      rw [hindex]
      rfl
    rw [build, build, hjoin]
  · intro entries console other full hd h ho
    refine build_congr (JoinedFunction.join_alike full ?_ (NamedEntry.readAlike_of_forms hd h ho))
    rw [(NamedEntry.consoleIndex_of_form hd h).1, (NamedEntry.consoleIndex_of_form hd ho).1]

/-- A function as the Full view has it, its name not in front. -/
def fullHelp : NamedEntry where
  name := "Help"
  fields := [("help", .text "Lists functions"), ("name", .text "Help"), ("internal", .bool true)]
  named := rfl
  given := by decide
  distinct := by simp [Table.Distinct, Table.keys]

/-- The same function as the Console view has it. -/
def consoleHelp : NamedEntry where
  name := "Help"
  fields := [("name", .text "Help"), ("http_method", .text "GET"), ("url", .text "/help")]
  named := rfl
  given := by decide
  distinct := by simp [Table.Distinct, Table.keys]

open Stack.Usual in
theorem help_in_both_forms :
    InForm [fullHelp] (.object [("Help", fullHelp.value)]) ∧
      InForm [consoleHelp] (.object [("Help", consoleHelp.unnamed)]) ∧
      build [("functions", .list [consoleHelp.value])] [("functions", .list [fullHelp.value])] [] {} =
        build [("functions", .object [("Help", consoleHelp.unnamed)])]
          [("functions", .object [("Help", fullHelp.value)])] [] {} := by
  have hfull : InForm [fullHelp] (.object [("Help", fullHelp.value)]) :=
    .table (.cons ⟨rfl, .inl rfl⟩ .nil)
  have hconsole : InForm [consoleHelp] (.object [("Help", consoleHelp.unnamed)]) :=
    .table (.cons ⟨rfl, .inr rfl⟩ .nil)
  refine ⟨hfull, hconsole, ?_⟩
  calc build [("functions", .list [consoleHelp.value])] [("functions", .list [fullHelp.value])] [] {}
    _ = build [("functions", .list [consoleHelp.value])]
          [("functions", .object [("Help", fullHelp.value)])] [] {} :=
      (build_of_forms [] {}).1 [fullHelp] _ _ _ .list hfull
    _ = build [("functions", .object [("Help", consoleHelp.unnamed)])]
          [("functions", .object [("Help", fullHelp.value)])] [] {} :=
      (build_of_forms [] {}).2 [consoleHelp] _ _ _ (by decide) .list hconsole

end Routes
end ServiceAtlas
