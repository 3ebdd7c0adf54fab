import ServiceAtlas.Generation.Artifacts
import ServiceAtlas.Proofs.JsonReadBack
import ServiceAtlas.Proofs.SettingsFiles
import ServiceAtlas.Proofs.WholeFiles

/-!
The files of a run after it. They are written one after another into one directory, so each holds its
text unless a later one has its name.
-/

namespace ServiceAtlas
open Program

/-! ### Texts that differ -/

namespace Json

theorem chars_object_cons (k : String) (v : Value) (fields : List (String × Value)) :
    ∃ tail, (file (.object ((k, v) :: fields))).toList =
      '\x7b' :: (Layout.line 1 ++ '"' :: (k.toList.flatMap escaped ++
        '"' :: ':' :: ' ' :: (chars .block 1 v ++ tail))) := by
  refine ⟨charsOfFields .block 1 fields ++ (Layout.line 0 ++ ['\x7d', '\n']), ?_⟩
  simp [toList_file, chars, textChars, Layout.block]

/-- A file whose first field is a text is none whose fields are all objects. -/
theorem file_ne_of_text {key text : String} {fields : List (String × Value)} {t : Table Value}
    (ht : ∀ e ∈ t, ∃ inner, e.2 = .object inner) :
    file (.object ((key, .text text) :: fields)) ≠ file (.object t) := by
  intro h
  have hlist := congrArg String.toList h
  obtain ⟨tail, htail⟩ := chars_object_cons key (.text text) fields
  rw [htail] at hlist
  cases t with
  | nil => simp [toList_file, chars, Layout.line] at hlist
  | cons e t =>
    obtain ⟨other, v⟩ := e
    obtain ⟨inner, rfl⟩ := ht _ List.mem_cons_self
    obtain ⟨tail', htail'⟩ := chars_object_cons other (.object inner) t
    rw [htail'] at hlist
    have hkeys := List.append_cancel_left (List.cons.inj hlist).2
    have hread := congrArg (readText []) (List.cons.inj hkeys).2
    rw [readText_textChars, readText_textChars] at hread
    have hvalues := (Prod.mk.inj (Except.ok.inj hread)).2
    cases inner with
    | nil => simp [chars, textChars] at hvalues
    | cons e inner => simp [chars, textChars] at hvalues

end Json

namespace Generation

theorem objects_of_schemaTable (schemas : Table Schema) :
    ∀ e ∈ schemaTable schemas, ∃ inner, e.2 = .object inner := by
  induction schemas with
  | nil => simp [schemaTable, Schema.valuesOf]
  | cons first schemas ih =>
    obtain ⟨name, schema⟩ := first
    intro e he
    rcases List.mem_cons.mp he with rfl | he
    · cases schema <;> exact ⟨_, rfl⟩
    · exact ih e he

theorem objects_of_routes (routes : Routes) :
    ∀ e ∈ routes.toTable, ∃ inner, e.2 = .object inner := by
  intro e he
  obtain ⟨item, _, rfl⟩ := List.mem_map.mp he
  exact ⟨_, rfl⟩

section
variable [Stack]

/-- The text of a document is that of no part, in either format. -/
theorem text_ne_part {g : Generation} {format : Document.Format} {text : String} {t : Table Value}
    (h : g.text format = .ok text) (ht : ∀ e ∈ t, ∃ inner, e.2 = .object inner) :
    text ≠ Json.file (.object t) := by
  cases format with
  | json =>
    obtain ⟨_, rfl⟩ := Value.written_ok_iff.mp h
    exact Json.file_ne_of_text ht
  | yaml =>
    obtain ⟨_, rfl⟩ := Value.written_ok_iff.mp h
    intro hsame
    have hkey : (Yaml.keyLine 0 "openapi".toList).written = "openapi:".toList := by decide +kernel
    have hhead := congrArg (fun s => s.toList.head?) hsame
    obtain ⟨rest, hrest⟩ : ∃ rest, (Json.file (.object t)).toList = '\x7b' :: rest := by
      rw [Json.toList_file]
      cases t with
      | nil => exact ⟨_, rfl⟩
      | cons e t => exact ⟨_, by simp only [Json.chars]; rfl⟩
    have hyaml : (Yaml.file g.document.toValue).toList.head? = some 'o' := by
      simp only [Yaml.file, Document.toValue, List.cons_append, Yaml.chars, Yaml.Spot.tableIndent,
        ↓reduceIte, hkey, String.toList_ofList]
      rfl
    simp only [hyaml, hrest, List.head?_cons] at hhead
    cases hhead

/-! ### What is written -/

open Files (WroteAll)

omit [Stack] in
/-- All files were written, one after another. -/
theorem writeAll_ok {d : Path} {files : List (String × String)} {written paths : List Path}
    {w : World} (h : ((writeAll written (files.map fun e => (d.entry e.1, e.2))).run w).result =
      .ok paths) :
    paths = written ++ files.map (fun e => d.entry e.1) ∧
      WroteAll d w files
        ((writeAll written (files.map fun e => (d.entry e.1, e.2))).run w).world := by
  induction files generalizing written w with
  | nil =>
    obtain rfl := Except.ok.inj h
    exact ⟨(List.append_nil _).symm, .nil w⟩
  | cons first files ih =>
    obtain ⟨name, text⟩ := first
    obtain ⟨outcome, houtcome, h, hworld⟩ := of_bind_ok h
    cases outcome with
    | error e =>
      obtain ⟨_, _, h, _⟩ := of_bind_ok h
      cases h
    | ok u =>
      obtain ⟨hpaths, hrest⟩ := ih h
      rw [← hworld] at hrest
      obtain ⟨bytes, place, hbytes, hwrote⟩ := Files.write_ok houtcome
      refine ⟨?_, .cons hbytes hwrote hrest⟩
      rw [hpaths, List.map_cons, List.append_assoc]
      rfl

omit [Stack] in
theorem run_noteParts (paths : List Path) (w : World) :
    ((noteParts paths).run w).result = .ok () ∧ ((noteParts paths).run w).world = w := by
  induction paths with
  | nil => exact ⟨rfl, rfl⟩
  | cons p paths ih => exact ih

/-- The parts beside the document, by name. -/
def partTexts (g : Generation) : List (String × String) :=
  g.partTables.map fun e => (e.1, Json.file (.object e.2))

/-- The names and texts of all files, that of the document first. -/
def texts (g : Generation) (text output : String) (parts : Bool) : List (String × String) :=
  ((Path.ofText output).name, text) :: if parts then g.partTexts else []

/-- Tables have texts if each of them can be written. -/
theorem writtenTables_ok_iff {d : Path} {tables : List (String × Table Value)}
    {files : List (Path × String)} :
    (tables.mapM fun (name, t) => do return (d.child name, ← Json.write (.object t))) =
        Except.ok files ↔
      (∀ e ∈ tables, (Value.object e.2).Within .writeJson) ∧
        files = tables.map fun e => (d.child e.1, Json.file (.object e.2)) := by
  induction tables generalizing files with
  | nil => exact ⟨fun h => ⟨fun _ he => (List.not_mem_nil he).elim, (Except.ok.inj h).symm⟩,
      fun h => congrArg Except.ok h.2.symm⟩
  | cons first tables ih =>
    obtain ⟨name, t⟩ := first
    rw [List.mapM_cons, List.forall_mem_cons, List.map_cons]
    constructor
    · intro h
      obtain ⟨file, hfile, h⟩ := bind_eq_ok_iff.mp h
      obtain ⟨text, htext, hmade⟩ := bind_eq_ok_iff.mp hfile
      obtain ⟨others, hothers, h⟩ := bind_eq_ok_iff.mp h
      obtain ⟨hwithin, rfl⟩ := Value.written_ok_iff.mp htext
      obtain ⟨hrest, rfl⟩ := ih.mp hothers
      cases hmade
      cases h
      exact ⟨⟨hwithin, hrest⟩, rfl⟩
    · rintro ⟨⟨hwithin, hrest⟩, rfl⟩
      refine bind_eq_ok_iff.mpr ⟨(d.child name, Json.file (.object t)), ?_, ?_⟩
      · exact bind_eq_ok_iff.mpr ⟨_, Value.written_of_within hwithin, rfl⟩
      · exact bind_eq_ok_iff.mpr ⟨_, ih.mpr ⟨hrest, rfl⟩, rfl⟩

/-- There are files to write if the document has a text and the parts that are wanted have theirs. -/
theorem artifacts_ok_iff {g : Generation} {output : String} {parts : Bool}
    {files : List (Path × String)} :
    g.artifacts output parts = .ok files ↔
      ∃ text, g.text (Document.Format.ofPath output) = .ok text ∧
        (parts = true → ∀ e ∈ g.partTables, (Value.object e.2).Within .writeJson) ∧
        files = (Path.ofText output, text) :: (if parts then g.partTexts else []).map
          fun e => ((Path.ofText output).parent.entry e.1, e.2) := by
  have hnames : (g.partTables.map fun e => ((Path.ofText output).parent.child e.1,
      Json.file (.object e.2))) =
        g.partTexts.map fun e => ((Path.ofText output).parent.entry e.1, e.2) := by
    simp only [partTexts, Generation.partTables, List.map_cons, List.map_nil]
    rw [Path.child_eq_entry (by decide), Path.child_eq_entry (by decide)]
  constructor
  · intro h
    obtain ⟨text, htext, h⟩ := bind_eq_ok_iff.mp h
    obtain ⟨others, hothers, h⟩ := bind_eq_ok_iff.mp h
    obtain ⟨hwithin, rfl⟩ := writtenTables_ok_iff.mp hothers
    refine ⟨text, htext, ?_, ?_⟩
    · rintro rfl
      exact hwithin
    · rw [← Except.ok.inj h]
      cases parts with
      | false => rfl
      | true => exact congrArg _ hnames
  · rintro ⟨text, htext, hwithin, rfl⟩
    refine bind_eq_ok_iff.mpr ⟨text, htext, bind_eq_ok_iff.mpr ?_⟩
    cases parts with
    | false => exact ⟨[], rfl, rfl⟩
    | true => exact ⟨_, writtenTables_ok_iff.mpr ⟨hwithin rfl, rfl⟩, congrArg _ (congrArg _ hnames)⟩

theorem writeArtifacts_eq {g : Generation} {output : String} {parts : Bool}
    {files : List (Path × String)} (h : g.artifacts output parts = .ok files) :
    g.writeArtifacts output parts = do
      let written ← writeAll [] files
      noteParts (written.drop 1)
      return written.drop 1 ++ written.take 1 := by
  rw [writeArtifacts, h, ofExcept_ok_bind]

omit [Stack] in
/-- The first write can only succeed at a path that ends in a name. -/
theorem endsInName_of_writeAll {p : Path} {text : String} {files : List (Path × String)}
    {written paths : List Path} {w : World}
    (h : ((writeAll written ((p, text) :: files)).run w).result = .ok paths) :
    FileTree.endsInName p = true := by
  obtain ⟨outcome, houtcome, h, _⟩ := of_bind_ok h
  cases outcome with
  | error e =>
    obtain ⟨_, _, h, _⟩ := of_bind_ok h
    cases h
  | ok u =>
    obtain ⟨bytes, place, _, hwrote⟩ := Files.write_ok houtcome
    exact hwrote.endsInName

theorem writeArtifacts_wrote {g : Generation} {output : String} {parts : Bool} {w : World}
    {written : List Path} (h : ((g.writeArtifacts output parts).run w).result = .ok written) :
    ∃ text, g.text (Document.Format.ofPath output) = .ok text ∧
      FileTree.endsInName (Path.ofText output) = true ∧
      written = ((if parts then g.partTexts else []).map
        fun e => (Path.ofText output).parent.entry e.1) ++ [Path.ofText output] ∧
      WroteAll (Path.ofText output).parent w (g.texts text output parts)
        ((g.writeArtifacts output parts).run w).world := by
  obtain ⟨files, hfiles, h, hmade⟩ := of_bind_ok h
  rw [run_ofExcept] at hfiles h hmade
  obtain ⟨text, htext, -, rfl⟩ := artifacts_ok_iff.mp hfiles
  obtain ⟨paths, hpaths, h, hworld⟩ := of_bind_ok h
  obtain ⟨_, _, h, hnoted⟩ := of_bind_ok h
  have hends := endsInName_of_writeAll hpaths
  have hnamed : ((Path.ofText output, text) :: (if parts then g.partTexts else []).map
      fun e => ((Path.ofText output).parent.entry e.1, e.2)) =
      (g.texts text output parts).map fun e => ((Path.ofText output).parent.entry e.1, e.2) := by
    rw [texts, List.map_cons, Path.entry_parent_name hends]
  have hfinal := hmade.trans (hworld.trans (hnoted.trans (run_noteParts _ _).2))
  rw [hnamed] at hpaths hfinal
  obtain ⟨rfl, hall⟩ := writeAll_ok hpaths
  rw [← hfinal] at hall
  refine ⟨text, htext, hends, ?_, hall⟩
  have hlist := Except.ok.inj h
  rw [← hlist]
  simp [texts, Path.entry_parent_name hends]

/-- The name of the document is one that a part will take. -/
def Shadowed (output : String) (parts : Bool) : Prop :=
  parts = true ∧ ((Path.ofText output).name = schemasName ∨ (Path.ofText output).name = pathsName)

variable {g : Generation} {output : String} {parts : Bool} {w : World} {written : List Path}

theorem parts_hold (h : ((g.writeArtifacts output true).run w).result = .ok written) :
    ((g.writeArtifacts output true).run w).world.Holds
        ((Path.ofText output).parent.entry schemasName)
        (Json.file (.object (schemaTable g.schemas))) ∧
      ((g.writeArtifacts output true).run w).world.Holds
        ((Path.ofText output).parent.entry pathsName) (Json.file (.object g.routes.toTable)) := by
  obtain ⟨_, _, _, _, hall⟩ := writeArtifacts_wrote h
  have hne : schemasName ∉ [pathsName] := by decide
  exact ⟨WroteAll.holds [_] [_] hall hne, WroteAll.holds [_, _] [] hall List.not_mem_nil⟩

/-- The document holds its text, unless a part has its name. -/
theorem document_holds_iff (h : ((g.writeArtifacts output parts).run w).result = .ok written) :
    ∃ text, g.text (Document.Format.ofPath output) = .ok text ∧
      (((g.writeArtifacts output parts).run w).world.Holds (Path.ofText output) text ↔
        ¬Shadowed output parts) := by
  obtain ⟨text, htext, hends, _, hall⟩ := writeArtifacts_wrote h
  refine ⟨text, htext, ?_, fun hshadowed => ?_⟩
  · rintro hdocument ⟨rfl, hname⟩
    obtain ⟨hschemas, hpaths⟩ := parts_hold h
    rw [← Path.entry_parent_name hends] at hdocument
    rcases hname with hname | hname
    · rw [hname] at hdocument
      exact text_ne_part htext (objects_of_schemaTable _) (hdocument.unique hschemas)
    · rw [hname] at hdocument
      exact text_ne_part htext (objects_of_routes _) (hdocument.unique hpaths)
  · have hdocument := WroteAll.holds [] _ hall (by
      cases parts with
      | false => exact List.not_mem_nil
      | true => simpa [Shadowed, partTexts, Generation.partTables, not_or] using hshadowed)
    rwa [Path.entry_parent_name hends] at hdocument

/-- A run that writes its files names them, the document last, and each part holds its text. So does
the document, unless it has the name of a part. -/
theorem writeArtifacts_ok (h : ((g.writeArtifacts output parts).run w).result = .ok written) :
    written = (if parts then [(Path.ofText output).parent.child schemasName,
        (Path.ofText output).parent.child pathsName] else []) ++ [Path.ofText output] ∧
      (parts = true →
        ((g.writeArtifacts output parts).run w).world.Holds
            ((Path.ofText output).parent.child schemasName)
            (Json.file (.object (schemaTable g.schemas))) ∧
          ((g.writeArtifacts output parts).run w).world.Holds
            ((Path.ofText output).parent.child pathsName) (Json.file (.object g.routes.toTable))) ∧
      ∃ text, g.text (Document.Format.ofPath output) = .ok text ∧
        (((g.writeArtifacts output parts).run w).world.Holds (Path.ofText output) text ↔
          ¬Shadowed output parts) := by
  obtain ⟨_, _, _, hwritten, _⟩ := writeArtifacts_wrote h
  rw [Path.child_eq_entry (by decide), Path.child_eq_entry (by decide)]
  refine ⟨?_, ?_, document_holds_iff h⟩
  · rw [hwritten]
    cases parts <;> rfl
  · rintro rfl
    exact parts_hold h

end

/-- What is made of a service without functions and types. -/
def bare : Generation where
  schemas := []
  routes := []
  document :=
    { openapiVersion := "3.0.0"
      info := ⟨"Local Service API", "0.0.0", "Generated from /help"⟩
      server := none
      paths := []
      schemas := []
      forbidden := false }

open Stack.Usual in
theorem bare_artifacts {output : String} (h : Document.Format.ofPath output = .json) :
    bare.artifacts output true = .ok ((Path.ofText output, Json.file bare.document.toValue) ::
      bare.partTexts.map fun e => ((Path.ofText output).parent.entry e.1, e.2)) := by
  have hdocument : bare.document.toValue.Within .writeJson :=
    Value.excess?_eq_none_iff_within.mp (by decide +kernel)
  refine artifacts_ok_iff.mpr ⟨_, ?_, fun _ e he => ?_, rfl⟩
  · rw [h]
    exact Value.written_of_within hdocument
  · rw [← Value.excess?_eq_none_iff_within]
    revert e
    decide +kernel

open Stack.Usual in
theorem bare_written :
    ((bare.writeArtifacts "api.json" true).run {}).result =
        .ok [⟨"", ["schemas.json"]⟩, ⟨"", ["paths.json"]⟩, ⟨"", ["api.json"]⟩] ∧
      ∃ text, bare.text (Document.Format.ofPath "api.json") = .ok text ∧
        ((bare.writeArtifacts "api.json" true).run {}).world.Holds (Path.ofText "api.json") text := by
  have hformat : Document.Format.ofPath "api.json" = .json := by decide +kernel
  have hrun : ((bare.writeArtifacts "api.json" true).run {}).result =
      .ok [⟨"", ["schemas.json"]⟩, ⟨"", ["paths.json"]⟩, ⟨"", ["api.json"]⟩] := by
    rw [writeArtifacts_eq (bare_artifacts hformat)]
    simp only [partTexts, Generation.partTables, List.map_cons, List.map_nil, writeAll, Files.write,
      Json.toList_file]
    decide +kernel
  obtain ⟨text, htext, hholds⟩ := (writeArtifacts_ok hrun).2.2
  refine ⟨hrun, text, htext, hholds.mpr ?_⟩
  rintro ⟨_, hname⟩
  revert hname
  decide

open Stack.Usual in
/-- With the name of a part, the document is lost, and the run ends as well as any. -/
theorem bare_shadowed :
    ((bare.writeArtifacts "schemas.json" true).run {}).result =
        .ok [⟨"", ["schemas.json"]⟩, ⟨"", ["paths.json"]⟩, ⟨"", ["schemas.json"]⟩] ∧
      ∃ text, bare.text (Document.Format.ofPath "schemas.json") = .ok text ∧
        ¬((bare.writeArtifacts "schemas.json" true).run {}).world.Holds
          (Path.ofText "schemas.json") text := by
  have hformat : Document.Format.ofPath "schemas.json" = .json := by decide +kernel
  have hrun : ((bare.writeArtifacts "schemas.json" true).run {}).result =
      .ok [⟨"", ["schemas.json"]⟩, ⟨"", ["paths.json"]⟩, ⟨"", ["schemas.json"]⟩] := by
    rw [writeArtifacts_eq (bare_artifacts hformat)]
    simp only [partTexts, Generation.partTables, List.map_cons, List.map_nil, writeAll, Files.write,
      Json.toList_file]
    decide +kernel
  obtain ⟨text, htext, hholds⟩ := document_holds_iff hrun
  refine ⟨hrun, text, htext, fun hdocument => hholds.mp hdocument ⟨rfl, ?_⟩⟩
  decide

end Generation
end ServiceAtlas
