import ServiceAtlas.Overrides
import ServiceAtlas.Payloads.Saved
import ServiceAtlas.Proofs.FoundFiles

/-!
What becomes of files that are not what they should be. Most of them end in a failure of the family
that speaks of such files. What is not foreseen is a question that the machine refuses, bytes that are
no text, and text that asks for too much.
-/

namespace ServiceAtlas
open Program

/-! ### Settings -/

namespace Settings
variable {w : World}

theorem documented_loadFile_iff [Stack] (label : String) (p : Path) :
    Documented .config ((loadFile label p).run w).result ↔
      ¬(w.found p).Unforeseen Json.Excessive := by
  rcases Files.found_cases w p with ⟨e, hfound, hasked⟩ | ⟨hfound, hthere, hread⟩ |
    ⟨file, hfound, hfinds⟩
  · rw [hfound, loadFile, result_bind_of_error hasked, documented_error_iff]
    simp [Found.Unforeseen, Failure.family?]
  · have hobject : ((readObject label p).run w).result = .error .notUtf8 :=
      result_bind_of_error hread
    rw [hfound, loadFile, result_bind_of_ok hthere, Files.world_isFile, if_pos rfl,
      result_bind_of_error hobject, documented_error_iff]
    simp [Found.Unforeseen, Failure.family?]
  · rw [hfound, result_loadFile hfinds]
    have hmuch : (Found.file file).Unforeseen Json.Excessive ↔ file.AsksTooMuch := by
      cases file <;> rfl
    rw [hmuch]
    by_cases hvalid : file.Valid
    · obtain ⟨found, hloaded, _⟩ := @File.loaded_of_valid file label p _ hvalid
      rw [hloaded]
      have hnot : ¬file.AsksTooMuch := fun h => File.not_valid_of_asksTooMuch h hvalid
      simp [documented_ok, hnot]
    · by_cases htoo : file.AsksTooMuch
      · obtain ⟨e, he, hfamily⟩ := @File.loaded_of_asksTooMuch file label p _ htoo
        rw [he, documented_error_iff, hfamily]
        simp [htoo]
      · obtain ⟨e, he, hfamily⟩ := @File.loaded_of_not_valid file label p _ hvalid htoo
        rw [he, documented_error_iff, hfamily]
        simp [htoo]

theorem documented_loadGlobal_iff [Stack] :
    Documented .config (loadGlobal.run w).result ↔
      ∃ d, (Directories.config.run w).result = .ok d ∧
        ¬((Directories.config.run w).world.found (d.child globalName)).Unforeseen
          Json.Excessive := by
  rw [loadGlobal, documented_bind_of_crashes_iff Directories.crashes_config]
  simp only [documented_loadFile_iff]

theorem documented_loadProject_iff [Stack] :
    Documented .config (loadProject.run w).result ↔
      ¬(w.found ((World.pathOf w.workingDirectory).child projectName)).Unforeseen
        Json.Excessive :=
  documented_loadFile_iff _ _

end Settings

/-! ### Saved payloads -/

namespace Found

/-- The object in a file. -/
def object? [Stack] : Found → Option (Table Value)
  | file (.text cs) =>
    match Json.readChars cs with
    | .ok (.object t) => some t
    | _ => none
  | _ => none

/-- The object in a file that may be missing. -/
def optionalObject? [Stack] : Found → Option (Table Value)
  | file .missing => some []
  | found => found.object?

end Found

namespace Payloads
variable {w : World} {p : Path} {t : Table Value}

variable [Stack]

/-- What comes of a file of payloads. -/
def outcome (p : Path) (absent : Except Failure (Table Value)) : Found → Except Failure (Table Value)
  | .barred e => .error (.os e)
  | .undecodable => .error .notUtf8
  | .file .missing => absent
  | .file (.unreadable e) => .error (.payloadUnreadable p.text (.os e))
  | .file (.text cs) =>
    match Json.readChars cs with
    | .error e => .error (.ofJson (fun e => .payloadUnreadable p.text (.json e)) e)
    | .ok (.object t) => .ok t
    | .ok _ => .error (.payloadNotObject p.text)

theorem result_look_readFile {k : Bool → Program (Table Value)} (hk : k true = readFile p)
    (w : World) :
    ((Files.isFile p >>= k).run w).result = outcome p ((k false).run w).result (w.found p) := by
  refine (Files.result_look hk w).trans ?_
  cases w.found p with
  | barred e => rfl
  | undecodable => rfl
  | file file =>
    cases file with
    | missing => rfl
    | unreadable e => rfl
    | text cs =>
      simp only [outcome]
      cases Json.readChars cs with
      | error e => rfl
      | ok v => cases v <;> rfl

theorem result_readOptional (p : Path) (w : World) :
    ((readOptional p).run w).result = outcome p (.ok []) (w.found p) :=
  result_look_readFile rfl w

theorem result_readRequired (p : Path) (w : World) :
    ((readRequired p).run w).result = outcome p (.error (.payloadMissing p.text)) (w.found p) :=
  result_look_readFile rfl w

/-- What is foreseen of a file of payloads fails as documented. -/
theorem documented_outcome_iff {absent : Except Failure (Table Value)} {found : Found}
    (habsent : Documented .introspection absent) :
    Documented .introspection (outcome p absent found) ↔ ¬found.Unforeseen Json.Excessive := by
  cases found with
  | barred e => simp [outcome, Found.Unforeseen, documented_error_iff, Failure.family?]
  | undecodable => simp [outcome, Found.Unforeseen, documented_error_iff, Failure.family?]
  | file file =>
    cases file with
    | missing => simp [outcome, Found.Unforeseen, habsent]
    | unreadable e => simp [outcome, Found.Unforeseen, documented_error_iff, Failure.family?]
    | text cs =>
      simp only [outcome, Found.Unforeseen, Json.Excessive]
      cases Json.readChars cs with
      | error e =>
        rw [documented_error_iff, Failure.family?_ofJson]
        by_cases hmuch : e.cause.isExcess = true <;> simp [hmuch, Failure.family?]
      | ok v =>
        cases v with
        | object t => simp [documented_ok]
        | _ => simp [documented_error_iff, Failure.family?]

theorem documented_readOptional_iff :
    Documented .introspection ((readOptional p).run w).result ↔
      ¬(w.found p).Unforeseen Json.Excessive := by
  rw [result_readOptional]
  exact documented_outcome_iff (documented_ok _)

theorem documented_readRequired_iff :
    Documented .introspection ((readRequired p).run w).result ↔
      ¬(w.found p).Unforeseen Json.Excessive := by
  rw [result_readRequired]
  exact documented_outcome_iff (documented_error_iff.mpr rfl)

theorem outcome_eq_ok_iff {absent : Except Failure (Table Value)} {found : Found} :
    outcome p absent found = .ok t ↔
      found = .file .missing ∧ absent = .ok t ∨ found.object? = some t := by
  cases found with
  | barred e => simp [outcome, Found.object?]
  | undecodable => simp [outcome, Found.object?]
  | file file =>
    cases file with
    | missing => simp [outcome, Found.object?]
    | unreadable e => simp [outcome, Found.object?]
    | text cs =>
      simp only [outcome, Found.object?]
      cases Json.readChars cs with
      | error e => simp
      | ok v => cases v <;> simp

theorem readOptional_ok_iff :
    ((readOptional p).run w).result = .ok t ↔ (w.found p).optionalObject? = some t := by
  rw [result_readOptional, outcome_eq_ok_iff]
  generalize w.found p = found
  unfold Found.optionalObject?
  split
  · simp [Found.object?]
  · rename_i hpresent
    simp only [or_iff_right_iff_imp, and_imp]
    exact fun hmissing => absurd hmissing hpresent

theorem readRequired_ok_iff :
    ((readRequired p).run w).result = .ok t ↔ (w.found p).object? = some t := by
  simp [result_readRequired, outcome_eq_ok_iff]

/-- The machine once the file has been looked for and, if it is there, read. -/
def past (w : World) (p : Path) : World :=
  match w.found p with
  | .barred _ | .file .missing => w
  | _ => ((Files.read p).run w).world

theorem world_readFile (p : Path) (w : World) :
    ((readFile p).run w).world = ((Files.read p).run w).world := by
  cases hread : ((Files.read p).run w).result with
  | error e => exact (bind_of_error hread).1
  | ok answer =>
    refine (bind_of_ok hread).1.trans ?_
    cases answer with
    | error e => rfl
    | ok cs =>
      dsimp only
      cases Json.readChars cs with
      | error e => rfl
      | ok v => cases v <;> rfl

theorem world_look_readFile {k : Bool → Program (Table Value)} (hk : k true = readFile p)
    {w : World} (hstay : ((k false).run w).world = w) :
    ((Files.isFile p >>= k).run w).world = past w p := by
  unfold past
  rcases Files.found_cases w p with ⟨e, hfound, hasked⟩ | ⟨hfound, hthere, _⟩ | ⟨file, hfound, hfinds⟩
  · rw [hfound, (bind_of_error hasked).1, Files.world_isFile]
  · rw [hfound, (bind_of_ok hthere).1, Files.world_isFile, hk, world_readFile]
  · rw [hfound]
    cases file with
    | missing => rw [(bind_of_ok hfinds).1, Files.world_isFile, hstay]
    | unreadable e => rw [(bind_of_ok hfinds.1).1, Files.world_isFile, hk, world_readFile]
    | text cs => rw [(bind_of_ok hfinds.1).1, Files.world_isFile, hk, world_readFile]

theorem world_readOptional (p : Path) (w : World) : ((readOptional p).run w).world = past w p :=
  world_look_readFile rfl rfl

theorem world_readRequired (p : Path) (w : World) : ((readRequired p).run w).world = past w p :=
  world_look_readFile rfl rfl

/-- Of the address that came with the application info, only text and null are foreseen. -/
def AddressAstray (appInfo : Table Value) : Prop :=
  ∃ v, appInfo.find? addressKey = some v ∧ v ≠ .null ∧ ∀ s, v ≠ .text s

omit [Stack] in
theorem documented_addressOf_iff {family : Family} :
    Documented family (addressOf t) ↔ ¬AddressAstray t := by
  unfold addressOf AddressAstray
  cases Table.find? t addressKey with
  | none => simp [documented_ok, Checked.optional, Checked.under, Checked.toExcept]
  | some v =>
    cases v with
    | null => simp [documented_ok, Checked.optional, Checked.under, Checked.toExcept]
    | text s =>
      have hread : Checked.under "base_url" (Checked.optional Checked.text (.text s)) =
          .good (some s) := rfl
      simp [documented_ok, hread, Checked.toExcept]
    | _ =>
      refine iff_of_false ?_ (by simp)
      intro h
      cases h _ rfl

/-- Loading goes astray at a file, or later, once the file has given an object. -/
def AstrayFrom (p : Path) (object : Found → Option (Table Value))
    (later : Table Value → World → Prop) (w : World) : Prop :=
  (w.found p).Unforeseen Json.Excessive ∨
    ∃ t, object (w.found p) = some t ∧ later t (past w p)

/-- Loading goes astray at one of the files, in the order in which they are read, or at the address. -/
def FilesAstray (d : Path) : World → Prop :=
  AstrayFrom (d.child appInfoName) Found.optionalObject? fun appInfo =>
    AstrayFrom (d.child consoleName) Found.object? fun _ =>
      AstrayFrom (d.child fullName) Found.object? fun _ _ => AddressAstray appInfo

/-- Loading goes astray at the directory or at what is in it. -/
def Astray (d : Path) (w : World) : Prop :=
  d.flaw? = none ∧
    ((∃ e, w.isDirectory d = .error e) ∨ w.isDirectory d = .ok true ∧ FilesAstray d w)

section
variable {α : Type} {k : Table Value → Program α} {later : Table Value → World → Prop}

theorem documented_readOptional_bind_iff
    (hk : ∀ t w, Documented .introspection ((k t).run w).result ↔ ¬later t w) :
    Documented .introspection ((readOptional p >>= k).run w).result ↔
      ¬AstrayFrom p Found.optionalObject? later w := by
  simp only [documented_bind_iff, documented_readOptional_iff, readOptional_ok_iff,
    world_readOptional, hk, AstrayFrom, not_or, not_exists, not_and]

theorem documented_readRequired_bind_iff
    (hk : ∀ t w, Documented .introspection ((k t).run w).result ↔ ¬later t w) :
    Documented .introspection ((readRequired p >>= k).run w).result ↔
      ¬AstrayFrom p Found.object? later w := by
  simp only [documented_bind_iff, documented_readRequired_iff, readRequired_ok_iff,
    world_readRequired, hk, AstrayFrom, not_or, not_exists, not_and]

end

theorem documented_loadFiles_iff {d : Path} :
    Documented .introspection
      ((do
        let appInfo ← readOptional (d.child appInfoName)
        let console ← readRequired (d.child consoleName)
        let full ← readRequired (d.child fullName)
        return ⟨console, full, appInfo, ← ofExcept (addressOf appInfo)⟩ : Program Payloads).run
          w).result ↔ ¬FilesAstray d w := by
  refine documented_readOptional_bind_iff fun appInfo _ =>
    documented_readRequired_bind_iff fun console _ =>
      documented_readRequired_bind_iff fun full w' => ?_
  rw [documented_bind_iff, run_ofExcept, documented_addressOf_iff]
  exact and_iff_left fun address _ => documented_ok _

/-- Saved payloads are loaded, or it is said what is wrong with them, unless loading goes astray. -/
theorem documented_loadSaved_iff {directory : String} :
    Documented .introspection ((loadSaved directory).run w).result ↔
      ¬Astray (Path.ofText directory) w := by
  unfold loadSaved Astray
  dsimp only
  generalize Path.ofText directory = d
  by_cases hflaw : d.flaw?.isSome = true
  · have hasked : (Files.isDirectory d).run w = ⟨.ok false, [], w⟩ := by
      unfold Files.isDirectory Files.whether
      rw [if_pos hflaw]
      rfl
    have hnone : d.flaw? ≠ none := Option.isSome_iff_ne_none.mp hflaw
    rw [run_bind_of_quiet hasked]
    simp only [hnone, false_and, not_false_eq_true, iff_true]
    exact documented_error_iff.mpr rfl
  · have hasked : (Files.isDirectory d).run w = (ofOs (w.isDirectory d)).run w := by
      unfold Files.isDirectory Files.whether
      rw [if_neg hflaw]
      rfl
    have hnone : d.flaw? = none := by simpa using hflaw
    cases hd : w.isDirectory d with
    | error e =>
      rw [hd] at hasked
      rw [result_bind_of_error (congrArg Run.result hasked), documented_error_iff]
      simp [hnone, Failure.family?]
    | ok there =>
      rw [hd] at hasked
      rw [run_bind_of_quiet hasked]
      cases there with
      | false =>
        simp only [hnone, reduceCtorEq, exists_false, Except.ok.injEq, Bool.false_eq_true, false_and,
          or_self, and_false, not_false_eq_true, iff_true]
        exact documented_error_iff.mpr rfl
      | true => simpa [hnone] using documented_loadFiles_iff

end Payloads

/-! ### Override tables -/

namespace Mapping

/-- The text is read as YAML. -/
def ReadsYaml [Stack] (hint : FormatHint) (cs : List Char) : Prop :=
  hint = .yaml ∨ hint = .none ∧ ∃ e, Json.readChars cs = .error e ∧ ¬e.cause.isExcess = true

/-- The text asks for too much in the format that it is read in. -/
def Excessive [Stack] (hint : FormatHint) (cs : List Char) : Prop :=
  hint ≠ .yaml ∧ Json.Excessive cs ∨
    ReadsYaml hint cs ∧ ∃ m, Yaml.Content.ofText cs = .error m ∧ ¬m.isExpected = true

theorem documented_readYaml_iff [Stack] {origin : String} {json : Option Json.Error} {cs : List Char} :
    Documented .config (readYaml origin json cs) ↔
      ¬∃ m, Yaml.Content.ofText cs = .error m ∧ ¬m.isExpected = true := by
  unfold readYaml
  cases Yaml.Content.ofText cs with
  | ok c =>
    dsimp only
    cases c.store.entries? c.root with
    | some entries => simp [documented_ok]
    | none => simp [documented_error_iff, Failure.family?]
  | error m =>
    by_cases hm : m.isExpected = true <;> simp [documented_error_iff, hm, Failure.family?]

theorem documented_read_iff [Stack] {hint : FormatHint} (origin : String) {cs : List Char} :
    Documented .config (read hint origin cs) ↔ ¬Excessive hint cs := by
  unfold read Excessive ReadsYaml Json.Excessive
  by_cases hyaml : hint = .yaml
  · simp [hyaml, documented_readYaml_iff]
  · rw [if_neg hyaml]
    cases hr : Json.readChars cs with
    | ok v => cases v <;> simp [hyaml, documented_ok, documented_error_iff, Failure.family?]
    | error e =>
      by_cases hmuch : e.cause.isExcess = true
      · simp [hyaml, hmuch, documented_error_iff, Failure.family?_ofJson]
      · cases hint <;>
          simp_all [documented_error_iff, documented_readYaml_iff, Failure.family?]

end Mapping

namespace Overrides

/-- The entry is a pair of names. -/
def isNames : Yaml.Datum × Yaml.Item → Bool
  | (.text _, .plain (.text _)) => true
  | _ => false

/-- The first entry that is no pair of names cannot be shown either. -/
def Unshowable (m : Mapping) : Prop :=
  ∃ key item, m.entries.find? (fun e => !isNames e) = some (key, item) ∧
    (key.isOversized || (m.datum item).isOversized) = true

/-- The text asks for too much, as it is read or as what is wrong with it is shown. -/
def Excessive [Stack] (p : Path) (cs : List Char) : Prop :=
  Mapping.Excessive (hintOf p) cs ∨
    ∃ m, Mapping.read (hintOf p) p.text cs = .ok m ∧ Unshowable (innermost m)

theorem documented_refusal_iff {path : String} {key value : Yaml.Datum} :
    (refusal path key value).family? = some .config ↔
      ¬(key.isOversized || value.isOversized) = true := by
  unfold refusal
  split
  · rename_i h
    simp [h, Failure.family?]
  · rename_i h
    simp [h, Failure.family?]

theorem documented_ofMapping_iff {path : String} {m : Mapping} :
    Documented .config (ofMapping path m) ↔ ¬Unshowable m := by
  obtain ⟨store, entries⟩ := m
  unfold ofMapping Unshowable
  dsimp only
  generalize hview : Mapping.datum ⟨store, entries⟩ = view
  clear hview
  induction entries with
  | nil => simp [documented_ok, Pure.pure, Except.pure]
  | cons e entries ih =>
    rw [List.mapM_cons, List.find?_cons]
    split
    · rename_i name wanted
      refine Iff.trans ?_ ih
      generalize (List.mapM _ entries : Except Failure Overrides) = rest
      cases rest with
      | ok names => exact iff_of_true (documented_ok _) (documented_ok _)
      | error e => exact documented_error_iff.trans documented_error_iff.symm
    · rename_i key item hno
      have hn : isNames (key, item) = false := by
        unfold isNames
        split
        · rename_i name wanted he
          obtain ⟨rfl, rfl⟩ := Prod.mk.inj he
          exact absurd rfl (hno name wanted rfl)
        · rfl
      refine (documented_error_iff.trans documented_refusal_iff).trans ?_
      simp [hn]

theorem documented_ofText_iff [Stack] {p : Path} {cs : List Char} :
    Documented .config (ofText p cs) ↔ ¬Excessive p cs := by
  unfold ofText Excessive
  rw [not_or, ← Mapping.documented_read_iff p.text]
  cases Mapping.read (hintOf p) p.text cs with
  | error e => simp [Bind.bind, Except.bind, documented_error_iff]
  | ok m =>
    have h : Documented .config (ofMapping p.text (innermost m)) ↔ ¬Unshowable (innermost m) :=
      documented_ofMapping_iff
    simpa [documented_ok, Bind.bind, Except.bind] using h

/-- What comes of looking for a table at a path. -/
theorem documented_look_iff [Stack] {p : Path} {w : World} :
    Documented .config
      ((do
        if !(← Files.isFile p) then
          fail (.overridesMissing p.text)
        else
          match ← Files.read p with
          | .error e => fail (.overridesUnreadable p.text e)
          | .ok content => ofExcept (ofText p content) : Program Overrides).run w).result ↔
      ¬(w.found p).Unforeseen (Excessive p) := by
  refine (Eq.to_iff (congrArg (Documented .config) (Files.result_look rfl w))).trans ?_
  cases w.found p with
  | barred e => simp [Found.Unforeseen, documented_error_iff, Failure.family?]
  | undecodable => simp [Found.Unforeseen, documented_error_iff, Failure.family?]
  | file file =>
    cases file with
    | missing => exact iff_of_true (documented_error_iff.mpr rfl) not_false
    | unreadable e => exact iff_of_true (documented_error_iff.mpr rfl) not_false
    | text cs =>
      simp only [run_ofExcept]
      exact documented_ofText_iff

/-- A table of overrides is loaded, or it is said what is wrong with it, if its path can be resolved
and what is there is foreseen. -/
theorem documented_load_iff [Stack] {path : String} {w : World} :
    Documented .config ((load path).run w).result ↔
      ∃ p, ((Directories.expand (Path.ofText path)).run w).result = .ok p ∧
        ¬(((Directories.expand (Path.ofText path)).run w).world.found p).Unforeseen
          (Excessive p) := by
  rw [load, documented_bind_of_crashes_iff (Directories.crashes_expand _)]
  exact exists_congr fun p => and_congr_right fun _ => documented_look_iff

end Overrides

/-! ### All files -/

/-- What comes of a directory of payloads, of a table of overrides and of files of settings is
documented exactly as far as what is found there is foreseen: a question that the machine refuses,
bytes that are no text, text that asks for too much, an address that is none, and a directory that
cannot be resolved or made end in failures outside the families. -/
theorem bad_files_documented_iff [Stack] (w : World) :
    (∀ directory, Documented .introspection ((Payloads.loadSaved directory).run w).result ↔
      ¬Payloads.Astray (Path.ofText directory) w) ∧
    (∀ path, Documented .config ((Overrides.load path).run w).result ↔
      ∃ p, ((Directories.expand (Path.ofText path)).run w).result = .ok p ∧
        ¬(((Directories.expand (Path.ofText path)).run w).world.found p).Unforeseen
          (Overrides.Excessive p)) ∧
    (Documented .config (Settings.loadGlobal.run w).result ↔
      ∃ d, (Directories.config.run w).result = .ok d ∧
        ¬((Directories.config.run w).world.found (d.child Settings.globalName)).Unforeseen
          Json.Excessive) ∧
    (Documented .config (Settings.loadProject.run w).result ↔
      ¬(w.found ((World.pathOf w.workingDirectory).child Settings.projectName)).Unforeseen
        Json.Excessive) :=
  ⟨fun _ => Payloads.documented_loadSaved_iff, fun _ => Overrides.documented_load_iff,
    Settings.documented_loadGlobal_iff, Settings.documented_loadProject_iff⟩

/-- A machine on which one file of each kind holds a byte that begins no character. -/
def garbled : World :=
  { files := [(["d"], .directory), (["d", "app-info.json"], .file [0x7B, 0x7D]),
      (["d", "console.json"], .file [0xFF]), (["d", "full.json"], .file [0x7B, 0x7D]),
      (["names.json"], .file [0xFF]), (["helpspec.json"], .file [0xFF])] }

/-- The result is that some bytes are no text. -/
def isUndecodable {α : Type} : Except Failure α → Bool
  | .error .notUtf8 => true
  | _ => false

theorem eq_of_isUndecodable {α : Type} {result : Except Failure α}
    (h : isUndecodable result = true) : result = .error .notUtf8 := by
  unfold isUndecodable at h
  split at h
  · rfl
  · cases h

open Stack.Usual in
theorem result_garbled :
    ((Payloads.loadSaved "d").run garbled).result = .error .notUtf8 ∧
      ((Overrides.load "names.json").run garbled).result = .error .notUtf8 ∧
      (Settings.loadProject.run garbled).result = .error .notUtf8 :=
  ⟨eq_of_isUndecodable (by decide +kernel), eq_of_isUndecodable (by decide +kernel),
    eq_of_isUndecodable (by decide +kernel)⟩

open Stack.Usual in
/-- None of the three is told what is wrong. -/
theorem garbled_not_documented :
    ¬Documented .introspection ((Payloads.loadSaved "d").run garbled).result ∧
      ¬Documented .config ((Overrides.load "names.json").run garbled).result ∧
      ¬Documented .config (Settings.loadProject.run garbled).result := by
  obtain ⟨hsaved, hnames, hproject⟩ := result_garbled
  rw [hsaved, hnames, hproject]
  simp only [documented_error_iff]
  decide

end ServiceAtlas
