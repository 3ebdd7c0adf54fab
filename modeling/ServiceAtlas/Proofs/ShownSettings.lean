import ServiceAtlas.Proofs.MergedTables
import ServiceAtlas.Proofs.Precedence
import ServiceAtlas.Proofs.ReaderLimits
import ServiceAtlas.Proofs.SavedPayloads

/-!
Settings that are shown: the text that is printed of them is read as the table that they are shown as,
and this table in place of the project's own leads to the same settings again.
-/

namespace ServiceAtlas

/-! ### What is shown of a field -/

theorem Text.withoutHalves_eq {cs : List Char} (h : holdsHalf cs = false) :
    withoutHalves cs = cs := by
  induction cs with
  | nil => rfl
  | cons c cs ih =>
    simp only [holdsHalf, List.any_cons, Bool.or_eq_false_iff] at h
    simp only [withoutHalves, List.flatMap_cons, h.1] at ih ⊢
    rw [ih h.2]
    rfl

theorem Checked.list_text_texts (names : List String) : list text (.texts names) = .good names := by
  have hall : ∀ position, all text position (names.map Value.text) = .good names := by
    induction names with
    | nil => exact fun _ => rfl
    | cons name rest ih =>
      intro position
      rw [List.map_cons, all, ih (position + 1)]
      rfl
  exact hall 0

theorem Checked.eq_good_of_optional {α : Type} {read : Value → Checked α} {v : Value} {a : α}
    (h : optional read v = .good (some a)) : read v = .good a := by
  unfold optional at h
  split at h
  · cases h
  · obtain ⟨b, hb, he⟩ := map_eq_good_iff.mp h
    rw [hb, Option.some.inj he]

theorem StatusStyle.read_name (s : StatusStyle) : read (.text s.name) = .good s := by
  cases s with
  | range => rfl
  | exact => rfl

theorem Service.get?_toValue (s : Service) :
    ∀ f ∈ fields, ∃ v, s.toValue.get? f.key = some v ∧ f.read v = .good (f.get s) := by
  have hport : Checked.optional Checked.int (.ofOption .int s.port) = .good s.port := by
    cases s.port <;> rfl
  simp only [fields, List.forall_mem_cons, List.not_mem_nil, false_implies, implies_true, and_true]
  exact ⟨⟨_, rfl, rfl⟩, ⟨_, rfl, hport⟩, ⟨_, rfl, rfl⟩, ⟨_, rfl, rfl⟩, ⟨_, rfl, rfl⟩, ⟨_, rfl, rfl⟩,
    ⟨_, rfl, rfl⟩, ⟨_, rfl, rfl⟩, ⟨_, rfl, rfl⟩⟩

/-- None of the numbers has more digits than can be read. -/
structure Service.InLimit (s : Service) : Prop where
  port : ∀ n, s.port = some n → Text.InLimit n
  timeout : Text.InLimit s.timeout
  maxRetries : Text.InLimit s.maxRetries

theorem Generator.get?_toValue (g : Generator) :
    ∀ f ∈ fields, ∃ v, g.toValue.get? f.key = some v ∧ f.read v = .good (f.get g) := by
  have hfile : Checked.optional Checked.text (.ofOption .text g.overridesFile) =
      .good g.overridesFile := by
    cases g.overridesFile <;> rfl
  simp only [fields, List.forall_mem_cons, List.not_mem_nil, false_implies, implies_true, and_true]
  exact ⟨⟨_, rfl, rfl⟩, ⟨_, rfl, hfile⟩, ⟨_, rfl, StatusStyle.read_name _⟩, ⟨_, rfl, rfl⟩,
    ⟨_, rfl, rfl⟩, ⟨_, rfl, rfl⟩, ⟨_, rfl, rfl⟩, ⟨_, rfl, Checked.list_text_texts _⟩⟩

namespace Generator
open Table (Distinct)
variable {g : Generator}

/-- The names of the types hold no half that stands alone. -/
def WholeNames (g : Generator) : Prop := ∀ e ∈ g.overrides, Text.holdsHalf e.1.toList = false

instance : Decidable g.WholeNames := inferInstanceAs (Decidable (∀ e ∈ g.overrides, _))

theorem shownOverrides_eq (hd : Distinct g.overrides) (hwhole : g.WholeNames) :
    g.shownOverrides = g.overrides.map fun e => (e.1, .text e.2) := by
  have hnames : (g.overrides.map fun e =>
      (String.ofList (Text.withoutHalves e.1.toList), Value.text e.2)) =
        g.overrides.map fun e => (e.1, .text e.2) := by
    refine List.map_congr_left fun e he => ?_
    rw [Text.withoutHalves_eq (hwhole e he), String.ofList_toList]
  have hdistinct : Distinct (g.overrides.map fun e => (e.1, Value.text e.2)) := by
    rwa [Distinct, Table.keys_map]
  rw [shownOverrides, hnames, Table.ofEntries_eq hdistinct]

theorem text_of_mem_shownOverrides {e : String × Value} (h : e ∈ g.shownOverrides) :
    ∃ s, e.2 = .text s := by
  obtain ⟨d, _, rfl⟩ := List.mem_map.mp (Table.mem_ofEntries h)
  exact ⟨d.2, rfl⟩

end Generator

theorem Texts.wellFormed {t : Table Value} (h : Texts t) : (Value.object t).WellFormed := by
  refine ⟨h.distinct, Value.wellFormedFields_iff.mpr fun e he => ?_⟩
  obtain ⟨s, hs⟩ := h.texts e he
  rw [hs]
  trivial

namespace Settings
open Program
open Table (Distinct find?)
open Layer (overlay)

/-! ### The shown table as a layer -/

/-- The tables hold all of the settings: at each key what is read as they have it, and their names. -/
structure Parts.Shows (p : Parts) (s : Settings) : Prop where
  service : ∀ f ∈ Service.fields,
    ∃ v, find? p.service f.key = some v ∧ f.read v = .good (f.get s.service)
  generator : ∀ f ∈ Generator.fields,
    ∃ v, find? p.generator f.key = some v ∧ f.read v = .good (f.get s.generator)
  names : p.names = s.generator.overrides.map fun e => (e.1, .text e.2)

/-- The table that settings are shown as. -/
def shownTable (s : Settings) : Table Value :=
  [("service", s.service.toValue), ("generator", s.generator.toValue)]

theorem toValue_eq (s : Settings) : s.toValue = .object s.shownTable := rfl

/-- It is a layer in order that holds all of the settings. -/
theorem exists_shows {s : Settings} (hd : Distinct s.generator.overrides)
    (hwhole : s.generator.WholeNames) : ∃ p, Holds s.shownTable p ∧ p.Shows s := by
  obtain ⟨service, hservice⟩ : ∃ t, s.service.toValue = .object t := ⟨_, rfl⟩
  obtain ⟨generator, hgenerator⟩ : ∃ t, s.generator.toValue = .object t := ⟨_, rfl⟩
  have hnames : s.generator.toValue.get? Generator.overridesField.key =
      some (.object s.generator.shownOverrides) := rfl
  have hshows : Parts.Shows ⟨service, generator, s.generator.shownOverrides⟩ s := by
    refine ⟨?_, ?_, Generator.shownOverrides_eq hd hwhole⟩
    · simpa only [hservice, Value.get?] using s.service.get?_toValue
    · simpa only [hgenerator, Value.get?] using s.generator.get?_toValue
  have hfit : ∀ {ρ : Type} {fields : List (RecordField ρ)} {r : ρ} {t : Table Value},
      (∀ f ∈ fields, ∃ v, find? t f.key = some v ∧ f.read v = .good (f.get r)) →
      ∀ f ∈ fields, f.Accepts (find? t f.key) := by
    intro ρ fields r t h f hf v hv
    obtain ⟨w, hw, hread⟩ := h f hf
    obtain rfl := Option.some.inj (hw.symm.trans hv)
    exact ⟨_, hread⟩
  refine ⟨⟨service, generator, s.generator.shownOverrides⟩, ?_, hshows⟩
  exact
    { distinct := show List.Nodup ["service", "generator"] by decide
      service := hservice
      generator := hgenerator
      names := by
        rw [hgenerator, Value.get?] at hnames
        rw [Layer.part, hnames]
        rfl
      serviceFit := by
        refine ⟨?_, hfit hshows.service⟩
        cases hservice
        simp [Distinct, Table.keys]
      generatorFit := by
        refine ⟨?_, hfit hshows.generator⟩
        cases hgenerator
        simp [Distinct, Table.keys]
      texts := by
        refine ⟨?_, fun e he => Generator.text_of_mem_shownOverrides he⟩
        rw [Generator.shownOverrides_eq hd hwhole, Distinct, Table.keys_map]
        exact hd }

/-! ### Reading again -/

/-- A field finds what it found if the layer in the middle holds it as it is. -/
theorem gives_again {ρ : Type} {fields : List (RecordField ρ)} {f : RecordField ρ} {plain r : ρ}
    {lower middle shown upper : Table Value} (hflat : ∀ f ∈ fields, f.Flat)
    (hshown : RecordField.Fit fields shown) (hupper : RecordField.Fit fields upper)
    (hf : f ∈ fields) (hv : ∃ v, find? shown f.key = some v ∧ f.read v = .good (f.get r))
    (hgives : f.Gives plain (find? (overlay (overlay lower middle) upper) f.key) r) :
    f.Gives plain (find? (overlay (overlay lower shown) upper) f.key) r := by
  obtain ⟨v, hv, hread⟩ := hv
  rw [RecordField.find?_overlay_of_mem hflat hupper hf] at hgives ⊢
  cases hu : find? upper f.key with
  | some u =>
    rw [hu] at hgives
    exact hgives
  | none =>
    rw [Option.none_or, RecordField.find?_overlay_of_mem hflat hshown hf, hv]
    exact hread

theorem Parts.over_nil (p : Parts) : p.over ⟨[], [], []⟩ = p := by
  simp only [Parts.over, overlay]

/-- Settings out of four layers, the third without names and the last one empty, do not change when
all of them are shown and take the place of the second layer. -/
theorem read_again {global project environment choices shown : Table Value} {g p e d : Parts}
    {s : Settings} (hg : Holds global g) (hp : Holds project p) (he : Holds environment e)
    (hc : Holds choices ⟨[], [], []⟩) (hd : Holds shown d) (hshows : d.Shows s)
    (hnone : e.names = [])
    (hs : Settings.read (.object (combined [global, project, environment, choices])) = .good s) :
    Settings.read (.object (combined [global, shown, environment, choices])) = .good s := by
  obtain ⟨hservice, hgenerator, hnames⟩ := (hg.combined hp he hc).read_eq_good_iff.mp hs
  rw [Parts.over_nil] at hservice hgenerator hnames
  refine (hg.combined hd he hc).read_eq_good_iff.mpr ?_
  rw [Parts.over_nil]
  refine ⟨fun f hf => ?_, fun f hf => ?_, ?_⟩
  · exact gives_again Service.flat hd.serviceFit he.serviceFit hf (hshows.service f hf)
      (hservice f hf)
  · exact gives_again Generator.flat hd.generatorFit he.generatorFit hf (hshows.generator f hf)
      (hgenerator f hf)
  · have hbelow := Layer.overlayValue_below _ _ hp.texts.wellFormed hg.texts.wellFormed
    simp only [Layer.overlayValue, Value.object.injEq] at hbelow
    simp only [Parts.over, hnone, overlay] at hnames ⊢
    rw [hshows.names, ← hnames, hbelow]

/-! ### The numbers in the settings -/

namespace Saying
variable {a b : Saying}

/-- No number that is said of the service has more digits than can be read. -/
def InLimit (a : Saying) : Prop :=
  ∀ key v, a.service key = some v → v.IntsFit Text.digitLimit

theorem InLimit.or (ha : a.InLimit) (hb : b.InLimit) : (a.or b).InLimit := by
  intro key v hv
  rcases Option.or_eq_some_iff.mp hv with hv | ⟨_, hv⟩
  · exact ha key v hv
  · exact hb key v hv

theorem inLimit_ofTable {t : Table Value} (h : (Value.object t).IntsFit Text.digitLimit) :
    (ofTable t).InLimit :=
  fun _ _ hv => (h.getD "service").get? hv

theorem inLimit_direct {d : Direct} (h : ∀ n, d.port = some n → Text.InLimit n) :
    d.saying.InLimit := by
  intro key v hv
  unfold Direct.saying at hv
  dsimp only at hv
  split at hv
  · obtain ⟨n, hn, rfl⟩ := Option.map_eq_some_iff.mp hv
    exact Value.intsFit_int_iff.mpr (h n hn)
  · obtain ⟨_, _, rfl⟩ := Option.map_eq_some_iff.mp hv
    trivial
  · cases hv

theorem inLimit_of_gives {get : Service → Int} {key : String} {s : Service} (ha : a.InLimit)
    (hplain : Text.InLimit (get {}))
    (h : RecordField.Gives ⟨key, Checked.int, get⟩ {} (a.service key) s) :
    Text.InLimit (get s) := by
  unfold RecordField.Gives at h
  cases hv : a.service key with
  | none =>
    have hget : get s = get {} := by simpa only [hv] using h
    rw [hget]
    exact hplain
  | some v =>
    rw [hv] at h
    exact Checked.inLimit_int h (ha key v hv)

theorem Settles.inLimit {s : Settings} (h : a.Settles s) (ha : a.InLimit) :
    s.service.InLimit := by
  have hfields := h.service
  simp only [Service.fields, List.forall_mem_cons] at hfields
  obtain ⟨_, hport, _, _, _, htimeout, hretries, _⟩ := hfields
  refine ⟨?_, ?_, ?_⟩
  · intro n hn
    unfold RecordField.Gives at hport
    cases hv : a.service "port" with
    | none =>
      simp only [hv] at hport
      cases hn.symm.trans hport
    | some v =>
      simp only [hv, hn] at hport
      exact Checked.inLimit_int (Checked.eq_good_of_optional hport) (ha _ v hv)
  · exact inLimit_of_gives ha (Text.inLimit_of_lt (by decide)) htimeout
  · exact inLimit_of_gives ha (Text.inLimit_of_lt (by decide)) hretries

end Saying

/-! ### The printed text -/

theorem readable_service {s : Service} (h : s.InLimit) : Json.Readable 1 s.toValue := by
  have hport : Json.Readable 0 (.ofOption .int s.port) := by
    cases hp : s.port with
    | none => exact .null
    | some n => exact .int (h.port n hp)
  refine .object (by simp [Table.Distinct, Table.keys]) ?_
  simp only [List.forall_mem_cons, List.not_mem_nil, false_implies, implies_true, and_true]
  exact ⟨.text _, hport, .text _, .text _, .bool _, .int h.timeout, .int h.maxRetries, .text _,
    .text _⟩

theorem readable_generator (g : Generator) : Json.Readable 2 g.toValue := by
  have hnames : Json.Readable 1 (.object g.shownOverrides) := by
    refine .object (Table.distinct_overwrite List.nodup_nil) fun e he => ?_
    obtain ⟨s, hs⟩ := Generator.text_of_mem_shownOverrides he
    exact hs ▸ .text s
  refine .object (by simp [Table.Distinct, Table.keys]) ?_
  simp only [List.forall_mem_cons, List.not_mem_nil, false_implies, implies_true, and_true]
  exact ⟨.text _, .ofOption .text _, hnames, .text _, .bool _, .bool _, .text _, .text _, .texts _⟩

theorem readable_toValue {s : Settings} (h : s.service.InLimit) : Json.Readable 3 s.toValue := by
  refine .object (by simp [Table.Distinct, Table.keys]) ?_
  simp only [List.forall_mem_cons, List.not_mem_nil, false_implies, implies_true, and_true]
  exact ⟨(readable_service h).mono (by decide), readable_generator _⟩

/-! ### Shown and resolved again -/

section
variable {w : World} {directory : Path} {global project : File} {s : Settings}

variable [Stack]

/-- Settings are resolved only from files in order and with a good port. -/
theorem Sees.valid_of_ok {c : Choices} (h : Sees w directory global project)
    (hs : ((resolve c).run w).result = .ok s) :
    global.Valid ∧ project.Valid ∧ ¬BadPort w.environment := by
  have hg : global.Valid := by
    by_contra hbad
    obtain ⟨e, he⟩ := File.exists_error_of_not_valid hbad
    cases hs.symm.trans (h.result_of_global he)
  have hp : project.Valid := by
    by_contra hbad
    obtain ⟨e, he⟩ := File.exists_error_of_not_valid hbad
    cases hs.symm.trans (h.result_of_project hg he)
  refine ⟨hg, hp, fun hbad => ?_⟩
  obtain ⟨e, he, _⟩ := h.result_of_badPort c hg hp hbad
  cases hs.symm.trans he

theorem intsFit_table {file : File} (h : file.Valid) :
    (Value.object file.table).IntsFit Text.digitLimit := by
  cases file with
  | missing => trivial
  | unreadable e => exact h.elim
  | text cs =>
    obtain ⟨t, ht, _⟩ := h
    have hfit := Json.intsFit_readChars ht
    simpa only [File.table, ht] using hfit

omit [Stack] in
theorem inLimit_ofEnvironment (environment : Table String) :
    (Direct.ofEnvironment environment).saying.InLimit := by
  refine Saying.inLimit_direct fun n hn => ?_
  obtain ⟨raw, _, hraw⟩ := Option.bind_eq_some_iff.mp hn
  exact Text.inLimit_integer? hraw

/-- To choose nothing one by one is to choose nothing. -/
theorem resolve_plain : resolve (Direct.choices {}) = resolve {} := rfl

/-- The settings that were resolved have distinct names and no number that cannot be read. -/
theorem Sees.resolved (h : Sees w directory global project)
    (hs : ((resolve {}).run w).result = .ok s) :
    Distinct s.generator.overrides ∧ s.service.InLimit := by
  obtain ⟨hg, hp, he⟩ := h.valid_of_ok hs
  obtain ⟨t, ht, hsettles⟩ := h.settled {} hg hp he
  rw [resolve_plain] at ht
  obtain rfl := Except.ok.inj (hs.symm.trans ht)
  have hplain : (Direct.saying {}).InLimit := Saying.inLimit_direct fun n hn => nomatch hn
  have hfiles := (Saying.inLimit_ofTable (intsFit_table hp)).or
    (Saying.inLimit_ofTable (intsFit_table hg))
  exact ⟨hsettles.distinct, hsettles.inLimit (hplain.or ((inLimit_ofEnvironment _).or hfiles))⟩

omit [Stack] in
theorem validate_eq_ok_iff {origin : String} {t : Table Value} :
    validate origin t = .ok s ↔ Settings.read (.object t) = .good s := by
  unfold validate
  cases Settings.read (.object t) with
  | good r => simp [Checked.toExcept]
  | bad issues => simp [Checked.toExcept]

/-- Where the file of the project holds what is shown of settings, this table takes its place among
the layers. -/
theorem Sees.result_of_shown {cs : List Char} (h : Sees w directory global (.text cs))
    (hg : global.Valid) (he : ¬BadPort w.environment) (hread : Json.readChars cs = .ok s.toValue)
    (hgood : (Settings.read s.toValue).Good) :
    ((resolve {}).run w).result = validate "resolved settings"
      (combined [global.table, s.shownTable, (Direct.ofEnvironment w.environment).choices.layer,
        Choices.layer {}]) := by
  have htable : (File.text cs).table = s.shownTable := by
    simp only [File.table, hread, toValue_eq]
  have hvalid : (File.text cs).Valid := ⟨s.shownTable, hread, hgood⟩
  rw [h.result_resolve {} hg hvalid he, htable]

/-- Of settings that were resolved, a text is handed to the printer that is read as what is shown of
them. This in place of the file of the project leads to the same settings under the same global file and
environment, if no name holds a half that stands alone. -/
theorem resolve_of_shown (h : Sees w directory global project)
    (hs : ((resolve {}).run w).result = .ok s) (hwhole : s.generator.WholeNames) :
    (∀ console : Console, console.format = .json →
      ∃ text, console.dataText s.toValue = ⟨text, none⟩ ∧ Json.read text = .ok s.toValue) ∧
    ∀ (w' : World) (directory' : Path) (cs : List Char), Sees w' directory' global (.text cs) →
      w'.environment = w.environment → Json.readChars cs = .ok s.toValue →
      ((resolve {}).run w').result = .ok s := by
  obtain ⟨hg, hp, he⟩ := h.valid_of_ok hs
  obtain ⟨hdistinct, hlimit⟩ := h.resolved hs
  obtain ⟨d, hd, hshows⟩ := exists_shows hdistinct hwhole
  constructor
  · intro console hformat
    have hreadable := readable_toValue hlimit
    have hlevels : ∀ d, 3 ≤ Stack.levels d := fun d => Nat.le_trans (by decide) (Stack.ample d)
    have hwritten : Json.write s.toValue = .ok (Json.file s.toValue) :=
      Value.written_of_within (hreadable.within (hlevels _))
    refine ⟨Json.file s.toValue, ?_, hreadable.readChars_file (hlevels _)⟩
    unfold Console.dataText
    rw [hformat, hwritten]
    rfl
  · intro w' directory' cs h' henvironment hread
    rw [h.result_resolve {} hg hp he, validate_eq_ok_iff] at hs
    rw [h'.result_of_shown hg (by rwa [henvironment]) hread hd.good, validate_eq_ok_iff,
      henvironment]
    obtain ⟨g, hgholds⟩ := File.holds_table hg
    obtain ⟨p, hpholds⟩ := File.holds_table hp
    exact read_again hgholds hpholds (Direct.ofEnvironment _).holds (Direct.holds {}) hd hshows rfl hs

end

/-! ### Machines with names in their files -/

theorem finds_of_holds {w : World} {p : Path} {text : String} (h : w.Holds p text)
    (hr : w.refuses w.asked = none) : w.Finds p (.text (Text.unifyLines text.toList)) :=
  ⟨congrArg Run.result (Files.run_isFile_of_holds h), Files.read_of_holds h hr⟩

theorem onlyLooks_loadFile [Stack] (label : String) (p : Path) : Files.OnlyLooks (loadFile label p) := by
  refine Asks.bind (Files.onlyLooks_isFile p) fun found => ?_
  split
  · refine Asks.bind (Asks.bind (Files.onlyLooks_read p) fun outcome => ?_) fun data => ?_
    · split
      · trivial
      · split <;> trivial
    · cases validate p.text data <;> trivial
  · trivial

/-- A machine with the two texts in its files. -/
def withTexts (global project : String) : World :=
  machine [(["home", ".config", "helpspec", "config.json"], .file (Text.encode global.toList))]
    [(["work", "helpspec.json"], .file (Text.encode project.toList))]

theorem environment_withTexts (global project : String) :
    (withTexts global project).environment = [("HOME", "/home"), ("PORT", "8080")] := rfl

theorem run_config_withTexts (global project : String) :
    Directories.config.run (withTexts global project) =
      ⟨.ok homeDirectory, [], { withTexts global project with asked := 1 }⟩ := by
  rfl

theorem globalPath_eq : homeDirectory.child globalName =
    ⟨"/", ["home", ".config", "helpspec", "config.json"]⟩ := by
  decide +kernel

theorem projectPath_eq (global project : String) :
    (World.pathOf (withTexts global project).workingDirectory).child projectName =
      ⟨"/", ["work", "helpspec.json"]⟩ := by
  change (World.pathOf ["work"]).child projectName = _
  decide +kernel

/-- A file can hold the text as it is. -/
structure OfFile (text : String) : Prop where
  whole : Text.holdsHalf text.toList = false
  lines : '\r' ∉ text.toList

theorem sees_withTexts [Stack] {global project : String} (hg : OfFile global) (hp : OfFile project) :
    Sees (withTexts global project) homeDirectory (.text global.toList) (.text project.toList) := by
  have hglobal : (withTexts global project).Holds (homeDirectory.child globalName) global := by
    rw [globalPath_eq]
    exact ⟨by decide +kernel, _, by rw [Text.encode?, hg.whole]; rfl, rfl⟩
  have hproject : (withTexts global project).Holds
      ((World.pathOf (withTexts global project).workingDirectory).child projectName) project := by
    rw [projectPath_eq]
    exact ⟨by decide +kernel, _, by rw [Text.encode?, hp.whole]; rfl, rfl⟩
  have hfirst : World.SameFiles (withTexts global project)
      { withTexts global project with asked := 1 } := ⟨rfl, rfl⟩
  refine ⟨congrArg Run.result (run_config_withTexts global project), ?_, ?_⟩
  · rw [run_config_withTexts, ← Text.unifyLines_eq hg.lines]
    exact finds_of_holds (hglobal.of_same hfirst) rfl
  · have hload : loadGlobal.run (withTexts global project) =
        (loadFile "global config" (homeDirectory.child globalName)).run
          { withTexts global project with asked := 1 } :=
      run_bind_of_quiet (run_config_withTexts global project)
    have hsame := (onlyLooks_loadFile "global config" (homeDirectory.child globalName)).same
      { withTexts global project with asked := 1 }
    rw [hload, ← Text.unifyLines_eq hp.lines]
    refine finds_of_holds (hproject.of_same (hfirst.trans hsame)) ?_
    rw [World.refuses_run]
    rfl

theorem ofFile_file {v : Value} (hf : v.FloatFree)
    (hwhole : Text.holdsHalf (Json.chars .block 0 v ++ ['\n']) = false) : OfFile (Json.file v) :=
  ⟨Json.toList_file v ▸ hwhole, Json.no_return_file hf⟩

def globalNames : String :=
  "\x7b\"generator\": \x7b\"object_name_overrides\": \x7b\"B\": \"b\", \"A\": \"a\"\x7d\x7d\x7d"

def projectNames : String :=
  "\x7b\"generator\": \x7b\"object_name_overrides\": \x7b\"C\": \"c\", \"A\": \"z\"\x7d\x7d\x7d"

def named : Settings where
  service := { port := some 8080 }
  generator := { overrides := [("B", "b"), ("A", "z"), ("C", "c")] }

open Stack.Usual in
/-- The names keep their order, though the file of the project had them in another one. -/
theorem resolve_of_shown_named :
    Sees (withTexts globalNames projectNames) homeDirectory (.text globalNames.toList)
        (.text projectNames.toList) ∧
      ((resolve {}).run (withTexts globalNames projectNames)).result = .ok named ∧
      named.generator.WholeNames ∧
      ((resolve {}).run (withTexts globalNames (Json.file named.toValue))).result = .ok named := by
  have hglobal : OfFile globalNames := ⟨by decide +kernel, by decide +kernel⟩
  have hproject : OfFile projectNames := ⟨by decide +kernel, by decide +kernel⟩
  have hsees := sees_withTexts hglobal hproject
  have hresult : ((resolve {}).run (withTexts globalNames projectNames)).result = .ok named := by
    decide +kernel
  have hwhole : named.generator.WholeNames := by decide
  have hreadable := readable_toValue (hsees.resolved hresult).2
  have hshown : OfFile (Json.file named.toValue) :=
    ofFile_file hreadable.floatFree (by decide +kernel)
  have hread := hreadable.readChars_file (by decide)
  have hsame : (withTexts globalNames (Json.file named.toValue)).environment =
      (withTexts globalNames projectNames).environment :=
    (environment_withTexts ..).trans (environment_withTexts ..).symm
  refine ⟨hsees, hresult, hwhole, ?_⟩
  exact (resolve_of_shown hsees hresult hwhole).2 _ _ _ (sees_withTexts hglobal hshown) hsame hread

/-- A name that is half of a pair. -/
def halfName : String := String.ofList [Text.charOfUnit 0xD800]

/-- The global file has this name, and the one that it is shown as. -/
def globalHalves : String :=
  "\x7b\"generator\": \x7b\"object_name_overrides\": \x7b\"\\ufffd\\ufffd\\ufffd\": \"a\", \"\\ud800\": \"b\"\x7d\x7d\x7d"

def projectHalves : String :=
  "\x7b\"generator\": \x7b\"object_name_overrides\": \x7b\"\\ud800\": \"c\"\x7d\x7d\x7d"

def halved : Settings where
  service := { port := some 8080 }
  generator := { overrides := [("\uFFFD\uFFFD\uFFFD", "a"), (halfName, "c")] }

/-- What the two names become where they are shown. -/
def halvedShown : Settings where
  service := { port := some 8080 }
  generator := { overrides := [("\uFFFD\uFFFD\uFFFD", "c")] }

open Stack.Usual in
/-- With a half in a name, the table that is shown does not lead to the same settings again. -/
theorem half_name_not_kept :
    Sees (withTexts globalHalves projectHalves) homeDirectory (.text globalHalves.toList)
        (.text projectHalves.toList) ∧
      ((resolve {}).run (withTexts globalHalves projectHalves)).result = .ok halved ∧
      Sees (withTexts globalHalves (Json.file halved.toValue)) homeDirectory
        (.text globalHalves.toList) (.text (Json.file halved.toValue).toList) ∧
      (withTexts globalHalves (Json.file halved.toValue)).environment =
        (withTexts globalHalves projectHalves).environment ∧
      Json.readChars (Json.file halved.toValue).toList = .ok halved.toValue ∧
      ((resolve {}).run (withTexts globalHalves (Json.file halved.toValue))).result ≠
        .ok halved := by
  have hglobal : OfFile globalHalves := ⟨by decide +kernel, by decide +kernel⟩
  have hproject : OfFile projectHalves := ⟨by decide +kernel, by decide +kernel⟩
  have hsees := sees_withTexts hglobal hproject
  have hresult : ((resolve {}).run (withTexts globalHalves projectHalves)).result = .ok halved := by
    decide +kernel
  have hreadable := readable_toValue (hsees.resolved hresult).2
  have hshown : OfFile (Json.file halved.toValue) :=
    ofFile_file hreadable.floatFree (by decide +kernel)
  have hread := hreadable.readChars_file (by decide)
  have hagain := sees_withTexts hglobal hshown
  have hsame : (withTexts globalHalves (Json.file halved.toValue)).environment =
      (withTexts globalHalves projectHalves).environment :=
    (environment_withTexts ..).trans (environment_withTexts ..).symm
  refine ⟨hsees, hresult, hagain, hsame, hread, ?_⟩
  obtain ⟨hg, _, he⟩ := hsees.valid_of_ok hresult
  rw [environment_withTexts] at he
  have hgood : validate "shown" halved.shownTable = .ok halvedShown := by decide +kernel
  have hvalid : (Settings.read halved.toValue).Good := ⟨_, validate_eq_ok_iff.mp hgood⟩
  rw [hagain.result_of_shown hg (by rwa [environment_withTexts]) hread hvalid,
    environment_withTexts]
  decide +kernel

end Settings
end ServiceAtlas
