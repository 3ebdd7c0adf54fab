import ServiceAtlas.Proofs.DistinctKeys
import ServiceAtlas.Proofs.Overlay
import ServiceAtlas.Proofs.RecordFields

/-!
Layers of settings: what a layer says, the three tables that a layer in order holds, what these are
when another layer is laid over it, and the settings that come of them.
-/

namespace ServiceAtlas
open Table (Distinct find?)
open Layer (overlay part)

/-! ### Tables of one record -/

namespace RecordField
variable {ρ : Type} {fields : List (RecordField ρ)} {f : RecordField ρ}
  {base layer given : Table Value}

/-- A table that a record with these fields can be read from. -/
structure Fit (fields : List (RecordField ρ)) (t : Table Value) : Prop where
  distinct : Distinct t
  accepts : ∀ f ∈ fields, f.Accepts (find? t f.key)

theorem find?_overlay_of_mem (hflat : ∀ f ∈ fields, f.Flat) (h : Fit fields layer)
    (hf : f ∈ fields) :
    find? (overlay base layer) f.key = (find? layer f.key).or (find? base f.key) := by
  refine Layer.find?_overlay_of_flat h.distinct fun v hv => ?_
  cases v with
  | object t => exact absurd (h.accepts f hf _ hv) (hflat f hf t)
  | _ => rfl

/-- What can be read from either table can be read from the two. -/
theorem Fit.overlay (hflat : ∀ f ∈ fields, f.Flat) (hbase : Fit fields base)
    (hlayer : Fit fields layer) : Fit fields (overlay base layer) where
  distinct := Layer.distinct_overlay hbase.distinct
  accepts := by
    intro f hf v hv
    rw [find?_overlay_of_mem hflat hlayer hf] at hv
    rcases Option.or_eq_some_iff.mp hv with hv | ⟨_, hv⟩
    · exact hlayer.accepts f hf v hv
    · exact hbase.accepts f hf v hv

/-- A field whose default is what an empty table gives can be read from the part of its name. -/
theorem gives_iff_part {plain r : ρ} (hplain : f.read (.object []) = .good (f.get plain)) :
    f.Gives plain (find? given f.key) r ↔ f.read (part given f.key) = .good (f.get r) := by
  unfold Gives part
  cases find? given f.key with
  | none => simp [hplain, eq_comm]
  | some v => rfl

theorem accepts_iff_part (hplain : (f.read (.object [])).Good) :
    f.Accepts (find? given f.key) ↔ (f.read (part given f.key)).Good := by
  unfold Accepts part
  cases find? given f.key with
  | none => simp [hplain]
  | some v => simp

end RecordField

/-! ### Tables of names -/

/-- A table of texts. -/
structure Texts (t : Table Value) : Prop where
  distinct : Distinct t
  texts : ∀ e ∈ t, ∃ s, e.2 = .text s

namespace Texts
variable {base layer : Table Value}

theorem find?_overlay (h : Texts layer) (name : String) :
    find? (overlay base layer) name = (find? layer name).or (find? base name) := by
  refine Layer.find?_overlay_of_flat h.distinct fun v hv => ?_
  obtain ⟨s, rfl⟩ : ∃ s, v = .text s := h.texts _ (Table.mem_of_find? hv)
  rfl

theorem overlay (hbase : Texts base) (hlayer : Texts layer) : Texts (overlay base layer) where
  distinct := Layer.distinct_overlay hbase.distinct
  texts := by
    rintro ⟨name, v⟩ he
    have hv := Table.find?_of_mem (Layer.distinct_overlay hbase.distinct) he
    rw [hlayer.find?_overlay] at hv
    rcases Option.or_eq_some_iff.mp hv with hv | ⟨_, hv⟩
    · exact hlayer.texts _ (Table.mem_of_find? hv)
    · exact hbase.texts _ (Table.mem_of_find? hv)

end Texts

/-! ### Layers -/

namespace Settings

/-- What is said at the keys of the two records, and what the names are to be replaced by. -/
structure Saying where
  service : String → Option Value
  generator : String → Option Value
  name : String → Option Value

namespace Saying

/-- What either says; the first one counts where both say something. -/
def or (upper lower : Saying) : Saying where
  service key := (upper.service key).or (lower.service key)
  generator key := (upper.generator key).or (lower.generator key)
  name n := (upper.name n).or (lower.name n)

/-- What a layer says by its keys. -/
def ofTable (t : Table Value) : Saying where
  service := ((Value.object t).getD "service").get?
  generator := ((Value.object t).getD "generator").get?
  name := (((Value.object t).getD "generator").getD "object_name_overrides").get?

/-- The settings have what is said, as the fields read it, and the defaults where nothing is said;
of names they have those that are said. -/
structure Settles (a : Saying) (s : Settings) : Prop where
  service : ∀ f ∈ Service.fields, f.Gives {} (a.service f.key) s.service
  generator : ∀ f ∈ Generator.fields, f.Gives {} (a.generator f.key) s.generator
  distinct : Distinct s.generator.overrides
  names : ∀ name, (find? s.generator.overrides name).map .text = a.name name

end Saying

/-- The tables of a layer: those of the two records, and the names that the second one gives. -/
structure Parts where
  service : Table Value
  generator : Table Value
  names : Table Value

/-- A layer that is in order, and its tables. -/
structure Holds (t : Table Value) (p : Parts) : Prop where
  distinct : Distinct t
  service : part t serviceField.key = .object p.service
  generator : part t generatorField.key = .object p.generator
  names : part p.generator Generator.overridesField.key = .object p.names
  serviceFit : RecordField.Fit Service.fields p.service
  generatorFit : RecordField.Fit Generator.fields p.generator
  texts : Texts p.names

def Parts.over (base layer : Parts) : Parts :=
  ⟨overlay base.service layer.service, overlay base.generator layer.generator,
    overlay base.names layer.names⟩

/-- What the tables say at the keys that are read. -/
structure Parts.Says (p : Parts) (a : Saying) : Prop where
  service : ∀ f ∈ Service.fields, find? p.service f.key = a.service f.key
  generator : ∀ f ∈ Generator.fields, find? p.generator f.key = a.generator f.key
  name : ∀ n, find? p.names n = a.name n

variable {t base layer : Table Value} {p q : Parts} {a b : Saying}

theorem holds_nil : Holds [] ⟨[], [], []⟩ where
  distinct := List.nodup_nil
  service := rfl
  generator := rfl
  names := rfl
  serviceFit := ⟨List.nodup_nil, fun _ _ _ h => nomatch h⟩
  generatorFit := ⟨List.nodup_nil, fun _ _ _ h => nomatch h⟩
  texts := ⟨List.nodup_nil, fun _ h => nomatch h⟩

/-- A layer in order over a layer in order is in order. -/
theorem Holds.overlay (hbase : Holds base p) (hlayer : Holds layer q) :
    Holds (overlay base layer) (p.over q) where
  distinct := Layer.distinct_overlay hbase.distinct
  service :=
    Layer.part_overlay hlayer.distinct hbase.service hlayer.service hlayer.serviceFit.distinct
  generator :=
    Layer.part_overlay hlayer.distinct hbase.generator hlayer.generator hlayer.generatorFit.distinct
  names :=
    Layer.part_overlay hlayer.generatorFit.distinct hbase.names hlayer.names hlayer.texts.distinct
  serviceFit := hbase.serviceFit.overlay Service.flat hlayer.serviceFit
  generatorFit := hbase.generatorFit.overlay Generator.flat hlayer.generatorFit
  texts := hbase.texts.overlay hlayer.texts

theorem good_overrides_iff {generator : Table Value} :
    Generator.overridesField.Accepts (find? generator Generator.overridesField.key) ↔
      ∃ names, part generator Generator.overridesField.key = .object names ∧
        ∀ e ∈ names, ∃ s, e.2 = .text s :=
  (RecordField.accepts_iff_part ⟨[], rfl⟩).trans Checked.good_table_text_iff

theorem good_read_iff :
    (Settings.read (.object t)).Good ↔
      (∃ service, part t serviceField.key = .object service ∧
        (Service.readFields service).Good) ∧
      ∃ generator, part t generatorField.key = .object generator ∧
        (Generator.readFields generator).Good := by
  have hservice : (serviceField.read (.object [])).Good := ⟨{}, rfl⟩
  have hgenerator : (generatorField.read (.object [])).Good := ⟨{}, rfl⟩
  refine good_readFields_iff.trans ?_
  rw [RecordField.accepts_iff_part hservice, RecordField.accepts_iff_part hgenerator]
  exact and_congr Checked.good_record_iff Checked.good_record_iff

/-- Settings can be read from a layer in order. -/
theorem Holds.good (h : Holds t p) : (Settings.read (.object t)).Good := by
  refine good_read_iff.mpr ⟨⟨p.service, h.service, ?_⟩, p.generator, h.generator, ?_⟩
  · exact Service.good_readFields_iff.mpr h.serviceFit.accepts
  · refine Generator.good_readFields_iff.mpr ⟨?_, h.generatorFit.accepts⟩
    exact good_overrides_iff.mpr ⟨p.names, h.names, h.texts.texts⟩

/-- A table with distinct keys is in order if settings can be read from it. -/
theorem exists_holds (hw : (Value.object t).WellFormed) (h : (Settings.read (.object t)).Good) :
    ∃ p, Holds t p := by
  have hpart : ∀ {t : Table Value} (name : String), (Value.object t).WellFormed →
      (part t name).WellFormed := by
    intro t name hw
    unfold part
    cases hf : find? t name with
    | none => exact ⟨List.nodup_nil, trivial⟩
    | some v => exact hw.find? hf
  obtain ⟨⟨service, hservice, hs⟩, generator, hgenerator, hg⟩ := good_read_iff.mp h
  obtain ⟨hoverrides, hg⟩ := Generator.good_readFields_iff.mp hg
  obtain ⟨names, hnames, htexts⟩ := good_overrides_iff.mp hoverrides
  have hws : (Value.object service).WellFormed := hservice ▸ hpart serviceField.key hw
  have hwg : (Value.object generator).WellFormed := hgenerator ▸ hpart generatorField.key hw
  have hwn : (Value.object names).WellFormed := hnames ▸ hpart Generator.overridesField.key hwg
  exact ⟨⟨service, generator, names⟩,
    { distinct := hw.1
      service := hservice
      generator := hgenerator
      names := hnames
      serviceFit := ⟨hws.1, Service.good_readFields_iff.mp hs⟩
      generatorFit := ⟨hwg.1, hg⟩
      texts := ⟨hwn.1, htexts⟩ }⟩

theorem Holds.parts_say (h : Holds t p) : p.Says (.ofTable t) := by
  have hservice : ∀ key, find? p.service key = ((Value.object t).getD "service").get? key := by
    intro key
    rw [← Layer.get?_part, show part t "service" = _ from h.service]
    rfl
  have hgenerator : ∀ key,
      find? p.generator key = ((Value.object t).getD "generator").get? key := by
    intro key
    rw [← Layer.get?_part, show part t "generator" = _ from h.generator]
    rfl
  have hnames : ((Value.object t).getD "generator").getD "object_name_overrides" =
      (Value.object p.generator).getD "object_name_overrides" :=
    congrArg (fun found => found.getD Value.null) (hgenerator _).symm
  refine ⟨fun f _ => hservice f.key, fun f _ => hgenerator f.key, fun n => ?_⟩
  change _ = (((Value.object t).getD "generator").getD "object_name_overrides").get? n
  rw [hnames, ← Layer.get?_part, show part p.generator "object_name_overrides" = _ from h.names]
  rfl

/-- Where the upper layer says something, that is what the two say. -/
theorem Parts.Says.over (hp : p.Says a) (hq : q.Says b) (hlayer : Holds layer q) :
    (p.over q).Says (b.or a) := by
  refine ⟨fun f hf => ?_, fun f hf => ?_, fun n => ?_⟩
  · exact (RecordField.find?_overlay_of_mem Service.flat hlayer.serviceFit hf).trans
      (congrArg₂ Option.or (hq.service f hf) (hp.service f hf))
  · exact (RecordField.find?_overlay_of_mem Generator.flat hlayer.generatorFit hf).trans
      (congrArg₂ Option.or (hq.generator f hf) (hp.generator f hf))
  · exact (hlayer.texts.find?_overlay n).trans (congrArg₂ Option.or (hq.name n) (hp.name n))

/-- Settings are read from a layer field by field, and the names as they are. -/
theorem Holds.read_eq_good_iff {s : Settings} (h : Holds t p) :
    Settings.read (.object t) = .good s ↔
      (∀ f ∈ Service.fields, f.Gives {} (find? p.service f.key) s.service) ∧
        (∀ f ∈ Generator.fields, f.Gives {} (find? p.generator f.key) s.generator) ∧
        p.names = s.generator.overrides.map fun e => (e.1, .text e.2) := by
  refine readFields_eq_good_iff.trans ?_
  rw [RecordField.gives_iff_part rfl, h.service, RecordField.gives_iff_part rfl, h.generator]
  refine and_congr Service.readFields_eq_good_iff ?_
  change Generator.readFields p.generator = .good s.generator ↔ _
  rw [Generator.readFields_eq_good_iff, RecordField.gives_iff_part rfl, h.names, and_comm]
  exact and_congr_right' Checked.entries_text_eq_good_iff

/-- The settings that are read from a layer are those that it says. -/
theorem Holds.settles {s : Settings} (h : Holds t p) (ha : p.Says a)
    (hs : Settings.read (.object t) = .good s) : a.Settles s := by
  obtain ⟨hservice, hgenerator, hnames⟩ := h.read_eq_good_iff.mp hs
  refine ⟨fun f hf => ?_, fun f hf => ?_, ?_, fun name => ?_⟩
  · rw [← ha.service f hf]
    exact hservice f hf
  · rw [← ha.generator f hf]
    exact hgenerator f hf
  · have hd := h.texts.distinct
    rw [hnames, Distinct, Table.keys_map] at hd
    exact hd
  · rw [← ha.name name, hnames, Table.find?_map]

end Settings
end ServiceAtlas
