import ServiceAtlas.Proofs.DirectSettings
import ServiceAtlas.Proofs.SettingsFiles

/-!
Settings out of four layers: when they are refused, and which layer each of them comes from.
-/

namespace ServiceAtlas.Settings
open Program

/-- What a program that resolves settings finds on its machine: the directory of the global file,
and the files of the two lower layers. -/
structure Sees [Stack] (w : World) (directory : Path) (global project : File) : Prop where
  place : (Directories.config.run w).result = .ok directory
  global : (Directories.config.run w).world.Finds (directory.child globalName) global
  project : (loadGlobal.run w).world.Finds
    ((World.pathOf w.workingDirectory).child projectName) project

/-- The settings are refused if a file is out of order or the port is bad, and only then. Otherwise
each of them is what the highest layer says that says anything about it. -/
structure ByPrecedence [Stack] (d : Direct) (environment : Table String) (global project : File)
    (result : Except Failure Settings) : Prop where
  refused_iff : (∃ e, result = .error e ∧ e.family? = some .config) ↔
    ¬global.Valid ∨ ¬project.Valid ∨ BadPort environment
  settled : global.Valid → project.Valid → ¬BadPort environment → ∃ s, result = .ok s ∧
    (d.saying.or ((Direct.ofEnvironment environment).saying.or
      ((Saying.ofTable project.table).or (Saying.ofTable global.table)))).Settles s

/-- Layers in order, laid over each other, are in order. -/
theorem Holds.combined {a b c d : Table Value} {p q r s : Parts} (ha : Holds a p) (hb : Holds b q)
    (hc : Holds c r) (hd : Holds d s) :
    Holds (combined [a, b, c, d]) (((p.over q).over r).over s) := by
  have hbare : Layer.overlay [] a = a := Layer.overlay_of_distinct_append ha.distinct
  have hcombined : Settings.combined [a, b, c, d] =
      Layer.overlay (Layer.overlay (Layer.overlay a b) c) d := by
    simp only [Settings.combined, List.foldl_cons, List.foldl_nil, hbare]
  rw [hcombined]
  exact ((ha.overlay hb).overlay hc).overlay hd

/-- The highest layer counts most. -/
theorem holds_combined {a b c d : Table Value} {p q r s : Parts} {sa sb sc sd : Saying}
    (ha : Holds a p) (hb : Holds b q) (hc : Holds c r) (hd : Holds d s)
    (hsa : p.Says sa) (hsb : q.Says sb) (hsc : r.Says sc) (hsd : s.Says sd) :
    ∃ parts, Holds (combined [a, b, c, d]) parts ∧ parts.Says (sd.or (sc.or (sb.or sa))) :=
  ⟨_, ha.combined hb hc hd, ((hsa.over hsb hb).over hsc hc).over hsd hd⟩

/-! ### The steps of a run -/

section
variable {w : World} {directory : Path} {global project : File}

variable [Stack]

theorem Sees.result_loadGlobal (h : Sees w directory global project) :
    (loadGlobal.run w).result = global.loaded "global config" (directory.child globalName) :=
  (result_bind_of_ok h.place).trans (result_loadFile h.global)

theorem Sees.result_loadProject (h : Sees w directory global project) :
    (loadProject.run (loadGlobal.run w).world).result =
      project.loaded "project config" ((World.pathOf w.workingDirectory).child projectName) := by
  have hplace := (same_run loadGlobal w).workingDirectory
  have hpath : (projectPath.run (loadGlobal.run w).world).result =
      .ok ((World.pathOf w.workingDirectory).child projectName) := by
    rw [← hplace]
    rfl
  exact (result_bind_of_ok hpath).trans (result_loadFile h.project)

/-- The machine on which the environment is asked. -/
def afterFiles (w : World) : World := (loadProject.run (loadGlobal.run w).world).world

theorem environment_afterFiles (w : World) : (afterFiles w).environment = w.environment := by
  have hproject := (same_run loadProject (loadGlobal.run w).world).environment
  have hglobal := (same_run loadGlobal w).environment
  rw [afterFiles, hproject, hglobal]

variable {c : Choices} {g p : Option (Table Value)}

/-- A global file that is refused ends the run. -/
theorem Sees.result_of_global {e : Failure} (h : Sees w directory global project)
    (hload : global.loaded "global config" (directory.child globalName) = .error e) :
    ((resolve c).run w).result = .error e :=
  result_bind_of_error (h.result_loadGlobal.trans hload)

/-- After a global file in order, a file of the project that is refused ends the run. -/
theorem Sees.result_of_project {e : Failure} (h : Sees w directory global project)
    (hg : global.Valid)
    (hload : project.loaded "project config" ((World.pathOf w.workingDirectory).child projectName) =
      .error e) :
    ((resolve c).run w).result = .error e := by
  obtain ⟨g, hgload, _⟩ := File.loaded_of_valid hg
  exact (result_bind_of_ok (h.result_loadGlobal.trans hgload)).trans
    (result_bind_of_error (h.result_loadProject.trans hload))

theorem result_resolve_of_files (hg : (loadGlobal.run w).result = .ok g)
    (hp : (loadProject.run (loadGlobal.run w).world).result = .ok p) :
    ((resolve c).run w).result = ((environmentLayer >>= fun environment =>
      ofExcept (validate "resolved settings"
        (combined [g.getD [], p.getD [], environment, c.layer]))).run (afterFiles w)).result :=
  (result_bind_of_ok hg).trans (result_bind_of_ok hp)

end

/-! ### The settings -/

section
variable {d : Direct} {environment : Table String} {global project : File}
  {result : Except Failure Settings}

theorem byPrecedence_of_refused [Stack] (hbad : ¬global.Valid ∨ ¬project.Valid ∨ BadPort environment)
    (h : ∃ e, result = .error e ∧ e.family? = some .config) :
    ByPrecedence d environment global project result := by
  refine ⟨iff_of_true h hbad, fun hg hp he => ?_⟩
  rcases hbad with hbad | hbad | hbad
  · exact absurd hg hbad
  · exact absurd hp hbad
  · exact absurd hbad he

/-- A failure outside every family is not what a file out of order comes to. -/
theorem not_byPrecedence_of_unexpected [Stack] (hbad : ¬global.Valid ∨ ¬project.Valid)
    (h : ∃ e, result = .error e ∧ e.family? = none) :
    ¬ByPrecedence d environment global project result := by
  intro hall
  obtain ⟨e, he, hnone⟩ := h
  obtain ⟨e', he', hconfig⟩ := hall.refused_iff.mpr (hbad.imp_right Or.inl)
  obtain rfl : e = e' := Except.error.inj (he.symm.trans he')
  cases hnone.symm.trans hconfig

end

section
variable {w : World} {directory : Path} {global project : File}

variable [Stack]

/-- After files in order, a bad port ends the run. -/
theorem Sees.result_of_badPort (h : Sees w directory global project) (c : Choices)
    (hg : global.Valid) (hp : project.Valid) (he : BadPort w.environment) :
    ∃ e, ((resolve c).run w).result = .error e ∧ e.family? = some .config := by
  obtain ⟨g, hgload, _⟩ := File.loaded_of_valid hg
  obtain ⟨p, hpload, _⟩ := File.loaded_of_valid hp
  have hafter : BadPort (afterFiles w).environment := by rwa [environment_afterFiles]
  obtain ⟨e, hlayer, hfamily⟩ := result_environmentLayer_of_badPort hafter
  refine ⟨e, ?_, hfamily⟩
  exact (result_resolve_of_files (h.result_loadGlobal.trans hgload)
    (h.result_loadProject.trans hpload)).trans (result_bind_of_error hlayer)

/-- With files in order and a good port, the layers are laid over each other and read. -/
theorem Sees.result_resolve (h : Sees w directory global project) (c : Choices) (hg : global.Valid)
    (hp : project.Valid) (he : ¬BadPort w.environment) :
    ((resolve c).run w).result = validate "resolved settings"
      (combined [global.table, project.table, (Direct.ofEnvironment w.environment).choices.layer,
        c.layer]) := by
  obtain ⟨g, hgload, hgtable⟩ := File.loaded_of_valid hg
  obtain ⟨p, hpload, hptable⟩ := File.loaded_of_valid hp
  have hresult := result_resolve_of_files (c := c) (h.result_loadGlobal.trans hgload)
    (h.result_loadProject.trans hpload)
  have henvironment := run_environmentLayer (w := afterFiles w) (by rwa [environment_afterFiles])
  rw [environment_afterFiles] at henvironment
  rw [run_bind_of_quiet henvironment, run_ofExcept, hgtable, hptable] at hresult
  exact hresult

/-- Files in order and a good port are all that it takes. -/
theorem Sees.settled (h : Sees w directory global project) (d : Direct) (hg : global.Valid)
    (hp : project.Valid) (he : ¬BadPort w.environment) :
    ∃ s, ((resolve d.choices).run w).result = .ok s ∧
      (d.saying.or ((Direct.ofEnvironment w.environment).saying.or
        ((Saying.ofTable project.table).or (Saying.ofTable global.table)))).Settles s := by
  obtain ⟨gparts, hgholds⟩ := File.holds_table hg
  obtain ⟨pparts, hpholds⟩ := File.holds_table hp
  obtain ⟨parts, hholds, hsays⟩ := holds_combined hgholds hpholds
    (Direct.ofEnvironment w.environment).holds d.holds hgholds.parts_say hpholds.parts_say
    (Direct.ofEnvironment w.environment).parts_say d.parts_say
  obtain ⟨s, hs⟩ := hholds.good
  exact ⟨s, (h.result_resolve d.choices hg hp he).trans (validate_of_good hs),
    hholds.settles hsays hs⟩

theorem Sees.byPrecedence (h : Sees w directory global project) (d : Direct)
    (hglobal : ¬global.AsksTooMuch) (hproject : global.Valid → ¬project.AsksTooMuch) :
    ByPrecedence d w.environment global project ((resolve d.choices).run w).result := by
  by_cases hg : global.Valid
  case neg =>
    obtain ⟨e, hload, hfamily⟩ := File.loaded_of_not_valid hg hglobal
    exact byPrecedence_of_refused (.inl hg) ⟨e, h.result_of_global hload, hfamily⟩
  by_cases hp : project.Valid
  case neg =>
    obtain ⟨e, hload, hfamily⟩ := File.loaded_of_not_valid hp (hproject hg)
    exact byPrecedence_of_refused (.inr (.inl hp)) ⟨e, h.result_of_project hg hload, hfamily⟩
  by_cases he : BadPort w.environment
  case pos =>
    exact byPrecedence_of_refused (.inr (.inr he)) (h.result_of_badPort d.choices hg hp he)
  have hsettled := h.settled d hg hp he
  refine ⟨?_, fun _ _ _ => hsettled⟩
  obtain ⟨s, hs, _⟩ := hsettled
  refine iff_of_false ?_ (by simp [hg, hp, he])
  rintro ⟨e, hresult, _⟩
  cases hs.symm.trans hresult

theorem Sees.unexpected (h : Sees w directory global project) (c : Choices)
    (hmuch : global.AsksTooMuch ∨ global.Valid ∧ project.AsksTooMuch) :
    ∃ e, ((resolve c).run w).result = .error e ∧ e.family? = none := by
  rcases hmuch with hmuch | ⟨hg, hmuch⟩
  · obtain ⟨e, hload, hfamily⟩ := File.loaded_of_asksTooMuch hmuch
    exact ⟨e, h.result_of_global hload, hfamily⟩
  · obtain ⟨e, hload, hfamily⟩ := File.loaded_of_asksTooMuch hmuch
    exact ⟨e, h.result_of_project hg hload, hfamily⟩

/-- Settings are refused and found by precedence exactly if no file that is read asks for too
much. -/
theorem resolve_byPrecedence_iff (h : Sees w directory global project) (d : Direct) :
    ByPrecedence d w.environment global project ((resolve d.choices).run w).result ↔
      ¬global.AsksTooMuch ∧ (global.Valid → ¬project.AsksTooMuch) := by
  constructor
  · intro hall
    refine ⟨fun hmuch => ?_, fun hg hmuch => ?_⟩
    · exact not_byPrecedence_of_unexpected (.inl (File.not_valid_of_asksTooMuch hmuch))
        (h.unexpected d.choices (.inl hmuch)) hall
    · exact not_byPrecedence_of_unexpected (.inr (File.not_valid_of_asksTooMuch hmuch))
        (h.unexpected d.choices (.inr ⟨hg, hmuch⟩)) hall
  · rintro ⟨hglobal, hproject⟩
    exact h.byPrecedence d hglobal hproject

end

/-! ### Two machines -/

instance decidableSees [Stack] (w : World) (directory : Path) (global project : File) :
    Decidable (Sees w directory global project) :=
  decidable_of_iff
    ((Directories.config.run w).result = .ok directory ∧
      (Directories.config.run w).world.Finds (directory.child globalName) global ∧
      (loadGlobal.run w).world.Finds ((World.pathOf w.workingDirectory).child projectName) project)
    ⟨fun ⟨hplace, hglobal, hproject⟩ => ⟨hplace, hglobal, hproject⟩,
      fun ⟨hplace, hglobal, hproject⟩ => ⟨hplace, hglobal, hproject⟩⟩

/-- Where the settings of the home are. -/
def homeDirectory : Path := ⟨"/", ["home", ".config", "helpspec"]⟩

/-- A machine with these files in the directory of the settings and in the working directory. -/
def machine (global project : List (Place × Entry)) : World where
  files :=
    [(["home"], .directory), (["home", ".config"], .directory),
      (["home", ".config", "helpspec"], .directory), (["work"], .directory)] ++ global ++ project
  workingDirectory := ["work"]
  environment := [("HOME", "/home"), ("PORT", "8080")]

def globalText : List Char := "\x7b\"service\": \x7b\"host\": \"h\", \"port\": 5\x7d\x7d".toList

def projectText : List Char := "\x7b\"service\": \x7b\"port\": \"7\"\x7d\x7d".toList

/-- A machine with both files. -/
def layered : World :=
  machine [(["home", ".config", "helpspec", "config.json"], .file (Text.encode globalText))]
    [(["work", "helpspec.json"], .file (Text.encode projectText))]

open Stack.Usual in
theorem sees_layered : Sees layered homeDirectory (.text globalText) (.text projectText) := by
  decide +kernel

open Stack.Usual in
theorem resolve_byPrecedence_layered :
    Sees layered homeDirectory (.text globalText) (.text projectText) ∧
      ByPrecedence { output := some "o.json" } layered.environment (.text globalText)
        (.text projectText)
        ((resolve (Direct.choices { output := some "o.json" })).run layered).result := by
  refine ⟨sees_layered, (resolve_byPrecedence_iff sees_layered _).mpr ⟨?_, fun _ => ?_⟩⟩
  · decide +kernel
  · decide +kernel

open Stack.Usual in
example :
    ((resolve (Direct.choices { output := some "o.json" })).run layered).result.toOption.map
      (fun s => (s.service.host, s.service.port, s.generator.output)) =
        some ("h", some 8080, "o.json") := by
  decide +kernel

/-- A machine without a global file and with the text in the file of the project. -/
def withProject (cs : List Char) : World :=
  machine [] [(["work", "helpspec.json"], .file (Text.encode cs))]

/-- To look for the directory leaves the machine as it is, but for the count of requests. -/
theorem run_config_withProject (cs : List Char) :
    Directories.config.run (withProject cs) =
      ⟨.ok homeDirectory, [], { withProject cs with asked := 1 }⟩ := by
  rfl

theorem sees_withProject [Stack] {cs : List Char} (hline : '\r' ∉ cs) :
    Sees (withProject cs) homeDirectory .missing (.text cs) := by
  have hglobal : homeDirectory.child globalName =
      ⟨"/", ["home", ".config", "helpspec", "config.json"]⟩ := by
    decide +kernel
  have hproject : (World.pathOf (withProject cs).workingDirectory).child projectName =
      ⟨"/", ["work", "helpspec.json"]⟩ := by
    change (World.pathOf ["work"]).child projectName = _
    decide +kernel
  have hload : loadGlobal.run (withProject cs) =
      ⟨.ok none, [], { withProject cs with asked := 1 }⟩ := by
    refine (run_bind_of_quiet (run_config_withProject cs)).trans ?_
    rw [hglobal]
    rfl
  refine ⟨congrArg Run.result (run_config_withProject cs), ?_, ?_⟩
  · rw [run_config_withProject, hglobal]
    rfl
  · rw [hload, hproject]
    have hbytes : ({ withProject cs with asked := 1 }.handle
        (.readFile ⟨"/", ["work", "helpspec.json"]⟩)).1 = .ok (Text.encode cs) := rfl
    have hread := Files.result_read hbytes (Text.decode_encode cs)
    rw [Text.unifyLines_eq hline] at hread
    exact ⟨rfl, hread⟩

/-- A number of one digit more than can be read. -/
def overlong : List Char := List.replicate (Text.digitLimit + 1) '1'

open Stack.Usual in
theorem overlong_not_byPrecedence :
    Sees (withProject overlong) homeDirectory .missing (.text overlong) ∧
      ((resolve (Direct.choices {})).run (withProject overlong)).result = .error .numberTooLong ∧
      ¬ByPrecedence {} (withProject overlong).environment .missing (.text overlong)
        ((resolve (Direct.choices {})).run (withProject overlong)).result := by
  have hdigit : ∀ c ∈ List.replicate Text.digitLimit '1', c.isDigit = true := by
    intro c hc
    rw [List.eq_of_mem_replicate hc]
    rfl
  have hsees : Sees (withProject overlong) homeDirectory .missing (.text overlong) := by
    refine sees_withProject fun hm => ?_
    cases List.eq_of_mem_replicate hm
  obtain ⟨e, hread, hcause⟩ := Json.readChars_of_digits hdigit
    (List.length_replicate ▸ Nat.le_refl Text.digitLimit)
  have hread : Json.readChars overlong = .error e := hread
  have hmuch : (File.text overlong).AsksTooMuch := ⟨e, hread, by rw [hcause]; rfl⟩
  have hload : ∀ (label : String) (p : Path),
      (File.text overlong).loaded label p = .error .numberTooLong := by
    intro label p
    simp only [File.loaded, hread, Failure.ofJson, hcause]
  refine ⟨hsees, ?_, ?_⟩
  · exact hsees.result_of_project trivial (hload _ _)
  · exact not_byPrecedence_of_unexpected (.inr (File.not_valid_of_asksTooMuch hmuch))
      (hsees.unexpected _ (.inr ⟨trivial, hmuch⟩))

end ServiceAtlas.Settings
