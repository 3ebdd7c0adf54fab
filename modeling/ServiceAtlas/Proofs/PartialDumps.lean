import ServiceAtlas.Proofs.SavedPayloads
import ServiceAtlas.Proofs.SparedFiles

/-!
Payloads of which not every file could be written. Each file is whole or as it was before, but the
directory is not: the files that came first are those of this run, the others are not, and the failure
is one that the program does not expect.
-/

namespace ServiceAtlas
open Program

/-! ### Files of one directory -/

/-- No name of a half-written file begins with another character than a point. -/
theorem Path.besideName_ne_of_head {name : String} (h : name.toList.head? ≠ some '.') (p : Path)
    (n : Nat) : p.besideName n ≠ name := by
  rintro rfl
  refine h ?_
  simp [besideName]

namespace World

/-- Under this name there are the same files, wherever in the tree. -/
def SameNamed (name : String) (w w' : World) : Prop :=
  ∀ (place : Place) (bytes : Text.Bytes), place.getLast? = some name →
    (w'.files.entry? place = some (.file bytes) ↔ w.files.entry? place = some (.file bytes))

theorem SameNamed.refl (name : String) (w : World) : SameNamed name w w := fun _ _ _ => .rfl

theorem SameNamed.trans {name : String} {w w' w'' : World} (h : SameNamed name w w')
    (h' : SameNamed name w' w'') : SameNamed name w w'' :=
  fun place bytes hp => (h' place bytes hp).trans (h place bytes hp)

theorem sameNamed_of_spares {w w' : World} {target : Path} {name : String}
    (h : FileTree.Spares target w.files w'.files) (hname : name.toList.head? ≠ some '.') :
    SameNamed name w w' := by
  intro place bytes hp
  rcases h place with hgrown | ⟨_, n, hn⟩
  · exact hgrown.file_iff
  · exact absurd (Option.some.inj (hn.symm.trans hp)) (target.besideName_ne_of_head hname n)

theorem Holds.of_spares {w w' : World} {target p : Path} {text : String} (hw : w.Holds p text)
    (h : FileTree.Spares target w.files w'.files) (hsame : SameSurroundings w w') :
    w'.Holds p text := by
  obtain ⟨hflaw, bytes, hbytes, hread⟩ := hw
  obtain ⟨place, hplace, hentry⟩ := FileTree.readFile_ok hread
  refine ⟨hflaw, bytes, hbytes, FileTree.readFile_of_entry ?_ (h.entry hentry)⟩
  rw [hsame.workingDirectory]
  exact h.directories.placeOf hplace

end World

namespace Files

theorem Wrote.sameNamed {w w' : World} {d : Path} {name other : String} {bytes : Text.Bytes}
    {place : Place} (h : Wrote w w' (d.entry name) bytes place) (hne : other ≠ name) :
    World.SameNamed other w w' := by
  intro q found hq
  refine (h.others q ?_).file_iff
  rintro rfl
  have hlast : q.getLast? = some name := by
    refine FileTree.getLast?_placeOf name ?_ (Path.endsInName_entry.mp h.endsInName) h.placeOf
    simp [Path.entry]
  exact hne (Option.some.inj (hq.symm.trans hlast))

theorem WroteAll.sameNamed {d : Path} {w w' : World} {files : List (String × String)}
    {other : String} (h : WroteAll d w files w') (hne : other ∉ files.map Prod.fst) :
    World.SameNamed other w w' := by
  induction h with
  | nil w => exact .refl other w
  | cons ht h hrest ih =>
    simp only [List.map_cons, List.mem_cons, not_or] at hne
    exact (h.sameNamed hne.1).trans (ih hne.2)

end Files

namespace Payloads

/-- The files `done` were written, and the next one could not be: the failure is none that the
program expects, and all entries stay as they are by then. -/
structure BrokeOff (d : Path) (w : World) (done : List (String × Table Value)) (next : String)
    (f : Failure) (w' : World) : Prop where
  crash : f.IsCrash
  written : ∃ w1, Files.WroteAll d w (done.map fun e => (e.1, Json.file (.object e.2))) w1 ∧
    World.SameSurroundings w1 w' ∧ FileTree.Spares (d.entry next) w1.files w'.files

theorem names_keptFiles (p : Payloads) :
    p.keptFiles.map Prod.fst = [appInfoName, consoleName, fullName] := rfl

section
variable [Stack]

/-- A table without a text breaks the files off before anything is asked of the machine. -/
theorem writeFiles_unwritten {d : Path} {name : String} {fields : Table Value} {g : Failure}
    (files : List (String × Table Value)) (w : World)
    (hmade : Json.write (.object fields) = .error g) :
    ((writeFiles d ((name, fields) :: files)).run w).result = .error g ∧
      BrokeOff d w [] name g ((writeFiles d ((name, fields) :: files)).run w).world := by
  have hrun : ((ofExcept (Json.write (.object fields))).run w).result = .error g := by
    rw [hmade]
    rfl
  have hcrash : g.IsCrash := by
    rcases (Value.written_error hmade).2 with rfl | rfl <;> rfl
  have hworld : ((writeFiles d ((name, fields) :: files)).run w).world = w := by
    rw [writeFiles, (bind_of_error hrun).1, run_ofExcept]
  refine ⟨result_bind_of_error hrun, hcrash, w, .nil w, ?_⟩
  rw [hworld]
  exact ⟨.refl w, fun place => .inl (.inl rfl)⟩

/-- Files that are not all written are written up to one of them. -/
theorem writeFiles_error {d : Path} {files : List (String × Table Value)} {w : World} {f : Failure}
    (hnames : ∀ e ∈ files, Path.ofText e.1 = ⟨"", [e.1]⟩)
    (h : ((writeFiles d files).run w).result = .error f) :
    ∃ done e rest, files = done ++ e :: rest ∧
      BrokeOff d w done e.1 f ((writeFiles d files).run w).world := by
  induction files generalizing w with
  | nil => cases h
  | cons first files ih =>
    obtain ⟨name, fields⟩ := first
    have hchild : d.child name = d.entry name :=
      Path.child_eq_entry (hnames _ List.mem_cons_self) d
    cases hmade : Json.write (.object fields) with
    | error g =>
      obtain ⟨hresult, hbroke⟩ := writeFiles_unwritten files w hmade
      obtain rfl := Except.error.inj (hresult.symm.trans h)
      exact ⟨[], (name, fields), files, rfl, hbroke⟩
    | ok text =>
      rw [writeFiles_of_within (Value.written_ok_iff.mp hmade).1, hchild] at h ⊢
      -- The first file is the one that breaks off, unless its write succeeds.
      have hfirst : ∀ g, ((Files.write (d.entry name) (Json.file (.object fields))).run w).result ≠
          .ok (.ok ()) → g.IsCrash → BrokeOff d w [] name g
            ((Files.write (d.entry name) (Json.file (.object fields))).run w).world :=
        fun g hne hg => ⟨hg, w, .nil w, same_run _ w, Files.spares_write hne⟩
      cases hwrite : ((Files.write (d.entry name) (Json.file (.object fields))).run w).result with
      | error g =>
        rw [result_bind_of_error hwrite] at h
        obtain rfl := Except.error.inj h
        refine ⟨[], (name, fields), files, rfl, ?_⟩
        rw [(bind_of_error hwrite).1]
        exact hfirst _ (by simp [hwrite]) ((Files.crashes_write _ _).result hwrite)
      | ok outcome =>
        rw [result_bind_of_ok hwrite] at h
        cases outcome with
        | error e =>
          obtain rfl := Except.error.inj h
          refine ⟨[], (name, fields), files, rfl, ?_⟩
          rw [(bind_of_ok hwrite).1]
          exact hfirst _ (by simp [hwrite]) rfl
        | ok u =>
          obtain ⟨bytes, place, hbytes, hwrote⟩ := Files.write_ok hwrite
          obtain ⟨done, e, rest, hfiles, hcrash, w1, hall, hsame, hspares⟩ :=
            ih (fun e he => hnames e (List.mem_cons_of_mem _ he)) h
          refine ⟨(name, fields) :: done, e, rest, by rw [hfiles]; rfl, hcrash, w1, ?_, ?_⟩
          · exact .cons hbytes hwrote hall
          · rw [(bind_of_ok hwrite).1]
            exact ⟨hsame, hspares⟩

/-- What is left of a run that kept some of the payloads' files and not the others. -/
structure HalfKept (p : Payloads) (d : Path) (w : World) (f : Failure) (w' : World) : Prop where
  crash : f.IsCrash
  split : ∃ done e rest, p.keptFiles = done ++ e :: rest ∧
    (∀ k ∈ done, w'.Holds (d.entry k.1) (Json.file (.object k.2))) ∧
    ∀ k ∈ e :: rest, World.SameNamed k.1 w w'

theorem halfKept_of_save {p : Payloads} {d : Path} {w : World} {f : Failure}
    (h : ((p.save d).run w).result = .error f) : p.HalfKept d w f ((p.save d).run w).world := by
  obtain ⟨done, e, rest, hfiles, hcrash, w1, hall, hsame, hspares⟩ :=
    writeFiles_error p.ofText_keptFiles h
  have hnodup : (done.map Prod.fst ++ (e :: rest).map Prod.fst).Nodup := by
    rw [← List.map_append, ← hfiles, names_keptFiles]
    decide
  obtain ⟨hdone, _, hapart⟩ := List.nodup_append.mp hnodup
  refine ⟨hcrash, done, e, rest, hfiles, fun k hk => ?_, fun k hk => ?_⟩
  · obtain ⟨before, after, rfl⟩ := List.append_of_mem hk
    have hlast : k.1 ∉ after.map Prod.fst := by
      rw [List.map_append, List.map_cons, List.nodup_append, List.nodup_cons] at hdone
      exact hdone.2.1.1
    rw [List.map_append, List.map_cons] at hall
    exact (hall.holds _ _ (by simpa [Function.comp_def] using hlast)).of_spares hspares hsame
  · have hother : k.1 ∉ done.map Prod.fst := fun hm =>
      hapart _ hm _ (List.mem_map_of_mem hk) rfl
    have hhead : k.1.toList.head? ≠ some '.' := by
      have hm : k.1 ∈ [appInfoName, consoleName, fullName] := by
        rw [← names_keptFiles p, hfiles]
        exact List.mem_map_of_mem (List.mem_append_right done hk)
      have hplain : ∀ name ∈ [appInfoName, consoleName, fullName],
          name.toList.head? ≠ some '.' := by decide
      exact hplain _ hm
    exact (hall.sameNamed (by simpa [Function.comp_def] using hother)).trans
      (World.sameNamed_of_spares hspares hhead)

/-! ### All or nothing -/

/-- The run ends with all files of the payloads in the directory, or with a failure that the program
expects and without a file of the payloads that was not there before. -/
def AllOrNothing (p : Payloads) (d : Path) (w : World) (result : Except Failure Unit)
    (w' : World) : Prop :=
  result = .ok () ∧ p.Kept d w' ∨
    ∃ f family, result = .error f ∧ f.family? = some family ∧
      ∀ e ∈ p.keptFiles, w'.Holds (d.entry e.1) (Json.file (.object e.2)) →
        w.Holds (d.entry e.1) (Json.file (.object e.2))

/-- All or nothing is what comes of a run exactly if all comes of it. -/
theorem allOrNothing_save_iff (p : Payloads) (d : Path) (w : World) :
    p.AllOrNothing d w ((p.save d).run w).result ((p.save d).run w).world ↔
      ((p.save d).run w).result = .ok () := by
  constructor
  · rintro (⟨hok, _⟩ | ⟨f, family, herror, hfamily, _⟩)
    · exact hok
    · have hcrash : f.family? = none := (halfKept_of_save herror).crash
      cases hcrash.symm.trans hfamily
  · exact fun hok => .inl ⟨hok, kept_of_save hok⟩

/-- What is saved, by itself or by the command that fetches it, is saved all or nothing exactly if no
write fails. After a failure, which is put on record as one that nobody expects, the files that were
written first stay beside those of an earlier run. -/
theorem dump_allOrNothing_iff (p : Payloads) :
    (∀ (d : Path) (w : World),
      (p.AllOrNothing d w ((p.save d).run w).result ((p.save d).run w).world ↔
        ((p.save d).run w).result = .ok ()) ∧
      ∀ f, ((p.save d).run w).result = .error f → p.HalfKept d w f ((p.save d).run w).world) ∧
    ∀ (directory : String) (choices : Settings.Choices) (w : World),
      ((fetched choices).run w).result = .ok p →
        (p.AllOrNothing (Path.ofText directory) ((fetched choices).run w).world
            ((Command.dumpPayloads directory choices).run w).result
            ((Command.dumpPayloads directory choices).run w).world ↔
          ((Command.dumpPayloads directory choices).run w).result = .ok ()) ∧
        ∀ f, ((Command.dumpPayloads directory choices).run w).result = .error f →
          Command.concede f = Command.recordCrash f ∧
            p.HalfKept (Path.ofText directory) ((fetched choices).run w).world f
              ((Command.dumpPayloads directory choices).run w).world := by
  refine ⟨fun d w => ⟨allOrNothing_save_iff p d w, fun f hf => halfKept_of_save hf⟩, ?_⟩
  intro directory choices w hfetched
  obtain ⟨hresult, hworld⟩ := dump_of_fetched directory hfetched
  rw [hresult, hworld]
  refine ⟨allOrNothing_save_iff p _ _, fun f hf => ?_⟩
  have hhalf := halfKept_of_save hf
  refine ⟨?_, hhalf⟩
  have hcrash : f.family? = none := hhalf.crash
  rw [Command.concede, hcrash]

end

/-- A machine with a directory in the place of the second file, and a service that tells nothing. -/
def blocked : World :=
  let nothing : Http.Outcome := .reply { status := 200, body := [0x7B, 0x7D] }
  { files := [(["d"], .directory), (["d", "console.json"], .directory)]
    rules := [⟨"/riotclient/v1/app-info", none, [nothing]⟩, ⟨"/help", none, [nothing]⟩] }

/-- What a command line says of the service. -/
def reached : Settings.Choices := { port := .int 9, secretSource := .text "value:x" }

/-- The payloads of the service that tells nothing. -/
def silent : Payloads := ⟨[], [], [], some "https://127.0.0.1:9"⟩

open Stack.Usual in
theorem result_fetched_blocked : ((fetched reached).run blocked).result = .ok silent := by
  have h : ((fetched reached).run blocked).result.toOption.map (fun p =>
      (p.console.length, p.full.length, p.appInfo.length, p.baseUrl)) =
        some (0, 0, 0, silent.baseUrl) := by
    decide +kernel
  cases hrun : ((fetched reached).run blocked).result with
  | error f =>
    rw [hrun] at h
    cases h
  | ok p =>
    obtain ⟨console, full, appInfo, address⟩ := p
    simp only [hrun, Except.toOption, Option.map_some, Option.some.injEq, Prod.mk.injEq,
      List.length_eq_zero_iff] at h
    obtain ⟨rfl, rfl, rfl, rfl⟩ := h
    rfl

/-- The error of the machine that is the result. -/
def osError? {α : Type} : Except Failure α → Option OsError
  | .error (.os e) => some e
  | _ => none

theorem eq_of_osError? {α : Type} {result : Except Failure α} {e : OsError}
    (h : osError? result = some e) : result = .error (.os e) := by
  unfold osError? at h
  split at h
  · rw [Option.some.inj h]
  · cases h

open Stack.Usual in
theorem within_silent : ∀ t ∈ [silent.keptAppInfo, silent.console, silent.full],
    (Value.object t).Within .writeJson := by
  simp only [← Value.excess?_eq_none_iff_within]
  decide +kernel

open Stack.Usual in
theorem result_dump_blocked :
    ((Command.dumpPayloads "d" reached).run blocked).result = .error (.os .isDirectory) := by
  rw [(dump_of_fetched "d" result_fetched_blocked).1, save_of_within within_silent]
  apply eq_of_osError?
  simp only [Files.write, Json.toList_file]
  decide +kernel

open Stack.Usual in
theorem blocked_halfKept :
    ((fetched reached).run blocked).result = .ok silent ∧
      ((Command.dumpPayloads "d" reached).run blocked).result = .error (.os .isDirectory) ∧
      silent.HalfKept (Path.ofText "d") ((fetched reached).run blocked).world (.os .isDirectory)
        ((Command.dumpPayloads "d" reached).run blocked).world :=
  ⟨result_fetched_blocked, result_dump_blocked,
    (((dump_allOrNothing_iff silent).2 "d" reached blocked result_fetched_blocked).2 _
      result_dump_blocked).2⟩

open Stack.Usual in
/-- The application info of the run is left behind, alone. -/
theorem blocked_not_allOrNothing :
    let before := ((fetched reached).run blocked).world
    let run := (Command.dumpPayloads "d" reached).run blocked
    let appInfo := (Path.ofText "d").entry "app-info.json"
    let text := Json.file (.object silent.keptAppInfo)
    run.world.Holds appInfo text ∧ ¬before.Holds appInfo text ∧
      ¬silent.AllOrNothing (Path.ofText "d") before run.result run.world := by
  intro before run appInfo text
  refine ⟨⟨by decide +kernel, Text.encode text.toList, ?_, ?_⟩, ?_, ?_⟩
  · simp only [text, Json.toList_file]
    decide +kernel
  · simp only [run, text, appInfo, (dump_of_fetched "d" result_fetched_blocked).2,
      save_of_within within_silent, Files.write, Json.toList_file]
    decide +kernel
  · rintro ⟨_, bytes, _, hread⟩
    have hnone : before.files.readFile before.workingDirectory appInfo = .error .notFound := by
      decide +kernel
    cases hnone.symm.trans hread
  · have hdump := dump_of_fetched "d" result_fetched_blocked
    rw [hdump.1, hdump.2, allOrNothing_save_iff, ← hdump.1, result_dump_blocked]
    exact fun h => by cases h

end Payloads
end ServiceAtlas
