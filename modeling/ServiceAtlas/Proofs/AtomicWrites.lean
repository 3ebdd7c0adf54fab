import ServiceAtlas.Proofs.FailedWrites

/-!
Writes that are whole or leave nothing, whichever of their requests are refused, as long as a
half-written file can be taken away. There are two ways out of this: a step on the open file fails and
closing it fails too, and then nobody takes it away; or a directory that the write makes on its way
comes to stand where the target should be.
-/

namespace ServiceAtlas

/-! ### Directories that are there already -/

namespace FileTree
variable {t : FileTree} {place here : Place}

/-- The way to a directory leads over directories. -/
theorem directory_on_way {p : Path} {names : List String} {q : Place}
    (hp : t.placeOf here p = .ok place) (hd : t.entry? place = some .directory)
    (hnames : names <+: p.segments) (hq : t.placeOf here ⟨p.root, names⟩ = .ok q) :
    t.entry? q = some .directory := by
  obtain ⟨rest, hrest⟩ := hnames
  have hwhole := walk_of_placeOf hp
  rw [← hrest] at hwhole
  obtain ⟨again, hagain, hlast⟩ := walk_append hwhole
  obtain rfl : q = again := Except.ok.inj ((walk_of_placeOf hq).symm.trans hagain)
  cases rest with
  | nil =>
    obtain rfl := Except.ok.inj hlast
    exact hd
  | cons name rest => simpa [isDirectory] using (walk_cons hlast).1

theorem makeDirectory_on_way {p : Path} {names : List String} {t' : FileTree}
    (hp : t.placeOf here p = .ok place) (hd : t.entry? place = some .directory)
    (hnames : names <+: p.segments) : t.makeDirectory here ⟨p.root, names⟩ ≠ .ok t' := by
  intro h
  unfold makeDirectory at h
  cases hq : t.placeOf here ⟨p.root, names⟩ with
  | error e =>
    rw [hq] at h
    cases h
  | ok q =>
    rw [hq] at h
    simp only [bind, Except.bind, directory_on_way hp hd hnames hq] at h
    cases h

end FileTree

theorem World.isDirectory_ok {w : World} {p : Path} (h : w.isDirectory p = .ok true) :
    ∃ place, w.files.placeOf w.workingDirectory p = .ok place ∧
      w.files.entry? place = some .directory := by
  unfold isDirectory probe find at h
  split at h
  · rename_i place e hfind
    obtain ⟨hplace, he⟩ := FileTree.find_ok hfind
    simp only [Except.ok.injEq, decide_eq_true_eq] at h
    exact ⟨place, hplace, h ▸ he⟩
  · cases h
  · cases h
  · cases h

open Program

namespace Files
open FileTree
variable {t : FileTree} {w : World} {file target : Path} {place : Place} {text : String}

/-- Where a directory is, none has to be made. -/
theorem files_makeDirectories {p : Path} (h : w.isDirectory p = .ok true) :
    ((makeDirectories p).run w).world.files = w.files := by
  obtain ⟨place, hplace, hd⟩ := World.isDirectory_ok h
  have hmake : ∀ names, names <+: p.segments → ∀ w' : World,
      w'.files = w.files ∧ World.SameSurroundings w w' →
      (w'.handle (.makeDirectory ⟨p.root, names⟩)).2.files = w.files ∧
        World.SameSurroundings w (w'.handle (.makeDirectory ⟨p.root, names⟩)).2 := by
    rintro names hnames w' ⟨hfiles, hsame⟩
    refine ⟨?_, hsame.trans (w'.same_handle _)⟩
    rw [← hfiles]
    cases hanswer : (w'.handle (.makeDirectory ⟨p.root, names⟩)).1 with
    | error e => exact World.files_of_answer_error hanswer
    | ok u =>
      have hmade := World.change_ok hanswer
      rw [hfiles, hsame.workingDirectory] at hmade
      exact absurd hmade (makeDirectory_on_way hplace hd hnames)
  have hkept := (asks_makeDirectories hmake fun _ _ _ hw' => hw').invariant ⟨rfl, .refl w⟩
  exact hkept.1

/-! ### The course of a write -/

/-- A step on the open file fails: the text has no bytes, or the machine refuses the write, the flush
or the sync. -/
inductive Breaks (file : Path) (w : World) : Option Text.Bytes → World → Prop
  | encode : Breaks file w none w
  | write {bytes : Text.Bytes} {e : OsError} {w1 : World}
      (hw : w.handle (.writeBytes file bytes) = (.error e, w1)) : Breaks file w (some bytes) w1
  | flush {bytes : Text.Bytes} {e : OsError} {w1 w2 : World}
      (hw : w.handle (.writeBytes file bytes) = (.ok (), w1))
      (hf : w1.handle (.flush file) = (.error e, w2)) : Breaks file w (some bytes) w2
  | sync {bytes : Text.Bytes} {e : OsError} {w1 w2 w3 : World}
      (hw : w.handle (.writeBytes file bytes) = (.ok (), w1))
      (hf : w1.handle (.flush file) = (.ok (), w2))
      (hs : w2.handle (.sync file) = (.error e, w3)) : Breaks file w (some bytes) w3

theorem Breaks.unique {bytes : Option Text.Bytes} {w1 w2 : World} (h1 : Breaks file w bytes w1)
    (h2 : Breaks file w bytes w2) : w1 = w2 := by
  cases h1 <;> cases h2 <;> simp_all

theorem Pending.handled {w1 : World} {bytes : Text.Bytes} {r : Request} {a : r.Answer}
    (h : Pending t w file place) (hr : FillsIn file bytes r) (hw : w.handle r = (a, w1)) :
    Pending t w1 file place := by
  have hkept := h.fillsIn hr
  rwa [hw] at hkept

/-- How the new file gets its text and its name, or does not. -/
inductive Course (t : FileTree) (file target : Path) (place : Place) (bytes : Option Text.Bytes)
    (w : World) : Prop
  | broken {w1 : World} {failure : Program (Except OsError Unit)} (hb : Breaks file w bytes w1)
      (hp : Pending t w1 file place) (hf : ∀ w, (failure.run w).world = w)
      (hc : (pour file target bytes).ComesTo w (abandon file failure) w1)
  | refused {w1 : World} {e : OsError} (hb : ∀ w1, ¬Breaks file w bytes w1)
      (hp : Pending t w1 file place) (hc : (pour file target bytes).ComesTo w (withdraw file e) w1)
  | done (hb : ∀ w1, ¬Breaks file w bytes w1)
      (hr : ((pour file target bytes).run w).result = .ok (.ok ()))

theorem course (target : Path) (bytes : Option Text.Bytes) (h : Pending t w file place) :
    Course t file target place bytes w := by
  -- One request after another: the first that is refused settles the course.
  cases bytes with
  | none => exact .broken .encode h (fun _ => rfl) (.refl _ _)
  | some bytes =>
  rcases hw : w.handle (.writeBytes file bytes) with ⟨_ | ⟨⟨⟩⟩, w1⟩
  · exact .broken (.write hw) (h.handled .write hw) (fun _ => rfl) (.ask hw (.refl _ _))
  have h1 := h.handled .write hw
  rcases hf : w1.handle (.flush file) with ⟨_ | ⟨⟨⟩⟩, w2⟩
  · exact .broken (.flush hw hf) (h1.handled (@FillsIn.flush file bytes) hf) (fun _ => rfl)
      (.ask hw (.ask hf (.refl _ _)))
  have h2 := h1.handled (@FillsIn.flush file bytes) hf
  rcases hs : w2.handle (.sync file) with ⟨_ | ⟨⟨⟩⟩, w3⟩
  · exact .broken (.sync hw hf hs) (h2.handled (@FillsIn.sync file bytes) hs) (fun _ => rfl)
      (.ask hw (.ask hf (.ask hs (.refl _ _))))
  have h3 := h2.handled (@FillsIn.sync file bytes) hs
  have hwhole : ∀ w', ¬Breaks file w (some bytes) w' := by
    intro w' hb
    cases hb <;> simp_all
  rcases hc : w3.handle (.close file) with ⟨_ | ⟨⟨⟩⟩, w4⟩
  · exact .refused hwhole (h3.handled (@FillsIn.close file bytes) hc)
      (.ask hw (.ask hf (.ask hs (.ask hc (.refl _ _)))))
  have h4 := h3.handled (@FillsIn.close file bytes) hc
  rcases hn : w4.handle (.rename file target) with ⟨_ | ⟨⟨⟩⟩, w5⟩
  · have hkept := h4.of_files (r := .rename file target)
      (World.files_of_answer_error (congrArg Prod.fst hn))
    rw [hn] at hkept
    exact .refused hwhole hkept (.ask hw (.ask hf (.ask hs (.ask hc (.ask hn (.refl _ _))))))
  · have hall : (pour file target (some bytes)).ComesTo w (pure (.ok ())) w5 :=
      .ask hw (.ask hf (.ask hs (.ask hc (.ask hn (.refl _ _)))))
    exact .done hwhole hall.result

theorem Pending.discarded {failure : Program (Except OsError Unit)} (h : Pending t w file place)
    (hf : ∀ w, (failure.run w).world = w) (hgranted : w.Grants) (other : Place) :
    ((do discard file; failure : Program _).run w).world.files.entry? other = t.entry? other := by
  have hworld : ((do discard file; failure : Program _).run w).world =
      (w.handle (.remove file)).2 := hf _
  rw [hworld]
  exact h.remove hgranted other

/-- The machine does not close the file either. -/
def StaysOpen (file : Path) (w : World) : Prop := ∃ e, (w.handle (.close file)).1 = .error e

/-- A write that does not succeed leaves everything as it was before its new file, unless a broken file
cannot be closed. -/
theorem undone_pour {bytes : Option Text.Bytes} (h : Pending t w file place)
    (hgranted : ∀ w' q, (w', .remove q) ∈ (pour file target bytes).steps w → w'.Grants)
    (hfailed : ((pour file target bytes).run w).result ≠ .ok (.ok ()))
    (hclosed : ∀ w1, Breaks file w bytes w1 → ¬StaysOpen file w1) (other : Place) :
    ((pour file target bytes).run w).world.files.entry? other = t.entry? other := by
  cases course target bytes h with
  | @broken w1 failure hb hp hf hc =>
    rcases hclose : w1.handle (.close file) with ⟨e | ⟨⟨⟩⟩, w2⟩
    · exact absurd ⟨e, congrArg Prod.fst hclose⟩ (hclosed w1 hb)
    · replace hp := hp.of_files (r := .close file) (World.files_change_ok w1)
      rw [hclose] at hp
      have hend : (abandon file failure).ComesTo w1 (do discard file; failure) w2 :=
        .ask hclose (.refl _ _)
      have hall := hc.trans hend
      rw [hall.world]
      exact hp.discarded hf (hgranted w2 file (hall.steps List.mem_cons_self)) other
  | @refused w1 e hb hp hc =>
    rw [hc.world]
    exact hp.discarded (fun _ => rfl) (hgranted w1 file (hc.steps List.mem_cons_self)) other
  | done hb hr => exact absurd hr hfailed

/-- A broken file that cannot be closed is left behind. -/
theorem half_pour {bytes : Option Text.Bytes} {w1 : World} (h : Pending t w file place)
    (target : Path) (hb : Breaks file w bytes w1) (hopen : StaysOpen file w1) :
    ((pour file target bytes).run w).result ≠ .ok (.ok ()) ∧
      Pending t ((pour file target bytes).run w).world file place := by
  cases course target bytes h with
  | @broken again failure hb' hp hf hc =>
    obtain rfl := hb.unique hb'
    obtain ⟨e, he⟩ := hopen
    have hend : (abandon file failure).ComesTo w1 (return .error e) (w1.handle (.close file)).2 :=
      .ask (Prod.ext he rfl) (.refl _ _)
    rw [(hc.trans hend).result, (hc.trans hend).world]
    exact ⟨nofun, hp.of_files (World.files_change_ok w1)⟩
  | refused hb' => exact absurd hb (hb' w1)
  | done hb' => exact absurd hb (hb' w1)

/-! ### Whole or nothing -/

/-- A step on the open file fails, and closing it fails after that. -/
def ClosesInVain (target : Path) (text : String) (w : World) : Prop :=
  ∃ file opened broken, Opened target w file opened ∧
    Breaks file opened (Text.encode? text.toList) broken ∧ StaysOpen file broken

/-- Among the directories that a write makes is one in the place of its target. -/
def InItsOwnWay (target : Path) (w : World) : Prop :=
  let made := ((makeDirectories target.parent).run w).world
  ∃ place, made.files.placeOf made.workingDirectory target = .ok place ∧
    w.files.entry? place = none ∧ made.files.entry? place = some .directory

/-- A file beside the target is there that was not there before. -/
def LeavesHalf (target : Path) (w w' : World) : Prop :=
  ∃ place n bytes, place.getLast? = some (target.besideName n) ∧ w.files.entry? place = none ∧
    w'.files.entry? place = some (.file bytes)

/-- A write that ends well leaves the text at the target; one that does not leaves the target as it
was. Either way nothing else is lost, and nothing else comes but directories. -/
structure WholeOrNothing (target : Path) (text : String) (w : World)
    (result : Except Failure (Except OsError Unit)) (w' : World) : Prop where
  whole : result = .ok (.ok ()) → w'.Holds target text ∧
    ∃ place, w'.files.placeOf w'.workingDirectory target = .ok place ∧
      ∀ other, other ≠ place → GrownAt w.files w'.files other
  nothing : result ≠ .ok (.ok ()) → Grown w.files w'.files ∧
    ∀ place, w'.files.placeOf w'.workingDirectory target = .ok place →
      w'.files.entry? place = w.files.entry? place

theorem undone_write (hremoves : ∀ w' q, (w', .remove q) ∈ (write target text).steps w → w'.Grants)
    (hfailed : ((write target text).run w).result ≠ .ok (.ok ()))
    (hvain : ¬ClosesInVain target text w) (other : Place) :
    ((write target text).run w).world.files.entry? other =
      ((makeDirectories target.parent).run w).world.files.entry? other := by
  rcases opened_or_stopped target text w with ⟨file, opened, h⟩ | h
  · have hc := h.comesTo text
    obtain ⟨place, hpending, _⟩ := h.pending
    rw [hc.world]
    rw [hc.result] at hfailed
    exact undone_pour hpending (fun w' q hq => hremoves w' q (hc.steps hq)) hfailed
      (fun broken hb hopen => hvain ⟨file, opened, broken, h, hb, hopen⟩) other
  · rw [h.files]

theorem half_write (h : ClosesInVain target text w) :
    ((write target text).run w).result ≠ .ok (.ok ()) ∧
      LeavesHalf target w ((write target text).run w).world := by
  obtain ⟨file, opened, broken, h, hb, hopen⟩ := h
  have hc := h.comesTo text
  obtain ⟨place, hpending, n, hname⟩ := h.pending
  obtain ⟨hne, hleft⟩ := half_pour hpending target hb hopen
  rw [← hc.result] at hne
  rw [← hc.world] at hleft
  obtain ⟨bytes, hbytes⟩ := hleft.file
  refine ⟨hne, place, n, bytes, hname, ?_, hbytes⟩
  rcases grown_makeDirectories target.parent w place with hsame | ⟨hnone, _⟩
  · exact hsame.symm.trans hpending.new
  · exact hnone

theorem Pending.directories (h : Pending t w file place) : KeepsDirectories t w.files := by
  intro other hd
  have hne : other ≠ place := by
    rintro rfl
    simp [FileTree.isDirectory, h.new] at hd
  simpa only [FileTree.isDirectory, h.others other hne] using hd

theorem not_inItsOwnWay_of_ok (hok : ((write target text).run w).result = .ok (.ok ())) :
    ¬InItsOwnWay target w := by
  rintro ⟨place, hplace, _, hthere⟩
  rcases opened_or_stopped target text w with ⟨file, opened, h⟩ | h
  · have hhere := (((makeDirectories target.parent).run w).world.same_handle
      (.createBeside target)).workingDirectory
    rw [h.created] at hhere
    obtain ⟨source, hpending, _⟩ := h.pending
    rw [(h.comesTo text).result] at hok
    cases hbytes : Text.encode? text.toList with
    | none =>
      rw [hbytes] at hok
      exact abandon_ne file (fun _ h => by cases h) _ hok
    | some bytes =>
      rw [hbytes] at hok
      obtain ⟨filled, hfilled, hrenamed⟩ := fill_ok hok
      obtain ⟨_, _, hnew, rfl⟩ := writeFile_ok hfilled
      obtain ⟨_, _, again, _, _, hagain, _, hdirectory, _⟩ := rename_ok hrenamed
      have hkept := hpending.directories.trans
        (keepsDirectories_put (e := .file bytes) hnew)
      rw [hhere] at hagain
      obtain rfl := Except.ok.inj ((hkept.placeOf hplace).symm.trans hagain)
      exact hdirectory (hkept _ (by simp [FileTree.isDirectory, hthere]))
  · exact h.result hok

/-- A write that leaves the tree as it was with its new directories leaves its target as it was, unless
one of those is in the target's place. -/
theorem nothing_iff {w' : World}
    (hsame : World.SameSurroundings ((makeDirectories target.parent).run w).world w')
    (hentries : ∀ other, w'.files.entry? other =
      ((makeDirectories target.parent).run w).world.files.entry? other) :
    (Grown w.files w'.files ∧
      ∀ place, w'.files.placeOf w'.workingDirectory target = .ok place →
        w'.files.entry? place = w.files.entry? place) ↔ ¬InItsOwnWay target w := by
  have hgrown := grown_makeDirectories target.parent w
  unfold InItsOwnWay
  generalize ((makeDirectories target.parent).run w).world = made at hsame hentries hgrown ⊢
  have hplaces : ∀ place, w'.files.placeOf w'.workingDirectory target = .ok place ↔
      made.files.placeOf made.workingDirectory target = .ok place := by
    have hdirectories : ∀ other, w'.files.isDirectory other = made.files.isDirectory other :=
      fun other => by simp only [FileTree.isDirectory, hentries other]
    intro place
    rw [hsame.workingDirectory]
    exact ⟨KeepsDirectories.placeOf fun other h => by rwa [← hdirectories other],
      KeepsDirectories.placeOf fun other h => by rwa [hdirectories other]⟩
  constructor
  · rintro ⟨_, htarget⟩ ⟨place, hplace, hnone, hthere⟩
    have hkept := htarget place ((hplaces place).mpr hplace)
    rw [hentries, hthere, hnone] at hkept
    cases hkept
  · intro hway
    refine ⟨fun place => ?_, fun place hplace => ?_⟩
    · rw [GrownAt, hentries place]
      exact hgrown place
    · rw [hentries place]
      rcases hgrown place with hkept | ⟨hnone, hthere⟩
      · exact hkept
      · exact absurd ⟨place, (hplaces place).mp hplace, hnone, hthere⟩ hway

/-- If a half-written file can be taken away, a write is whole or leaves nothing unless a broken file
cannot be closed, which leaves that file behind, or a directory on the way takes the target's place,
which cannot happen where the directory of the target is there already. -/
theorem write_wholeOrNothing_iff (target : Path) (text : String) (w : World)
    (hremoves : ∀ w' q, (w', .remove q) ∈ (write target text).steps w → w'.Grants) :
    (WholeOrNothing target text w ((write target text).run w).result
        ((write target text).run w).world ↔
      ¬ClosesInVain target text w ∧ ¬InItsOwnWay target w) ∧
    (ClosesInVain target text w → ((write target text).run w).result ≠ .ok (.ok ()) ∧
      LeavesHalf target w ((write target text).run w).world) ∧
    (w.isDirectory target.parent = .ok true → ¬InItsOwnWay target w) := by
  refine ⟨?_, half_write, fun hparent => ?_⟩
  -- A success is neither of the two; a failure that could close its file leaves the tree of the
  -- directories that were made, and then only the target's own place can have changed.
  · by_cases hok : ((write target text).run w).result = .ok (.ok ())
    · obtain ⟨bytes, place, hbytes, hwrote⟩ := write_ok hok
      refine iff_of_true ⟨fun _ => ⟨hwrote.holds hbytes, place, hwrote.placeOf, hwrote.others⟩,
        fun hne => absurd hok hne⟩ ⟨fun hvain => (half_write hvain).1 hok, ?_⟩
      exact not_inItsOwnWay_of_ok hok
    by_cases hvain : ClosesInVain target text w
    · refine iff_of_false (fun h => ?_) fun h => h.1 hvain
      obtain ⟨_, place, n, bytes, _, hnone, hleft⟩ := half_write hvain
      have hbefore := ((h.nothing hok).1 place).file_iff.mp hleft
      cases hnone.symm.trans hbefore
    · have hsame : World.SameSurroundings ((makeDirectories target.parent).run w).world
          ((write target text).run w).world := by
        have hmade := same_run (makeDirectories target.parent) w
        have hwritten := same_run (write target text) w
        exact ⟨hwritten.environment.trans hmade.environment.symm,
          hwritten.workingDirectory.trans hmade.workingDirectory.symm⟩
      have hiff := nothing_iff hsame (undone_write hremoves hok hvain)
      exact ⟨fun h => ⟨hvain, hiff.mp (h.nothing hok)⟩,
        fun h => ⟨fun hok' => absurd hok' hok, fun _ => hiff.mpr h.2⟩⟩
  · rintro ⟨place, _, hnone, hthere⟩
    rw [files_makeDirectories hparent, hnone] at hthere
    cases hthere

/-- A machine on which the disk is full when it comes to these of its requests. -/
def fullAt (numbers : List Nat) : World where
  files := [(["a.json"], .file (Text.encode "keep".toList))]
  refuses n := if n ∈ numbers then some .noSpace else none

def grantsRemoval (s : World × Request) : Bool :=
  match s.2 with
  | .remove _ => (s.1.refuses s.1.asked).isNone
  | _ => true

theorem grants_of_all {α : Type} {p : Program α} (h : (p.steps w).all grantsRemoval = true)
    (w' : World) (q : Path) (hq : (w', .remove q) ∈ p.steps w) : w'.Grants :=
  Option.isNone_iff_eq_none.mp (List.all_eq_true.mp h _ hq)

/-- The new name is refused, and the half-written file is taken away. -/
theorem write_wholeOrNothing_full :
    ((write (Path.ofText "a.json") "lost").run (fullAt [6])).result = .ok (.error .noSpace) ∧
      WholeOrNothing (Path.ofText "a.json") "lost" (fullAt [6])
        ((write (Path.ofText "a.json") "lost").run (fullAt [6])).result
        ((write (Path.ofText "a.json") "lost").run (fullAt [6])).world := by
  have hfiles : ((write (Path.ofText "a.json") "lost").run (fullAt [6])).world.files =
      (fullAt [6]).files := by decide +kernel
  obtain ⟨hiff, hhalf, hway⟩ := write_wholeOrNothing_iff (Path.ofText "a.json") "lost" (fullAt [6])
    (grants_of_all (by decide +kernel))
  refine ⟨by decide +kernel, hiff.mpr ⟨fun hvain => ?_, hway (by decide +kernel)⟩⟩
  obtain ⟨_, place, n, bytes, _, hnone, hleft⟩ := hhalf hvain
  rw [hfiles, hnone] at hleft
  cases hleft

/-- The flush and then the close are refused, and a file stays beside the target; a directory is made
in the place of a target that was not there. -/
theorem write_not_wholeOrNothing :
    ((fullAt [3, 4]).isDirectory (Path.ofText "a.json").parent = .ok true ∧
      (∀ w' q, (w', .remove q) ∈ (write (Path.ofText "a.json") "lost").steps (fullAt [3, 4]) →
        w'.Grants) ∧
      ¬WholeOrNothing (Path.ofText "a.json") "lost" (fullAt [3, 4])
        ((write (Path.ofText "a.json") "lost").run (fullAt [3, 4])).result
        ((write (Path.ofText "a.json") "lost").run (fullAt [3, 4])).world) ∧
    ((∀ w' q, (w', .remove q) ∈ (write (Path.ofText "x/../x") "t").steps {} → w'.Grants) ∧
      ¬WholeOrNothing (Path.ofText "x/../x") "t" {}
        ((write (Path.ofText "x/../x") "t").run {}).result
        ((write (Path.ofText "x/../x") "t").run {}).world) := by
  refine ⟨⟨by decide +kernel, grants_of_all (by decide +kernel), fun h => ?_⟩,
    grants_of_all (by decide +kernel), fun h => ?_⟩
  · have hleft : ((write (Path.ofText "a.json") "lost").run (fullAt [3, 4])).world.files.entry?
        [".a.json.00000000.tmp"] = some (.file (Text.encode "lost".toList)) := by decide +kernel
    have hbefore := ((h.nothing (by decide +kernel)).1 _).file_iff.mp hleft
    exact absurd hbefore (by decide +kernel)
  · have hkept := (h.nothing (by decide +kernel)).2 ["x"] (by decide +kernel)
    exact absurd hkept (by decide +kernel)

end Files
end ServiceAtlas
