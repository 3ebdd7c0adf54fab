import ServiceAtlas.Proofs.WholeFiles

/-!
Files that could not be written. A write makes a new file beside its target and fills it in, step by
step, or ends before that; until the new file takes the target's name, all others are as they were.
-/

namespace ServiceAtlas
open Program

namespace FileTree
variable {t : FileTree} {place : Place} {here : Place} {p : Path}

theorem remove_of_file {bytes : Text.Bytes} (hp : t.placeOf here p = .ok place)
    (he : t.entry? place = some (.file bytes)) : t.remove here p = .ok (t.erase place) := by
  unfold remove
  rw [find_of_entry hp he]
  rfl

end FileTree

namespace World
open FileTree
variable {w : World} {f : FileTree → Except OsError FileTree}

/-- The machine does not refuse the next request on files by itself. -/
def Grants (w : World) : Prop := w.refuses w.asked = none

theorem change_of_ok {t : FileTree} (h : w.Grants) (hf : f w.files = .ok t) :
    (w.change f).1 = .ok () ∧ (w.change f).2.files = t := by
  unfold change answer
  rw [show w.refuses w.asked = none from h]
  simp only [hf, Except.map]
  exact ⟨trivial, trivial⟩

/-- A request that only tells the machine about a file changes none. -/
theorem files_change_ok (w : World) : (w.change .ok).2.files = w.files := by
  cases h : (w.change .ok).1 with
  | error e => exact files_of_answer_error h
  | ok u => exact (Except.ok.inj (change_ok h)).symm

end World

namespace Files
open FileTree

/-! ### Half-written files -/

/-- A new file is there, and all that was there before. -/
structure Pending (t : FileTree) (w : World) (file : Path) (place : Place) : Prop where
  placeOf : w.files.placeOf w.workingDirectory file = .ok place
  new : t.entry? place = none
  file : ∃ bytes, w.files.entry? place = some (.file bytes)
  others : ∀ other, other ≠ place → w.files.entry? other = t.entry? other

variable {t : FileTree} {w : World} {file target : Path} {place : Place}

theorem pending_createBeside (h : (w.handle (.createBeside target)).1 = .ok file) :
    ∃ place, Pending w.files (w.handle (.createBeside target)).2 file place ∧
      ∃ n, place.getLast? = some (target.besideName n) := by
  obtain ⟨⟨n, hfile⟩, hfree, hnew⟩ := World.createBeside_ok (World.answer_ok h)
  change w.files.writeFile w.workingDirectory file [] =
    .ok (w.handle (.createBeside target)).2.files at hnew
  obtain ⟨place, hplace, hdirectory, hfiles⟩ := writeFile_ok hnew
  refine ⟨place, ⟨?_, ?_, ⟨[], ?_⟩, fun other hother => ?_⟩, n, ?_⟩
  · rw [hfiles, (w.same_handle _).workingDirectory]
    exact (keepsDirectories_put hdirectory).placeOf hplace
  · cases he : w.files.entry? place with
    | none => rfl
    | some e =>
      rw [find_of_entry hplace he] at hfree
      cases hfree
  · rw [hfiles, entry?_put_self (ne_nil_of_not_isDirectory hdirectory)]
  · rw [hfiles, entry?_put hother]
  · subst hfile
    exact getLast?_placeOf _ (by simp [World.besidePath]) (target.besideName_ne n) hplace

/-- What changes no file leaves the half-written one as it is. -/
theorem Pending.of_files (h : Pending t w file place) {r : Request}
    (hfiles : (w.handle r).2.files = w.files) : Pending t (w.handle r).2 file place := by
  obtain ⟨hplace, hnew, hfile, hothers⟩ := h
  rw [← hfiles] at hplace hfile hothers
  exact ⟨by rw [(w.same_handle r).workingDirectory]; exact hplace, hnew, hfile, hothers⟩

theorem Pending.writeBytes (h : Pending t w file place) (bytes : Text.Bytes) :
    Pending t (w.handle (.writeBytes file bytes)).2 file place := by
  cases hanswer : (w.handle (.writeBytes file bytes)).1 with
  | error e => exact h.of_files (World.files_of_answer_error hanswer)
  | ok u =>
    obtain ⟨hplace, hnew, ⟨old, hold⟩, hothers⟩ := h
    have hwrite : w.files.writeFile w.workingDirectory file bytes =
        .ok (w.handle (.writeBytes file bytes)).2.files := World.change_ok hanswer
    obtain ⟨again, hagain, hdirectory, hfiles⟩ := writeFile_ok hwrite
    obtain rfl : place = again := Except.ok.inj (hplace.symm.trans hagain)
    refine ⟨?_, hnew, ⟨bytes, ?_⟩, fun other hother => ?_⟩
    · rw [hfiles, (w.same_handle _).workingDirectory]
      exact (keepsDirectories_put hdirectory).placeOf hplace
    · rw [hfiles, entry?_put_self (ne_nil_of_not_isDirectory hdirectory)]
    · rw [hfiles, entry?_put hother]
      exact hothers other hother

/-- The requests by which a new file gets its bytes, one after another. -/
inductive FillsIn (file : Path) (bytes : Text.Bytes) : Request → Prop
  | write : FillsIn file bytes (.writeBytes file bytes)
  | flush : FillsIn file bytes (.flush file)
  | sync : FillsIn file bytes (.sync file)
  | close : FillsIn file bytes (.close file)

theorem Pending.fillsIn (h : Pending t w file place) {bytes : Text.Bytes} {r : Request}
    (hr : FillsIn file bytes r) : Pending t (w.handle r).2 file place := by
  cases hr with
  | write => exact h.writeBytes bytes
  | flush => exact h.of_files (World.files_change_ok w)
  | sync => exact h.of_files (World.files_change_ok w)
  | close => exact h.of_files (World.files_change_ok w)

/-- A file is filled in step by step; after each the program goes on or cleans up, and the last step
gives the file its name. -/
theorem fill_induction {bytes : Text.Bytes} {P : Program (Except OsError Unit) → Prop}
    (step : ∀ r, FillsIn file bytes r → ∀ f : r.Answer → Program (Except OsError Unit),
      (∀ a, P (f a)) → P (request r >>= f))
    (abandoned : ∀ e, P (abandon file (return .error e))) (withdrawn : ∀ e, P (withdraw file e))
    (renamed : ∀ f : Except OsError Unit → Program (Except OsError Unit),
      (∀ e, f (.error e) = withdraw file e) → f (.ok ()) = pure (.ok ()) →
      P (request (.rename file target) >>= f)) :
    P (fill file target bytes) := by
  refine step _ .write _ fun written => ?_
  cases written with
  | error e => exact abandoned e
  | ok u =>
  refine step _ .flush _ fun flushed => ?_
  cases flushed with
  | error e => exact abandoned e
  | ok u =>
  refine step _ .sync _ fun synced => ?_
  cases synced with
  | error e => exact abandoned e
  | ok u =>
  refine step _ .close _ fun closed => ?_
  cases closed with
  | error e => exact withdrawn e
  | ok u => exact renamed _ (fun _ => rfl) rfl

/-- Whether or not the half-written file is taken away, nothing else is. -/
theorem Pending.remove_others (h : Pending t w file place) {other : Place} (hother : other ≠ place) :
    (w.handle (.remove file)).2.files.entry? other = t.entry? other := by
  obtain ⟨hplace, _, ⟨bytes, hfile⟩, hothers⟩ := h
  cases hanswer : (w.handle (.remove file)).1 with
  | error e =>
    have hfiles : (w.handle (.remove file)).2.files = w.files := World.files_of_answer_error hanswer
    rw [hfiles, hothers other hother]
  | ok u =>
    have hremoved : w.files.remove w.workingDirectory file = .ok (w.handle (.remove file)).2.files :=
      World.change_ok hanswer
    rw [remove_of_file hplace hfile] at hremoved
    rw [← Except.ok.inj hremoved, entry?_erase hother, hothers other hother]

/-- Once the half-written file is taken away, the tree is as it was. -/
theorem Pending.remove (h : Pending t w file place) (hgranted : w.Grants) (other : Place) :
    (w.handle (.remove file)).2.files.entry? other = t.entry? other := by
  by_cases hother : other = place
  · subst hother
    obtain ⟨hplace, hnew, ⟨bytes, hfile⟩, _⟩ := h
    have hfiles : (w.handle (.remove file)).2.files = w.files.erase other :=
      (World.change_of_ok hgranted (remove_of_file hplace hfile)).2
    have hne : other ≠ [] := by
      rintro rfl
      cases hnew
    rw [hfiles, entry?_erase_self hne, hnew]
  · exact h.remove_others hother

/-! ### Whole writes -/

/-- What is left of a write when its new file is there; a text with half a character has no bytes. -/
def pour (file target : Path) : Option Text.Bytes → Program (Except OsError Unit)
  | some bytes => fill file target bytes
  | none => abandon file (fail .halfCharacter)

/-- How a write goes on after directories were made for it. -/
def enter (target : Path) (bytes : Option Text.Bytes) :
    Except OsError Unit → Program (Except OsError Unit)
  | .error e => return .error e
  | .ok () => do
    match ← request (.createBeside target) with
    | .error e => return .error e
    | .ok file => pour file target bytes

theorem write_eq (text : String) (h : target.flaw? = none) :
    write target text = makeDirectories target.parent >>= enter target (Text.encode? text.toList) := by
  have hpass : checked target = pure () := by rw [checked, h]
  simp only [write, hpass]
  cases Text.encode? text.toList <;> rfl

/-- A write has made its new file. -/
structure Opened (target : Path) (w : World) (file : Path) (opened : World) : Prop where
  made : ((makeDirectories target.parent).run w).result = .ok (.ok ())
  flawless : target.flaw? = none
  created : ((makeDirectories target.parent).run w).world.handle (.createBeside target) =
    (.ok file, opened)

/-- A write ends without a new file; only directories came. -/
structure Stopped (target : Path) (text : String) (w : World) : Prop where
  result : ((write target text).run w).result ≠ .ok (.ok ())
  files : ((write target text).run w).world.files =
    ((makeDirectories target.parent).run w).world.files

section
variable {text : String} {opened : World}

theorem stopped_of_refused {e : OsError} {w1 : World}
    (hmade : ((makeDirectories target.parent).run w).result = .ok (.ok ()))
    (hflaw : target.flaw? = none)
    (hcreated : ((makeDirectories target.parent).run w).world.handle (.createBeside target) =
      (.error e, w1)) : Stopped target text w := by
  have hrefused : (((makeDirectories target.parent).run w).world.handle
    (.createBeside target)).1 = .error e := congrArg Prod.fst hcreated
  have hresult := result_bind_of_ok (f := enter target (Text.encode? text.toList)) hmade
  have hworld := (bind_of_ok (f := enter target (Text.encode? text.toList)) hmade).1
  rw [← write_eq text hflaw] at hresult hworld
  dsimp only [enter] at hresult hworld
  rw [run_request_bind, hcreated] at hresult hworld
  constructor
  · rw [hresult]
    exact fun h => by cases h
  · rw [hworld]
    exact (congrArg (World.files ∘ Prod.snd) hcreated.symm).trans
      (World.files_of_answer_error hrefused)

theorem opened_or_stopped (target : Path) (text : String) (w : World) :
    (∃ file opened, Opened target w file opened) ∨ Stopped target text w := by
  -- Where nothing is asked for after the directories, no new file is.
  have hstop : ((write target text).run w).result ≠ .ok (.ok ()) →
      ((write target text).run w).world = ((makeDirectories target.parent).run w).world →
      Stopped target text w := fun hresult hworld => ⟨hresult, congrArg World.files hworld⟩
  cases hmade : ((makeDirectories target.parent).run w).result with
  | error f =>
    refine .inr (hstop ?_ (bind_of_error hmade).1)
    rw [write, result_bind_of_error hmade]
    exact fun h => by cases h
  | ok made =>
  cases made with
  | error e =>
    refine .inr (hstop ?_ (bind_of_ok hmade).1)
    rw [write, result_bind_of_ok hmade]
    exact fun h => by cases h
  | ok u =>
  cases hflaw : target.flaw? with
  | some flaw =>
    obtain ⟨f, hf⟩ : ∃ f, checked target = fail f := by
      unfold checked
      rw [hflaw]
      cases flaw <;> exact ⟨_, rfl⟩
    refine .inr (hstop ?_ ?_)
    · rw [write, result_bind_of_ok hmade, hf]
      exact fun h => by cases h
    · rw [write, (bind_of_ok hmade).1, hf]
      rfl
  | none =>
  rcases hcreated : ((makeDirectories target.parent).run w).world.handle (.createBeside target) with
    ⟨e | file, w1⟩
  · exact .inr (stopped_of_refused hmade hflaw hcreated)
  · exact .inl ⟨file, w1, hmade, hflaw, hcreated⟩

theorem Opened.pending (h : Opened target w file opened) :
    ∃ place, Pending ((makeDirectories target.parent).run w).world.files opened file place ∧
      ∃ n, place.getLast? = some (target.besideName n) := by
  have hpending := pending_createBeside (congrArg Prod.fst h.created)
  rwa [h.created] at hpending

theorem Opened.comesTo (h : Opened target w file opened) (text : String) :
    (write target text).ComesTo w (pour file target (Text.encode? text.toList)) opened := by
  rw [write_eq text h.flawless]
  exact (ComesTo.bind h.made).trans (.ask h.created (.refl _ _))

end

end Files
end ServiceAtlas
