import ServiceAtlas.Proofs.FailedWrites

/-!
What a write that fails leaves behind, whatever the machine refuses. No entry is lost, the target least
of all, and at most a half-written file stays; the failure is one that the program does not expect.
-/

namespace ServiceAtlas
open Program

namespace Files

theorem crashes_checked (p : Path) : (checked p).Fails Failure.IsCrash := by
  unfold checked
  split
  · trivial
  · rfl
  · rfl

theorem crashes_makeOne (p : Path) : (makeOne p).Fails Failure.IsCrash := by
  have hsettled : ∀ e, (settled p e).Fails Failure.IsCrash := by
    intro e answer
    match answer with
    | .ok true | .ok false | .error _ => trivial
  intro answer
  match answer with
  | .ok () | .error .notFound => trivial
  | .error .notDirectory | .error .isDirectory | .error .alreadyExists | .error .noSpace
  | .error (.other _ _) => exact hsettled _

theorem crashes_makeUp (root : String) (up : List String) :
    (makeUp root up).Fails Failure.IsCrash := by
  induction up with
  | nil => exact crashes_makeOne _
  | cons name up ih =>
    refine (crashes_makeOne _).bind fun outcome => ?_
    split
    · refine ih.bind fun outcome => ?_
      split
      · exact crashes_makeOne _
      · trivial
    · trivial

theorem crashes_makeDirectories (p : Path) : (makeDirectories p).Fails Failure.IsCrash :=
  (crashes_checked p).bind fun _ => crashes_makeUp _ _

theorem crashes_abandon (file : Path) {failure : Program (Except OsError Unit)}
    (hf : failure.Fails Failure.IsCrash) : (abandon file failure).Fails Failure.IsCrash := by
  intro answer
  cases answer with
  | error e => trivial
  | ok u => exact fun _ => hf

theorem crashes_fill (file target : Path) (bytes : Text.Bytes) :
    (fill file target bytes).Fails Failure.IsCrash := by
  refine fill_induction (fun r _ f hf => hf) (fun e => crashes_abandon file trivial)
    (fun e _ => trivial) ?_
  intro f herror hok answer
  change (f answer).Fails _
  cases answer with
  | error e =>
    rw [herror]
    exact fun _ => trivial
  | ok u =>
    rw [hok]
    trivial

/-- A write that fails does so in a way that the program does not expect. -/
theorem crashes_write (target : Path) (text : String) :
    (write target text).Fails Failure.IsCrash := by
  refine (crashes_makeDirectories _).bind fun made => ?_
  cases made with
  | error e => trivial
  | ok u =>
    refine (crashes_checked target).bind fun _ => ?_
    refine Fails.bind (p := request _) (fun _ => trivial) fun created => ?_
    cases created with
    | error e => trivial
    | ok file =>
      dsimp only
      split
      · exact crashes_fill _ _ _
      · exact crashes_abandon _ rfl

end Files

/-! ### What a write that fails leaves behind -/

namespace FileTree
variable {t t' : FileTree} {place : Place} {target : Path}

/-- All entries stay. What comes are directories, and files with a name of the kind that half-written
files beside the target have. -/
def Spares (target : Path) (t t' : FileTree) : Prop :=
  ∀ place, GrownAt t t' place ∨
    t.entry? place = none ∧ ∃ n, place.getLast? = some (target.besideName n)

theorem Grown.spares (h : Grown t t') : Spares target t t' := fun place => .inl (h place)

theorem Grown.trans_spares {t'' : FileTree} (h : Grown t t') (h' : Spares target t' t'') :
    Spares target t t'' := by
  intro place
  rcases h' place with hgrown | ⟨hnone, hname⟩
  · exact .inl ((h place).trans hgrown)
  · rcases h place with hsame | ⟨hnew, _⟩
    · exact .inr ⟨hsame.symm.trans hnone, hname⟩
    · exact .inr ⟨hnew, hname⟩

theorem Spares.entry (h : Spares target t t') {e : Entry} (he : t.entry? place = some e) :
    t'.entry? place = some e := by
  rcases h place with hgrown | ⟨hnone, _⟩
  · exact hgrown.entry he
  · cases hnone.symm.trans he

theorem Spares.directories (h : Spares target t t') : KeepsDirectories t t' := by
  intro place hd
  simp only [isDirectory, decide_eq_true_eq] at hd ⊢
  exact h.entry hd

end FileTree

namespace Files
open FileTree
variable {t : FileTree} {w : World} {file target : Path} {place : Place}

/-- Unless the program succeeds, it changes nothing but the half-written file. -/
def KeepsOthers (t : FileTree) (file : Path) (place : Place)
    (p : Program (Except OsError Unit)) : Prop :=
  ∀ w, Pending t w file place → (p.run w).result ≠ .ok (.ok ()) →
    ∀ other, other ≠ place → (p.run w).world.files.entry? other = t.entry? other

theorem keepsOthers_discard {failure : Program (Except OsError Unit)}
    (hf : ∀ w, (failure.run w).world = w) :
    KeepsOthers t file place (do discard file; failure) := by
  intro w h _ other hother
  have hworld : (((do discard file; failure) : Program _).run w).world =
      (w.handle (.remove file)).2 := hf _
  rw [hworld]
  exact h.remove_others hother

theorem keepsOthers_abandon {failure : Program (Except OsError Unit)}
    (hf : ∀ w, (failure.run w).world = w) : KeepsOthers t file place (abandon file failure) := by
  intro w h hne other hother
  have hclosed := h.of_files (r := .close file) (World.files_change_ok w)
  rw [abandon, run_request_bind] at hne ⊢
  cases hanswer : (w.handle (.close file)).1 with
  | error e => exact hclosed.others other hother
  | ok u =>
    rw [hanswer] at hne
    exact keepsOthers_discard hf _ hclosed hne other hother

theorem keepsOthers_fill (target : Path) (bytes : Text.Bytes) :
    KeepsOthers t file place (fill file target bytes) := by
  refine fill_induction ?_ (fun e => keepsOthers_abandon fun _ => rfl)
    (fun e => keepsOthers_discard fun _ => rfl) ?_
  · intro r hr f hf w h hne other hother
    exact hf _ _ (h.fillsIn hr) hne other hother
  · intro f herror hok w h hne other hother
    rw [run_request_bind] at hne ⊢
    cases hrenamed : (w.handle (.rename file target)).1 with
    | error refusal =>
      have hkept := h.of_files (r := .rename file target) (World.files_of_answer_error hrenamed)
      rw [hrenamed, herror] at hne
      rw [herror]
      exact keepsOthers_discard (fun _ => rfl) _ hkept hne other hother
    | ok u =>
      rw [hrenamed, hok] at hne
      exact absurd rfl hne

theorem keepsOthers_pour (target : Path) (bytes : Option Text.Bytes) :
    KeepsOthers t file place (pour file target bytes) := by
  cases bytes with
  | some bytes => exact keepsOthers_fill target bytes
  | none => exact keepsOthers_abandon fun _ => rfl

/-- A write that does not succeed leaves every entry as it was, the target with them. At most a
half-written file with a name of its own stays behind. -/
theorem spares_write {text : String} (hne : ((write target text).run w).result ≠ .ok (.ok ())) :
    Spares target w.files ((write target text).run w).world.files := by
  have hgrown := grown_makeDirectories target.parent w
  rcases opened_or_stopped target text w with ⟨file, opened, h⟩ | h
  · obtain ⟨place, hpending, hname⟩ := h.pending
    rw [(h.comesTo text).result] at hne
    rw [(h.comesTo text).world]
    refine hgrown.trans_spares fun other => ?_
    by_cases hother : other = place
    · subst hother
      exact .inr ⟨hpending.new, hname⟩
    · exact .inl (.inl (keepsOthers_pour target _ _ hpending hne other hother))
  · rw [h.files]
    exact hgrown.spares

end Files

end ServiceAtlas
