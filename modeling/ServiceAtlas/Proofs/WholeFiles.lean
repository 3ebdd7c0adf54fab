import Mathlib.Data.List.Nodup
import Mathlib.Data.List.Perm.Subperm
import ServiceAtlas.Files
import ServiceAtlas.Proofs.FileText
import ServiceAtlas.Proofs.Numerals
import ServiceAtlas.Proofs.Runs

/-!
Files written whole. A write that succeeds leaves the bytes at the target, and every other entry that
was there before: the half-written file never takes the name of one.
-/

namespace ServiceAtlas

/-! ### Trees -/

namespace FileTree
variable {t t' : FileTree} {place other : Place} {e : Entry}

theorem entry?_nil (t : FileTree) : t.entry? [] = some .directory := rfl

theorem entry?_of_ne (t : FileTree) (h : place ≠ []) : t.entry? place = List.lookup place t := by
  unfold entry?
  simp [h]

theorem ne_nil_of_not_isDirectory (h : ¬t.isDirectory place) : place ≠ [] := by
  rintro rfl
  exact h rfl

theorem lookup_erase (h : other ≠ place) : List.lookup other (t.erase place) = List.lookup other t := by
  induction t with
  | nil => rfl
  | cons entry rest ih =>
    obtain ⟨q, e⟩ := entry
    by_cases hq : q = place
    · subst hq
      have hskip : (erase ((q, e) :: rest) q) = erase rest q := by simp [erase]
      rw [hskip, ih, List.lookup_cons, beq_false_of_ne h]
    · have hkeep : (erase ((q, e) :: rest) place) = (q, e) :: erase rest place := by simp [erase, hq]
      rw [hkeep, List.lookup_cons, List.lookup_cons, ih]

theorem entry?_erase (h : other ≠ place) : entry? (t.erase place) other = t.entry? other := by
  by_cases hnil : other = []
  · rw [hnil, entry?_nil, entry?_nil]
  · rw [entry?_of_ne _ hnil, entry?_of_ne _ hnil, lookup_erase h]

theorem entry?_erase_self (h : place ≠ []) : entry? (t.erase place) place = none := by
  rw [entry?_of_ne _ h, List.lookup_eq_none_iff]
  intro e he
  have hne : e.1 ≠ place := by simpa using (List.mem_filter.mp he).2
  exact bne_iff_ne.mpr hne.symm

theorem entry?_put_self (h : place ≠ []) : entry? (t.put place e) place = some e := by
  rw [entry?_of_ne _ h, put, List.lookup_cons, beq_self_eq_true]

theorem entry?_put (h : other ≠ place) : entry? (t.put place e) other = t.entry? other := by
  rw [← entry?_erase (t := t) h]
  by_cases hnil : other = []
  · rw [hnil, entry?_nil, entry?_nil]
  · rw [entry?_of_ne _ hnil, entry?_of_ne _ hnil, put, List.lookup_cons, beq_false_of_ne h]

theorem mem_of_entry (hne : place ≠ []) (h : t.entry? place = some e) : (place, e) ∈ t := by
  rw [entry?_of_ne _ hne] at h
  obtain ⟨before, after, ht, _⟩ := List.lookup_eq_some_iff.mp h
  simp [ht]

/-- A place keeps its entry, but where there was none, a directory may be. -/
def GrownAt (t t' : FileTree) (place : Place) : Prop :=
  t'.entry? place = t.entry? place ∨ t.entry? place = none ∧ t'.entry? place = some .directory

/-- The second tree is the first with some more directories. -/
def Grown (t t' : FileTree) : Prop := ∀ place, GrownAt t t' place

/-- A directory stays one. -/
def KeepsDirectories (t t' : FileTree) : Prop :=
  ∀ place, t.isDirectory place = true → t'.isDirectory place = true

theorem GrownAt.trans {t'' : FileTree} (h : GrownAt t t' place) (h' : GrownAt t' t'' place) :
    GrownAt t t'' place := by
  rcases h' with h' | ⟨hnone, hnew⟩
  · rcases h with h | ⟨hnone, hnew⟩
    · exact .inl (h'.trans h)
    · exact .inr ⟨hnone, h'.trans hnew⟩
  · rcases h with h | ⟨_, hdirectory⟩
    · exact .inr ⟨h.symm.trans hnone, hnew⟩
    · cases hnone.symm.trans hdirectory

theorem GrownAt.entry (h : GrownAt t t' place) (he : t.entry? place = some e) :
    t'.entry? place = some e := by
  rcases h with h | ⟨hnone, _⟩
  · exact h.trans he
  · cases hnone.symm.trans he

/-- No file comes, and none goes. -/
theorem GrownAt.file_iff (h : GrownAt t t' place) {bytes : Text.Bytes} :
    t'.entry? place = some (.file bytes) ↔ t.entry? place = some (.file bytes) := by
  rcases h with h | ⟨hnone, hnew⟩
  · rw [h]
  · simp [hnone, hnew]

theorem Grown.refl (t : FileTree) : Grown t t := fun _ => .inl rfl

theorem Grown.trans {t'' : FileTree} (h : Grown t t') (h' : Grown t' t'') : Grown t t'' :=
  fun place => (h place).trans (h' place)

theorem Grown.directories (h : Grown t t') : KeepsDirectories t t' := by
  intro place hd
  simp only [isDirectory, decide_eq_true_eq] at hd ⊢
  exact (h place).entry hd

theorem KeepsDirectories.trans {t'' : FileTree} (h : KeepsDirectories t t')
    (h' : KeepsDirectories t' t'') : KeepsDirectories t t'' := fun _ hd => h' _ (h _ hd)

theorem grown_put (h : t.entry? place = none) : Grown t (t.put place .directory) := by
  intro other
  by_cases hother : other = place
  · subst hother
    refine .inr ⟨h, entry?_put_self ?_⟩
    rintro rfl
    cases h
  · exact .inl (entry?_put hother)

theorem keepsDirectories_put (h : ¬t.isDirectory place) : KeepsDirectories t (t.put place e) := by
  intro other hd
  have hne : other ≠ place := by
    rintro rfl
    exact h hd
  simpa only [isDirectory, entry?_put hne] using hd

theorem keepsDirectories_move {source : Place} (hs : ¬t.isDirectory source)
    (hp : ¬t.isDirectory place) : KeepsDirectories t ((t.erase source).put place e) := by
  intro other hd
  have hsource : other ≠ source := by
    rintro rfl
    exact hs hd
  have hplace : other ≠ place := by
    rintro rfl
    exact hp hd
  simpa only [isDirectory, entry?_put hplace, entry?_erase hsource] using hd

/-! ### Where paths lead -/

theorem walk_cons {names : List String} {name : String} {last : Place}
    (h : t.walk place (name :: names) = .ok last) :
    t.isDirectory place = true ∧ ¬nameLimit < byteLength name ∧
      t.walk (step place name) names = .ok last := by
  rw [walk] at h
  split at h
  · cases h
  · cases h
  · rename_i hd
    split at h
    · cases h
    · rename_i hlength
      exact ⟨by simp [isDirectory, hd], hlength, h⟩

/-- A way that leads somewhere leads there as long as the directories stay. -/
theorem KeepsDirectories.walk (h : KeepsDirectories t t') {names : List String} {last : Place}
    (hw : t.walk place names = .ok last) : t'.walk place names = .ok last := by
  induction names generalizing place with
  | nil => exact hw
  | cons name names ih =>
    obtain ⟨hd, hlength, hrest⟩ := walk_cons hw
    have hd' : t'.entry? place = some .directory := by simpa [isDirectory] using h _ hd
    rw [FileTree.walk, hd']
    simp only [hlength, ↓reduceIte]
    exact ih hrest

theorem KeepsDirectories.placeOf (h : KeepsDirectories t t') {here : Place} {p : Path}
    (hp : t.placeOf here p = .ok place) : t'.placeOf here p = .ok place := by
  unfold FileTree.placeOf at hp ⊢
  split at hp
  · cases hp
  · rename_i hlength
    rw [if_neg hlength]
    exact h.walk hp

theorem walk_append {above names : List String} {last : Place}
    (h : t.walk place (above ++ names) = .ok last) :
    ∃ q, t.walk place above = .ok q ∧ t.walk q names = .ok last := by
  induction above generalizing place with
  | nil => exact ⟨place, rfl, h⟩
  | cons name above ih =>
    obtain ⟨hd, hlength, hrest⟩ := walk_cons h
    obtain ⟨q, hq, hlast⟩ := ih hrest
    have hd' : t.entry? place = some .directory := by simpa [isDirectory] using hd
    refine ⟨q, ?_, hlast⟩
    rw [FileTree.walk, hd']
    simpa only [hlength, ↓reduceIte] using hq

theorem walk_concat {names : List String} {name : String} {last : Place}
    (h : t.walk place (names ++ [name]) = .ok last) :
    ∃ q, t.walk place names = .ok q ∧ t.isDirectory q = true ∧ last = step q name := by
  obtain ⟨q, hq, hlast⟩ := walk_append h
  obtain ⟨hd, _, hstep⟩ := walk_cons hlast
  exact ⟨q, hq, hd, (Except.ok.inj hstep).symm⟩

theorem walk_of_placeOf {here : Place} {p : Path} (h : t.placeOf here p = .ok place) :
    t.walk (if p.isAbsolute then [] else here) p.segments = .ok place := by
  unfold placeOf at h
  split at h
  · cases h
  · exact h

/-- The place of a path ends with the path's own name. -/
theorem placeOf_concat {here : Place} {root name : String} {names : List String}
    (hname : name ≠ "..") (h : t.placeOf here ⟨root, names ++ [name]⟩ = .ok place) :
    ∃ q, t.walk (if root ≠ "" then [] else here) names = .ok q ∧ t.isDirectory q = true ∧
      place = q ++ [name] := by
  obtain ⟨q, hq, hd, hlast⟩ := walk_concat (walk_of_placeOf h)
  refine ⟨q, by simpa [Path.isAbsolute] using hq, hd, ?_⟩
  rw [hlast, step, if_neg hname]

theorem getLast?_placeOf {here : Place} {p : Path} (name : String)
    (hlast : p.segments.getLast? = some name) (hname : name ≠ "..")
    (h : t.placeOf here p = .ok place) : place.getLast? = some name := by
  obtain ⟨root, segments⟩ := p
  obtain ⟨above, rfl⟩ := List.getLast?_eq_some_iff.mp hlast
  obtain ⟨q, _, _, rfl⟩ := placeOf_concat hname h
  exact List.getLast?_concat

theorem find_ok {here : Place} {p : Path} (h : t.find here p = .ok (place, e)) :
    t.placeOf here p = .ok place ∧ t.entry? place = some e := by
  unfold find at h
  cases hp : t.placeOf here p with
  | error x =>
    rw [hp] at h
    cases h
  | ok q =>
    rw [hp] at h
    simp only [bind, Except.bind] at h
    split at h
    · rename_i e' he
      obtain ⟨rfl, rfl⟩ := Prod.mk.inj (Except.ok.inj h)
      exact ⟨rfl, he⟩
    · cases h

theorem find_of_entry {here : Place} {p : Path} (hp : t.placeOf here p = .ok place)
    (he : t.entry? place = some e) : t.find here p = .ok (place, e) := by
  unfold find
  rw [hp]
  simp only [bind, Except.bind, he]
  rfl

theorem readFile_ok {here : Place} {p : Path} {bytes : Text.Bytes}
    (h : t.readFile here p = .ok bytes) :
    ∃ place, t.placeOf here p = .ok place ∧ t.entry? place = some (.file bytes) := by
  unfold readFile at h
  cases hf : t.find here p with
  | error x =>
    rw [hf] at h
    cases h
  | ok found =>
    obtain ⟨q, e⟩ := found
    rw [hf] at h
    obtain ⟨hp, he⟩ := find_ok hf
    cases e with
    | file found =>
      cases h
      exact ⟨q, hp, he⟩
    | directory => cases h

theorem readFile_of_entry {here : Place} {p : Path} {bytes : Text.Bytes}
    (hp : t.placeOf here p = .ok place) (he : t.entry? place = some (.file bytes)) :
    t.readFile here p = .ok bytes := by
  unfold readFile
  rw [find_of_entry hp he]
  rfl

/-! ### Changes -/

theorem makeDirectory_ok {here : Place} {p : Path} (h : t.makeDirectory here p = .ok t') :
    Grown t t' := by
  unfold makeDirectory at h
  cases hp : t.placeOf here p with
  | error x =>
    rw [hp] at h
    cases h
  | ok place =>
    rw [hp] at h
    simp only [bind, Except.bind] at h
    split at h
    · cases h
    · rename_i hnone
      cases h
      exact grown_put hnone

theorem writeFile_ok {here : Place} {p : Path} {bytes : Text.Bytes}
    (h : t.writeFile here p bytes = .ok t') :
    ∃ place, t.placeOf here p = .ok place ∧ ¬t.isDirectory place ∧
      t' = t.put place (.file bytes) := by
  unfold writeFile at h
  cases hp : t.placeOf here p with
  | error x =>
    rw [hp] at h
    cases h
  | ok place =>
    rw [hp] at h
    simp only [bind, Except.bind] at h
    split at h
    · cases h
    · rename_i hd
      cases h
      exact ⟨place, rfl, hd, rfl⟩

theorem rename_ok {here : Place} {file target : Path} (h : t.rename here file target = .ok t') :
    ∃ source e place, t.placeOf here file = .ok source ∧ t.entry? source = some e ∧
      t.placeOf here target = .ok place ∧ endsInName target = true ∧ ¬t.isDirectory place ∧
      t' = (t.erase source).put place e := by
  unfold rename at h
  cases hf : t.find here file with
  | error x =>
    rw [hf] at h
    cases h
  | ok found =>
    obtain ⟨source, e⟩ := found
    obtain ⟨hsource, he⟩ := find_ok hf
    simp only [hf, bind, Except.bind] at h
    cases hp : t.placeOf here target with
    | error x =>
      rw [hp] at h
      cases h
    | ok place =>
      rw [hp] at h
      dsimp only at h
      split at h
      · cases h
      · rename_i hends
        split at h
        · cases h
        · rename_i hd
          cases h
          exact ⟨source, e, place, hsource, he, rfl, by simpa using hends, hd, rfl⟩

end FileTree

/-! ### Names for new files -/

theorem Text.valueOf_zeros (k : Nat) (ds : List Nat) :
    valueOf 10 (List.replicate k 0 ++ ds) = valueOf 10 ds := by
  induction k with
  | zero => rfl
  | succ k ih =>
    rw [List.replicate_succ, List.cons_append]
    exact ih

theorem Text.padded_injective {width m n : Nat} (h : padded width m = padded width n) : m = n := by
  have hvalue : ∀ k, valueOf 10 ((padded width k).toList.map fun c => c.toNat - 0x30) = k := by
    intro k
    simp only [padded, String.toList_ofList, List.map_append, List.map_replicate]
    exact (valueOf_zeros _ _).trans (valueOf_natChars k)
  rw [← hvalue m, h, hvalue n]

theorem Path.besideName_injective {p : Path} {m n : Nat} (h : p.besideName m = p.besideName n) :
    m = n := by
  simp only [besideName, String.append_left_inj, String.append_right_inj] at h
  exact Text.padded_injective h

theorem Path.besideName_ne (p : Path) (n : Nat) : p.besideName n ≠ ".." := by
  intro h
  have hlength := congrArg String.length h
  have htail : ".tmp".length = 4 := by decide
  have hshort : "..".length = 2 := by decide
  simp only [besideName, String.length_append] at hlength
  omega

namespace World
open FileTree

theorem taken_of_taken_freeNumber {t : FileTree} {here : Place} {target : Path} (tries : Nat) :
    ∀ number, (t.find here (besidePath target (freeNumber t here target number tries))).toBool = true →
      ∀ i ≤ tries, (t.find here (besidePath target (number + i))).toBool = true := by
  induction tries with
  | zero =>
    intro number h i hi
    obtain rfl : i = 0 := by omega
    exact h
  | succ tries ih =>
    intro number h i hi
    rw [freeNumber] at h
    split at h
    · rename_i htaken
      cases i with
      | zero => exact htaken
      | succ i =>
        have := ih (number + 1) h i (by omega)
        rwa [show number + 1 + i = number + (i + 1) by omega] at this
    · rename_i hfree
      exact absurd h hfree

/-- The search ends at a number that is free: the tree has no more entries than there are tries. -/
theorem find_freeNumber (t : FileTree) (here : Place) (target : Path) :
    (t.find here (besidePath target (freeNumber t here target 0 t.length))).toBool = false := by
  by_contra htaken
  have hall := taken_of_taken_freeNumber t.length 0 (by simpa using htaken)
  have hentry : ∀ i ≤ t.length, ∃ q, q ++ [target.besideName i] ∈ t.map Prod.fst := by
    intro i hi
    have hfound := hall i hi
    cases hf : t.find here (besidePath target (0 + i)) with
    | error x =>
      rw [hf] at hfound
      cases hfound
    | ok found =>
      obtain ⟨place, e⟩ := found
      obtain ⟨hp, he⟩ := find_ok hf
      rw [Nat.zero_add] at hp
      obtain ⟨q, _, _, rfl⟩ := placeOf_concat (target.besideName_ne i) hp
      exact ⟨q, List.mem_map.mpr ⟨_, mem_of_entry (by simp) he, rfl⟩⟩
  have hnames : (List.range (t.length + 1)).map target.besideName ⊆
      (t.map Prod.fst).map fun place => place.getLast?.getD "" := by
    intro name hname
    obtain ⟨i, hi, rfl⟩ := List.mem_map.mp hname
    obtain ⟨q, hq⟩ := hentry i (by have := List.mem_range.mp hi; omega)
    exact List.mem_map.mpr ⟨_, hq, by simp⟩
  have hnodup : ((List.range (t.length + 1)).map target.besideName).Nodup :=
    List.Nodup.map (fun _ _ h => Path.besideName_injective h) List.nodup_range
  have hlength := (List.subperm_of_subset hnodup hnames).length_le
  simp only [List.length_map, List.length_range] at hlength
  omega

/-! ### Answers -/

variable {w : World} {α : Type}

theorem answer_ok {f : FileTree → Except OsError (α × FileTree)} {a : α}
    (h : (w.answer f).1 = .ok a) : f w.files = .ok (a, (w.answer f).2.files) := by
  unfold answer at h ⊢
  dsimp only at h ⊢
  split at h
  · cases h
  · cases hf : f w.files with
    | error x =>
      rw [hf] at h
      cases h
    | ok found =>
      obtain ⟨b, files⟩ := found
      rw [hf] at h
      cases h
      rfl

/-- A request that is refused changes no file. -/
theorem files_of_answer_error {f : FileTree → Except OsError (α × FileTree)} {e : OsError}
    (h : (w.answer f).1 = .error e) : (w.answer f).2.files = w.files := by
  unfold answer at h ⊢
  dsimp only at h ⊢
  split at h
  · rfl
  · cases hf : f w.files with
    | error x => rfl
    | ok found =>
      rw [hf] at h
      cases h

theorem change_ok {f : FileTree → Except OsError FileTree} (h : (w.change f).1 = .ok ()) :
    f w.files = .ok (w.change f).2.files := by
  have hanswer := answer_ok h
  cases hf : f w.files with
  | error x =>
    simp only [hf] at hanswer
    cases hanswer
  | ok t =>
    simp only [hf] at hanswer
    exact congrArg Except.ok (Prod.mk.inj (Except.ok.inj hanswer)).2

theorem createBeside_ok {here : Place} {target file : Path} {t t' : FileTree}
    (h : createBeside here target t = .ok (file, t')) :
    (∃ n, file = besidePath target n) ∧ (t.find here file).toBool = false ∧
      t.writeFile here file [] = .ok t' := by
  unfold createBeside at h
  have hfree := find_freeNumber t here target
  generalize freeNumber t here target 0 t.length = n at h hfree
  cases hw : t.writeFile here (besidePath target n) [] with
  | error x =>
    simp only [hw, bind, Except.bind] at h
    cases h
  | ok t'' =>
    simp only [hw, bind, Except.bind] at h
    cases h
    exact ⟨⟨n, rfl⟩, hfree, hw⟩

end World

/-! ### Runs -/

namespace Program
variable {α β : Type} {p : Program α} {f : α → Program β} {w : World}

/-- A program of two steps that ends well went through both. -/
theorem of_bind_ok {b : β} (h : ((p >>= f).run w).result = .ok b) :
    ∃ a, (p.run w).result = .ok a ∧ ((f a).run (p.run w).world).result = .ok b ∧
      ((p >>= f).run w).world = ((f a).run (p.run w).world).world := by
  induction p generalizing w with
  | done a => exact ⟨a, rfl, h, rfl⟩
  | fail e => cases h
  | report d next ih => exact ih (w := w) h
  | ask r next ih => exact ih _ (w := (w.handle r).2) h

/-- Every request of the program, whatever the answers are, is one of these. -/
def Asks (allowed : Request → Prop) : Program α → Prop
  | done _ | fail _ => True
  | report _ next => Asks allowed next
  | ask r next => allowed r ∧ ∀ a, Asks allowed (next a)

theorem Asks.bind {allowed : Request → Prop} (hp : p.Asks allowed)
    (hf : ∀ a, (f a).Asks allowed) : (p >>= f).Asks allowed := by
  induction p with
  | done a => exact hf a
  | fail e => trivial
  | report d next ih => exact ih hp
  | ask r next ih => exact ⟨hp.1, fun a => ih a (hp.2 a)⟩

theorem Asks.mono {allowed more : Request → Prop} (h : p.Asks allowed)
    (hmore : ∀ r, allowed r → more r) : p.Asks more := by
  induction p with
  | done a => trivial
  | fail e => trivial
  | report d next ih => exact ih h
  | ask r next ih => exact ⟨hmore r h.1, fun a => ih a (h.2 a)⟩

theorem Asks.of_mem_steps {allowed : Request → Prop} (h : p.Asks allowed) {w w' : World}
    {r : Request} (hr : (w', r) ∈ p.steps w) : allowed r := by
  induction p generalizing w with
  | done a => cases hr
  | fail e => cases hr
  | report d next ih => exact ih h hr
  | ask r' next ih =>
    rcases List.mem_cons.mp hr with hr | hr
    · cases hr
      exact h.1
    · exact ih _ (h.2 _) hr

/-- What each request keeps, a whole run keeps. -/
theorem Asks.run (kept : World → World → Prop) (refl : ∀ w, kept w w)
    (trans : ∀ {w w' w''}, kept w w' → kept w' w'' → kept w w'')
    (h : p.Asks fun r => ∀ w : World, kept w (w.handle r).2) (w : World) :
    kept w (p.run w).world := by
  induction p generalizing w with
  | done a => exact refl w
  | fail e => exact refl w
  | report d next ih => exact ih h w
  | ask r next ih => exact trans (h.1 w) (ih _ (h.2 _) _)

theorem Asks.invariant {good : World → Prop}
    (h : p.Asks fun r => ∀ w, good w → good (w.handle r).2) (hw : good w) : good (p.run w).world :=
  h.run (fun w w' => good w → good w') (fun _ hw => hw) (fun h h' hw => h' (h hw)) w hw

end Program

namespace Files
open Program FileTree

theorem grown_makeDirectory (p : Path) (w : World) :
    Grown w.files (w.handle (.makeDirectory p)).2.files := by
  change Grown w.files (w.change (·.makeDirectory w.workingDirectory p)).2.files
  cases hr : (w.change (·.makeDirectory w.workingDirectory p)).1 with
  | error e =>
    have hsame : (w.change (·.makeDirectory w.workingDirectory p)).2.files = w.files :=
      World.files_of_answer_error hr
    rw [hsame]
    exact .refl _
  | ok u => exact makeDirectory_ok (World.change_ok hr)

section
variable {allowed : Request → Prop}

theorem asks_makeOne {p : Path} (hmake : allowed (.makeDirectory p))
    (hask : allowed (.isDirectory p)) : (makeOne p).Asks allowed := by
  refine ⟨hmake, fun answer => ?_⟩
  have hsettled : ∀ e, (settled p e).Asks allowed := by
    intro e
    refine ⟨hask, fun answer => ?_⟩
    match answer with
    | .ok true | .ok false | .error _ => trivial
  match answer with
  | .ok () | .error .notFound => trivial
  | .error .notDirectory | .error .isDirectory | .error .alreadyExists | .error .noSpace
  | .error (.other _ _) => exact hsettled _

theorem asks_makeUp {root : String} {up : List String}
    (hmake : ∀ names, names <:+ up → allowed (.makeDirectory ⟨root, names.reverse⟩))
    (hask : ∀ names, names <:+ up → allowed (.isDirectory ⟨root, names.reverse⟩)) :
    (makeUp root up).Asks allowed := by
  induction up with
  | nil => exact asks_makeOne (hmake [] (List.suffix_refl _)) (hask [] (List.suffix_refl _))
  | cons name up ih =>
    have hone := asks_makeOne (hmake _ (List.suffix_refl _)) (hask _ (List.suffix_refl _))
    have hup := ih (fun names h => hmake names (h.trans (List.suffix_cons _ _)))
      fun names h => hask names (h.trans (List.suffix_cons _ _))
    refine hone.bind fun outcome => ?_
    split
    · refine hup.bind fun outcome => ?_
      split
      · exact hone
      · trivial
    · trivial

/-- The program asks only for directories on the way. -/
theorem asks_makeDirectories {p : Path}
    (hmake : ∀ names, names <+: p.segments → allowed (.makeDirectory ⟨p.root, names⟩))
    (hask : ∀ names, names <+: p.segments → allowed (.isDirectory ⟨p.root, names⟩)) :
    (makeDirectories p).Asks allowed := by
  have hway : ∀ names, names <:+ p.segments.reverse → names.reverse <+: p.segments :=
    fun names h => List.reverse_suffix.mp (by simpa using h)
  refine Asks.bind ?_ fun _ =>
    asks_makeUp (fun names h => hmake _ (hway names h)) fun names h => hask _ (hway names h)
  unfold checked
  split <;> trivial

end

/-- What is asked while directories are made. -/
def MakesWay (r : Request) : Prop := ∃ p, r = .makeDirectory p ∨ r = .isDirectory p

theorem makesWay_makeDirectories (p : Path) : (makeDirectories p).Asks MakesWay :=
  asks_makeDirectories (fun _ _ => ⟨_, .inl rfl⟩) fun _ _ => ⟨_, .inr rfl⟩

theorem grown_makeDirectories (p : Path) (w : World) :
    Grown w.files ((makeDirectories p).run w).world.files := by
  refine Asks.run (fun w w' => Grown w.files w'.files) (fun w => .refl w.files) Grown.trans
    ((makesWay_makeDirectories p).mono ?_) w
  rintro r ⟨q, rfl | rfl⟩ w
  · exact grown_makeDirectory q w
  · exact .refl _

theorem checked_ok {p : Path} {w : World} (h : ((checked p).run w).result = .ok ()) :
    p.flaw? = none ∧ ((checked p).run w).world = w := by
  unfold checked at h ⊢
  split at h
  · rename_i hflaw
    exact ⟨hflaw, rfl⟩
  · cases h
  · cases h

/-! Once a step has failed, the write does not succeed. -/

theorem abandon_ne (file : Path) {failure : Program (Except OsError Unit)}
    (hf : ∀ w, (failure.run w).result ≠ .ok (.ok ())) (w : World) :
    ((abandon file failure).run w).result ≠ .ok (.ok ()) := by
  intro h
  obtain ⟨answer, _, h, _⟩ := of_bind_ok h
  cases answer with
  | error e => cases h
  | ok u =>
    obtain ⟨_, _, h, _⟩ := of_bind_ok h
    exact hf _ h

theorem withdraw_ne (file : Path) (e : OsError) (w : World) :
    ((withdraw file e).run w).result ≠ .ok (.ok ()) := by
  intro h
  obtain ⟨_, _, h, _⟩ := of_bind_ok h
  cases h

/-- A file that was filled and renamed was written, and then took the target's name. -/
theorem fill_ok {file target : Path} {bytes : Text.Bytes} {w : World}
    (h : ((fill file target bytes).run w).result = .ok (.ok ())) :
    ∃ t, w.files.writeFile w.workingDirectory file bytes = .ok t ∧
      t.rename w.workingDirectory file target =
        .ok ((fill file target bytes).run w).world.files := by
  have hend : ∀ (e : OsError) (w : World),
      ((return .error e : Program (Except OsError Unit)).run w).result ≠ .ok (.ok ()) := by
    intro e w h
    cases h
  obtain ⟨written, hwritten, h, hworld⟩ := of_bind_ok h
  rw [fill, hworld]
  clear hworld
  generalize hw1 : ((request (.writeBytes file bytes)).run w).world = w1 at h ⊢
  cases written with
  | error e => exact absurd h (abandon_ne file (hend e) _)
  | ok u =>
  obtain ⟨flushed, hflushed, h, hworld⟩ := of_bind_ok h
  rw [hworld]
  clear hworld
  generalize hw2 : ((request (.flush file)).run w1).world = w2 at h ⊢
  cases flushed with
  | error e => exact absurd h (abandon_ne file (hend e) _)
  | ok u =>
  obtain ⟨synced, hsynced, h, hworld⟩ := of_bind_ok h
  rw [hworld]
  clear hworld
  generalize hw3 : ((request (.sync file)).run w2).world = w3 at h ⊢
  cases synced with
  | error e => exact absurd h (abandon_ne file (hend e) _)
  | ok u =>
  obtain ⟨closed, hclosed, h, hworld⟩ := of_bind_ok h
  rw [hworld]
  clear hworld
  generalize hw4 : ((request (.close file)).run w3).world = w4 at h ⊢
  cases closed with
  | error e => exact absurd h (withdraw_ne file e _)
  | ok u =>
  obtain ⟨renamed, hrenamed, h, hworld⟩ := of_bind_ok h
  rw [hworld]
  clear hworld
  generalize hw5 : ((request (.rename file target)).run w4).world = w5 at h ⊢
  cases renamed with
  | error e => exact absurd h (withdraw_ne file e _)
  | ok u =>
  have hhere : w4.workingDirectory = w.workingDirectory := by
    rw [← hw4, ← hw3, ← hw2, ← hw1, (same_run _ _).workingDirectory,
      (same_run _ _).workingDirectory, (same_run _ _).workingDirectory,
      (same_run _ _).workingDirectory]
  have hfilled : w.files.writeFile w.workingDirectory file bytes = .ok w1.files := by
    rw [← hw1]
    exact World.change_ok (Except.ok.inj hwritten)
  have hflush : w1.files = w2.files := by
    rw [← hw2]
    exact Except.ok.inj (World.change_ok (Except.ok.inj hflushed))
  have hsync : w2.files = w3.files := by
    rw [← hw3]
    exact Except.ok.inj (World.change_ok (Except.ok.inj hsynced))
  have hclose : w3.files = w4.files := by
    rw [← hw4]
    exact Except.ok.inj (World.change_ok (Except.ok.inj hclosed))
  have hnamed : w4.files.rename w4.workingDirectory file target = .ok w5.files := by
    rw [← hw5]
    exact World.change_ok (Except.ok.inj hrenamed)
  rw [hhere] at hnamed
  exact ⟨w4.files, by rw [hfilled, hflush, hsync, hclose], hnamed⟩

/-- What a successful write of some bytes leaves behind. -/
structure Wrote (w w' : World) (target : Path) (bytes : Text.Bytes) (place : Place) : Prop where
  flawless : target.flaw? = none
  endsInName : endsInName target = true
  same : World.SameSurroundings w w'
  placeOf : w'.files.placeOf w'.workingDirectory target = .ok place
  entry : w'.files.entry? place = some (.file bytes)
  directories : KeepsDirectories w.files w'.files
  /-- Nothing else is lost, and nothing but directories comes. -/
  others : ∀ other, other ≠ place → GrownAt w.files w'.files other

theorem Wrote.keeps {w w' : World} {target : Path} {bytes : Text.Bytes} {place other : Place}
    {e : Entry} (h : Wrote w w' target bytes place) (hother : other ≠ place)
    (he : w.files.entry? other = some e) : w'.files.entry? other = some e :=
  (h.others other hother).entry he

/-- The target takes the bytes of a file that was new beside it. -/
theorem entries_of_new_file {t filled renamed new : FileTree} {here : Place} {file target : Path}
    {bytes : Text.Bytes} (hfree : (t.find here file).toBool = false)
    (hnew : t.writeFile here file [] = .ok new) (hfilled : new.writeFile here file bytes = .ok filled)
    (hrenamed : filled.rename here file target = .ok renamed) :
    ∃ place, renamed.placeOf here target = .ok place ∧
      renamed.entry? place = some (.file bytes) ∧ endsInName target = true ∧
      KeepsDirectories t renamed ∧
      ∀ other, other ≠ place → renamed.entry? other = t.entry? other := by
  obtain ⟨source, hsource, hnd, rfl⟩ := writeFile_ok hnew
  have hnone : t.entry? source = none := by
    cases he : t.entry? source with
    | none => rfl
    | some e =>
      rw [find_of_entry hsource he] at hfree
      cases hfree
  have hsource' := (keepsDirectories_put (e := .file []) hnd).placeOf hsource
  obtain ⟨again, hagain, hnd', rfl⟩ := writeFile_ok hfilled
  obtain rfl : source = again := Except.ok.inj (hsource'.symm.trans hagain)
  have hsource'' := (keepsDirectories_put (e := .file bytes) hnd').placeOf hsource'
  have hne : source ≠ [] := ne_nil_of_not_isDirectory hnd
  obtain ⟨found, e, place, hfound, he, hplace, hends, hdirectory, rfl⟩ := rename_ok hrenamed
  obtain rfl : source = found := Except.ok.inj (hsource''.symm.trans hfound)
  rw [entry?_put_self hne] at he
  obtain rfl := Option.some.inj he
  have hfile : ¬((t.put source (.file [])).put source (.file bytes)).isDirectory source = true := by
    simp [FileTree.isDirectory, entry?_put_self hne]
  have hmoved := keepsDirectories_move (e := .file bytes) hfile hdirectory
  refine ⟨place, hmoved.placeOf hplace, entry?_put_self (ne_nil_of_not_isDirectory hdirectory),
    hends, ?_, ?_⟩
  · exact ((keepsDirectories_put hnd).trans (keepsDirectories_put hnd')).trans hmoved
  · intro other hother
    rw [entry?_put hother]
    by_cases hs : other = source
    · rw [hs, entry?_erase_self hne, hnone]
    · rw [entry?_erase hs, entry?_put hs, entry?_put hs]

theorem write_ok {target : Path} {text : String} {w : World}
    (h : ((write target text).run w).result = .ok (.ok ())) :
    ∃ bytes place, Text.encode? text.toList = some bytes ∧
      Wrote w ((write target text).run w).world target bytes place := by
  have hsame := same_run (write target text) w
  obtain ⟨made, _, h, hworld⟩ := of_bind_ok h
  have hmade := grown_makeDirectories target.parent w
  have hhere := (same_run (makeDirectories target.parent) w).workingDirectory
  rw [write, hworld] at hsame ⊢
  clear hworld
  generalize ((makeDirectories target.parent).run w).world = w1 at h hmade hhere hsame ⊢
  cases made with
  | error e => cases h
  | ok u =>
  obtain ⟨_, hchecked, h, hworld⟩ := of_bind_ok h
  obtain ⟨hflaw, hw1⟩ := checked_ok hchecked
  rw [hworld, hw1] at hsame ⊢
  rw [hw1] at h
  clear hworld
  obtain ⟨created, hcreated, h, hworld⟩ := of_bind_ok h
  rw [hworld] at hsame ⊢
  clear hworld
  have hhere2 := (same_run (request (.createBeside target)) w1).workingDirectory
  cases created with
  | error e => cases h
  | ok file =>
  obtain ⟨_, hfree, hnew⟩ := World.createBeside_ok (World.answer_ok (Except.ok.inj hcreated))
  change w1.files.writeFile w1.workingDirectory file [] =
    .ok ((request (.createBeside target)).run w1).world.files at hnew
  generalize ((request (.createBeside target)).run w1).world = w2 at h hnew hhere2 hsame ⊢
  cases hbytes : Text.encode? text.toList with
  | none =>
    rw [hbytes] at h
    refine absurd h (abandon_ne file (fun w h => ?_) _)
    cases h
  | some bytes =>
    simp only [hbytes] at h hsame ⊢
    obtain ⟨filled, hfilled, hrenamed⟩ := fill_ok h
    rw [hhere2] at hfilled hrenamed
    obtain ⟨place, hplace, hentry, hends, hdirectories, hothers⟩ :=
      entries_of_new_file hfree hnew hfilled hrenamed
    refine ⟨bytes, place, rfl, hflaw, hends, hsame, ?_, hentry,
      hmade.directories.trans hdirectories, ?_⟩
    · rw [hsame.workingDirectory, ← hhere]
      exact hplace
    · exact fun other hother => (hmade other).trans (.inl (hothers other hother))

end Files

/-! ### Several files in one directory -/

/-- The path of an entry of a directory. -/
def Path.entry (d : Path) (name : String) : Path := ⟨d.root, d.segments ++ [name]⟩

theorem Path.child_eq_entry {name : String} (h : ofText name = ⟨"", [name]⟩) (d : Path) :
    d.child name = d.entry name := by
  simp [child, append, h, isAbsolute, entry]

theorem Path.entry_parent_name {p : Path} (h : FileTree.endsInName p = true) :
    p.parent.entry p.name = p := by
  unfold FileTree.endsInName at h
  cases hlast : p.segments.getLast? with
  | none =>
    rw [hlast] at h
    cases h
  | some name =>
    obtain ⟨names, hnames⟩ := List.getLast?_eq_some_iff.mp hlast
    obtain ⟨root, segments⟩ := p
    obtain rfl : segments = names ++ [name] := hnames
    simp [parent, entry, Path.name]

theorem Path.endsInName_entry {d : Path} {name : String} :
    FileTree.endsInName (d.entry name) = true ↔ name ≠ ".." := by
  unfold FileTree.endsInName entry
  rw [List.getLast?_append_of_ne_nil _ (by simp)]
  split
  · rename_i h
    cases h
  · rename_i h
    simpa using h
  · rename_i other h
    simp only [List.getLast?_singleton, Option.some.injEq] at h
    simp only [true_iff]
    rintro rfl
    exact other h.symm

theorem Text.encodeName?_append (cs ds : List Char) :
    encodeName? (cs ++ ds) =
      (encodeName? cs).bind fun bytes => (encodeName? ds).map fun more => bytes ++ more := by
  induction cs with
  | nil =>
    cases hds : encodeName? ds <;> simp [encodeName?, hds]
  | cons c cs ih =>
    simp only [List.cons_append, encodeName?, ih]
    cases rawByte? c <;> cases encode? [c] <;> cases encodeName? cs <;> cases encodeName? ds <;>
      simp

/-- The text of a directory begins that of each of its entries. -/
theorem Path.text_entry (d : Path) (name : String) :
    d.text = "." ∨ ∃ tail, (d.entry name).text = d.text ++ tail := by
  obtain ⟨root, segments⟩ := d
  have hjoin : ∀ segments : List String, segments ≠ [] → ∃ tail,
      Text.join "/" (segments ++ [name]) = Text.join "/" segments ++ tail := by
    intro segments
    induction segments with
    | nil => exact fun h => absurd rfl h
    | cons first rest ih =>
      intro _
      cases rest with
      | nil => exact ⟨"/" ++ name, by simp [Text.join, String.append_assoc]⟩
      | cons second rest =>
        obtain ⟨tail, htail⟩ := ih (List.cons_ne_nil _ _)
        refine ⟨tail, ?_⟩
        simp only [List.cons_append, Text.join] at htail ⊢
        rw [htail]
        simp only [String.append_assoc]
  by_cases hempty : segments = []
  · subst hempty
    by_cases hroot : root = ""
    · exact .inl (by simp [text, hroot])
    · exact .inr ⟨name, by simp [text, entry, hroot, Text.join]⟩
  · obtain ⟨tail, htail⟩ := hjoin segments hempty
    exact .inr ⟨tail, by simp [text, entry, hempty, htail, String.append_assoc]⟩

/-- A directory with a possible entry is possible, and its text is no longer than that of the entry. -/
theorem Path.possible_of_entry {d : Path} {name : String} (h : (d.entry name).flaw? = none) :
    d.flaw? = none ∧
      (FileTree.byteLength d.text ≤ FileTree.byteLength (d.entry name).text ∨ d.text = ".") := by
  rcases d.text_entry name with hpoint | ⟨tail, htail⟩
  · refine ⟨?_, .inr hpoint⟩
    unfold flaw?
    rw [hpoint]
    decide
  · unfold flaw? at h ⊢
    dsimp only at h ⊢
    unfold FileTree.byteLength
    rw [htail, String.toList_append] at h ⊢
    rw [Text.encodeName?_append] at h ⊢
    cases hd : Text.encodeName? d.text.toList with
    | none => simp [hd] at h
    | some bytes =>
      cases ht : Text.encodeName? tail.toList with
      | none => simp [hd, ht] at h
      | some more =>
        simp only [hd, ht] at h ⊢
        refine ⟨?_, .inl (by simp)⟩
        by_contra hflaw
        simp_all

/-- Who opens the path finds the text there. -/
def World.Holds (w : World) (p : Path) (text : String) : Prop :=
  p.flaw? = none ∧
    ∃ bytes, Text.encode? text.toList = some bytes ∧
      w.files.readFile w.workingDirectory p = .ok bytes

theorem World.Holds.unique {w : World} {p : Path} {s t : String} (hs : w.Holds p s)
    (ht : w.Holds p t) : s = t := by
  obtain ⟨_, bytes, hbytes, hread⟩ := hs
  obtain ⟨_, bytes', hbytes', hread'⟩ := ht
  obtain rfl : bytes = bytes' := Except.ok.inj (hread.symm.trans hread')
  have hof : ∀ {cs : List Char}, Text.encode? cs = some bytes → Text.encode cs = bytes := by
    intro cs h
    unfold Text.encode? at h
    split at h
    · cases h
    · exact Option.some.inj h
  exact String.ext (Text.encode_injective ((hof hbytes).trans (hof hbytes').symm))

namespace Files

theorem Wrote.holds {w w' : World} {target : Path} {text : String} {bytes : Text.Bytes}
    {place : Place} (h : Wrote w w' target bytes place)
    (ht : Text.encode? text.toList = some bytes) : w'.Holds target text :=
  ⟨h.flawless, bytes, ht, FileTree.readFile_of_entry h.placeOf h.entry⟩

/-- What another entry of the directory holds is not lost. -/
theorem Wrote.holds_entry {w w' : World} {d : Path} {name other text : String} {bytes : Text.Bytes}
    {place : Place} (h : Wrote w w' (d.entry name) bytes place) (hw : w.Holds (d.entry other) text)
    (hends : other ≠ "..") (hne : other ≠ name) : w'.Holds (d.entry other) text := by
  obtain ⟨hflaw, found, hfound, hread⟩ := hw
  obtain ⟨q, hq, he⟩ := FileTree.readFile_ok hread
  have hq' : w'.files.placeOf w'.workingDirectory (d.entry other) = .ok q := by
    rw [h.same.workingDirectory]
    exact h.directories.placeOf hq
  have hplaces : q ≠ place := by
    obtain ⟨above, habove, _, rfl⟩ := FileTree.placeOf_concat hends hq'
    obtain ⟨above', habove', _, rfl⟩ :=
      FileTree.placeOf_concat (Path.endsInName_entry.mp h.endsInName) h.placeOf
    obtain rfl : above = above' := Except.ok.inj (habove.symm.trans habove')
    intro hsame
    exact hne (by simpa using hsame)
  exact ⟨hflaw, found, hfound, FileTree.readFile_of_entry hq' (h.keeps hplaces he)⟩

/-- Files of one directory were written one after another. -/
inductive WroteAll (d : Path) : World → List (String × String) → World → Prop
  | nil (w : World) : WroteAll d w [] w
  | cons {w w1 w2 : World} {name text : String} {rest : List (String × String)}
      {bytes : Text.Bytes} {place : Place} (ht : Text.encode? text.toList = some bytes)
      (h : Wrote w w1 (d.entry name) bytes place) (hrest : WroteAll d w1 rest w2) :
      WroteAll d w ((name, text) :: rest) w2

theorem WroteAll.holds_other {d : Path} {w w' : World} {files : List (String × String)}
    {other text : String} (h : WroteAll d w files w') (hw : w.Holds (d.entry other) text)
    (hends : other ≠ "..") (hne : other ∉ files.map Prod.fst) : w'.Holds (d.entry other) text := by
  induction h with
  | nil w => exact hw
  | cons ht h hrest ih =>
    simp only [List.map_cons, List.mem_cons, not_or] at hne
    obtain ⟨hfirst, hne⟩ := hne
    exact ih (h.holds_entry hw hends hfirst) hne

/-- Each file has the text that was written to it last. -/
theorem WroteAll.holds {d : Path} {w w' : World} (before after : List (String × String))
    {name text : String} (h : WroteAll d w (before ++ (name, text) :: after) w')
    (hlast : name ∉ after.map Prod.fst) : w'.Holds (d.entry name) text := by
  induction before generalizing w with
  | nil =>
    cases h with
    | cons ht h hrest =>
      exact hrest.holds_other (h.holds ht) (Path.endsInName_entry.mp h.endsInName) hlast
  | cons e before ih =>
    cases h with
    | cons _ _ hrest => exact ih hrest

end Files
end ServiceAtlas
