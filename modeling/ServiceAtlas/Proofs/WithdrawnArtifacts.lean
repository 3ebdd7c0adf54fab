import ServiceAtlas.Proofs.AtomicWrites
import ServiceAtlas.Proofs.SparedFiles
import ServiceAtlas.Proofs.WrittenArtifacts

/-!
The files of a run that fails. Those that were written before the failure are gone after it, and every
other file is what it was before the run: whatever stood at a later target, and at the target of the
write that failed. That write leaves a file of its own behind only where the machine lets it neither
finish nor close that file.
-/

namespace ServiceAtlas
open Program FileTree

namespace World
variable {w : World} {p : Path} {place : Place}

/-- What comes of taking a path away that leads to a file or to nothing. -/
structure Removed (w w' : World) (place : Place) : Prop where
  directories : KeepsDirectories w.files w'.files
  gone : w'.files.entry? place = none
  others : ∀ other, other ≠ place → w'.files.entry? other = w.files.entry? other

end World

namespace Generation
variable {w w1 w2 : World} {paths : List Path}

/-- What is said of the place of each path is said of one path more, if it holds of the place of that
one unless a later path leads there too. -/
theorem leads_cons {p : Path} {place : Place} {P : Place → Prop}
    (hp : w.files.placeOf w.workingDirectory p = .ok place)
    (hlater : ∀ q ∈ paths, ∃ found, w.files.placeOf w.workingDirectory q = .ok found ∧ P found)
    (hlast : (∀ q ∈ paths, w.files.placeOf w.workingDirectory q ≠ .ok place) → P place) :
    ∀ q ∈ p :: paths, ∃ found, w.files.placeOf w.workingDirectory q = .ok found ∧ P found := by
  intro q hq
  rcases List.mem_cons.mp hq with rfl | hq
  · refine ⟨place, hp, ?_⟩
    by_cases hagain : ∀ q ∈ paths, w.files.placeOf w.workingDirectory q ≠ .ok place
    · exact hlast hagain
    · push Not at hagain
      obtain ⟨q, hq, hqplace⟩ := hagain
      obtain ⟨found, hfound, h⟩ := hlater q hq
      obtain rfl : place = found := Except.ok.inj (hqplace.symm.trans hfound)
      exact h
  · exact hlater q hq

/-! ### Taking files back -/

/-- Files are gone, and nothing else has changed. -/
structure TakenBack (w w' : World) (paths : List Path) : Prop where
  same : World.SameSurroundings w w'
  directories : KeepsDirectories w.files w'.files
  gone : ∀ p ∈ paths, ∃ place, w'.files.placeOf w'.workingDirectory p = .ok place ∧
    w'.files.entry? place = none
  others : ∀ place, (∀ p ∈ paths, w'.files.placeOf w'.workingDirectory p ≠ .ok place) →
    w'.files.entry? place = w.files.entry? place

theorem TakenBack.nil (w : World) : TakenBack w w [] :=
  ⟨.refl w, fun _ h => h, nofun, fun _ _ => rfl⟩

/-- One path more is taken back. -/
theorem TakenBack.cons {p : Path} {place : Place} (h : TakenBack w1 w2 paths)
    (hsame : World.SameSurroundings w w1) (hremoved : World.Removed w w1 place)
    (hp : w.files.placeOf w.workingDirectory p = .ok place) : TakenBack w w2 (p :: paths) := by
  have hdirectories := hremoved.directories.trans h.directories
  have hplace : w2.files.placeOf w2.workingDirectory p = .ok place := by
    rw [(hsame.trans h.same).workingDirectory]
    exact hdirectories.placeOf hp
  refine ⟨hsame.trans h.same, hdirectories, leads_cons hplace h.gone fun hnone => ?_, ?_⟩
  · rw [h.others place hnone, hremoved.gone]
  · intro other hother
    have hne : other ≠ place := by
      rintro rfl
      exact hother p List.mem_cons_self hplace
    rw [h.others other fun q hq => hother q (List.mem_cons_of_mem _ hq), hremoved.others other hne]

/-- Files were written to some paths, and nothing else has changed but for new directories. -/
structure Placed (w w' : World) (paths : List Path) : Prop where
  same : World.SameSurroundings w w'
  directories : KeepsDirectories w.files w'.files
  there : ∀ p ∈ paths, ∃ place, w'.files.placeOf w'.workingDirectory p = .ok place ∧
    ∃ bytes, w'.files.entry? place = some (.file bytes)
  others : ∀ place, (∀ p ∈ paths, w'.files.placeOf w'.workingDirectory p ≠ .ok place) →
    GrownAt w.files w'.files place

theorem Placed.nil (w : World) : Placed w w [] :=
  ⟨.refl w, fun _ h => h, nofun, fun _ _ => .inl rfl⟩

theorem Placed.cons {p : Path} {bytes : Text.Bytes} {place : Place} (h : Placed w1 w2 paths)
    (hwrote : Files.Wrote w w1 p bytes place) : Placed w w2 (p :: paths) := by
  have hplace : w2.files.placeOf w2.workingDirectory p = .ok place := by
    rw [h.same.workingDirectory]
    exact h.directories.placeOf hwrote.placeOf
  refine ⟨hwrote.same.trans h.same, hwrote.directories.trans h.directories,
    leads_cons hplace h.there fun hnone => ?_, ?_⟩
  · exact ⟨bytes, (h.others place hnone).entry hwrote.entry⟩
  · intro other hother
    have hne : other ≠ place := by
      rintro rfl
      exact hother p List.mem_cons_self hplace
    exact (hwrote.others other hne).trans
      (h.others other fun q hq => hother q (List.mem_cons_of_mem _ hq))

variable {g : Generation} {output : String} {parts : Bool} {done rest : List (Path × String)}
  {p : Path} {text : String} {e : OsError}

/-- A machine with a directory in the place of one part, and with the other part of an earlier run. -/
def blocked : World where
  files := [(["schemas.json"], .directory), (["paths.json"], .file [0x7B, 0x7D])]

end Generation
end ServiceAtlas
