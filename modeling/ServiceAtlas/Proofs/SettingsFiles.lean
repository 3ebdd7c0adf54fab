import Mathlib.Data.List.TakeWhile
import ServiceAtlas.Proofs.FileText
import ServiceAtlas.Proofs.Layers
import ServiceAtlas.Proofs.Runs
import ServiceAtlas.Settings.Resolve

/-!
Files of settings: what may stand at a path, which of it is in order, and what comes of an attempt
to load it.
-/

namespace ServiceAtlas
open Program

namespace Json

/-- A whole number of too many digits is refused. -/
theorem readNumber_of_digits {rest : List Char} (hrest : ∀ c ∈ rest, c.isDigit = true)
    (hlong : Text.digitLimit ≤ rest.length) :
    readNumber Text.digitLimit ('1' :: rest) = .error ⟨.tooManyDigits (rest.length + 1), []⟩ := by
  have htake : rest.takeWhile Char.isDigit = rest := List.takeWhile_eq_self_iff.mpr hrest
  have hdrop : rest.dropWhile Char.isDigit = [] := List.dropWhile_eq_nil_iff.mpr hrest
  change readUnsigned Text.digitLimit false ('1' :: rest.takeWhile Char.isDigit)
    (rest.dropWhile Char.isDigit) = _
  rw [htake, hdrop]
  change (if Text.digitLimit < rest.length + 1 then _ else _) = _
  rw [if_pos (Nat.lt_succ_of_le hlong)]
  rfl

/-- It is refused as well where it makes the whole text. -/
theorem readChars_of_digits [Stack] {rest : List Char} (hrest : ∀ c ∈ rest, c.isDigit = true)
    (hlong : Text.digitLimit ≤ rest.length) :
    ∃ e, readChars ('1' :: rest) = .error e ∧ e.cause = .tooManyDigits (rest.length + 1) := by
  have hvalue : readValue Text.digitLimit (fuelFor ('1' :: rest)) (Stack.levels .readJson) ('1' :: rest) =
      .error ⟨.tooManyDigits (rest.length + 1), []⟩ := by
    refine Eq.trans ?_ (readNumber_of_digits hrest hlong)
    rfl
  refine ⟨Fault.within ('1' :: rest) ⟨.tooManyDigits (rest.length + 1), []⟩, ?_, rfl⟩
  change readWhole ('1' :: rest) = _
  unfold readWhole
  rw [show skipSpace ('1' :: rest) = '1' :: rest from rfl, hvalue]

end Json

/-- Of the faults in JSON text, an excess is none that is expected. -/
theorem Failure.family?_ofJson (expected : Json.Error → Failure) (e : Json.Error) :
    (ofJson expected e).family? =
      if e.cause.isExcess = true then none else (expected e).family? := by
  unfold ofJson
  cases e.cause <;> rfl

/-! ### States of a file -/

namespace Settings

/-- What is found at the path of a file. -/
inductive File where
  | missing
  | unreadable (e : OsError)
  | text (cs : List Char)

namespace File

/-- Nothing, or an object that settings can be read from. -/
def Valid [Stack] : File → Prop
  | missing => True
  | unreadable _ => False
  | text cs => ∃ t, Json.readChars cs = .ok (.object t) ∧ (Settings.read (.object t)).Good

/-- The layer in a file. What is no object makes none. -/
def table [Stack] : File → Table Value
  | text cs =>
    match Json.readChars cs with
    | .ok (.object t) => t
    | _ => []
  | _ => []

/-- The text has a number that is too long, or values nested too deep. -/
def AsksTooMuch [Stack] : File → Prop
  | text cs => ∃ e, Json.readChars cs = .error e ∧ e.cause.isExcess = true
  | _ => False

/-- What comes of loading a file. -/
def loaded [Stack] (label : String) (p : Path) : File → Except Failure (Option (Table Value))
  | missing => .ok none
  | unreadable e => .error (.invalidFile label p.text (.os e))
  | text cs =>
    match Json.readChars cs with
    | .error e => .error (.ofJson (fun e => .invalidFile label p.text (.json e)) e)
    | .ok (.object t) => (validate p.text t).map fun _ => some t
    | .ok _ => .error (.notAnObject label p.text)

end File

theorem validate_of_good {origin : String} {t : Table Value} {s : Settings}
    (h : Settings.read (.object t) = .good s) : validate origin t = .ok s := by
  unfold validate
  rw [h]
  rfl

theorem validate_of_not_good (origin : String) {t : Table Value}
    (h : ¬(Settings.read (.object t)).Good) :
    ∃ e, validate origin t = .error e ∧ e.family? = some .config := by
  unfold validate
  cases hr : Settings.read (.object t) with
  | good s => exact absurd ⟨s, hr⟩ h
  | bad issues => exact ⟨_, rfl, rfl⟩

namespace File
variable {file : File} {label : String} {p : Path}

variable [Stack]

/-- The layer in a file in order is in order. -/
theorem holds_table (h : file.Valid) : ∃ parts, Holds file.table parts := by
  cases file with
  | missing => exact ⟨_, holds_nil⟩
  | unreadable e => exact h.elim
  | text cs =>
    obtain ⟨t, ht, hgood⟩ := h
    obtain ⟨parts, hparts⟩ := exists_holds (Json.wellFormed_readChars ht) hgood
    refine ⟨parts, ?_⟩
    simpa only [table, ht] using hparts

/-- A file in order is loaded. -/
theorem loaded_of_valid (h : file.Valid) :
    ∃ found, loaded label p file = .ok found ∧ found.getD [] = file.table := by
  cases file with
  | missing => exact ⟨none, rfl, rfl⟩
  | unreadable e => exact h.elim
  | text cs =>
    obtain ⟨t, ht, s, hs⟩ := h
    refine ⟨some t, ?_, ?_⟩
    · simp only [loaded, ht, validate_of_good hs]
      rfl
    · simp only [table, ht, Option.getD_some]

/-- A file out of order is an error of the settings, as long as it does not ask for too much. -/
theorem loaded_of_not_valid (h : ¬file.Valid) (hmuch : ¬file.AsksTooMuch) :
    ∃ e, loaded label p file = .error e ∧ e.family? = some .config := by
  cases file with
  | missing => exact absurd trivial h
  | unreadable e => exact ⟨_, rfl, rfl⟩
  | text cs =>
    simp only [loaded]
    cases hr : Json.readChars cs with
    | error e =>
      have hcause : e.cause.isExcess ≠ true := fun he => hmuch ⟨e, hr, he⟩
      refine ⟨_, rfl, ?_⟩
      rw [Failure.family?_ofJson, if_neg hcause]
      rfl
    | ok v =>
      cases v with
      | object t =>
        have hbad : ¬(Settings.read (.object t)).Good := fun hg => h ⟨t, hr, hg⟩
        obtain ⟨e, he, hfamily⟩ := validate_of_not_good p.text hbad
        exact ⟨e, by simp only [he]; rfl, hfamily⟩
      | _ => exact ⟨_, rfl, rfl⟩

/-- A file that asks for too much is not an error of the settings. -/
theorem loaded_of_asksTooMuch (h : file.AsksTooMuch) :
    ∃ e, loaded label p file = .error e ∧ e.family? = none := by
  cases file with
  | missing => exact h.elim
  | unreadable e => exact h.elim
  | text cs =>
    obtain ⟨e, hr, hcause⟩ := h
    simp only [loaded, hr]
    exact ⟨_, rfl, by rw [Failure.family?_ofJson, if_pos hcause]⟩

/-- Of a file out of order no layer is loaded. -/
theorem exists_error_of_not_valid (h : ¬file.Valid) :
    ∃ e, loaded label p file = .error e := by
  by_cases hmuch : file.AsksTooMuch
  · have hloaded : ∃ e, loaded label p file = .error e ∧ e.family? = none :=
      loaded_of_asksTooMuch hmuch
    exact hloaded.imp fun _ he => he.1
  · have hloaded : ∃ e, loaded label p file = .error e ∧ e.family? = some .config :=
      loaded_of_not_valid h hmuch
    exact hloaded.imp fun _ he => he.1

instance decidableAsksTooMuch : Decidable file.AsksTooMuch :=
  match file with
  | missing | unreadable _ => isFalse id
  | text cs =>
    match h : Json.readChars cs with
    | .ok _ => isFalse (by simp [AsksTooMuch, h])
    | .error e => decidable_of_iff (e.cause.isExcess = true) (by simp [AsksTooMuch, h])

theorem not_valid_of_asksTooMuch (h : file.AsksTooMuch) : ¬file.Valid := by
  cases file with
  | missing => exact h.elim
  | unreadable e => exact h.elim
  | text cs =>
    obtain ⟨e, hr, _⟩ := h
    rintro ⟨t, ht, _⟩
    cases ht.symm.trans hr

end File
end Settings

/-! ### Files on a machine -/

open Settings (File)

/-- A program that looks for a file at the path finds this. -/
def World.Finds (w : World) (p : Path) : File → Prop
  | .missing => ((Files.isFile p).run w).result = .ok false
  | .unreadable e =>
    ((Files.isFile p).run w).result = .ok true ∧ ((Files.read p).run w).result = .ok (.error e)
  | .text cs =>
    ((Files.isFile p).run w).result = .ok true ∧ ((Files.read p).run w).result = .ok (.ok cs)

instance World.decidableFinds (w : World) (p : Path) (file : File) : Decidable (w.Finds p file) :=
  match file with
  | .missing => inferInstanceAs (Decidable (_ = _))
  | .unreadable _ | .text _ => inferInstanceAs (Decidable (_ ∧ _))

theorem Files.result_read {w : World} {p : Path} {bytes : Text.Bytes} {cs : List Char}
    (h : (w.handle (.readFile p)).1 = .ok bytes) (hd : Text.decode bytes = .ok cs) :
    ((Files.read p).run w).result = .ok (.ok (Text.unifyLines cs)) := by
  have hanswer : ((request (.readFile p)).run w).result = .ok (.ok bytes) := congrArg Except.ok h
  refine (result_bind_of_ok hanswer).trans ?_
  dsimp only
  rw [hd]
  rfl

theorem Files.world_isFile (p : Path) (w : World) : ((Files.isFile p).run w).world = w := by
  unfold Files.isFile Files.whether
  split
  · rfl
  · change ((ofOs (w.isFile p)).run w).world = w
    cases w.isFile p <;> rfl

namespace Settings
variable {w : World} {p : Path} {label : String}

/-- The object in a file that can be read. -/
theorem result_readObject [Stack] (label : String) {cs : List Char}
    (h : ((Files.read p).run w).result = .ok (.ok cs)) :
    ((readObject label p).run w).result =
      match Json.readChars cs with
      | .error e => .error (.ofJson (fun e => .invalidFile label p.text (.json e)) e)
      | .ok (.object t) => .ok t
      | .ok _ => .error (.notAnObject label p.text) := by
  refine (result_bind_of_ok h).trans ?_
  dsimp only
  cases Json.readChars cs with
  | error e => rfl
  | ok v => cases v <;> rfl

theorem result_loadFile [Stack] {file : File} (h : w.Finds p file) :
    ((loadFile label p).run w).result = file.loaded label p := by
  unfold loadFile
  cases file with
  | missing => exact result_bind_of_ok h
  | unreadable e =>
    obtain ⟨hfile, hread⟩ := h
    refine (result_bind_of_ok hfile).trans ?_
    rw [Files.world_isFile]
    exact result_bind_of_error (result_bind_of_ok hread)
  | text cs =>
    obtain ⟨hfile, hread⟩ := h
    refine (result_bind_of_ok hfile).trans ?_
    rw [Files.world_isFile]
    have hobject := result_readObject label hread
    simp only [File.loaded]
    cases hr : Json.readChars cs with
    | error e =>
      rw [hr] at hobject
      exact result_bind_of_error hobject
    | ok v =>
      rw [hr] at hobject
      cases v with
      | object t =>
        refine (result_bind_of_ok hobject).trans ?_
        cases hv : validate p.text t <;> simp only [hv] <;> rfl
      | _ => exact result_bind_of_error hobject

end Settings
end ServiceAtlas
