import ServiceAtlas.Directories
import ServiceAtlas.Proofs.SettingsFiles
import ServiceAtlas.Proofs.SparedFiles

/-!
What a program comes upon that looks for a file and reads it, and which failures that can end in. A
failure is documented if it belongs to the family that speaks of such files.
-/

namespace ServiceAtlas
open Program

/-! ### Documented failures -/

/-- The result is a value or a failure of the family. -/
def Documented {α : Type} (family : Family) (result : Except Failure α) : Prop :=
  ∀ f, result = .error f → f.family? = some family

section Documented
variable {α β : Type} {family : Family} {p : Program α} {f : α → Program β} {w : World}

theorem documented_ok (a : α) : Documented family (.ok a : Except Failure α) := nofun

theorem documented_error_iff {e : Failure} :
    Documented family (.error e : Except Failure α) ↔ e.family? = some family := by
  refine ⟨fun h => h e rfl, ?_⟩
  rintro h _ ⟨⟩
  exact h

/-- A program of two steps fails as documented if both do. -/
theorem documented_bind_iff :
    Documented family ((p >>= f).run w).result ↔
      Documented family (p.run w).result ∧
        ∀ a, (p.run w).result = .ok a → Documented family ((f a).run (p.run w).world).result := by
  cases hp : (p.run w).result with
  | error e =>
    rw [result_bind_of_error hp]
    simp [documented_error_iff]
  | ok a =>
    rw [result_bind_of_ok hp]
    simp [documented_ok]

/-- Where the first step has no documented failure, it must not fail. -/
theorem documented_bind_of_crashes_iff (hp : p.Fails Failure.IsCrash) :
    Documented family ((p >>= f).run w).result ↔
      ∃ a, (p.run w).result = .ok a ∧ Documented family ((f a).run (p.run w).world).result := by
  cases he : (p.run w).result with
  | ok a =>
    rw [result_bind_of_ok he]
    simp
  | error e =>
    have hcrash : e.family? = none := hp.result he
    rw [result_bind_of_error he, documented_error_iff, hcrash]
    simp

end Documented

/-! ### What is found at a path -/

/-- What a program comes upon that looks for a file at a path and reads it. -/
inductive Found where
  /-- The machine does not say whether there is a file. -/
  | barred (e : OsError)
  /-- The bytes of the file are no text. -/
  | undecodable
  | file (file : Settings.File)

/-- The program has no answer to what it comes upon, where it has none to the texts that ask for too
much. -/
def Found.Unforeseen (excessive : List Char → Prop) : Found → Prop
  | barred _ | undecodable => True
  | file (.text cs) => excessive cs
  | file .missing | file (.unreadable _) => False

/-- The text of JSON has a number that is too long, or values nested too deep. -/
def Json.Excessive [Stack] (cs : List Char) : Prop := ∃ e, readChars cs = .error e ∧ e.cause.isExcess = true

def World.found (w : World) (p : Path) : Found :=
  if p.flaw?.isSome then .file .missing
  else
    match w.isFile p with
    | .error e => .barred e
    | .ok false => .file .missing
    | .ok true =>
      match (w.handle (.readFile p)).1 with
      | .error e => .file (.unreadable e)
      | .ok bytes =>
        match Text.decode bytes with
        | .error _ => .undecodable
        | .ok cs => .file (.text (Text.unifyLines cs))

namespace Files
variable {w : World} {p : Path}

theorem run_isFile (h : ¬p.flaw?.isSome) : (isFile p).run w = (ofOs (w.isFile p)).run w := by
  unfold isFile whether
  rw [if_neg h]
  rfl

theorem result_read_undecodable {bytes : Text.Bytes} {e : Text.DecodeError}
    (h : (w.handle (.readFile p)).1 = .ok bytes) (hd : Text.decode bytes = .error e) :
    ((read p).run w).result = .error .notUtf8 := by
  have hanswer : ((request (.readFile p)).run w).result = .ok (.ok bytes) := congrArg Except.ok h
  refine (result_bind_of_ok hanswer).trans ?_
  dsimp only
  rw [hd]
  rfl

/-- The three ways in which a program can go on that looks for a file. -/
theorem found_cases (w : World) (p : Path) :
    (∃ e, w.found p = .barred e ∧ ((isFile p).run w).result = .error (.os e)) ∨
    (w.found p = .undecodable ∧ ((isFile p).run w).result = .ok true ∧
      ((read p).run w).result = .error .notUtf8) ∨
    ∃ file, w.found p = .file file ∧ w.Finds p file := by
  unfold World.found
  split
  · rename_i hflaw
    refine .inr (.inr ⟨.missing, rfl, ?_⟩)
    change ((isFile p).run w).result = .ok false
    unfold isFile whether
    rw [if_pos hflaw]
    rfl
  · rename_i hflaw
    cases hasked : w.isFile p with
    | error e =>
      refine .inl ⟨e, rfl, ?_⟩
      rw [run_isFile hflaw, hasked]
      rfl
    | ok there =>
    have hthere : ((isFile p).run w).result = .ok there := by
      rw [run_isFile hflaw, hasked]
      rfl
    cases there with
    | false => exact .inr (.inr ⟨.missing, rfl, hthere⟩)
    | true =>
    dsimp only
    cases hread : (w.handle (.readFile p)).1 with
    | error e =>
      refine .inr (.inr ⟨.unreadable e, rfl, hthere, ?_⟩)
      have hanswer : ((request (.readFile p)).run w).result = .ok (.error e) :=
        congrArg Except.ok hread
      exact result_bind_of_ok hanswer
    | ok bytes =>
    dsimp only
    cases hdecode : Text.decode bytes with
    | error e => exact .inr (.inl ⟨rfl, hthere, result_read_undecodable hread hdecode⟩)
    | ok cs => exact .inr (.inr ⟨_, rfl, hthere, result_read hread hdecode⟩)

/-- What comes of a program that reads a file if it is there. -/
theorem result_look {β : Type} {go : Except OsError (List Char) → Program β}
    {k : Bool → Program β} (hk : k true = read p >>= go) (w : World) :
    ((isFile p >>= k).run w).result =
      match w.found p with
      | .barred e => .error (.os e)
      | .undecodable => .error .notUtf8
      | .file .missing => ((k false).run w).result
      | .file (.unreadable e) => ((go (.error e)).run ((read p).run w).world).result
      | .file (.text cs) => ((go (.ok cs)).run ((read p).run w).world).result := by
  rcases found_cases w p with ⟨e, hfound, hasked⟩ | ⟨hfound, hthere, hread⟩ | ⟨file, hfound, hfinds⟩
  · rw [hfound, result_bind_of_error hasked]
  · rw [hfound, result_bind_of_ok hthere, world_isFile, hk, result_bind_of_error hread]
  · rw [hfound]
    cases file with
    | missing => rw [result_bind_of_ok hfinds, world_isFile]
    | unreadable e =>
      obtain ⟨hthere, hread⟩ := hfinds
      rw [result_bind_of_ok hthere, world_isFile, hk, result_bind_of_ok hread]
    | text cs =>
      obtain ⟨hthere, hread⟩ := hfinds
      rw [result_bind_of_ok hthere, world_isFile, hk, result_bind_of_ok hread]

end Files

/-! ### Directories -/

namespace Directories

theorem crashes_homeOfText (s : String) : (homeOfText s).Fails Failure.IsCrash := by
  unfold homeOfText
  dsimp only
  split
  · rfl
  · split <;> trivial

theorem crashes_accountHome (account : String) : (accountHome account).Fails Failure.IsCrash := by
  intro answer
  cases answer with
  | none => rfl
  | some s => exact crashes_homeOfText s

theorem crashes_home : home.Fails Failure.IsCrash := by
  intro answer
  cases answer with
  | none => exact crashes_accountHome ""
  | some s => exact crashes_homeOfText s

/-- A home that is not known is no documented failure. -/
theorem crashes_expand (p : Path) : (expand p).Fails Failure.IsCrash := by
  unfold expand
  split
  · trivial
  · exact crashes_home.bind fun _ => trivial
  · exact (crashes_accountHome _).bind fun _ => trivial

theorem crashes_base (name : String) (place : List String) :
    (base name place).Fails Failure.IsCrash := by
  unfold base
  refine Fails.bind (p := request _) (fun _ => trivial) fun answer => ?_
  split
  · exact crashes_home.bind fun _ => trivial
  · exact crashes_home.bind fun _ => trivial
  · trivial

theorem crashes_made (p : Path) : (made p).Fails Failure.IsCrash := by
  refine (Files.crashes_makeDirectories p).bind fun outcome => ?_
  cases outcome with
  | error e => rfl
  | ok u => trivial

/-- A directory that cannot be made is none either. -/
theorem crashes_config : config.Fails Failure.IsCrash := by
  intro answer
  change Fails _ (if followsBaseRules answer = true then
    base "XDG_CONFIG_HOME" [".config"] >>= fun d => made (d.child application)
    else home >>= fun h => made (h.child hiddenName))
  split
  · exact (crashes_base _ _).bind fun _ => crashes_made _
  · exact crashes_home.bind fun _ => crashes_made _

end Directories

end ServiceAtlas
