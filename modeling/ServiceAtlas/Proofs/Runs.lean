import ServiceAtlas.Proofs.Results
import ServiceAtlas.World

/-!
Programs run on a machine: what a run of two steps comes to, and what no run changes.
-/

namespace ServiceAtlas

namespace Program
variable {α β : Type} {p : Program α} {f : α → Program β} {w : World} {a : α} {e : Failure}

@[simp] theorem run_request (r : Request) (w : World) :
    (request r).run w = ⟨.ok (w.handle r).1, [], (w.handle r).2⟩ := rfl

@[simp] theorem run_ofExcept (x : Except Failure α) (w : World) :
    (ofExcept x).run w = ⟨x, [], w⟩ := by
  cases x <;> rfl

theorem ofExcept_ok_bind (a : α) (f : α → Program β) : ofExcept (.ok a) >>= f = f a := rfl

/-- After a step that says nothing, the program goes on with its answer. -/
theorem run_bind_of_quiet {w' : World} (h : p.run w = ⟨.ok a, [], w'⟩) :
    (p >>= f).run w = (f a).run w' := by
  induction p generalizing w with
  | done b =>
    cases h
    rfl
  | fail e => cases h
  | report d next ih => cases congrArg Run.notes h
  | ask r next ih => exact ih (w.handle r).1 (w := (w.handle r).2) h

/-- The second step runs on the machine that the first one leaves. -/
theorem result_bind_of_ok (h : (p.run w).result = .ok a) :
    ((p >>= f).run w).result = ((f a).run (p.run w).world).result := by
  induction p generalizing w with
  | done b =>
    obtain rfl := Except.ok.inj h
    rfl
  | fail e => cases h
  | report d next ih => exact ih (w := w) h
  | ask r next ih => exact ih (w.handle r).1 (w := (w.handle r).2) h

/-- A step that fails is the last one. -/
theorem result_bind_of_error (h : (p.run w).result = .error e) :
    ((p >>= f).run w).result = .error e := by
  induction p generalizing w with
  | done b => cases h
  | fail e' =>
    obtain rfl := Except.error.inj h
    rfl
  | report d next ih => exact ih (w := w) h
  | ask r next ih => exact ih (w.handle r).1 (w := (w.handle r).2) h

/-- The requests of a run in order, each with the machine that it was made to. -/
def steps : Program α → World → List (World × Request)
  | done _, _ | fail _, _ => []
  | report _ next, w => steps next w
  | ask r next, w => (w, r) :: steps (next (w.handle r).1) (w.handle r).2

theorem run_request_bind (r : Request) (f : r.Answer → Program β) (w : World) :
    (request r >>= f).run w = (f (w.handle r).1).run (w.handle r).2 := rfl

theorem steps_request_bind (r : Request) (f : r.Answer → Program β) (w : World) :
    (request r >>= f).steps w = (w, r) :: (f (w.handle r).1).steps (w.handle r).2 := rfl

/-- The second step leaves the machine that it leaves after the first, and its requests follow. -/
theorem bind_of_ok (h : (p.run w).result = .ok a) :
    ((p >>= f).run w).world = ((f a).run (p.run w).world).world ∧
      (p >>= f).steps w = p.steps w ++ (f a).steps (p.run w).world := by
  induction p generalizing w with
  | done b =>
    obtain rfl := Except.ok.inj h
    exact ⟨rfl, rfl⟩
  | fail e => cases h
  | report d next ih => exact ih (w := w) h
  | ask r next ih =>
    obtain ⟨hworld, hsteps⟩ := ih (w.handle r).1 (w := (w.handle r).2) h
    exact ⟨hworld, congrArg ((w, r) :: ·) hsteps⟩

/-- After a step that fails there are no more requests. -/
theorem bind_of_error (h : (p.run w).result = .error e) :
    ((p >>= f).run w).world = (p.run w).world ∧ (p >>= f).steps w = p.steps w := by
  induction p generalizing w with
  | done b => cases h
  | fail e' => exact ⟨rfl, rfl⟩
  | report d next ih => exact ih (w := w) h
  | ask r next ih =>
    obtain ⟨hworld, hsteps⟩ := ih (w.handle r).1 (w := (w.handle r).2) h
    exact ⟨hworld, congrArg ((w, r) :: ·) hsteps⟩

section
variable {q r : Program α} {w' w'' : World}

/-- From here on, the first program does what the second one does from there on. -/
structure ComesTo (p : Program α) (w : World) (q : Program α) (w' : World) : Prop where
  result : (p.run w).result = (q.run w').result
  world : (p.run w).world = (q.run w').world
  steps : q.steps w' ⊆ p.steps w

theorem ComesTo.refl (p : Program α) (w : World) : p.ComesTo w p w :=
  ⟨rfl, rfl, List.Subset.refl _⟩

theorem ComesTo.trans (h : p.ComesTo w q w') (h' : q.ComesTo w' r w'') : p.ComesTo w r w'' :=
  ⟨h.result.trans h'.result, h.world.trans h'.world, List.Subset.trans h'.steps h.steps⟩

theorem ComesTo.ask {a : Request} {f : a.Answer → Program α} {answer : a.Answer}
    (h : w.handle a = (answer, w')) (hf : (f answer).ComesTo w' q w'') :
    (request a >>= f).ComesTo w q w'' := by
  refine ComesTo.trans ⟨?_, ?_, ?_⟩ hf
  · rw [run_request_bind, h]
  · rw [run_request_bind, h]
  · rw [steps_request_bind, h]
    exact List.subset_cons_self _ _

theorem ComesTo.bind {first : Program β} {f : β → Program α} {b : β}
    (h : (first.run w).result = .ok b) : (first >>= f).ComesTo w (f b) (first.run w).world := by
  refine ⟨result_bind_of_ok h, (bind_of_ok h).1, ?_⟩
  rw [(bind_of_ok h).2]
  exact List.subset_append_right _ _

end

/-- A failure that is caught is a result like any other. -/
theorem run_attempt (p : Program α) (w : World) :
    ((attempt p).run w).result = .ok (p.run w).result ∧
      ((attempt p).run w).world = (p.run w).world := by
  induction p generalizing w with
  | done a => exact ⟨rfl, rfl⟩
  | fail e => exact ⟨rfl, rfl⟩
  | report d next ih => exact ih w
  | ask r next ih => exact ih (w.handle r).1 (w.handle r).2

/-- A last step that asks nothing only looks at the result. -/
theorem run_bind_ofExcept (p : Program α) (f : α → Except Failure β) (w : World) :
    ((p >>= fun a => ofExcept (f a)).run w).result = (p.run w).result >>= f ∧
      ((p >>= fun a => ofExcept (f a)).run w).world = (p.run w).world := by
  induction p generalizing w with
  | done a => exact ⟨congrArg Run.result (run_ofExcept (f a) w), congrArg Run.world (run_ofExcept (f a) w)⟩
  | fail e => exact ⟨rfl, rfl⟩
  | report d next ih => exact ih w
  | ask r next ih => exact ih _ _

end Program

/-! ### Failures that a program can come to -/

/-- The failure lies outside every family. -/
def Failure.IsCrash (f : Failure) : Prop := f.family? = none

namespace Program
variable {α β : Type} {p : Program α} {f : α → Program β} {allowed : Failure → Prop}

/-- Every failure of the program, whatever the answers are, is one of these. -/
def Fails (allowed : Failure → Prop) : Program α → Prop
  | done _ => True
  | fail e => allowed e
  | report _ next => Fails allowed next
  | ask _ next => ∀ a, Fails allowed (next a)

theorem Fails.bind (hp : p.Fails allowed) (hf : ∀ a, (f a).Fails allowed) :
    (p >>= f).Fails allowed := by
  induction p with
  | done a => exact hf a
  | fail e => exact hp
  | report d next ih => exact ih hp
  | ask r next ih => exact fun a => ih a (hp a)

theorem Fails.result (h : p.Fails allowed) {w : World} {e : Failure}
    (he : (p.run w).result = .error e) : allowed e := by
  induction p generalizing w with
  | done a => cases he
  | fail e' =>
    obtain rfl := Except.error.inj he
    exact h
  | report d next ih => exact ih h he
  | ask r next ih => exact ih _ (h _) he

end Program

/-! ### What no run changes -/

/-- The two machines have the same variables, and programs start in the same directory. -/
structure World.SameSurroundings (w w' : World) : Prop where
  environment : w'.environment = w.environment
  workingDirectory : w'.workingDirectory = w.workingDirectory

namespace World

theorem SameSurroundings.refl (w : World) : SameSurroundings w w := ⟨rfl, rfl⟩

theorem SameSurroundings.trans {w w' w'' : World} (h : SameSurroundings w w')
    (h' : SameSurroundings w' w'') : SameSurroundings w w'' :=
  ⟨h'.environment.trans h.environment, h'.workingDirectory.trans h.workingDirectory⟩

theorem same_answer {α : Type} (w : World) (f : FileTree → Except OsError (α × FileTree)) :
    SameSurroundings w (w.answer f).2 := by
  unfold answer
  dsimp only
  split
  · exact ⟨rfl, rfl⟩
  · split
    · exact ⟨rfl, rfl⟩
    · exact ⟨rfl, rfl⟩

theorem same_handle (w : World) (r : Request) : SameSurroundings w (w.handle r).2 := by
  cases r with
  | readFile _ => exact same_answer w _
  | makeDirectory _ => exact same_answer w _
  | createBeside _ => exact same_answer w _
  | writeBytes _ _ => exact same_answer w _
  | flush _ => exact same_answer w _
  | sync _ => exact same_answer w _
  | close _ => exact same_answer w _
  | rename _ _ => exact same_answer w _
  | remove _ => exact same_answer w _
  | _ => exact ⟨rfl, rfl⟩

end World

namespace World

theorem refuses_answer {α : Type} (w : World) (f : FileTree → Except OsError (α × FileTree)) :
    (w.answer f).2.refuses = w.refuses := by
  unfold answer
  dsimp only
  split
  · rfl
  · split <;> rfl

theorem refuses_handle (w : World) (r : Request) : (w.handle r).2.refuses = w.refuses := by
  cases r with
  | readFile _ => exact refuses_answer w _
  | makeDirectory _ => exact refuses_answer w _
  | createBeside _ => exact refuses_answer w _
  | writeBytes _ _ => exact refuses_answer w _
  | flush _ => exact refuses_answer w _
  | sync _ => exact refuses_answer w _
  | close _ => exact refuses_answer w _
  | rename _ _ => exact refuses_answer w _
  | remove _ => exact refuses_answer w _
  | _ => rfl

/-- What the machine refuses is settled before the run. -/
theorem refuses_run {α : Type} (p : Program α) (w : World) :
    (p.run w).world.refuses = w.refuses := by
  induction p generalizing w with
  | done a => rfl
  | fail e => rfl
  | report d next ih => exact ih w
  | ask r next ih => exact (ih _ _).trans (w.refuses_handle r)

end World

theorem Program.same_run {α : Type} (p : Program α) (w : World) :
    World.SameSurroundings w (p.run w).world := by
  induction p generalizing w with
  | done a => exact .refl w
  | fail e => exact .refl w
  | report d next ih => exact ih w
  | ask r next ih => exact (w.same_handle r).trans (ih _ _)

end ServiceAtlas
