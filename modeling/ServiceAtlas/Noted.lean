import ServiceAtlas.Diagnostic
import ServiceAtlas.Failure

/-!
Results with the diagnostics that came before them, in order. What is noted never has an influence
on the result.
-/

namespace ServiceAtlas

structure Noted (α : Type) where
  notes : List Diagnostic
  value : α

namespace Noted

instance : Monad Noted where
  pure a := ⟨[], a⟩
  bind x f := ⟨x.notes ++ (f x.value).notes, (f x.value).value⟩

def note (d : Diagnostic) : Noted Unit := ⟨[d], ()⟩

@[simp] theorem notes_pure {α : Type} (a : α) : (pure a : Noted α).notes = [] := rfl

@[simp] theorem value_pure {α : Type} (a : α) : (pure a : Noted α).value = a := rfl

@[simp] theorem notes_bind {α β : Type} (x : Noted α) (f : α → Noted β) :
    (x >>= f).notes = x.notes ++ (f x.value).notes := rfl

@[simp] theorem value_bind {α β : Type} (x : Noted α) (f : α → Noted β) :
    (x >>= f).value = (f x.value).value := rfl

instance : LawfulMonad Noted where
  map_const := rfl
  id_map x := by cases x; simp [Functor.map]
  seqLeft_eq x y := by simp [SeqLeft.seqLeft, Seq.seq, Functor.map, Function.const]
  seqRight_eq x y := by simp [SeqRight.seqRight, Seq.seq, Functor.map, Function.const]
  pure_seq f x := by simp [Seq.seq, Functor.map, pure]
  bind_pure_comp f x := rfl
  bind_map f x := rfl
  pure_bind a f := by simp [bind, pure]
  bind_assoc x f g := by simp [bind]

end Noted

/-- A result or a failure, with the diagnostics that came before it. -/
abbrev Traced := ExceptT Failure Noted

namespace Traced

def note (d : Diagnostic) : Traced Unit := ExceptT.lift (Noted.note d)

def notes {α : Type} (x : Traced α) : List Diagnostic := x.run.notes

def result {α : Type} (x : Traced α) : Except Failure α := x.run.value

def ofExcept {α : Type} (x : Except Failure α) : Traced α := ExceptT.mk (pure x)

/-- A reading, with its report as the failure. -/
def ofChecked {α : Type} (record : String) (x : Checked α) : Traced α :=
  match x.toExcept record with
  | .ok a => pure a
  | .error report => throw (.invalid report)

end Traced
end ServiceAtlas
