import ServiceAtlas.Failure
import ServiceAtlas.Json.Writer
import ServiceAtlas.Yaml.Writer

/-!
Values as text, where there is any: a value with an excess stops whatever goes down into it, and nothing
is written of it.
-/

namespace ServiceAtlas
variable [Stack]

/-- The text that `form` gives to a value, once the descent into it has come to its end. -/
def Value.written (d : Descent) (form : Value → String) (v : Value) : Except Failure String :=
  match v.excess? (Stack.levels d) with
  | none => .ok (form v)
  | some e => .error (.ofExcess e)

/-- A whole file of JSON. -/
def Json.write : Value → Except Failure String := Value.written .writeJson Json.file

/-- A whole file of YAML. -/
def Yaml.write : Value → Except Failure String := Value.written .writeYaml Yaml.file

/-- The quoted form of a value. -/
def Value.quote : Value → Except Failure String := Value.written .showValue Value.inspected

/-- The form in which a value stands for a name; text stands for itself. -/
def Value.nameOf : Value → Except Failure String := Value.written .showValue Value.display

namespace Value
variable {d : Descent} {form : Value → String} {v : Value}

theorem written_of_within (h : v.Within d) : v.written d form = .ok (form v) := by
  rw [written, excess?_eq_none_iff_within.mpr h]

theorem written_ok_iff {text : String} : v.written d form = .ok text ↔ v.Within d ∧ text = form v := by
  constructor
  · intro h
    rw [written] at h
    cases he : v.excess? (Stack.levels d) with
    | none =>
      rw [he] at h
      cases h
      exact ⟨excess?_eq_none_iff_within.mp he, rfl⟩
    | some e =>
      rw [he] at h
      cases h
  · rintro ⟨h, rfl⟩
    exact written_of_within h

/-- What cannot be written has too long a number inside or is nested too deep. -/
theorem written_error {f : Failure} (h : v.written d form = .error f) :
    ¬v.Within d ∧ (f = .numberTooLong ∨ f = .nestedTooDeep) := by
  rw [written] at h
  cases he : v.excess? (Stack.levels d) with
  | none =>
    rw [he] at h
    cases h
  | some e =>
    rw [he] at h
    cases h
    refine ⟨fun hw => ?_, ?_⟩
    · rw [excess?_eq_none_iff_within.mpr hw] at he
      cases he
    · cases e
      · exact .inl rfl
      · exact .inr rfl

end Value
end ServiceAtlas
