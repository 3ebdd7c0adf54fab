/-!
How deep values may be nested for what goes down into them, one call for each level. The calls that wait
for each other share one stack; how many more it takes depends on the machine and on what is running
already, so the number is left open. Only these calls are counted: what each of them does by itself has
room enough, wherever it is.
-/

namespace ServiceAtlas

/-- What goes down into a value or a type. -/
inductive Descent where
  | readJson
  | writeJson
  | readYaml
  | writeYaml
  | readType
  | showValue
deriving DecidableEq

/-- The room on the stack: how many levels each descent can go down. -/
class Stack where
  levels : Descent → Nat
  /-- What the program itself makes is not nearly as deep. -/
  ample : ∀ d, 8 ≤ levels d

namespace Stack.Usual

/-- Room for a thousand calls, less those that wait already. Some descents need several calls for
each level. -/
def levels : Descent → Nat
  | .readJson | .writeJson | .readType | .showValue => 985
  | .readYaml => 485
  | .writeYaml => 325

theorem ample (d : Descent) : 8 ≤ levels d := by
  cases d <;> decide

scoped instance usual : Stack := ⟨levels, ample⟩

end Stack.Usual
end ServiceAtlas
