import ServiceAtlas.Stack
import ServiceAtlas.Text.Integer
import ServiceAtlas.Value

/-!
What a value asks of everything that goes down into it: a level for each list and object around what
stands inside, and digits for each whole number.
-/

namespace ServiceAtlas.Value

mutual
/-- How many lists and objects stand inside each other. -/
def depth : Value → Nat
  | list items => depthOfItems items + 1
  | object fields => depthOfFields fields + 1
  | _ => 0

def depthOfItems : List Value → Nat
  | [] => 0
  | v :: rest => max v.depth (depthOfItems rest)

def depthOfFields : List (String × Value) → Nat
  | [] => 0
  | (_, v) :: rest => max v.depth (depthOfFields rest)
end

mutual
/-- No whole number inside has more than `digits` digits. -/
def IntsFit (digits : Nat) : Value → Prop
  | int n => (Text.natChars n.natAbs).length ≤ digits
  | list items => IntsFitItems digits items
  | object fields => IntsFitFields digits fields
  | _ => True

def IntsFitItems (digits : Nat) : List Value → Prop
  | [] => True
  | v :: rest => v.IntsFit digits ∧ IntsFitItems digits rest

def IntsFitFields (digits : Nat) : List (String × Value) → Prop
  | [] => True
  | (_, v) :: rest => v.IntsFit digits ∧ IntsFitFields digits rest
end

/-- The value asks for no more than a descent has. -/
structure Within [Stack] (d : Descent) (v : Value) : Prop where
  depth : v.depth ≤ Stack.levels d
  digits : v.IntsFit Text.digitLimit

/-- What is asked for that there is not. -/
inductive Excess where
  | digits
  | depth
deriving DecidableEq

mutual
/-- The first excess in a value, in the order of its text, with `levels` still open. -/
def excess? (levels : Nat) : Value → Option Excess
  | int n => if Text.digitLimit < (Text.natChars n.natAbs).length then some .digits else none
  | list items =>
    match levels with
    | 0 => some .depth
    | levels + 1 => excessOfItems? levels items
  | object fields =>
    match levels with
    | 0 => some .depth
    | levels + 1 => excessOfFields? levels fields
  | _ => none

def excessOfItems? (levels : Nat) : List Value → Option Excess
  | [] => none
  | v :: rest => (v.excess? levels).or (excessOfItems? levels rest)

def excessOfFields? (levels : Nat) : List (String × Value) → Option Excess
  | [] => none
  | (_, v) :: rest => (v.excess? levels).or (excessOfFields? levels rest)
end

mutual
theorem excess?_eq_none_iff (levels : Nat) (v : Value) :
    v.excess? levels = none ↔ v.depth ≤ levels ∧ v.IntsFit Text.digitLimit := by
  cases v with
  | int n => simp [excess?, depth, IntsFit]
  | list items =>
    cases levels with
    | zero => simp [excess?, depth]
    | succ levels =>
      rw [excess?, depth, IntsFit, excessOfItems?_eq_none_iff levels items, Nat.succ_le_succ_iff]
  | object fields =>
    cases levels with
    | zero => simp [excess?, depth]
    | succ levels =>
      rw [excess?, depth, IntsFit, excessOfFields?_eq_none_iff levels fields, Nat.succ_le_succ_iff]
  | _ => simp [excess?, depth, IntsFit]

theorem excessOfItems?_eq_none_iff (levels : Nat) (items : List Value) :
    excessOfItems? levels items = none ↔
      depthOfItems items ≤ levels ∧ IntsFitItems Text.digitLimit items := by
  cases items with
  | nil => simp [excessOfItems?, depthOfItems, IntsFitItems]
  | cons v rest =>
    rw [excessOfItems?, Option.or_eq_none_iff, excess?_eq_none_iff levels v,
      excessOfItems?_eq_none_iff levels rest, depthOfItems, IntsFitItems, Nat.max_le]
    exact and_and_and_comm

theorem excessOfFields?_eq_none_iff (levels : Nat) (fields : List (String × Value)) :
    excessOfFields? levels fields = none ↔
      depthOfFields fields ≤ levels ∧ IntsFitFields Text.digitLimit fields := by
  cases fields with
  | nil => simp [excessOfFields?, depthOfFields, IntsFitFields]
  | cons e rest =>
    obtain ⟨_, v⟩ := e
    rw [excessOfFields?, Option.or_eq_none_iff, excess?_eq_none_iff levels v,
      excessOfFields?_eq_none_iff levels rest, depthOfFields, IntsFitFields, Nat.max_le]
    exact and_and_and_comm
end

theorem excess?_eq_none_iff_within [Stack] {d : Descent} {v : Value} :
    v.excess? (Stack.levels d) = none ↔ v.Within d :=
  (excess?_eq_none_iff _ v).trans ⟨fun ⟨hd, hi⟩ => ⟨hd, hi⟩, fun ⟨hd, hi⟩ => ⟨hd, hi⟩⟩

end ServiceAtlas.Value
