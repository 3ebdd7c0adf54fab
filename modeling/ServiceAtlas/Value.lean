import ServiceAtlas.Table
import ServiceAtlas.Decimal

/-!
The values that payloads, settings and documents are made of. Objects keep the order of their
fields; whole numbers have any size and differ from floats.
-/

namespace ServiceAtlas

inductive Value where
  | null
  | bool (b : Bool)
  | int (n : Int)
  | float (x : Float)
  | text (s : String)
  | list (items : List Value)
  | object (fields : List (String × Value))

namespace Value

/-- Null, false, zero and everything empty count as nothing given. -/
def isGiven : Value → Bool
  | null => false
  | bool b => b
  | int n => n ≠ 0
  | float x => x.toBits.toNat % Nat.pow 2 63 ≠ 0
  | text s => s ≠ ""
  | list items => !items.isEmpty
  | object fields => !fields.isEmpty

/-- The name under which messages speak of a kind of value. -/
def kindName : Value → String
  | null => "NoneType"
  | bool _ => "bool"
  | int _ => "int"
  | float _ => "float"
  | text _ => "str"
  | list _ => "list"
  | object _ => "dict"

def fields? : Value → Option (Table Value)
  | object fields => some fields
  | _ => none

def text? : Value → Option String
  | text s => some s
  | _ => none

/-- The field of an object; nothing else has fields. -/
def get? (v : Value) (key : String) : Option Value :=
  match v with
  | object fields => Table.find? fields key
  | _ => none

/-- The field of an object, or null. -/
def getD (v : Value) (key : String) : Value := (v.get? key).getD null

/-- What stands at the end of a path of keys. -/
def at? : List String → Value → Option Value
  | [], v => some v
  | key :: path, v => (v.get? key).bind (at? path)

def isNull : Value → Bool
  | null => true
  | _ => false

def ofOption {α : Type} (f : α → Value) : Option α → Value
  | none => null
  | some a => f a

def texts (names : List String) : Value := list (names.map text)

mutual
/-- Every object inside has distinct keys. -/
def WellFormed : Value → Prop
  | list items => WellFormedItems items
  | object fields => Table.Distinct fields ∧ WellFormedFields fields
  | _ => True

def WellFormedItems : List Value → Prop
  | [] => True
  | v :: vs => v.WellFormed ∧ WellFormedItems vs

def WellFormedFields : List (String × Value) → Prop
  | [] => True
  | (_, v) :: rest => v.WellFormed ∧ WellFormedFields rest
end

mutual
/-- No float stands anywhere inside. -/
def FloatFree : Value → Prop
  | float _ => False
  | list items => FloatFreeItems items
  | object fields => FloatFreeFields fields
  | _ => True

def FloatFreeItems : List Value → Prop
  | [] => True
  | v :: vs => v.FloatFree ∧ FloatFreeItems vs

def FloatFreeFields : List (String × Value) → Prop
  | [] => True
  | (_, v) :: rest => v.FloatFree ∧ FloatFreeFields rest
end

theorem sizeOf_lt_of_find? {fields : Table Value} {key : String} {v : Value}
    (h : Table.find? fields key = some v) : sizeOf v < sizeOf fields := by
  induction fields with
  | nil => simp [Table.find?] at h
  | cons e rest ih =>
    obtain ⟨k, w⟩ := e
    simp only [Table.find?] at h
    split at h
    · obtain rfl : w = v := by simpa using h
      simp only [List.cons.sizeOf_spec, Prod.mk.sizeOf_spec]
      omega
    · have := ih h
      simp only [List.cons.sizeOf_spec]
      omega

theorem sizeOf_getD_le (v : Value) (key : String) : sizeOf (v.getD key) ≤ sizeOf v := by
  have hnull : sizeOf null ≤ sizeOf v := by
    cases v <;> simp
  cases v with
  | object fields =>
    change sizeOf ((Table.find? fields key).getD null) ≤ _
    cases hf : Table.find? fields key with
    | none => exact hnull
    | some found =>
      have := sizeOf_lt_of_find? hf
      simp only [Option.getD_some, object.sizeOf_spec]
      omega
  | _ => exact hnull

end Value
end ServiceAtlas
