import ServiceAtlas.Proofs.ScalarWords
import ServiceAtlas.Proofs.TextLayout

/-!
What a reader sees of a written value: the same value, with other texts in place of those that are
garbled where they stand; and the tokens that it is made of.
-/

namespace ServiceAtlas.Yaml

/-! ### Keys -/

/-- What is seen of a key. -/
def seenKey (indent : Nat) (key : String) : String :=
  String.ofList (seenText (!isShortKey key.toList) (indent + 2) key.toList)

/-- Whether a key that stands on the line of its value is short enough to be known for a key. -/
def KeyFits (key : String) : Prop :=
  isShortKey key.toList = true → (textChars false 0 0 key.toList).length ≤ Token.keyLimit

/-- Where a value stands behind its key. -/
theorem spot_keyLine (indent : Nat) (name : List Char) :
    (keyLine indent name).spot ≠ .root ∧ indent < (keyLine indent name).column ∧
      ((keyLine indent name).spot ≠ .value → (keyLine indent name).column = indent + 1) := by
  unfold keyLine
  split_ifs
  · exact ⟨by simp, by dsimp only; omega, fun h => absurd rfl h⟩
  · exact ⟨by simp, by simp, fun _ => rfl⟩

/-! ### Values -/

mutual
/-- What is seen of a value that stands at this spot. -/
def seen (spot : Spot) (indent : Nat) : Value → Value
  | .text s => .text (String.ofList (seenText true (indent + 2) s.toList))
  | .list items => .list (seenItems (spot.listIndent indent) items)
  | .object fields => .object (seenFields (spot.tableIndent indent) fields)
  | v => v

def seenItems (indent : Nat) : List Value → List Value
  | [] => []
  | v :: rest => seen .item indent v :: seenItems indent rest

def seenFields (indent : Nat) : List (String × Value) → List (String × Value)
  | [] => []
  | (key, v) :: rest =>
    (seenKey indent key, seen (keyLine indent key.toList).spot indent v) :: seenFields indent rest
end

mutual
/-- Whether some text inside a value at this spot is read as another one. -/
def HoldsGarbled (spot : Spot) (indent : Nat) : Value → Prop
  | .text s => Garbled true (indent + 2) s.toList
  | .list items => ItemsGarbled (spot.listIndent indent) items
  | .object fields => FieldsGarbled (spot.tableIndent indent) fields
  | _ => False

def ItemsGarbled (indent : Nat) : List Value → Prop
  | [] => False
  | v :: rest => HoldsGarbled .item indent v ∨ ItemsGarbled indent rest

def FieldsGarbled (indent : Nat) : List (String × Value) → Prop
  | [] => False
  | (key, v) :: rest =>
    Garbled (!isShortKey key.toList) (indent + 2) key.toList ∨
      HoldsGarbled (keyLine indent key.toList).spot indent v ∨ FieldsGarbled indent rest
end

theorem ofList_eq_iff {cs : List Char} {s : String} : String.ofList cs = s ↔ cs = s.toList := by
  constructor
  · rintro rfl
    exact String.toList_ofList.symm
  · rintro rfl
    exact String.ofList_toList

theorem seenKey_eq_iff {indent : Nat} {key : String} :
    seenKey indent key = key ↔ ¬Garbled (!isShortKey key.toList) (indent + 2) key.toList := by
  rw [seenKey, ofList_eq_iff, seenText_eq_iff]

mutual
/-- Every key inside is known for a key. -/
def KeysFit : Value → Prop
  | .list items => KeysFitItems items
  | .object fields => KeysFitFields fields
  | _ => True

def KeysFitItems : List Value → Prop
  | [] => True
  | v :: rest => KeysFit v ∧ KeysFitItems rest

def KeysFitFields : List (String × Value) → Prop
  | [] => True
  | (key, v) :: rest => KeyFits key ∧ KeysFit v ∧ KeysFitFields rest
end

/-! ### Tokens -/

/-- The token of a text: what is seen of it, and whether it stands plain. -/
def textToken (fold : Bool) (indent : Nat) (cs : List Char) : Token :=
  .scalar (seenText fold indent cs) (TextStyle.of cs = .plain)

mutual
/-- The tokens of a value at a spot. A list level with its key bears no marks of its own. -/
def tokensOf (spot : Spot) (indent : Nat) : Value → List Token
  | .text s => [textToken true (indent + 2) s.toList]
  | .list [] => [.flowListStart, .flowListEnd]
  | .list (v :: rest) =>
    let items := .entry :: tokensOf .item (spot.listIndent indent) v ++
      tokensOfItems (spot.listIndent indent) rest
    if spot = .value then items else .listStart :: items ++ [.blockEnd]
  | .object [] => [.flowTableStart, .flowTableEnd]
  | .object ((key, v) :: rest) =>
    let inner := spot.tableIndent indent
    .tableStart :: .key :: textToken (!isShortKey key.toList) (inner + 2) key.toList :: .value ::
      tokensOf (keyLine inner key.toList).spot inner v ++ tokensOfEntries inner rest ++ [.blockEnd]
  | v => [.scalar ((wordOf v).getD []) true]

def tokensOfItems (indent : Nat) : List Value → List Token
  | [] => []
  | v :: rest => .entry :: tokensOf .item indent v ++ tokensOfItems indent rest

def tokensOfEntries (indent : Nat) : List (String × Value) → List Token
  | [] => []
  | (key, v) :: rest =>
    .key :: textToken (!isShortKey key.toList) (indent + 2) key.toList :: .value ::
      tokensOf (keyLine indent key.toList).spot indent v ++ tokensOfEntries indent rest
end

end ServiceAtlas.Yaml
