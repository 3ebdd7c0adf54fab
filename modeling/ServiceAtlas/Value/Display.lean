import ServiceAtlas.Value
import ServiceAtlas.Text.Quoted

/-!
Values inside messages and names. Text stands bare on its own and quoted inside anything else.
-/

namespace ServiceAtlas.Value

def floatNames : Decimal.Names := ⟨"nan", "inf"⟩

mutual
/-- The quoted form, in which every kind of value can be told apart. -/
def shown : Value → List Char
  | null => "None".toList
  | bool b => if b then "True".toList else "False".toList
  | int n => Text.intChars n
  | float x => Decimal.chars floatNames x
  | text s => Text.quotedChars s.toList
  | list items => '[' :: shownItems items ++ [']']
  | object fields => '{' :: shownFields fields ++ ['}']

def shownItems : List Value → List Char
  | [] => []
  | [v] => v.shown
  | v :: rest => v.shown ++ ',' :: ' ' :: shownItems rest

def shownFields : List (String × Value) → List Char
  | [] => []
  | [(k, v)] => Text.quotedChars k.toList ++ ':' :: ' ' :: v.shown
  | (k, v) :: rest =>
    Text.quotedChars k.toList ++ ':' :: ' ' :: v.shown ++ ',' :: ' ' :: shownFields rest
end

def inspected (v : Value) : String := String.ofList v.shown

/-- The form in which a value stands for a name or part of a sentence. -/
def display : Value → String
  | text s => s
  | v => v.inspected

@[simp] theorem display_text (s : String) : (text s).display = s := rfl

end ServiceAtlas.Value
