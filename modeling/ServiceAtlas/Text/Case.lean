import ServiceAtlas.Text.CaseTable
import ServiceAtlas.Text.Ranges

/-!
Lower and upper case of text in any script. One character may become several, and a capital sigma
that ends a word becomes the final small sigma.
-/

namespace ServiceAtlas.Text

/-- The character that a run of the case tables gives for `n`. -/
def imageIn (runs : List (Nat × Nat × Nat × Nat)) (n : Nat) : Option Nat :=
  runs.findSome? fun (first, last, step, image) =>
    if first ≤ n && n ≤ last && (n - first) % step == 0 then some (image + (n - first)) else none

def caseOf (runs : List (Nat × Nat × Nat × Nat)) (specials : List (Nat × List Nat)) (c : Char) :
    List Char :=
  match specials.lookup c.toNat with
  | some several => several.map Char.ofNat
  | none => [((imageIn runs c.toNat).map Char.ofNat).getD c]

def lowerChar (c : Char) : List Char :=
  if c.toNat < 0x80 then [c.toLower] else caseOf lowerRuns lowerSpecials c

def upperChar (c : Char) : List Char :=
  if c.toNat < 0x80 then [c.toUpper] else caseOf upperRuns upperSpecials c

/-- Whether the nearest character that counts for case is a letter that has one. -/
def nextIsCased (cs : List Char) : Bool :=
  match cs.dropWhile (inRanges caseIgnorableRanges) with
  | [] => false
  | c :: _ => inRanges casedRanges c

/-- Lower case, with what stands before, nearest first, for the sake of the final sigma. -/
def lowerAfter (before : List Char) : List Char → List Char
  | [] => []
  | c :: rest =>
    let small :=
      if c = 'Σ' then [if nextIsCased before && !nextIsCased rest then 'ς' else 'σ']
      else lowerChar c
    small ++ lowerAfter (c :: before) rest

def lower (s : String) : String := String.ofList (lowerAfter [] s.toList)

def upper (s : String) : String := String.ofList (s.toList.flatMap upperChar)

end ServiceAtlas.Text
