/-!
Quotients rounded to whole numbers.
-/

namespace ServiceAtlas

/-- The nearest whole number to a quotient; a half goes to the even neighbour. -/
def nearest (num den : Nat) : Nat :=
  let q := num / den
  let twice := 2 * (num % den)
  if twice < den then q else if den < twice then q + 1 else q + q % 2

theorem nearest_within {num den : Nat} (h : 0 < den) :
    2 * num ≤ 2 * (den * nearest num den) + den ∧ 2 * (den * nearest num den) ≤ 2 * num + den := by
  have hm := Nat.div_add_mod num den
  have hlt := Nat.mod_lt num h
  have hs : ∀ k, den * (num / den + k) = den * (num / den) + den * k := fun k => Nat.mul_add ..
  unfold nearest
  dsimp only
  split
  · omega
  · split
    · have := hs 1
      omega
    · rcases Nat.mod_two_eq_zero_or_one (num / den) with he | he <;> rw [he, hs] <;> omega

end ServiceAtlas
