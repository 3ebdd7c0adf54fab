import Mathlib.Tactic.Ring
import ServiceAtlas.Text.Digits

/-!
Numerals and the numbers that they stand for: decimal digits without needless zeros, and hexadecimal
digits of a fixed width.
-/

namespace ServiceAtlas.Text

/-! ### Decimal digits -/

theorem toNat_digitChar {d : Nat} (h : d < 10) : (digitChar d).toNat = 0x30 + d := by
  have hall : ∀ d < 10, (digitChar d).toNat = 0x30 + d := by decide
  exact hall d h

theorem isDigit_digitChar {d : Nat} (h : d < 10) : (digitChar d).isDigit = true := by
  have hall : ∀ d < 10, (digitChar d).isDigit = true := by decide
  exact hall d h

theorem digitChar_eq_zero_iff {d : Nat} (h : d < 10) : digitChar d = '0' ↔ d = 0 := by
  have hall : ∀ d < 10, digitChar d = '0' ↔ d = 0 := by decide
  exact hall d h

theorem natChars_of_lt {n : Nat} (h : n < 10) : natChars n = [digitChar n] := by
  rw [natChars, digitsBelow, if_pos h]
  rfl

theorem natChars_of_ge {n : Nat} (h : 10 ≤ n) :
    natChars n = natChars (n / 10) ++ [digitChar (n % 10)] := by
  rw [natChars, digitsBelow, if_neg (by omega)]
  simp [natChars]

/-- Numbers by their digits, the last one taken off at each step. -/
theorem natChars_induction {motive : Nat → Prop} (n : Nat) (last : ∀ d < 10, motive d)
    (more : ∀ n, 10 ≤ n → motive (n / 10) → motive n) : motive n := by
  induction n using Nat.strongRecOn with
  | _ n ih =>
    by_cases h : n < 10
    · exact last n h
    · exact more n (by omega) (ih (n / 10) (by omega))

theorem isDigit_of_mem_natChars {n : Nat} {c : Char} (h : c ∈ natChars n) : c.isDigit = true := by
  induction n using natChars_induction with
  | last d hd =>
    rw [natChars_of_lt hd, List.mem_singleton] at h
    exact h ▸ isDigit_digitChar hd
  | more n hn ih =>
    rw [natChars_of_ge hn, List.mem_append, List.mem_singleton] at h
    rcases h with h | rfl
    · exact ih h
    · exact isDigit_digitChar (Nat.mod_lt _ (by omega))

/-- A numeral begins with a zero only where it is nothing else. -/
theorem natChars_head (n : Nat) :
    natChars n = ['0'] ∧ n = 0 ∨ ∃ c rest, natChars n = c :: rest ∧ c ≠ '0' := by
  induction n using natChars_induction with
  | last d hd =>
    rw [natChars_of_lt hd]
    by_cases h : d = 0
    · exact .inl ⟨by rw [h]; rfl, h⟩
    · exact .inr ⟨_, _, rfl, fun hz => h ((digitChar_eq_zero_iff hd).mp hz)⟩
  | more n hn ih =>
    rw [natChars_of_ge hn]
    rcases ih with ⟨_, hz⟩ | ⟨c, rest, hc, hne⟩
    · omega
    · exact .inr ⟨c, rest ++ [digitChar (n % 10)], by rw [hc]; rfl, hne⟩

theorem natChars_ne_nil (n : Nat) : natChars n ≠ [] := by
  rcases natChars_head n with ⟨h, _⟩ | ⟨c, rest, h, _⟩ <;> simp [h]

/-- A numeral has at most `k` digits exactly if its number is below the `k`th power of ten. -/
theorem length_natChars_le_iff (n : Nat) : ∀ k, (natChars n).length ≤ k + 1 ↔ n < 10 ^ (k + 1) := by
  induction n using natChars_induction with
  | last d hd =>
    intro k
    have hk : 10 ^ 1 ≤ 10 ^ (k + 1) := Nat.pow_le_pow_right (by omega) (by omega)
    rw [natChars_of_lt hd]
    simp only [List.length_singleton]
    omega
  | more n hn ih =>
    intro k
    rw [natChars_of_ge hn, List.length_append, List.length_singleton]
    cases k with
    | zero =>
      have := List.length_pos_iff.mpr (natChars_ne_nil (n / 10))
      omega
    | succ k =>
      have hpow : 10 ^ (k + 1 + 1) = 10 * 10 ^ (k + 1) := by rw [Nat.pow_succ]; omega
      have := ih k
      omega

/-- The values of the digits. -/
theorem map_natChars (n : Nat) :
    (natChars n).map (fun c => c.toNat - 0x30) = (digitsBelow n).reverse := by
  rw [natChars, List.map_map]
  refine (List.map_congr_left fun d hd => ?_).trans (List.map_id _)
  have hlt := digitsBelow_lt (List.mem_reverse.mp hd)
  simp only [Function.comp_apply, toNat_digitChar hlt, id]
  omega

theorem valueOf_natChars (n : Nat) :
    valueOf 10 ((natChars n).map fun c => c.toNat - 0x30) = n := by
  rw [map_natChars, valueOf_digitsBelow]

/-! ### Hexadecimal digits -/

theorem hexValue?_hexChar {d : Nat} (upperCase : Bool) (h : d < 16) :
    hexValue? (hexChar upperCase d) = some d := by
  have hall : ∀ upperCase, ∀ d < 16, hexValue? (hexChar upperCase d) = some d := by decide
  exact hall upperCase d h

/-- The values of the last digits of a number. -/
def nibbles : (width n : Nat) → List Nat
  | 0, _ => []
  | width + 1, n => nibbles width (n / 16) ++ [n % 16]

theorem length_nibbles (width n : Nat) : (nibbles width n).length = width := by
  induction width generalizing n with
  | zero => rfl
  | succ width ih => simp [nibbles, ih]

theorem valueOf_nibbles (width n : Nat) : valueOf 16 (nibbles width n) = n % 16 ^ width := by
  induction width generalizing n with
  | zero => simp [nibbles, valueOf, Nat.mod_one]
  | succ width ih =>
    rw [nibbles, valueOf_append, ih, Nat.pow_succ, Nat.mul_comm (16 ^ width), Nat.mod_mul]
    omega

theorem filterMap_hex (upperCase : Bool) (width n : Nat) :
    (hex upperCase width n).filterMap hexValue? = nibbles width n := by
  induction width generalizing n with
  | zero => rfl
  | succ width ih =>
    rw [hex, List.filterMap_append, ih, nibbles]
    simp [hexValue?_hexChar upperCase (Nat.mod_lt n (by omega : 0 < 16))]

end ServiceAtlas.Text
