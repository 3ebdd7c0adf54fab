import Mathlib.Tactic.SplitIfs
import ServiceAtlas.Text.Encoding

/-!
Text as the bytes and lines of a file. Every text comes back from its bytes, and one without carriage
returns keeps its lines.
-/

namespace ServiceAtlas.Text

theorem toNat_ofNat_byte {n : Nat} (h : n < 0x100) : (UInt8.ofNat n).toNat = n := by
  rw [UInt8.toNat_ofNat']
  omega

theorem char_range (c : Char) : c.toNat < 0xD800 ∨ 0xE000 ≤ c.toNat ∧ c.toNat < 0x110000 := by
  have h := c.valid
  simp only [UInt32.isValidChar, Nat.isValidChar] at h
  have : c.toNat = c.val.toNat := rfl
  omega

theorem isTail_ofNat (n : Nat) : isTail (.ofNat (0x80 + n % 0x40)) = true := by
  simp only [isTail, toNat_ofNat_byte (show 0x80 + n % 0x40 < 0x100 by omega), Bool.and_eq_true,
    decide_eq_true_eq]
  omega

theorem tailBits_ofNat (n : Nat) : tailBits (.ofNat (0x80 + n % 0x40)) = n % 0x40 := by
  rw [tailBits, toNat_ofNat_byte (by omega)]
  omega

theorem mayFollow_ofNat {first n : Nat} (hfirst : first < 0x100)
    (h0 : first = 0xE0 → 0x20 ≤ n % 0x40) (h1 : first = 0xED → n % 0x40 < 0x20)
    (h2 : first = 0xF0 → 0x10 ≤ n % 0x40) (h3 : first = 0xF4 → n % 0x40 < 0x10) :
    mayFollow (.ofNat first) (.ofNat (0x80 + n % 0x40)) = true := by
  have hbyte : ∀ k : Nat, k < 0x100 → (UInt8.ofNat first = UInt8.ofNat k ↔ first = k) := by
    intro k hk
    rw [← UInt8.toNat_inj, toNat_ofNat_byte hfirst, toNat_ofNat_byte hk]
  have e0 := hbyte 0xE0 (by decide)
  have e1 := hbyte 0xED (by decide)
  have e2 := hbyte 0xF0 (by decide)
  have e3 := hbyte 0xF4 (by decide)
  rw [mayFollow, isTail_ofNat, toNat_ofNat_byte (show 0x80 + n % 0x40 < 0x100 by omega)]
  change (if UInt8.ofNat first = UInt8.ofNat 0xE0 then _ else if UInt8.ofNat first = UInt8.ofNat 0xED
    then _ else if UInt8.ofNat first = UInt8.ofNat 0xF0 then _ else if UInt8.ofNat first =
    UInt8.ofNat 0xF4 then _ else _) = true
  simp only [e0, e1, e2, e3]
  split_ifs with c0 c1 c2 c3
  · have := h0 c0
    simp only [decide_eq_true_eq]
    omega
  · have := h1 c1
    simp only [decide_eq_true_eq]
    omega
  · have := h2 c2
    simp only [decide_eq_true_eq]
    omega
  · have := h3 c3
    simp only [decide_eq_true_eq]
    omega
  · rfl

/-- A character comes back from its bytes, whatever stands behind them. -/
theorem leadUtf8_encodeChar (c : Char) (rest : Bytes) :
    ∃ b tail, encodeChar c = b :: tail ∧ leadUtf8 b (tail ++ rest) = .char c (tail.length + 1) := by
  have hrange := char_range c
  have hc : Char.ofNat c.toNat = c := Char.ofNat_toNat c
  unfold encodeChar
  dsimp only
  generalize c.toNat = n at *
  split_ifs with h1 h2 h3
  · refine ⟨_, _, rfl, ?_⟩
    have hfirst := toNat_ofNat_byte (show n < 0x100 by omega)
    simp only [leadUtf8, hfirst, if_pos h1, hc]
    rfl
  · refine ⟨_, _, rfl, ?_⟩
    have hfirst := toNat_ofNat_byte (show 0xC0 + n / 0x40 < 0x100 by omega)
    have hvalue : (0xC0 + n / 0x40) % 0x20 * 0x40 + n % 0x40 = n := by omega
    simp only [leadUtf8, hfirst, lead2, List.cons_append, isTail_ofNat, tailBits_ofNat, hvalue, hc]
    rw [if_neg (by omega), if_neg (by omega), if_pos (by omega)]
    rfl
  · refine ⟨_, _, rfl, ?_⟩
    have hfirst := toNat_ofNat_byte (show 0xE0 + n / 0x1000 < 0x100 by omega)
    have hfollow : mayFollow (.ofNat (0xE0 + n / 0x1000)) (.ofNat (0x80 + n / 0x40 % 0x40)) = true :=
      mayFollow_ofNat (by omega) (by omega) (by omega) (by omega) (by omega)
    have hvalue : (0xE0 + n / 0x1000) % 0x10 * 0x1000 + n / 0x40 % 0x40 * 0x40 + n % 0x40 = n := by
      omega
    simp only [leadUtf8, hfirst, lead3, List.cons_append, hfollow, isTail_ofNat, tailBits_ofNat,
      hvalue, hc]
    rw [if_neg (by omega), if_neg (by omega), if_neg (by omega), if_pos (by omega)]
    rfl
  · refine ⟨_, _, rfl, ?_⟩
    have hfirst := toNat_ofNat_byte (show 0xF0 + n / 0x40000 < 0x100 by omega)
    have hfollow : mayFollow (.ofNat (0xF0 + n / 0x40000)) (.ofNat (0x80 + n / 0x1000 % 0x40)) = true :=
      mayFollow_ofNat (by omega) (by omega) (by omega) (by omega) (by omega)
    have hvalue : (0xF0 + n / 0x40000) % 0x08 * 0x40000 + n / 0x1000 % 0x40 * 0x1000 +
        n / 0x40 % 0x40 * 0x40 + n % 0x40 = n := by omega
    simp only [leadUtf8, hfirst, lead4, List.cons_append, hfollow, isTail_ofNat, tailBits_ofNat,
      hvalue, hc]
    rw [if_neg (by omega), if_neg (by omega), if_neg (by omega), if_neg (by omega), if_pos (by omega)]
    rfl

theorem decodeBy_skip (encoding : String) (head : UInt8 → Bytes → Lead) (tail rest : Bytes)
    (position : Nat) :
    decodeBy encoding head position tail.length (tail ++ rest) =
      decodeBy encoding head (position + tail.length) 0 rest := by
  induction tail generalizing position with
  | nil => rfl
  | cons b tail ih =>
    rw [List.cons_append, List.length_cons, decodeBy, ih, Nat.add_assoc, Nat.add_comm 1]

/-- Text comes back from its bytes. -/
theorem decode_encode (cs : List Char) : decode (encode cs) = .ok cs := by
  have hall : ∀ position, decodeBy "utf-8" leadUtf8 position 0 (encode cs) = .ok cs := by
    induction cs with
    | nil => exact fun _ => rfl
    | cons c cs ih =>
      intro position
      obtain ⟨b, tail, hbytes, hlead⟩ := leadUtf8_encodeChar c (encode cs)
      have hsplit : encode (c :: cs) = b :: (tail ++ encode cs) := by
        rw [encode, List.flatMap_cons, hbytes, List.cons_append]
        rfl
      rw [hsplit, decodeBy, hlead]
      dsimp only
      rw [Nat.add_sub_cancel, decodeBy_skip, ih]
      rfl
  exact hall 0

theorem encode_injective {cs ds : List Char} (h : encode cs = encode ds) : cs = ds := by
  have hd := decode_encode cs
  rw [h, decode_encode ds] at hd
  exact (Except.ok.inj hd).symm

theorem unifyLines_eq {cs : List Char} (h : '\r' ∉ cs) : unifyLines cs = cs := by
  induction cs with
  | nil => rfl
  | cons c rest ih =>
    have hc : c ≠ '\r' := fun he => h (he ▸ List.mem_cons_self)
    rw [unifyLines, ih fun hm => h (List.mem_cons_of_mem _ hm)]
    · rintro _ rfl
      exact absurd rfl hc
    · rintro rfl
      exact absurd rfl hc

end ServiceAtlas.Text
