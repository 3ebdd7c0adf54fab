import ServiceAtlas.Credential
import ServiceAtlas.Proofs.FileText

/-!
The header of basic authentication read back. It holds plain characters only, and from it come the name
and the secret that it was made of, so that no two pairs have one header.
-/

namespace ServiceAtlas

namespace Text.Base64

theorem value?_char {n : Nat} (h : n < 64) : value? (char n) = some n := by
  have hall : ∀ n < 64, value? (char n) = some n := by decide
  exact hall n h

theorem char_ne_filling {n : Nat} (h : n < 64) : char n ≠ '=' := by
  intro he
  have hnone : value? '=' = none := by decide
  rw [← he, value?_char h] at hnone
  cases hnone

theorem plain_char {n : Nat} (h : n < 64) : (char n).toNat < 0x80 := by
  have hall : ∀ n < 64, (char n).toNat < 0x80 := by decide
  exact hall n h

/-- The first character of a group waits; each of the three behind it completes a byte. -/
theorem decodeFrom_char {n : Nat} (h : n < 64) (g : Group) (rest : List Char) :
    decodeFrom g (char n :: rest) =
      match g.bits with
      | [] => decodeFrom ⟨[n], 0⟩ rest
      | [x] => (decodeFrom ⟨[x, n], 0⟩ rest).map (.ofNat (x * 4 + n / 16) :: ·)
      | [x, y] => (decodeFrom ⟨[x, y, n], 0⟩ rest).map (.ofNat (y % 16 * 16 + n / 4) :: ·)
      | bits =>
        (decodeFrom ⟨[], 0⟩ rest).map (.ofNat ((bits.getLast?.getD 0) % 4 * 64 + n) :: ·) := by
  obtain ⟨bits, filling⟩ := g
  rw [decodeFrom, if_neg (char_ne_filling h), value?_char h]
  match bits with
  | [] | [_] | [_, _] | _ :: _ :: _ :: _ => rfl

theorem ofNat_eq {b : UInt8} {n : Nat} (h : n = b.toNat) : UInt8.ofNat n = b := by
  rw [h, UInt8.ofNat_toNat]

/-- Bytes come back from their characters, in whole groups and in a last one that is filled up. -/
theorem decode?_encode (bytes : Bytes) : decode? (encode bytes) = some bytes := by
  match bytes with
  | a :: b :: c :: rest =>
    have ih := decode?_encode rest
    have ha := a.toNat_lt
    have hb := b.toNat_lt
    have hc := c.toNat_lt
    have h1 : a.toNat / 4 * 4 + (a.toNat % 4 * 16 + b.toNat / 16) / 16 = a.toNat := by omega
    have h2 : (a.toNat % 4 * 16 + b.toNat / 16) % 16 * 16 + (b.toNat % 16 * 4 + c.toNat / 64) / 4 =
        b.toNat := by omega
    have h3 : (b.toNat % 16 * 4 + c.toNat / 64) % 4 * 64 + c.toNat % 64 = c.toNat := by omega
    have first : a.toNat / 4 < 64 := by omega
    have second : a.toNat % 4 * 16 + b.toNat / 16 < 64 := by omega
    have third : b.toNat % 16 * 4 + c.toNat / 64 < 64 := by omega
    have fourth : c.toNat % 64 < 64 := by omega
    unfold decode? at ih ⊢
    simp only [encode, decodeFrom_char first, decodeFrom_char second, decodeFrom_char third,
      decodeFrom_char fourth, List.getLast?_cons_cons, List.getLast?_singleton, Option.getD_some, ih,
      Option.map_some, ofNat_eq h1, ofNat_eq h2, ofNat_eq h3]
  | [a, b] =>
    have ha := a.toNat_lt
    have hb := b.toNat_lt
    have h1 : a.toNat / 4 * 4 + (a.toNat % 4 * 16 + b.toNat / 16) / 16 = a.toNat := by omega
    have h2 : (a.toNat % 4 * 16 + b.toNat / 16) % 16 * 16 + b.toNat % 16 * 4 / 4 = b.toNat := by
      omega
    have hend : ∀ x y z : Nat, decodeFrom ⟨[x, y, z], 0⟩ ['='] = some [] := fun _ _ _ => rfl
    have first : a.toNat / 4 < 64 := by omega
    have second : a.toNat % 4 * 16 + b.toNat / 16 < 64 := by omega
    have third : b.toNat % 16 * 4 < 64 := by omega
    unfold decode?
    simp only [encode, decodeFrom_char first, decodeFrom_char second, decodeFrom_char third, hend,
      Option.map_some, ofNat_eq h1, ofNat_eq h2]
  | [a] =>
    have ha := a.toNat_lt
    have h1 : a.toNat / 4 * 4 + a.toNat % 4 * 16 / 16 = a.toNat := by omega
    have hend : ∀ x y : Nat, decodeFrom ⟨[x, y], 0⟩ ['=', '='] = some [] := fun _ _ => rfl
    have first : a.toNat / 4 < 64 := by omega
    have second : a.toNat % 4 * 16 < 64 := by omega
    unfold decode?
    simp only [encode, decodeFrom_char first, decodeFrom_char second, hend, Option.map_some,
      ofNat_eq h1]
  | [] => rfl

theorem mem_encode {bytes : Bytes} {c : Char} (h : c ∈ encode bytes) :
    c = '=' ∨ ∃ n < 64, c = char n := by
  match bytes with
  | a :: b :: d :: rest =>
    have ha := a.toNat_lt
    have hb := b.toNat_lt
    have hd := d.toNat_lt
    simp only [encode, List.mem_cons] at h
    rcases h with h | h | h | h | h
    · exact .inr ⟨_, by omega, h⟩
    · exact .inr ⟨_, by omega, h⟩
    · exact .inr ⟨_, by omega, h⟩
    · exact .inr ⟨_, by omega, h⟩
    · exact mem_encode h
  | [a, b] =>
    have ha := a.toNat_lt
    have hb := b.toNat_lt
    simp only [encode, List.mem_cons, List.not_mem_nil, or_false] at h
    rcases h with h | h | h | h
    · exact .inr ⟨_, by omega, h⟩
    · exact .inr ⟨_, by omega, h⟩
    · exact .inr ⟨_, by omega, h⟩
    · exact .inl h
  | [a] =>
    have ha := a.toNat_lt
    simp only [encode, List.mem_cons, List.not_mem_nil, or_false, or_self] at h
    rcases h with h | h | h
    · exact .inr ⟨_, by omega, h⟩
    · exact .inr ⟨_, by omega, h⟩
    · exact .inl h
  | [] => cases h

theorem plain_of_mem_encode {bytes : Bytes} {c : Char} (h : c ∈ encode bytes) : c.toNat < 0x80 := by
  rcases mem_encode h with rfl | ⟨n, hn, rfl⟩
  · decide
  · exact plain_char hn

end Text.Base64

namespace Text

/-- Points are characters if none of them is a half. -/
theorem mapM_charOf?_eq_some_iff {points : List Point} {cs : List Char} :
    points.mapM charOf? = some cs ↔ points = cs.map pointOf := by
  induction points generalizing cs with
  | nil => cases cs <;> simp
  | cons p points ih =>
    rw [List.mapM_cons]
    simp only [Option.bind_eq_bind, Option.bind_eq_some_iff, Option.pure_def, Option.some.injEq,
      charOf?_eq_some_iff, ih]
    constructor
    · rintro ⟨c, rfl, rest, rfl, rfl⟩
      rfl
    · intro h
      cases cs with
      | nil => cases h
      | cons c rest =>
        obtain ⟨rfl, rfl⟩ := List.cons.inj h
        exact ⟨c, rfl, rest, rfl, rfl⟩

theorem exists_chars {points : List Point} (h : ∀ p ∈ points, isHalf p = false) :
    ∃ cs : List Char, points = cs.map pointOf := by
  refine ⟨points.map fun p => Char.ofNat p.val, ?_⟩
  rw [List.map_map]
  refine (List.map_id points).symm.trans (List.map_congr_left fun p hp => ?_)
  have hchar : charOf? p = some (Char.ofNat p.val) := if_neg (by simp [h p hp])
  exact charOf?_eq_some_iff.mp hchar

end Text

namespace Credential

/-- The name and the secret in a header: the bytes behind its lead are text, and the first colon ends
the name. -/
def read? (header : String) : Option (List Text.Point × List Text.Point) := do
  let cs ← Text.after? "Basic ".toList header.toList
  let bytes ← Text.Base64.decode? cs
  let text ← (Text.decode bytes).toOption
  let points := text.map Text.pointOf
  match points.dropWhile (· ≠ colon) with
  | _ :: secret => some (points.takeWhile (· ≠ colon), secret)
  | [] => none

variable {username secret : List Text.Point} {header : String}

/-- A header is made of every name and secret that are made of characters, and of no other. -/
theorem basicHeader_eq_ok_iff :
    basicHeader username secret = .ok header ↔
      ∃ cs : List Char, username ++ colon :: secret = cs.map Text.pointOf ∧
        header = "Basic " ++ String.ofList (Text.Base64.encode (Text.encode cs)) := by
  unfold basicHeader
  cases hchars : (username ++ colon :: secret).mapM Text.charOf? with
  | none =>
    refine iff_of_false nofun fun ⟨cs, hcs, _⟩ => ?_
    cases hchars.symm.trans (Text.mapM_charOf?_eq_some_iff.mpr hcs)
  | some cs =>
    have hcs := Text.mapM_charOf?_eq_some_iff.mp hchars
    constructor
    · intro h
      exact ⟨cs, hcs, (Except.ok.inj h).symm⟩
    · rintro ⟨other, hother, rfl⟩
      obtain rfl : cs = other :=
        Option.some.inj (hchars.symm.trans (Text.mapM_charOf?_eq_some_iff.mpr hother))
      rfl

/-- The name ends at the first colon; the secret may hold others. -/
theorem read?_of_basicHeader (hname : colon ∉ username) (h : basicHeader username secret = .ok header) :
    read? header = some (username, secret) := by
  obtain ⟨cs, hcs, rfl⟩ := basicHeader_eq_ok_iff.mp h
  have hname' : ∀ p ∈ username, decide (p ≠ colon) = true := by
    intro p hp
    simp only [decide_eq_true_eq]
    rintro rfl
    exact hname hp
  have hbefore : (username ++ colon :: secret).takeWhile (· ≠ colon) = username := by
    rw [List.takeWhile_append_of_pos hname']
    simp
  have hbehind : (username ++ colon :: secret).dropWhile (· ≠ colon) = colon :: secret := by
    rw [List.dropWhile_append_of_pos hname']
    simp
  unfold read?
  rw [String.toList_append, Text.after?_eq_some_iff.mpr rfl]
  simp only [Option.bind_eq_bind, Option.bind_some, String.toList_ofList,
    Text.Base64.decode?_encode, Text.decode_encode, Except.toOption, ← hcs, hbefore, hbehind]

theorem plain_of_basicHeader (h : basicHeader username secret = .ok header) :
    ∀ c ∈ header.toList, c.toNat < 0x80 := by
  obtain ⟨cs, _, rfl⟩ := basicHeader_eq_ok_iff.mp h
  intro c hc
  simp only [String.toList_append, String.toList_ofList] at hc
  rcases List.mem_append.mp hc with hlead | hcode
  · have hall : ("Basic ".toList.all fun c => decide (c.toNat < 0x80)) = true := by decide
    exact of_decide_eq_true (List.all_eq_true.mp hall c hlead)
  · exact Text.Base64.plain_of_mem_encode hcode

/-- Every name without a colon and every secret that hold no halves have a header of plain characters,
from which both come back. No other such pair has the same one. -/
theorem header_reads_back (hname : colon ∉ username)
    (husername : ∀ p ∈ username, Text.isHalf p = false)
    (hsecret : ∀ p ∈ secret, Text.isHalf p = false) :
    ∃ header, basicHeader username secret = .ok header ∧ (∀ c ∈ header.toList, c.toNat < 0x80) ∧
      read? header = some (username, secret) ∧
      ∀ username' secret', colon ∉ username' →
        basicHeader username' secret' = .ok header → username' = username ∧ secret' = secret := by
  obtain ⟨name, rfl⟩ := Text.exists_chars husername
  obtain ⟨behind, rfl⟩ := Text.exists_chars hsecret
  have hheader : basicHeader (name.map Text.pointOf) (behind.map Text.pointOf) =
      .ok ("Basic " ++ String.ofList (Text.Base64.encode (Text.encode (name ++ ':' :: behind)))) :=
    basicHeader_eq_ok_iff.mpr ⟨name ++ ':' :: behind, by rw [List.map_append, List.map_cons]; rfl, rfl⟩
  have hread := read?_of_basicHeader hname hheader
  refine ⟨_, hheader, plain_of_basicHeader hheader, hread, fun username' secret' hname' h' => ?_⟩
  have hread' := (read?_of_basicHeader hname' h').symm.trans hread
  exact Prod.mk.inj (Option.some.inj hread')

/-- A character that a text keeps for a half is one of its own here. -/
theorem header_reads_back_far :
    basicHeader [0x61] [0x7D800, 0x3A, 0x20AC] = .ok "Basic YTrxvaCAOuKCrA==" ∧
      read? "Basic YTrxvaCAOuKCrA==" = some ([0x61], [0x7D800, 0x3A, 0x20AC]) := by
  have hname : colon ∉ [0x61] := by decide +kernel
  have husername : ∀ p ∈ ([0x61] : List Text.Point), Text.isHalf p = false :=
    List.forall_mem_singleton.mpr rfl
  have hsecret : ∀ p ∈ ([0x7D800, 0x3A, 0x20AC] : List Text.Point), Text.isHalf p = false :=
    List.forall_mem_cons.mpr ⟨rfl, List.forall_mem_cons.mpr ⟨rfl, List.forall_mem_singleton.mpr rfl⟩⟩
  obtain ⟨header, hheader, _, hread, _⟩ := header_reads_back hname husername hsecret
  have hvalue : basicHeader [0x61] [0x7D800, 0x3A, 0x20AC] = .ok "Basic YTrxvaCAOuKCrA==" :=
    basicHeader_eq_ok_iff.mpr
      ⟨[Char.ofNat 0x61, ':', Char.ofNat 0x7D800, ':', '€'], by decide +kernel, by decide +kernel⟩
  obtain rfl := Except.ok.inj (hheader.symm.trans hvalue)
  exact ⟨hvalue, hread⟩

end Credential
end ServiceAtlas
