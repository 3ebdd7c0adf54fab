import ServiceAtlas.Document.Render
import ServiceAtlas.Mapping
import ServiceAtlas.Proofs.Numerals
import ServiceAtlas.Proofs.DistinctKeys

/-!
JSON text read back. What is written of a value is read as that value, whatever stands behind it; the
only values that do not come back are those that ask for too much of the reader.
-/

namespace ServiceAtlas

namespace Json

/-! ### Text -/

theorem hex4?_hex {n : Nat} {a b c d : Char} (h : Text.hex false 4 n = [a, b, c, d]) :
    hex4? a b c d = some (n % 16 ^ 4) := by
  have hv := congrArg (List.filterMap Text.hexValue?) h
  rw [Text.filterMap_hex] at hv
  have hlen := Text.length_nibbles 4 n
  rw [← Text.valueOf_nibbles]
  rw [hv] at hlen ⊢
  unfold hex4?
  cases ha : Text.hexValue? a <;> cases hb : Text.hexValue? b <;>
    cases hc : Text.hexValue? c <;> cases hd : Text.hexValue? d <;> simp_all

theorem readUnit_hex {n : Nat} (hn : n < 16 ^ 4) {rest : List Char} (hrest : rest ≠ []) :
    readUnit (Text.hex false 4 n ++ rest) = .ok (n, rest) := by
  obtain ⟨a, b, c, d, h⟩ : ∃ a b c d, Text.hex false 4 n = [a, b, c, d] := ⟨_, _, _, _, rfl⟩
  obtain ⟨next, more, rfl⟩ := List.exists_cons_of_ne_nil hrest
  rw [h]
  simp only [readUnit, List.cons_append, List.nil_append]
  rw [hex4?_hex h, Nat.mod_eq_of_lt hn]

/-- A control character comes back from the escape with its number. -/
theorem readEscape_hex {c : Char} (hc : c.toNat < 0x20) {opening rest : List Char}
    (hrest : rest ≠ []) :
    readEscape opening ('u' :: (Text.hex false 4 c.toNat ++ rest)) = .ok (c, rest) := by
  have hunit := readUnit_hex (n := c.toNat) (by omega) hrest
  have hhigh : Text.isHighHalf c.toNat = false := by simp [Text.isHighHalf]; omega
  have hhalf : Text.isHalf c.toNat = false := by simp [Text.isHalf, hhigh, Text.isLowHalf]; omega
  simp [readEscape, readHex, hunit, hhigh, Text.charOfUnit, hhalf, bind, Except.bind, pure,
    Except.pure]

theorem readText_of_escape {opening cs rest : List Char} {c : Char}
    (h : readEscape opening cs = .ok (c, rest)) :
    readText opening ('\\' :: cs) = (readText opening rest).map fun p => (c :: p.1, p.2) := by
  rw [readText]
  split
  · rename_i fault hf
    cases h.symm.trans hf
  · rename_i c' more hm
    cases h.symm.trans hm
    rfl

/-- One character of a text comes back from what is written of it. -/
theorem readText_escaped (c : Char) {opening rest : List Char} (hrest : rest ≠ []) :
    readText opening (escaped c ++ rest) =
      (readText opening rest).map fun p => (c :: p.1, p.2) := by
  unfold escaped
  split_ifs with hquote hslash hn hr ht hb hf hcontrol
  all_goals try (subst c; exact readText_of_escape rfl)
  · exact readText_of_escape (readEscape_hex hcontrol hrest)
  · rw [List.singleton_append, readText]
    · rw [if_neg hcontrol]
    · rintro rfl
      exact hquote rfl
    · rintro rfl
      exact hslash rfl

theorem readText_textChars (cs opening rest : List Char) :
    readText opening (cs.flatMap escaped ++ '"' :: rest) = .ok (cs, rest) := by
  induction cs with
  | nil => rw [List.flatMap_nil, List.nil_append, readText]
  | cons c cs ih =>
    rw [List.flatMap_cons, List.append_assoc, readText_escaped c (by simp), ih]
    rfl

/-! ### What may stand behind a value -/

/-- A character that ends the value before it. -/
def ends (c : Char) : Bool := isSpace c || c = ',' || c = ']' || c = '\x7d'

/-- Nothing that stands behind a value belongs to it. -/
def Parted (rest : List Char) : Prop := ∀ c ∈ rest.head?, ends c = true

theorem parted_cons {c : Char} {rest : List Char} (h : ends c = true) : Parted (c :: rest) := by
  simpa [Parted] using h

theorem parted_blanks {blanks rest : List Char} (hb : ∀ c ∈ blanks, isSpace c = true)
    (hrest : Parted rest) : Parted (blanks ++ rest) := by
  cases blanks with
  | nil => exact hrest
  | cons c blanks => exact parted_cons (by simp [ends, hb c])

theorem ends_cases {c : Char} (h : ends c = true) :
    c = ' ' ∨ c = '\t' ∨ c = '\n' ∨ c = '\r' ∨ c = ',' ∨ c = ']' ∨ c = '\x7d' := by
  simp only [ends, isSpace, Bool.or_eq_true, decide_eq_true_eq] at h
  tauto

theorem Parted.takeWhile_isDigit {ds rest : List Char} (h : Parted rest)
    (hds : ∀ c ∈ ds, c.isDigit = true) :
    (ds ++ rest).takeWhile Char.isDigit = ds ∧ (ds ++ rest).dropWhile Char.isDigit = rest := by
  rw [List.takeWhile_append_of_pos hds, List.dropWhile_append_of_pos hds]
  cases rest with
  | nil => simp
  | cons c rest =>
    have hc : c.isDigit = false := by
      rcases ends_cases (h c rfl) with rfl | rfl | rfl | rfl | rfl | rfl | rfl <;> rfl
    simp [hc]

theorem Parted.readFraction {rest : List Char} (h : Parted rest) : readFraction rest = ([], rest) := by
  cases rest with
  | nil => rfl
  | cons c rest =>
    rcases ends_cases (h c rfl) with rfl | rfl | rfl | rfl | rfl | rfl | rfl <;> rfl

theorem Parted.readExponent {rest : List Char} (h : Parted rest) :
    readExponent rest = (none, rest) := by
  cases rest with
  | nil => rfl
  | cons c rest =>
    rcases ends_cases (h c rfl) with rfl | rfl | rfl | rfl | rfl | rfl | rfl <;> rfl

/-! ### Reading that comes to a value or to an excess -/

/-- Reading comes to `a`, with `rest` left, if this is not too much for it; else it says that it is. -/
def Settles {α : Type} (fits : Prop) (x : Except Fault (α × List Char)) (a : α) (rest : List Char) :
    Prop :=
  (fits → x = .ok (a, rest)) ∧ (¬fits → ∃ f, x = .error f ∧ f.cause.isExcess = true)

theorem settles_ok {α : Type} {fits : Prop} (h : fits) (a : α) (rest : List Char) :
    Settles fits (.ok (a, rest)) a rest :=
  ⟨fun _ => rfl, fun hn => absurd h hn⟩

theorem Settles.bind {α β : Type} {P Q R : Prop} {x : Except Fault (α × List Char)} {a : α} {b : β}
    {f : α × List Char → Except Fault (β × List Char)} {rest more : List Char}
    (hx : Settles P x a rest) (hf : Settles Q (f (a, rest)) b more) (h : R ↔ P ∧ Q) :
    Settles R (x >>= f) b more := by
  by_cases hp : P
  · rw [hx.1 hp]
    exact ⟨fun hr => hf.1 (h.mp hr).2, fun hr => hf.2 fun hq => hr (h.mpr ⟨hp, hq⟩)⟩
  · obtain ⟨e, he, hexcess⟩ := hx.2 hp
    rw [he]
    exact ⟨fun hr => absurd (h.mp hr).1 hp, fun _ => ⟨e, rfl, hexcess⟩⟩

/-! ### Numbers -/

theorem digitsOf_natChars (n : Nat) : Text.valueOf 10 (digitsOf (Text.natChars n)) = n :=
  Text.valueOf_natChars n

theorem settles_readUnsigned (digits : Nat) {rest : List Char} (negative : Bool) (n : Nat)
    (h : Parted rest) :
    Settles ((Text.natChars n).length ≤ digits)
      (readUnsigned digits negative (Text.natChars n) rest)
      (.int (if negative then -(n : Int) else n)) rest := by
  have hread : readUnsigned digits negative (Text.natChars n) rest =
      if digits < (Text.natChars n).length then
        .error ⟨.tooManyDigits (Text.natChars n).length, rest⟩
      else .ok (.int (if negative then -(n : Int) else n), rest) := by
    simp [readUnsigned, h.readFraction, h.readExponent, digitsOf_natChars]
  rw [hread]
  by_cases hfits : (Text.natChars n).length ≤ digits
  · rw [if_neg (by omega)]
    exact settles_ok hfits _ _
  · rw [if_pos (by omega)]
    exact ⟨fun hf => absurd hf hfits, fun _ => ⟨_, rfl, rfl⟩⟩

/-- The digits at the head of a text are one number. -/
theorem readNumber_digits {digits : Nat} {rest : List Char} (n : Nat) (h : Parted rest) :
    readNumber digits (Text.natChars n ++ rest) =
        readUnsigned digits false (Text.natChars n) rest ∧
      readNumber digits ('-' :: (Text.natChars n ++ rest)) =
        readUnsigned digits true (Text.natChars n) rest := by
  rcases Text.natChars_head n with ⟨hzero, _⟩ | ⟨c, ds, hcs, hne⟩
  · rw [hzero]
    exact ⟨rfl, rfl⟩
  · have hall : ∀ d ∈ c :: ds, d.isDigit = true := fun d hd =>
      Text.isDigit_of_mem_natChars (n := n) (hcs ▸ hd)
    have hc : c.isDigit = true := hall c List.mem_cons_self
    have hminus : c ≠ '-' := by
      rintro rfl
      cases hc
    obtain ⟨htake, hdrop⟩ := h.takeWhile_isDigit fun d hd => hall d (List.mem_cons_of_mem _ hd)
    rw [hcs]
    constructor
    · simp [readNumber, hminus, hc, htake, hdrop]
    · simp [readNumber, hc, htake, hdrop]

theorem settles_readNumber (digits : Nat) {rest : List Char} (n : Int) (h : Parted rest) :
    Settles ((Value.int n).IntsFit digits) (readNumber digits (Text.intChars n ++ rest)) (.int n)
      rest := by
  unfold Text.intChars
  split
  · rename_i hneg
    have hn : n = if true = true then -(n.natAbs : Int) else n.natAbs := by
      rw [if_pos rfl]
      omega
    rw [List.cons_append, (readNumber_digits n.natAbs h).2]
    have := settles_readUnsigned digits true n.natAbs h
    rwa [← hn] at this
  · rename_i hpos
    have hn : n = if false = true then -(n.natAbs : Int) else n.natAbs := by
      rw [if_neg Bool.false_ne_true]
      omega
    rw [(readNumber_digits n.natAbs h).1]
    have := settles_readUnsigned digits false n.natAbs h
    rwa [← hn] at this

/-! ### Values -/

/-- Nothing but blanks stands around items. -/
structure Layout.Blank (layout : Layout) : Prop where
  edge : ∀ depth, ∀ c ∈ layout.edge depth, isSpace c = true
  next : ∀ depth, ∀ c ∈ layout.next depth, isSpace c = true

theorem Layout.isSpace_of_mem_line {depth : Nat} {c : Char} (h : c ∈ Layout.line depth) :
    isSpace c = true := by
  rcases List.mem_cons.mp h with rfl | h
  · rfl
  · rw [List.eq_of_mem_replicate h]
    rfl

theorem Layout.blank_block : Layout.block.Blank :=
  ⟨fun _ _ h => isSpace_of_mem_line h, fun _ _ h => isSpace_of_mem_line h⟩

theorem skipSpace_blanks {blanks rest : List Char} (h : ∀ c ∈ blanks, isSpace c = true) :
    skipSpace (blanks ++ rest) = skipSpace rest := List.dropWhile_append_of_pos h

theorem skipSpace_cons {c : Char} {rest : List Char} (h : isSpace c = false) :
    skipSpace (c :: rest) = c :: rest := List.dropWhile_cons_of_neg (by simp [h])

theorem skipSpace_blank (rest : List Char) : skipSpace (' ' :: rest) = skipSpace rest := rfl

theorem skipSpace_textChars (cs rest : List Char) :
    skipSpace (textChars cs ++ rest) = textChars cs ++ rest := skipSpace_cons rfl

/-- The first character of a value is none that could end one. -/
theorem ends_head_chars (layout : Layout) (depth : Nat) {v : Value} (h : v.FloatFree) :
    ∃ c rest, chars layout depth v = c :: rest ∧ ends c = false := by
  match v with
  | .null => exact ⟨'n', _, rfl, rfl⟩
  | .bool true => exact ⟨'t', _, rfl, rfl⟩
  | .bool false => exact ⟨'f', _, rfl, rfl⟩
  | .int n =>
    unfold chars Text.intChars
    split
    · exact ⟨'-', _, rfl, rfl⟩
    · obtain ⟨c, rest, hcs⟩ := List.exists_cons_of_ne_nil (Text.natChars_ne_nil n.natAbs)
      have hdigit : c.isDigit = true :=
        Text.isDigit_of_mem_natChars (n := n.natAbs) (hcs ▸ List.mem_cons_self)
      refine ⟨c, rest, hcs, Bool.eq_false_iff.mpr fun he => ?_⟩
      rcases ends_cases he with rfl | rfl | rfl | rfl | rfl | rfl | rfl <;> cases hdigit
  | .float _ => exact h.elim
  | .text s => exact ⟨'"', _, rfl, rfl⟩
  | .list [] => exact ⟨'[', _, rfl, rfl⟩
  | .list (_ :: _) => exact ⟨'[', _, by simp only [chars]; rfl, rfl⟩
  | .object [] => exact ⟨'\x7b', _, rfl, rfl⟩
  | .object (_ :: _) => exact ⟨'\x7b', _, by simp only [chars]; rfl, rfl⟩

theorem skipSpace_chars (layout : Layout) (depth : Nat) {v : Value} (h : v.FloatFree)
    (rest : List Char) :
    skipSpace (chars layout depth v ++ rest) = chars layout depth v ++ rest := by
  obtain ⟨c, more, hcs, hc⟩ := ends_head_chars layout depth h
  rw [hcs]
  exact skipSpace_cons (by simp_all [ends])

theorem readConstant?_intChars (n : Int) (rest : List Char) :
    readConstant? (Text.intChars n ++ rest) = none := by
  have hdigit : ∀ (m : Nat) (word : Char) (more : List Char), word.isDigit = false →
      Text.after? (word :: more) (Text.natChars m ++ rest) = none := by
    intro m word more hword
    obtain ⟨c, ds, hcs⟩ := List.exists_cons_of_ne_nil (Text.natChars_ne_nil m)
    have hc : c.isDigit = true :=
      Text.isDigit_of_mem_natChars (n := m) (hcs ▸ List.mem_cons_self)
    rw [hcs]
    exact if_neg (by rintro rfl; rw [hc] at hword; cases hword)
  unfold Text.intChars
  split
  · simp [readConstant?, constants, Text.after?, hdigit]
  · simp [readConstant?, constants, hdigit]

theorem intChars_head (n : Int) :
    ∃ c rest, Text.intChars n = c :: rest ∧ (c = '-' ∨ c.isDigit = true) := by
  unfold Text.intChars
  split
  · exact ⟨'-', _, rfl, .inl rfl⟩
  · obtain ⟨c, ds, hcs⟩ := List.exists_cons_of_ne_nil (Text.natChars_ne_nil n.natAbs)
    exact ⟨c, ds, hcs, .inr (Text.isDigit_of_mem_natChars (n := n.natAbs) (hcs ▸ List.mem_cons_self))⟩

theorem settles_int {digits levels : Nat} {rest : List Char} (fuel : Nat) (n : Int)
    (h : Parted rest) :
    Settles ((Value.int n).depth ≤ levels ∧ (Value.int n).IntsFit digits)
      (readValue digits (fuel + 1) levels (Text.intChars n ++ rest)) (.int n) rest := by
  have hread : readValue digits (fuel + 1) levels (Text.intChars n ++ rest) =
      readNumber digits (Text.intChars n ++ rest) := by
    have hnone := readConstant?_intChars n rest
    obtain ⟨c, ds, hcs, hc⟩ := intChars_head n
    have hmark : c ≠ '"' ∧ c ≠ '[' ∧ c ≠ '\x7b' := by
      refine ⟨?_, ?_, ?_⟩ <;> (rintro rfl; rcases hc with hc | hc <;> cases hc)
    rw [hcs, List.cons_append] at hnone ⊢
    rw [readValue, hnone] <;> simp [hmark]
  rw [hread]
  have hnumber := settles_readNumber digits n h
  exact ⟨fun hf => hnumber.1 hf.2, fun hf => hnumber.2 fun hi => hf ⟨Nat.zero_le _, hi⟩⟩

theorem textChars_append (cs rest : List Char) :
    textChars cs ++ rest = '"' :: (cs.flatMap escaped ++ '"' :: rest) := by
  simp [textChars]

theorem settles_text {digits levels : Nat} {rest : List Char} (fuel : Nat) (s : String) :
    Settles ((Value.text s).depth ≤ levels ∧ (Value.text s).IntsFit digits)
      (readValue digits (fuel + 1) levels (textChars s.toList ++ rest)) (.text s) rest := by
  have hread : readValue digits (fuel + 1) levels (textChars s.toList ++ rest) =
      .ok (.text s, rest) := by
    rw [textChars_append]
    simp only [readValue, readText_textChars, bind, Except.bind, String.ofList_toList, pure,
      Except.pure]
  rw [hread]
  exact settles_ok ⟨Nat.zero_le _, trivial⟩ _ _

theorem readValue_list {digits levels fuel : Nat} {cs items : List Char}
    (h : skipSpace cs = items) (hne : ∀ more, items ≠ ']' :: more) :
    readValue digits (fuel + 1) (levels + 1) ('[' :: cs) =
      readItems digits fuel levels items >>= fun p => .ok (.list p.1, p.2) := by
  rw [readValue, h]
  split
  · rename_i more
    exact absurd rfl (hne more)
  · rfl

theorem readValue_object {digits levels fuel : Nat} {cs fields : List Char}
    (h : skipSpace cs = fields) (hne : ∀ more, fields ≠ '\x7d' :: more) :
    readValue digits (fuel + 1) (levels + 1) ('\x7b' :: cs) =
      readFields digits fuel levels fields >>= fun p => .ok (.object (Table.ofEntries p.1), p.2) := by
  rw [readValue, h]
  split
  · rename_i more
    exact absurd rfl (hne more)
  · rfl

/-- Behind the items of a list stands what may stand behind a value. -/
theorem parted_charsOfItems (layout : Layout) (depth : Nat) (vs : List Value) {tail : List Char}
    (h : Parted tail) : Parted (charsOfItems layout depth vs ++ tail) := by
  cases vs with
  | nil => exact h
  | cons v vs =>
    rw [charsOfItems]
    exact parted_cons rfl

theorem parted_charsOfFields (layout : Layout) (depth : Nat) (fields : List (String × Value))
    {tail : List Char} (h : Parted tail) : Parted (charsOfFields layout depth fields ++ tail) := by
  cases fields with
  | nil => exact h
  | cons e fields =>
    rw [charsOfFields]
    exact parted_cons rfl

section
variable {layout : Layout} (hl : layout.Blank) (digits : Nat)
include hl

mutual
/-- What is written of a value is read as that value, unless it asks for too much. -/
theorem settles_readValue {v : Value} (hw : v.WellFormed) (hf : v.FloatFree)
    (fuel levels depth : Nat) {rest : List Char}
    (hfuel : 2 * (chars layout depth v).length ≤ fuel + 1) (hrest : Parted rest) :
    Settles (v.depth ≤ levels ∧ v.IntsFit digits)
      (readValue digits fuel levels (chars layout depth v ++ rest)) v rest := by
  have hlength : 0 < (chars layout depth v).length := by
    obtain ⟨c, more, hcs, _⟩ := ends_head_chars layout depth hf
    simp [hcs]
  obtain ⟨fuel, rfl⟩ := Nat.exists_eq_add_of_le' (show 1 ≤ fuel by omega)
  match hv : v with
  | .null => exact settles_ok ⟨Nat.zero_le _, trivial⟩ _ _
  | .bool true => exact settles_ok ⟨Nat.zero_le _, trivial⟩ _ _
  | .bool false => exact settles_ok ⟨Nat.zero_le _, trivial⟩ _ _
  | .int n => exact settles_int fuel n hrest
  | .float _ => exact hf.elim
  | .text s => exact settles_text fuel s
  | .list [] =>
    cases levels with
    | zero => exact ⟨fun h => absurd h.1 (by simp [Value.depth]), fun _ => ⟨_, rfl, rfl⟩⟩
    | succ levels => exact settles_ok ⟨Nat.succ_le_succ (Nat.zero_le _), trivial⟩ _ _
  | .list (v :: vs) =>
    have htext : chars layout depth (.list (v :: vs)) ++ rest =
        '[' :: (layout.edge (depth + 1) ++ (chars layout (depth + 1) v ++
          (charsOfItems layout (depth + 1) vs ++ (layout.edge depth ++ ']' :: rest)))) := by
      simp only [chars, List.cons_append, List.append_assoc, List.nil_append]
    rw [htext]
    cases levels with
    | zero => exact ⟨fun h => absurd h.1 (by simp [Value.depth]), fun _ => ⟨_, rfl, rfl⟩⟩
    | succ levels =>
      have hitems := settles_readItems hw hf fuel levels (depth + 1) rest (by
          simp only [chars, List.length_append, List.length_cons, List.length_nil] at hfuel ⊢
          omega) (hl.edge depth)
      rw [readValue_list ((skipSpace_blanks (hl.edge _)).trans (skipSpace_chars _ _ hf.1 _))]
      · refine hitems.bind (settles_ok trivial _ _) ?_
        simp only [Value.depth, Value.IntsFit, Nat.succ_le_succ_iff, and_true]
      · intro more h
        obtain ⟨c, cs, hcs, hc⟩ := ends_head_chars layout (depth + 1) hf.1
        rw [hcs] at h
        rw [(List.cons.inj h).1] at hc
        cases hc
  | .object [] =>
    cases levels with
    | zero => exact ⟨fun h => absurd h.1 (by simp [Value.depth]), fun _ => ⟨_, rfl, rfl⟩⟩
    | succ levels => exact settles_ok ⟨Nat.succ_le_succ (Nat.zero_le _), trivial⟩ _ _
  | .object ((k, v) :: fields) =>
    have htext : chars layout depth (.object ((k, v) :: fields)) ++ rest =
        '\x7b' :: (layout.edge (depth + 1) ++ (textChars k.toList ++ ':' :: ' ' ::
          (chars layout (depth + 1) v ++ (charsOfFields layout (depth + 1) fields ++
            (layout.edge depth ++ '\x7d' :: rest))))) := by
      simp only [chars, List.cons_append, List.append_assoc, List.nil_append]
    rw [htext]
    cases levels with
    | zero => exact ⟨fun h => absurd h.1 (by simp [Value.depth]), fun _ => ⟨_, rfl, rfl⟩⟩
    | succ levels =>
      have hfields := settles_readFields (k := k) hw.2 hf fuel levels (depth + 1) rest (by
          simp only [chars, List.length_append, List.length_cons, List.length_nil] at hfuel ⊢
          omega) (hl.edge depth)
      rw [readValue_object ((skipSpace_blanks (hl.edge _)).trans (skipSpace_textChars _ _))]
      · refine hfields.bind (Q := True) ?_ ?_
        · rw [Table.ofEntries_eq hw.1]
          exact settles_ok trivial _ _
        · simp only [Value.depth, Value.IntsFit, Nat.succ_le_succ_iff, and_true]
      · intro more h
        cases (List.cons.inj h).1
termination_by sizeOf v
decreasing_by
  all_goals
    subst hv
    simp
    try omega

/-- The items of a list, up to its closing bracket. -/
theorem settles_readItems {v : Value} {vs : List Value} (hw : Value.WellFormedItems (v :: vs))
    (hf : Value.FloatFreeItems (v :: vs)) (fuel levels depth : Nat)
    {blanks : List Char} (rest : List Char)
    (hfuel : 2 * (chars layout depth v ++ charsOfItems layout depth vs).length ≤ fuel)
    (hblanks : ∀ c ∈ blanks, isSpace c = true) :
    Settles (Value.depthOfItems (v :: vs) ≤ levels ∧ Value.IntsFitItems digits (v :: vs))
      (readItems digits fuel levels (chars layout depth v ++
        (charsOfItems layout depth vs ++ (blanks ++ ']' :: rest)))) (v :: vs) rest := by
  obtain ⟨c, more, hcs, _⟩ := ends_head_chars layout depth hf.1
  have hlength : 0 < (chars layout depth v).length := by simp [hcs]
  simp only [List.length_append] at hfuel
  obtain ⟨fuel, rfl⟩ := Nat.exists_eq_add_of_le' (show 1 ≤ fuel by omega)
  have hclosing : Parted (blanks ++ ']' :: rest) := parted_blanks hblanks (parted_cons rfl)
  have hvalue := settles_readValue hw.1 hf.1 fuel levels depth (by omega)
    (parted_charsOfItems layout depth vs hclosing)
  rw [readItems]
  match hvs : vs with
  | [] =>
    refine hvalue.bind (Q := True) ?_ ?_
    · simp only [charsOfItems, List.nil_append, skipSpace_blanks hblanks, skipSpace_cons
        (show isSpace ']' = false from rfl)]
      exact settles_ok trivial _ _
    · simp [Value.depthOfItems, Value.IntsFitItems]
  | w :: ws =>
    have hitems := settles_readItems hw.2 hf.2 fuel levels depth rest (by
        simp only [charsOfItems, List.length_append, List.length_cons] at hfuel ⊢
        omega) hblanks
    have htail : charsOfItems layout depth (w :: ws) ++ (blanks ++ ']' :: rest) =
        ',' :: (layout.next depth ++ (chars layout depth w ++
          (charsOfItems layout depth ws ++ (blanks ++ ']' :: rest)))) := by
      simp only [charsOfItems, List.cons_append, List.append_assoc]
    refine hvalue.bind (Q := Value.depthOfItems (w :: ws) ≤ levels ∧
      Value.IntsFitItems digits (w :: ws)) ?_ ?_
    · rw [htail]
      simp only [skipSpace_cons (show isSpace ',' = false from rfl),
        skipSpace_blanks (hl.next depth), skipSpace_chars layout depth hf.2.1]
      exact hitems.bind (settles_ok trivial _ _) (and_true _).symm.to_iff
    · rw [Value.depthOfItems, Value.IntsFitItems, Nat.max_le]
      tauto
termination_by sizeOf v + sizeOf vs + 1
decreasing_by
  · omega
  · subst hvs
    simp
    omega

/-- The fields of an object, up to its closing brace. -/
theorem settles_readFields {k : String} {v : Value} {fields : List (String × Value)}
    (hw : Value.WellFormedFields ((k, v) :: fields))
    (hf : Value.FloatFreeFields ((k, v) :: fields)) (fuel levels depth : Nat)
    {blanks : List Char} (rest : List Char)
    (hfuel : 2 * (textChars k.toList ++ ':' :: ' ' :: (chars layout depth v ++
      charsOfFields layout depth fields)).length ≤ fuel)
    (hblanks : ∀ c ∈ blanks, isSpace c = true) :
    Settles (Value.depthOfFields ((k, v) :: fields) ≤ levels ∧
        Value.IntsFitFields digits ((k, v) :: fields))
      (readFields digits fuel levels (textChars k.toList ++ ':' :: ' ' ::
        (chars layout depth v ++ (charsOfFields layout depth fields ++
          (blanks ++ '\x7d' :: rest))))) ((k, v) :: fields) rest := by
  simp only [List.length_append, List.length_cons] at hfuel
  obtain ⟨fuel, rfl⟩ := Nat.exists_eq_add_of_le' (show 1 ≤ fuel by omega)
  have hclosing : Parted (blanks ++ '\x7d' :: rest) := parted_blanks hblanks (parted_cons rfl)
  have hvalue := settles_readValue hw.1 hf.1 fuel levels depth (by omega)
    (parted_charsOfFields layout depth fields hclosing)
  rw [textChars_append, readFields]
  simp only [readText_textChars, ok_bind, skipSpace_cons (show isSpace ':' = false from rfl),
    skipSpace_blank, skipSpace_chars layout depth hf.1, String.ofList_toList]
  match hfields : fields with
  | [] =>
    refine hvalue.bind (Q := True) ?_ ?_
    · simp only [charsOfFields, List.nil_append, skipSpace_blanks hblanks, skipSpace_cons
        (show isSpace '\x7d' = false from rfl)]
      exact settles_ok trivial _ _
    · simp [Value.depthOfFields, Value.IntsFitFields]
  | (l, w) :: more =>
    have hfields := settles_readFields (k := l) hw.2 hf.2 fuel levels depth rest (by
        simp only [charsOfFields, List.length_append, List.length_cons] at hfuel ⊢
        omega) hblanks
    have htail : charsOfFields layout depth ((l, w) :: more) ++ (blanks ++ '\x7d' :: rest) =
        ',' :: (layout.next depth ++ (textChars l.toList ++ ':' :: ' ' ::
          (chars layout depth w ++ (charsOfFields layout depth more ++
            (blanks ++ '\x7d' :: rest))))) := by
      simp only [charsOfFields, List.cons_append, List.append_assoc]
    refine hvalue.bind (Q := Value.depthOfFields ((l, w) :: more) ≤ levels ∧
      Value.IntsFitFields digits ((l, w) :: more)) ?_ ?_
    · rw [htail]
      simp only [skipSpace_cons (show isSpace ',' = false from rfl),
        skipSpace_blanks (hl.next depth), skipSpace_textChars]
      exact hfields.bind (settles_ok trivial _ _) (and_true _).symm.to_iff
    · rw [Value.depthOfFields, Value.IntsFitFields, Nat.max_le]
      tauto
termination_by sizeOf v + sizeOf fields + 1
decreasing_by
  · omega
  · subst hfields
    simp
    omega
end
end

/-! ### Whole files -/

/-- Nothing about the value asks for more than the reader has. -/
def Takes [Stack] (v : Value) : Prop := v.Within .readJson

theorem toList_file (v : Value) : (file v).toList = chars .block 0 v ++ ['\n'] := by
  simp [file, block]

theorem settles_file {v : Value} (hw : v.WellFormed) (hf : v.FloatFree) (digits levels : Nat) :
    Settles (v.depth ≤ levels ∧ v.IntsFit digits)
      (readValue digits (fuelFor (file v).toList) levels (file v).toList) v ['\n'] := by
  have hfuel : 2 * (chars .block 0 v).length ≤ fuelFor (file v).toList + 1 := by
    simp only [fuelFor, toList_file, List.length_append]
    omega
  have hvalue := settles_readValue Layout.blank_block digits hw hf _ levels 0 hfuel
    (show Parted ['\n'] from parted_cons rfl)
  rwa [← toList_file] at hvalue

/-- A file is read back as the object it was written from, if the reader takes that. -/
theorem readChars_file [Stack] {fields : Table Value} (hw : (Value.object fields).WellFormed)
    (hf : (Value.object fields).FloatFree) :
    (Takes (.object fields) → readChars (file (.object fields)).toList = .ok (.object fields)) ∧
      (¬Takes (.object fields) →
        ∃ e, readChars (file (.object fields)).toList = .error e ∧ e.cause.isExcess = true) := by
  have hwhole : readChars (file (.object fields)).toList = readWhole (file (.object fields)).toList := by
    obtain ⟨rest, hrest⟩ : ∃ rest, (file (.object fields)).toList = '\x7b' :: rest := by
      rw [toList_file]
      cases fields with
      | nil => exact ⟨_, rfl⟩
      | cons e fields => exact ⟨_, by simp only [chars]; rfl⟩
    rw [hrest]
    rfl
  have hskip : skipSpace (file (.object fields)).toList = (file (.object fields)).toList := by
    rw [toList_file]
    exact skipSpace_chars .block 0 hf _
  have hsettles := settles_file hw hf Text.digitLimit (Stack.levels .readJson)
  rw [hwhole]
  unfold readWhole
  rw [hskip]
  constructor
  · intro htakes
    rw [hsettles.1 ⟨htakes.depth, htakes.digits⟩]
    rfl
  · intro htakes
    obtain ⟨f, hfault, hexcess⟩ := hsettles.2 fun ⟨hdepth, hdigits⟩ => htakes ⟨hdepth, hdigits⟩
    rw [hfault]
    exact ⟨_, rfl, hexcess⟩

theorem readChars_file_iff [Stack] {fields : Table Value} (hw : (Value.object fields).WellFormed)
    (hf : (Value.object fields).FloatFree) :
    readChars (file (.object fields)).toList = .ok (.object fields) ↔ Takes (.object fields) := by
  refine ⟨fun hread => ?_, (readChars_file hw hf).1⟩
  by_contra htakes
  obtain ⟨e, he, _⟩ := (readChars_file hw hf).2 htakes
  rw [he] at hread
  cases hread

/-- What a file of an object is read as is that object. -/
theorem eq_of_readChars_file [Stack] {fields : Table Value} {v : Value}
    (hw : (Value.object fields).WellFormed) (hf : (Value.object fields).FloatFree)
    (h : readChars (file (.object fields)).toList = .ok v) : v = .object fields := by
  by_cases htakes : Takes (.object fields)
  · rw [(readChars_file hw hf).1 htakes] at h
    exact (Except.ok.inj h).symm
  · obtain ⟨e, he, _⟩ := (readChars_file hw hf).2 htakes
    rw [he] at h
    cases h

end Json

namespace Value

mutual
theorem intsFit_mono {digits more : Nat} (h : digits ≤ more) :
    ∀ v : Value, v.IntsFit digits → v.IntsFit more
  | null, _ | bool _, _ | float _, _ | text _, _ => trivial
  | int _, hv => Nat.le_trans hv h
  | list vs, hv => intsFitItems_mono h vs hv
  | object fields, hv => intsFitFields_mono h fields hv

theorem intsFitItems_mono {digits more : Nat} (h : digits ≤ more) :
    ∀ vs, IntsFitItems digits vs → IntsFitItems more vs
  | [], _ => trivial
  | v :: vs, hv => ⟨intsFit_mono h v hv.1, intsFitItems_mono h vs hv.2⟩

theorem intsFitFields_mono {digits more : Nat} (h : digits ≤ more) :
    ∀ fields, IntsFitFields digits fields → IntsFitFields more fields
  | [], _ => trivial
  | (_, v) :: fields, hv => ⟨intsFit_mono h v hv.1, intsFitFields_mono h fields hv.2⟩
end

mutual
theorem exists_intsFit : ∀ v : Value, ∃ digits, v.IntsFit digits
  | null | bool _ | float _ | text _ => ⟨0, trivial⟩
  | int n => ⟨(Text.natChars n.natAbs).length, Nat.le_refl _⟩
  | list vs => exists_intsFitItems vs
  | object fields => exists_intsFitFields fields

theorem exists_intsFitItems : ∀ vs, ∃ digits, IntsFitItems digits vs
  | [] => ⟨0, trivial⟩
  | v :: vs => by
    obtain ⟨m, hm⟩ := exists_intsFit v
    obtain ⟨n, hn⟩ := exists_intsFitItems vs
    exact ⟨max m n, intsFit_mono (Nat.le_max_left m n) v hm,
      intsFitItems_mono (Nat.le_max_right m n) vs hn⟩

theorem exists_intsFitFields : ∀ fields, ∃ digits, IntsFitFields digits fields
  | [] => ⟨0, trivial⟩
  | (_, v) :: fields => by
    obtain ⟨m, hm⟩ := exists_intsFit v
    obtain ⟨n, hn⟩ := exists_intsFitFields fields
    exact ⟨max m n, intsFit_mono (Nat.le_max_left m n) v hm,
      intsFitFields_mono (Nat.le_max_right m n) fields hn⟩
end

theorem not_intsFit_pow {digits : Nat} (h : 0 < digits) :
    ¬(int (10 ^ digits)).IntsFit digits := by
  obtain ⟨k, rfl⟩ := Nat.exists_eq_add_of_le' h
  intro hfit
  have habs : ((10 : Int) ^ (k + 1)).natAbs = 10 ^ (k + 1) := Int.natAbs_pow 10 _
  rw [IntsFit, habs, Text.length_natChars_le_iff] at hfit
  exact Nat.lt_irrefl _ hfit

end Value

namespace Json

/-- No two values are written alike, however deep they are and however long their numbers. A reader
without limits tells them apart. -/
theorem file_injective {v w : Value} (hv : v.WellFormed) (hvf : v.FloatFree) (hw : w.WellFormed)
    (hwf : w.FloatFree) (h : file v = file w) : v = w := by
  obtain ⟨m, hm⟩ := v.exists_intsFit
  obtain ⟨n, hn⟩ := w.exists_intsFit
  have hreadv := (settles_file hv hvf (max m n) (max v.depth w.depth)).1
    ⟨Nat.le_max_left _ _, Value.intsFit_mono (Nat.le_max_left _ _) v hm⟩
  have hreadw := (settles_file hw hwf (max m n) (max v.depth w.depth)).1
    ⟨Nat.le_max_right _ _, Value.intsFit_mono (Nat.le_max_right _ _) w hn⟩
  rw [h] at hreadv
  exact congrArg Prod.fst (Except.ok.inj (hreadv.symm.trans hreadw))

end Json

namespace Document

section
variable [Stack]

theorem render_json_ok_iff {v : Value} {text : String} :
    Format.json.render v = .ok text ↔ v.Within .writeJson ∧ text = Json.file v := Value.written_ok_iff

/-- A document has a JSON text exactly if it asks for no more digits and levels than there are. The text
stands for that document alone. It is read as the document, by itself and as a table of a file, as long
as the reader has levels enough, and what it is read as has the same text. -/
theorem json_render_read_back {fields : Table Value} (hw : (Value.object fields).WellFormed)
    (hf : (Value.object fields).FloatFree) :
    ((∃ text, Format.json.render (.object fields) = .ok text) ↔
        (Value.object fields).Within .writeJson) ∧
      ∀ text, Format.json.render (.object fields) = .ok text →
        (Json.read text = .ok (.object fields) ↔
            (Value.object fields).depth ≤ Stack.levels .readJson) ∧
          (∀ hint origin, hint ≠ .yaml → (Value.object fields).depth ≤ Stack.levels .readJson →
            Mapping.read hint origin text.toList = .ok (Mapping.ofFields fields)) ∧
          (∀ other : Value, other.WellFormed → other.FloatFree →
            Format.json.render other = .ok text → other = .object fields) ∧
          ∀ v, Json.read text = .ok v → Format.json.render v = .ok text := by
  constructor
  · constructor
    · rintro ⟨text, h⟩
      exact (render_json_ok_iff.mp h).1
    · intro h
      exact ⟨_, render_json_ok_iff.mpr ⟨h, rfl⟩⟩
  · intro text h
    obtain ⟨hwithin, rfl⟩ := render_json_ok_iff.mp h
    have htakes : Json.Takes (.object fields) ↔
        (Value.object fields).depth ≤ Stack.levels .readJson :=
      ⟨Value.Within.depth, fun hdepth => ⟨hdepth, hwithin.digits⟩⟩
    refine ⟨(Json.readChars_file_iff hw hf).trans htakes, ?_, ?_, ?_⟩
    · intro hint origin hhint hdepth
      rw [Mapping.read, if_neg hhint, (Json.readChars_file hw hf).1 (htakes.mpr hdepth)]
    · intro other how hof hother
      exact Json.file_injective how hof hw hf (render_json_ok_iff.mp hother).2.symm
    · intro v hread
      rw [Json.eq_of_readChars_file hw hf hread]
      exact h

end

/-- A small document with an empty list, an empty object and a text that needs escapes. -/
def sample : Table Value :=
  [("openapi", .text "3.0.0"), ("a \"b\"\n", .list [.int (-12), .null, .list []]),
    ("paths", .object []), ("last", .bool true)]

theorem sample_within [Stack] (d : Descent) : (Value.object sample).Within d := by
  have hlength : (Text.natChars 12).length ≤ 1 + 1 :=
    (Text.length_natChars_le_iff 12 1).mpr (by decide)
  refine ⟨Nat.le_trans (by decide) (Stack.ample d), trivial, ?_, trivial, trivial, trivial⟩
  exact ⟨Nat.le_trans hlength (by decide), trivial, trivial, trivial⟩

open Stack.Usual in
theorem json_render_sample :
    (Value.object sample).WellFormed ∧ (Value.object sample).FloatFree ∧
      ∃ text, Format.json.render (.object sample) = .ok text ∧
        Json.read text = .ok (.object sample) := by
  have hw : (Value.object sample).WellFormed :=
    ⟨show List.Nodup _ by decide, trivial, ⟨trivial, trivial, trivial, trivial⟩,
      ⟨List.nodup_nil, trivial⟩, trivial, trivial⟩
  have hf : (Value.object sample).FloatFree :=
    ⟨trivial, ⟨trivial, trivial, trivial, trivial⟩, trivial, trivial, trivial⟩
  obtain ⟨hrendered, hread⟩ := json_render_read_back hw hf
  obtain ⟨text, htext⟩ := hrendered.mpr (sample_within .writeJson)
  exact ⟨hw, hf, text, htext, (hread text htext).1.mpr (sample_within .readJson).depth⟩

/-- A document with a number of one digit too many. -/
def overlong : Table Value := [("openapi", .text "3.0.0"), ("x", .int (10 ^ Text.digitLimit))]

/-- Lists inside each other. -/
def nest : Nat → Value
  | 0 => .null
  | n + 1 => .list [nest n]

theorem nest_spec (n : Nat) : (nest n).WellFormed ∧ (nest n).FloatFree ∧ (nest n).depth = n := by
  induction n with
  | zero => exact ⟨trivial, trivial, rfl⟩
  | succ n ih =>
    obtain ⟨hw, hf, hdepth⟩ := ih
    refine ⟨⟨hw, trivial⟩, ⟨hf, trivial⟩, ?_⟩
    simp [nest, Value.depth, Value.depthOfItems, hdepth]

/-- A document with `n` lists inside each other. -/
def nested (n : Nat) : Table Value := [("openapi", .text "3.0.0"), ("x", nest n)]

theorem excess?_nest {levels n : Nat} (h : levels < n) : (nest n).excess? levels = some .depth := by
  induction n generalizing levels with
  | zero => exact absurd h (Nat.not_lt_zero _)
  | succ n ih =>
    cases levels with
    | zero => rfl
    | succ levels =>
      rw [nest, Value.excess?, Value.excessOfItems?, ih (Nat.lt_of_succ_lt_succ h)]
      rfl

/-- Lists inside each other have no text once they are deeper than the stack. -/
theorem nested_not_rendered [Stack] {n : Nat} (h : Stack.levels .writeJson ≤ n) :
    (Value.object (nested n)).WellFormed ∧ (Value.object (nested n)).FloatFree ∧
      Format.json.render (.object (nested n)) = .error .nestedTooDeep := by
  obtain ⟨hnw, hnf, _⟩ := nest_spec n
  refine ⟨⟨show List.Nodup ["openapi", "x"] by decide, trivial, hnw, trivial⟩,
    ⟨trivial, hnf, trivial⟩, ?_⟩
  obtain ⟨levels, hlevels⟩ : ∃ levels, Stack.levels .writeJson = levels + 1 :=
    Nat.exists_eq_add_one.mpr (Nat.lt_of_lt_of_le (by decide) (Stack.ample .writeJson))
  have hexcess : (Value.object (nested n)).excess? (levels + 1) = some .depth := by
    rw [nested, Value.excess?, Value.excessOfFields?, Value.excessOfFields?,
      excess?_nest (show levels < n by omega)]
    rfl
  rw [Format.render, Json.write, Value.written, hlevels, hexcess]
  rfl

theorem overlong_not_rendered [Stack] :
    (Value.object overlong).WellFormed ∧ (Value.object overlong).FloatFree ∧
      Format.json.render (.object overlong) = .error .numberTooLong := by
  refine ⟨⟨show List.Nodup _ by decide, trivial, trivial, trivial⟩, ⟨trivial, trivial, trivial⟩, ?_⟩
  obtain ⟨levels, hlevels⟩ : ∃ levels, Stack.levels .writeJson = levels + 1 :=
    Nat.exists_eq_add_one.mpr (Nat.lt_of_lt_of_le (by decide) (Stack.ample .writeJson))
  have hlong : (Value.int (10 ^ Text.digitLimit)).excess? levels = some .digits := by
    rw [Value.excess?, if_pos (Nat.lt_of_not_le (Value.not_intsFit_pow (by decide)))]
  have hexcess : (Value.object overlong).excess? (levels + 1) = some .digits := by
    rw [overlong, Value.excess?, Value.excessOfFields?, Value.excessOfFields?, hlong]
    rfl
  rw [Format.render, Json.write, Value.written, hlevels, hexcess]
  rfl

open Stack.Usual in
/-- There are documents of either kind that have no text, so that nothing of them can be read. -/
theorem excess_not_rendered :
    ((Value.object overlong).WellFormed ∧ (Value.object overlong).FloatFree ∧
        Format.json.render (.object overlong) = .error .numberTooLong) ∧
      (Value.object (nested 3000)).WellFormed ∧ (Value.object (nested 3000)).FloatFree ∧
        Format.json.render (.object (nested 3000)) = .error .nestedTooDeep :=
  ⟨overlong_not_rendered, nested_not_rendered (by decide)⟩

end Document
end ServiceAtlas
