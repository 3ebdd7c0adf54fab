import ServiceAtlas.Proofs.JsonReadBack
import ServiceAtlas.Proofs.RecordFields

/-!
The limits of the readers. A whole number that is read, be it from JSON text, from the environment or
from the text in a field, has no more digits than the limit; a value that keeps to the limits is what
its own JSON text is read as.
-/

namespace ServiceAtlas

namespace Text

/-- The number has no more digits than can be read. -/
def InLimit (n : Int) : Prop := n.natAbs < 10 ^ digitLimit

theorem inLimit_neg {n : Int} : InLimit (-n) ↔ InLimit n := by
  rw [InLimit, InLimit, Int.natAbs_neg]

theorem inLimit_of_lt {n : Int} (h : n.natAbs < 2 ^ 63) : InLimit n := by
  have hbase : 2 ^ 63 ≤ 10 ^ 63 := Nat.pow_le_pow_left (by decide) 63
  have hmore : 10 ^ 63 ≤ 10 ^ digitLimit := Nat.pow_le_pow_right (by decide) (by decide)
  exact Nat.lt_of_lt_of_le h (Nat.le_trans hbase hmore)

/-- Digits denote a number below the power of the base that has one digit more. -/
theorem valueOf_lt {base : Nat} {ds : List Nat} (h : ∀ d ∈ ds, d < base) :
    valueOf base ds < base ^ ds.length := by
  induction ds using List.reverseRecOn with
  | nil => simp [valueOf]
  | append_singleton ds d ih =>
    have hd : d < base := h d (by simp)
    have hds := ih fun e he => h e (by simp [he])
    rw [valueOf_append, List.length_append, List.length_singleton, Nat.pow_succ]
    calc base * valueOf base ds + d
        < base * valueOf base ds + base := by omega
      _ = base * (valueOf base ds + 1) := by rw [Nat.mul_add, Nat.mul_one]
      _ ≤ base * base ^ ds.length := Nat.mul_le_mul_left _ hds
      _ = base ^ ds.length * base := Nat.mul_comm ..

/-- What digits within the limit denote is within it. -/
theorem inLimit_of_natAbs {n : Int} {ds : List Nat} (h : ∀ d ∈ ds, d < 10)
    (hlength : ds.length ≤ digitLimit) (hn : n.natAbs = valueOf 10 ds) : InLimit n := by
  rw [InLimit, hn]
  exact Nat.lt_of_lt_of_le (valueOf_lt h) (Nat.pow_le_pow_right (by decide) hlength)

theorem lt_of_digitIn? {base d : Nat} {c : Char} (h : digitIn? base c = some d) : d < base := by
  obtain ⟨_, hd⟩ := Option.filter_eq_some_iff.mp h
  exact of_decide_eq_true hd

theorem lt_of_groupedDigits? {base : Nat} {cs : List Char} {ds : List Nat}
    (h : groupedDigits? base cs = some ds) : ∀ d ∈ ds, d < base := by
  induction cs using groupedDigits?.induct generalizing ds with
  | case1 => cases h
  | case2 c =>
    obtain ⟨d, hd, rfl⟩ := Option.map_eq_some_iff.mp h
    exact List.forall_mem_singleton.mpr (lt_of_digitIn? hd)
  | case3 c rest ih =>
    rw [groupedDigits?] at h
    obtain ⟨d, hd, h⟩ := Option.bind_eq_some_iff.mp h
    obtain ⟨more, hmore, h⟩ := Option.bind_eq_some_iff.mp h
    cases h
    exact List.forall_mem_cons.mpr ⟨lt_of_digitIn? hd, ih hmore⟩
  | case4 c rest hne hline ih =>
    rw [groupedDigits?] at h
    · obtain ⟨d, hd, h⟩ := Option.bind_eq_some_iff.mp h
      obtain ⟨more, hmore, h⟩ := Option.bind_eq_some_iff.mp h
      cases h
      exact List.forall_mem_cons.mpr ⟨lt_of_digitIn? hd, ih hmore⟩
    · exact hne
    · exact hline

theorem inLimit_integer? {cs : List Char} {n : Int} (h : integer? 10 cs = some n) : InLimit n := by
  unfold integer? at h
  generalize unsigned (unpadded cs) = parts at h
  obtain ⟨negative, body⟩ := parts
  obtain ⟨ds, hds, h⟩ := Option.bind_eq_some_iff.mp h
  split at h
  · cases h
  · rename_i hlong
    have hlength : ds.length ≤ digitLimit := by simpa using hlong
    cases h
    refine inLimit_of_natAbs (lt_of_groupedDigits? hds) hlength ?_
    cases negative with
    | true => exact Int.natAbs_neg _
    | false => rfl

theorem digit_lt {c : Char} (h : c.isDigit = true) : c.toNat - 0x30 < 10 := by
  have hhigh : c.toNat ≤ 0x39 := (Char.isDigit_iff_toNat.mp h).2
  omega

theorem lt_of_plainDigits? {cs : List Char} {ds : List Nat} (h : cs.mapM plainDigit? = some ds) :
    ∀ d ∈ ds, d < 10 := by
  induction cs generalizing ds with
  | nil =>
    cases h
    simp
  | cons c cs ih =>
    rw [List.mapM_cons] at h
    obtain ⟨d, hd, h⟩ := Option.bind_eq_some_iff.mp h
    obtain ⟨more, hmore, h⟩ := Option.bind_eq_some_iff.mp h
    cases h
    refine List.forall_mem_cons.mpr ⟨?_, ih hmore⟩
    unfold plainDigit? at hd
    split at hd
    · rename_i hc
      cases hd
      exact digit_lt hc
    · cases hd

end Text

/-! ### JSON text -/

namespace Value

theorem intsFitItems_iff {digits : Nat} {items : List Value} :
    IntsFitItems digits items ↔ ∀ v ∈ items, v.IntsFit digits := by
  induction items with
  | nil => simp [IntsFitItems]
  | cons v rest ih => simp [IntsFitItems, ih]

theorem intsFitFields_iff {digits : Nat} {fields : List (String × Value)} :
    IntsFitFields digits fields ↔ ∀ e ∈ fields, e.2.IntsFit digits := by
  induction fields with
  | nil => simp [IntsFitFields]
  | cons e rest ih => simp [IntsFitFields, ih]

theorem intsFit_int_iff {n : Int} : (int n).IntsFit Text.digitLimit ↔ Text.InLimit n := by
  rw [IntsFit, Text.InLimit]
  obtain ⟨k, hk⟩ : ∃ k, Text.digitLimit = k + 1 := Nat.exists_eq_add_of_le' (by decide)
  rw [hk]
  exact Text.length_natChars_le_iff n.natAbs k

theorem IntsFit.get? {digits : Nat} {v w : Value} {key : String} (h : v.IntsFit digits)
    (hw : v.get? key = some w) : w.IntsFit digits := by
  cases v with
  | object fields => exact intsFitFields_iff.mp h _ (Table.mem_of_find? hw)
  | _ => cases hw

theorem IntsFit.getD {digits : Nat} {v : Value} (h : v.IntsFit digits) (key : String) :
    (v.getD key).IntsFit digits := by
  unfold Value.getD
  cases hw : v.get? key with
  | none => trivial
  | some w => exact h.get? hw

end Value

/-- No number is read that has more digits than the limit. -/
theorem Json.intsFit_readChars [Stack] {cs : List Char} {v : Value} (h : readChars cs = .ok v) :
    v.IntsFit Text.digitLimit := by
  refine Cases.of_readChars (motive := Value.IntsFit Text.digitLimit) ⟨?_, ?_, ?_, ?_, ?_⟩ h
  · intro s
    trivial
  · intro word v hm
    rcases constants_cases hm with rfl | ⟨b, rfl⟩ | ⟨x, rfl⟩ <;> trivial
  · intro cs rest v hn
    rcases readNumber_cases hn with ⟨x, rfl⟩ | ⟨whole, hwhole, hlength, n, rfl, hvalue⟩
    · trivial
    · refine Value.intsFit_int_iff.mpr (Text.inLimit_of_natAbs ?_ ?_ hvalue)
      · intro d hd
        obtain ⟨c, hc, rfl⟩ := List.mem_map.mp hd
        exact Text.digit_lt (hwhole c hc)
      · rwa [digitsOf, List.length_map]
  · intro items hitems
    exact Value.intsFitItems_iff.mpr hitems
  · intro fields hfields
    exact Value.intsFitFields_iff.mpr fun e he => hfields e (Table.mem_ofEntries he)

/-! ### Values within the limits -/

namespace Value

theorem floatFreeItems_iff {items : List Value} :
    FloatFreeItems items ↔ ∀ v ∈ items, v.FloatFree := by
  induction items with
  | nil => simp [FloatFreeItems]
  | cons v rest ih => simp [FloatFreeItems, ih]

theorem floatFreeFields_iff {fields : List (String × Value)} :
    FloatFreeFields fields ↔ ∀ e ∈ fields, e.2.FloatFree := by
  induction fields with
  | nil => simp [FloatFreeFields]
  | cons e rest ih => simp [FloatFreeFields, ih]

theorem depthOfItems_le_iff {items : List Value} {levels : Nat} :
    depthOfItems items ≤ levels ↔ ∀ v ∈ items, v.depth ≤ levels := by
  induction items with
  | nil => simp [depthOfItems]
  | cons v rest ih => simp [depthOfItems, ih]

theorem depthOfFields_le_iff {fields : List (String × Value)} {levels : Nat} :
    depthOfFields fields ≤ levels ↔ ∀ e ∈ fields, e.2.depth ≤ levels := by
  induction fields with
  | nil => simp [depthOfFields]
  | cons e rest ih => simp [depthOfFields, ih]

end Value

namespace Json

/-- The value is nested `levels` deep at most, and nothing in it keeps it from being read back. -/
structure Readable (levels : Nat) (v : Value) : Prop where
  wellFormed : v.WellFormed
  floatFree : v.FloatFree
  depth : v.depth ≤ levels
  digits : v.IntsFit Text.digitLimit

namespace Readable
variable {levels more : Nat}

theorem null : Readable levels .null := ⟨trivial, trivial, Nat.zero_le _, trivial⟩

theorem bool (b : Bool) : Readable levels (.bool b) := ⟨trivial, trivial, Nat.zero_le _, trivial⟩

theorem text (s : String) : Readable levels (.text s) :=
  ⟨trivial, trivial, Nat.zero_le _, trivial⟩

theorem int {n : Int} (h : Text.InLimit n) : Readable levels (.int n) :=
  ⟨trivial, trivial, Nat.zero_le _, Value.intsFit_int_iff.mpr h⟩

theorem ofOption {α : Type} {f : α → Value} (h : ∀ a, Readable levels (f a)) (o : Option α) :
    Readable levels (.ofOption f o) := by
  cases o with
  | none => exact null
  | some a => exact h a

theorem list {items : List Value} (h : ∀ v ∈ items, Readable levels v) :
    Readable (levels + 1) (.list items) where
  wellFormed := Value.wellFormedItems_iff.mpr fun v hv => (h v hv).wellFormed
  floatFree := Value.floatFreeItems_iff.mpr fun v hv => (h v hv).floatFree
  depth := Nat.succ_le_succ (Value.depthOfItems_le_iff.mpr fun v hv => (h v hv).depth)
  digits := Value.intsFitItems_iff.mpr fun v hv => (h v hv).digits

theorem texts (names : List String) : Readable (levels + 1) (.texts names) := by
  refine list fun v hv => ?_
  obtain ⟨name, _, rfl⟩ := List.mem_map.mp hv
  exact text name

theorem object {fields : Table Value} (hd : Table.Distinct fields)
    (h : ∀ e ∈ fields, Readable levels e.2) : Readable (levels + 1) (.object fields) where
  wellFormed := ⟨hd, Value.wellFormedFields_iff.mpr fun e he => (h e he).wellFormed⟩
  floatFree := Value.floatFreeFields_iff.mpr fun e he => (h e he).floatFree
  depth := Nat.succ_le_succ (Value.depthOfFields_le_iff.mpr fun e he => (h e he).depth)
  digits := Value.intsFitFields_iff.mpr fun e he => (h e he).digits

theorem mono {v : Value} (h : Readable levels v) (hle : levels ≤ more) : Readable more v :=
  ⟨h.wellFormed, h.floatFree, Nat.le_trans h.depth hle, h.digits⟩

theorem within [Stack] {d : Descent} {v : Value} (h : Readable levels v)
    (hle : levels ≤ Stack.levels d) : v.Within d :=
  ⟨Nat.le_trans h.depth hle, h.digits⟩

theorem readChars_file [Stack] {fields : Table Value} (h : Readable levels (.object fields))
    (hle : levels ≤ Stack.levels .readJson) :
    readChars (file (.object fields)).toList = .ok (.object fields) :=
  (Json.readChars_file h.wellFormed h.floatFree).1 (h.within hle)

end Readable
end Json

/-! ### Fields -/

namespace Checked
open Text (InLimit)

theorem inLimit_intOfText {cs : List Char} {n : Int} (h : intOfText cs = .good n) : InLimit n := by
  have hnatural : ∀ {cs : List Char} {n : Nat}, naturalOfDigits cs = .good n → InLimit n := by
    intro cs n h
    unfold naturalOfDigits at h
    split at h
    · cases h
    · cases h
    · cases h
    · rename_i ds _ _ hds
      split at h
      · cases h
      · rename_i hlong
        cases h
        exact Text.inLimit_of_natAbs (Text.lt_of_plainDigits? hds) (Nat.le_of_not_lt hlong) rfl
  unfold intOfText at h
  dsimp only at h
  split at h
  · unfold intOfDigits at h
    split at h
    · obtain ⟨m, hm, rfl⟩ := map_eq_good_iff.mp h
      exact Text.inLimit_neg.mpr (hnatural hm)
    · obtain ⟨m, hm, rfl⟩ := map_eq_good_iff.mp h
      exact hnatural hm
  · cases h

theorem inLimit_int {v : Value} {n : Int} (h : int v = .good n) (hv : v.IntsFit Text.digitLimit) :
    InLimit n := by
  cases v with
  | int m =>
    cases h
    exact Value.intsFit_int_iff.mp hv
  | bool b =>
    cases h
    cases b <;> exact Text.inLimit_of_lt (by decide)
  | float x =>
    change intOfFloat x = .good n at h
    unfold intOfFloat at h
    split at h
    · cases h
    · split at h
      · cases h
      · split at h
        · rename_i hsize
          cases h
          exact Text.inLimit_of_lt hsize
        · cases h
  | text s =>
    change wholeText intOfText s = .good n at h
    unfold wholeText at h
    split at h
    · cases h
    · exact inLimit_intOfText h
  | null | list _ | object _ => cases h

end Checked
end ServiceAtlas
