import Mathlib.Data.List.Dedup
import Mathlib.Data.List.Forall2
import Mathlib.Data.List.Induction
import Mathlib.Data.List.Nodup
import ServiceAtlas.Table

/-!
Tables filled entry by entry: which keys they come to hold, in which order, and which value each
key is left with.
-/

namespace ServiceAtlas

/-- One more element goes last, unless the list has it already. -/
theorem eraseDups_concat {α : Type} [BEq α] [LawfulBEq α] (as : List α) (a : α) :
    (as ++ [a]).eraseDups = if a ∈ as then as.eraseDups else as.eraseDups ++ [a] := by
  rw [List.eraseDups_append]
  by_cases h : a ∈ as
  · have hr : [a].removeAll as = [] := by simp [List.removeAll, h]
    rw [hr, if_pos h, List.eraseDups_nil, List.append_nil]
  · have hr : [a].removeAll as = [a] := by simp [List.removeAll, h]
    rw [hr, if_neg h, List.eraseDups_cons]
    rfl

theorem nodup_eraseDups {α : Type} [BEq α] [LawfulBEq α] (as : List α) : as.eraseDups.Nodup := by
  induction as using List.reverseRecOn with
  | nil => simp
  | append_singleton as a ih =>
    rw [eraseDups_concat]
    split
    · exact ih
    · rename_i h
      refine List.nodup_append.mpr ⟨ih, by simp, ?_⟩
      intro b hb c hc he
      rw [List.mem_singleton.mp hc] at he
      subst he
      exact h (List.mem_eraseDups.mp hb)

/-- One more element goes last. If the list has it already, it leaves its earlier place. -/
theorem dedup_concat {α : Type} [DecidableEq α] (as : List α) (a : α) :
    (as ++ [a]).dedup = as.dedup.filter (fun b => b ≠ a) ++ [a] := by
  induction as with
  | nil => simp
  | cons b as ih =>
    rw [List.cons_append, List.dedup_cons, ih, List.dedup_cons]
    by_cases hb : b = a
    · subst hb
      by_cases hm : b ∈ as <;> simp [hm]
    · by_cases hm : b ∈ as <;> simp [hm, hb]

namespace Table
variable {α : Type} {t : Table α} {key other : String} {value : α}

theorem find?_eq_none_iff : find? t key = none ↔ key ∉ keys t := by
  rw [← find?_isSome_iff, Option.not_isSome_iff_eq_none]

theorem contains_iff : contains t key = true ↔ key ∈ keys t := find?_isSome_iff t key

theorem find?_append (t more : Table α) (key : String) :
    find? (t ++ more) key = (find? t key).or (find? more key) := by
  induction t with
  | nil => rfl
  | cons e rest ih =>
    simp only [List.cons_append, find?, ih]
    split <;> rfl

theorem keys_map {β : Type} (t : Table α) (f : α → β) :
    keys (List.map (fun e => (e.1, f e.2)) t) = keys t := by
  simp [keys]

theorem find?_map {β : Type} (t : Table α) (f : α → β) (key : String) :
    find? (List.map (fun e => (e.1, f e.2)) t) key = (find? t key).map f := by
  induction t with
  | nil => rfl
  | cons e rest ih =>
    simp only [List.map_cons, find?, ih]
    split <;> rfl

theorem mem_keys_of_mem {e : String × α} (h : e ∈ t) : e.1 ∈ keys t :=
  List.mem_map.mpr ⟨e, h, rfl⟩

theorem length_keys : (keys t).length = t.length := List.length_map _

theorem length_insert :
    (insert t key value).length = if (find? t key).isSome then t.length else t.length + 1 := by
  rw [← length_keys, keys_insert]
  simp only [find?_isSome_iff]
  split
  · exact length_keys
  · rw [List.length_append, length_keys, List.length_singleton]

/-- Where no key has two entries, an entry is what its key finds. -/
theorem find?_of_mem (hd : Distinct t) (h : (key, value) ∈ t) : find? t key = some value := by
  induction t with
  | nil => cases h
  | cons e rest ih =>
    obtain ⟨k, v⟩ := e
    have hnodup := List.nodup_cons.mp hd
    rcases List.mem_cons.mp h with he | h
    · cases he
      simp [find?]
    · have hne : k ≠ key := by
        rintro rfl
        exact hnodup.1 (List.mem_map.mpr ⟨_, h, rfl⟩)
      simp only [find?, hne, if_false]
      exact ih hnodup.2 h

/-- Tables related entry by entry give related values for a key. -/
theorem find?_rel {β : Type} {r : α → β → Prop} {u : Table β}
    (h : List.Forall₂ (fun a b => a.1 = b.1 ∧ r a.2 b.2) t u) (key : String) :
    Option.Rel r (find? t key) (find? u key) := by
  induction h with
  | nil => exact .none
  | @cons a b t u hab _ ih =>
    obtain ⟨k, v⟩ := a
    obtain ⟨l, w⟩ := b
    obtain ⟨hkey, hr⟩ := hab
    obtain rfl : k = l := hkey
    simp only [find?]
    split
    · exact .some hr
    · exact ih

theorem mem_insert {e : String × α} (h : e ∈ insert t key value) : e ∈ t ∨ e = (key, value) := by
  induction t with
  | nil => exact Or.inr (List.mem_singleton.mp h)
  | cons d rest ih =>
    obtain ⟨k, v⟩ := d
    simp only [insert] at h
    split at h
    · rename_i hk
      subst hk
      rcases List.mem_cons.mp h with h | h
      · exact Or.inr h
      · exact Or.inl (List.mem_cons_of_mem _ h)
    · rcases List.mem_cons.mp h with h | h
      · exact Or.inl (h ▸ List.mem_cons_self)
      · rcases ih h with h | h
        · exact Or.inl (List.mem_cons_of_mem _ h)
        · exact Or.inr h

theorem insert_of_notMem (h : key ∉ keys t) : insert t key value = t ++ [(key, value)] := by
  induction t with
  | nil => rfl
  | cons e rest ih =>
    have hne : e.1 ≠ key := fun hk => h (hk ▸ List.mem_cons_self)
    have hrest : key ∉ keys rest := fun hm => h (List.mem_cons_of_mem _ hm)
    simp [insert, hne, ih hrest]

theorem distinct_overwrite {more : List (String × α)} (h : Distinct t) :
    Distinct (overwrite t more) := by
  induction more generalizing t with
  | nil => exact h
  | cons e more ih => exact ih (distinct_insert h _ _)

/-- Of entries with distinct keys, each is what its key finds afterwards. -/
theorem find?_overwrite {more : Table α} (hd : Distinct more) :
    find? (overwrite t more) key = (find? more key).or (find? t key) := by
  induction more generalizing t with
  | nil => rfl
  | cons e more ih =>
    obtain ⟨k, v⟩ := e
    have hnodup := List.nodup_cons.mp hd
    refine (ih (t := insert t k v) hnodup.2).trans ?_
    rw [find?_insert]
    by_cases hk : k = key
    · subst hk
      have hnone : find? more k = none := find?_eq_none_iff.mpr hnodup.1
      simp [find?, hnone]
    · simp [find?, hk]

theorem mem_overwrite {more : List (String × α)} {e : String × α} (h : e ∈ overwrite t more) :
    e ∈ t ∨ e ∈ more := by
  induction more generalizing t with
  | nil => exact Or.inl h
  | cons d more ih =>
    rcases ih (t := insert t d.1 d.2) h with h | h
    · rcases mem_insert h with h | h
      · exact Or.inl h
      · exact Or.inr (h ▸ List.mem_cons_self)
    · exact Or.inr (List.mem_cons_of_mem _ h)

theorem mem_ofEntries {entries : List (String × α)} {e : String × α} (h : e ∈ ofEntries entries) :
    e ∈ entries := by
  rcases mem_overwrite (t := []) h with h | h
  · cases h
  · exact h

/-- The keys of a filled table are those of the entries, each at its first place. -/
theorem keys_ofEntries (entries : List (String × α)) :
    keys (ofEntries entries) = (entries.map Prod.fst).eraseDups := by
  induction entries using List.reverseRecOn with
  | nil => rfl
  | append_singleton entries e ih =>
    have hstep : ofEntries (entries ++ [e]) = insert (ofEntries entries) e.1 e.2 := by
      simp [ofEntries, overwrite]
    rw [hstep, keys_insert, ih, List.map_append, List.map_singleton, eraseDups_concat]
    simp only [List.mem_eraseDups]

/-- A filled table gives for a key the last of the values that came with it. -/
theorem find?_ofEntries (entries : List (String × α)) :
    find? (ofEntries entries) key =
      ((entries.filter fun e => e.1 = key).getLast?).map Prod.snd := by
  induction entries using List.reverseRecOn with
  | nil => rfl
  | append_singleton entries e ih =>
    have hstep : ofEntries (entries ++ [e]) = insert (ofEntries entries) e.1 e.2 := by
      simp [ofEntries, overwrite]
    rw [hstep, find?_insert, ih, List.filter_append]
    by_cases hk : e.1 = key <;> simp [hk]

/-- Entries with distinct keys are a table as they are. -/
theorem ofEntries_eq (h : Distinct t) : ofEntries t = t := by
  induction t using List.reverseRecOn with
  | nil => rfl
  | append_singleton t e ih =>
    have hkeys : (keys t ++ [e.1]).Nodup := by
      simpa [Distinct, keys] using h
    have hstep : ofEntries (t ++ [e]) = insert (ofEntries t) e.1 e.2 := by
      simp [ofEntries, overwrite]
    obtain ⟨hd, _, hnew⟩ := List.nodup_append.mp hkeys
    rw [hstep, ih hd]
    exact insert_of_notMem fun hm => hnew _ hm _ List.mem_cons_self rfl

theorem erase_cons (e : String × α) :
    erase (e :: t) key = if e.1 = key then erase t key else e :: erase t key := by
  by_cases h : e.1 = key <;> simp [erase, h]

theorem keys_erase : keys (erase t key) = (keys t).filter fun k => k ≠ key := by
  simp only [keys, erase, List.filter_map]
  rfl

theorem find?_erase : find? (erase t key) other = if key = other then none else find? t other := by
  induction t with
  | nil => simp [erase, find?]
  | cons e rest ih =>
    rw [erase_cons]
    by_cases hk : e.1 = key
    · rw [if_pos hk, ih]
      split
      · rfl
      · rename_i hne
        simp [find?, hk, hne]
    · rw [if_neg hk]
      simp only [find?, ih]
      by_cases ho : e.1 = other
      · have hne : ¬key = other := fun he => hk (ho.trans he.symm)
        simp [ho, hne]
      · simp [ho]

theorem find?_putLast :
    find? (putLast t key value) other = if key = other then some value else find? t other := by
  rw [putLast, find?_append, find?_erase]
  by_cases h : key = other <;> simp [find?, h]

theorem keys_putLast :
    keys (putLast t key value) = (keys t).filter (fun k => k ≠ key) ++ [key] := by
  rw [← keys_erase]
  simp [putLast, keys]

theorem distinct_putLast (h : Distinct t) : Distinct (putLast t key value) := by
  unfold Distinct
  rw [keys_putLast]
  refine List.nodup_append.mpr ⟨List.Nodup.filter _ h, by simp, ?_⟩
  intro a ha b hb he
  rw [List.mem_singleton.mp hb] at he
  simpa [he] using (List.mem_filter.mp ha).2

theorem erase_of_notMem (h : key ∉ keys t) : erase t key = t := by
  refine List.filter_eq_self.mpr fun e he => ?_
  have hne : e.1 ≠ key := fun hk => h (hk ▸ mem_keys_of_mem he)
  simpa using hne

/-- Where no key has two entries, a known key takes one entry with it. -/
theorem length_erase (hd : Distinct t) (h : key ∈ keys t) :
    (erase t key).length + 1 = t.length := by
  induction t with
  | nil => cases h
  | cons e rest ih =>
    have hnodup := List.nodup_cons.mp hd
    by_cases hk : e.1 = key
    · rw [erase_cons, if_pos hk, erase_of_notMem (hk ▸ hnodup.1), List.length_cons]
    · have hm : key ∈ keys rest := (List.mem_cons.mp h).resolve_left fun he => hk he.symm
      rw [erase_cons, if_neg hk, List.length_cons, ih hnodup.2 hm, List.length_cons]

theorem length_putLast (hd : Distinct t) :
    (putLast t key value).length = if key ∈ keys t then t.length else t.length + 1 := by
  simp only [putLast, List.length_append, List.length_singleton]
  split
  · rename_i h
    exact length_erase hd h
  · rename_i h
    rw [erase_of_notMem h]

/-- What is asked of the keys is answered as before if an erased key does not count. -/
theorem any_erase {p : String → Bool} (hp : p key = false) :
    (erase t key).any (fun e => p e.1) = t.any fun e => p e.1 := by
  rw [erase, List.any_filter]
  refine congrArg t.any (funext fun e => ?_)
  by_cases he : e.1 = key
  · rw [he, hp, Bool.and_false]
  · simp [he]

theorem filter_erase {p : String → Bool} (hp : p key = false) :
    (erase t key).filter (fun e => p e.1) = t.filter fun e => p e.1 := by
  rw [erase, List.filter_filter]
  refine List.filter_congr fun e _ => ?_
  by_cases he : e.1 = key
  · rw [he, hp, Bool.false_and]
  · simp [he]

/-- Entries written over a first one: it stays in front, with the value that comes for its key. -/
theorem overwrite_cons (hd : Distinct more) (ht : key ∉ keys t) (hm : ∀ k ∈ keys more, k ∉ keys t) :
    overwrite ((key, value) :: t) more =
      (key, (find? more key).getD value) :: (t ++ erase more key) := by
  -- Behind the first entry new ones gather in `t`; only its own key changes what stands in front.
  induction more generalizing t value with
  | nil => simp [overwrite, find?, erase]
  | cons e more ih =>
    obtain ⟨k, v⟩ := e
    obtain ⟨hnew, hmd⟩ := List.nodup_cons.mp hd
    have hmore : ∀ k ∈ keys more, k ∉ keys t := fun k hk => hm k (List.mem_cons_of_mem _ hk)
    change overwrite (insert ((key, value) :: t) k v) more = _
    by_cases hk : key = k
    · subst hk
      have hnone : find? more key = none := find?_eq_none_iff.mpr hnew
      rw [insert, if_pos rfl, ih hmd ht hmore, hnone, erase_cons, if_pos rfl]
      simp [find?]
    · have hkt : k ∉ keys t := hm k List.mem_cons_self
      have hcons : insert ((key, value) :: t) k v = (key, value) :: (t ++ [(k, v)]) := by
        rw [insert, if_neg hk, insert_of_notMem hkt]
      rw [hcons, ih hmd, erase_cons, if_neg (Ne.symm hk), List.append_assoc, find?,
        if_neg (Ne.symm hk)]
      · rfl
      · simp only [keys, List.map_append, List.mem_append] at ht ⊢
        simpa [ht] using hk
      · intro j hj hmem
        simp only [keys, List.map_append, List.mem_append, List.map_cons, List.map_nil,
          List.mem_singleton] at hmem
        rcases hmem with hmem | rfl
        · exact hmore j hj hmem
        · exact hnew hj

end Table
end ServiceAtlas
