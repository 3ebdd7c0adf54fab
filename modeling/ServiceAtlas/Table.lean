/-!
Ordered tables: entries stand in the order in which their keys first came, and no operation gives
a key a second entry.
-/

namespace ServiceAtlas

/-- Named entries in a fixed order. -/
abbrev Table (α : Type) := List (String × α)

namespace Table
variable {α : Type}

def find? : Table α → String → Option α
  | [], _ => none
  | (k, v) :: rest, key => if k = key then some v else find? rest key

def keys (t : Table α) : List String := List.map Prod.fst t

def contains (t : Table α) (key : String) : Bool := (find? t key).isSome

/-- A known key keeps its place and takes the new value; a new key goes last. -/
def insert (t : Table α) (key : String) (value : α) : Table α :=
  match t with
  | [] => [(key, value)]
  | (k, v) :: rest => if k = key then (k, value) :: rest else (k, v) :: insert rest key value

def erase (t : Table α) (key : String) : Table α := List.filter (fun e => e.1 ≠ key) t

/-- The key takes the new value and the last place, wherever it stood before. -/
def putLast (t : Table α) (key : String) (value : α) : Table α := erase t key ++ [(key, value)]

/-- All entries of `more`, in order, written over `t`. -/
def overwrite (t : Table α) (more : List (String × α)) : Table α :=
  more.foldl (fun t e => insert t e.1 e.2) t

def ofEntries (entries : List (String × α)) : Table α := overwrite [] entries

/-- No key has two entries. -/
def Distinct (t : Table α) : Prop := t.keys.Nodup

theorem find?_insert (t : Table α) (key other : String) (value : α) :
    find? (insert t key value) other = if key = other then some value else find? t other := by
  induction t with
  | nil => rfl
  | cons e rest ih =>
    obtain ⟨k, v⟩ := e
    simp only [insert]
    split
    · next h => subst h; simp only [find?]; split <;> rfl
    · next h =>
      simp only [find?, ih]
      split
      · next ho => subst ho; simp [Ne.symm h]
      · rfl

theorem keys_insert (t : Table α) (key : String) (value : α) :
    keys (insert t key value) = if key ∈ keys t then keys t else keys t ++ [key] := by
  induction t with
  | nil => simp [insert, keys]
  | cons e rest ih =>
    obtain ⟨k, v⟩ := e
    by_cases h : k = key
    · simp [insert, h, keys]
    · have hne : ¬ key = k := fun he => h he.symm
      simp only [keys] at ih
      by_cases hm : key ∈ List.map Prod.fst rest <;>
        simp [insert, h, hne, keys, ih, hm]

theorem find?_isSome_iff (t : Table α) (key : String) : (find? t key).isSome ↔ key ∈ keys t := by
  induction t with
  | nil => simp [find?, keys]
  | cons e rest ih =>
    obtain ⟨k, v⟩ := e
    simp only [keys, List.map_cons, List.mem_cons] at ih ⊢
    by_cases h : k = key
    · simp [find?, h]
    · simp [find?, h, ih, Ne.symm h]

theorem mem_of_find? {t : Table α} {key : String} {value : α} (h : find? t key = some value) :
    (key, value) ∈ t := by
  induction t with
  | nil => simp [find?] at h
  | cons e rest ih =>
    obtain ⟨k, v⟩ := e
    simp only [find?] at h
    split at h
    · next hk => simp_all
    · exact List.mem_cons_of_mem _ (ih h)

theorem distinct_insert {t : Table α} (h : Distinct t) (key : String) (value : α) :
    Distinct (insert t key value) := by
  unfold Distinct at *
  rw [keys_insert]
  split
  · exact h
  · next hm =>
    refine List.nodup_append.2 ⟨h, by simp, ?_⟩
    intro a ha b hb
    have hb' : b = key := by simpa using hb
    subst hb'
    exact fun he => hm (he ▸ ha)

end Table
end ServiceAtlas
