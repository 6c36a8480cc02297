/-!
Finite maps from texts, kept in the order of their keys, so that two maps with the same entries are
equal.
-/
namespace SourceMatch

def Dict.insertEntry {α : Type} (key : String) (value : α) :
    List (String × α) → List (String × α)
  | [] => [(key, value)]
  | (k, v) :: rest =>
    if key < k then (key, value) :: (k, v) :: rest
    else if key = k then (key, value) :: rest
    else (k, v) :: insertEntry key value rest

theorem Dict.mem_insertEntry {α : Type} {key : String} {value : α} {entries : List (String × α)}
    {e : String × α} (h : e ∈ insertEntry key value entries) : e = (key, value) ∨ e ∈ entries := by
  induction entries with
  | nil => simpa [insertEntry] using h
  | cons head rest ih =>
    obtain ⟨k, v⟩ := head
    rw [insertEntry] at h
    split at h
    · simpa using h
    · split at h
      · rcases List.mem_cons.1 h with h | h
        · exact Or.inl h
        · exact Or.inr (List.mem_cons_of_mem _ h)
      · rcases List.mem_cons.1 h with h | h
        · exact Or.inr (h ▸ List.mem_cons_self)
        · rcases ih h with h | h
          · exact Or.inl h
          · exact Or.inr (List.mem_cons_of_mem _ h)

theorem Dict.insertEntry_sorted {α : Type} (key : String) (value : α)
    {entries : List (String × α)} (h : entries.Pairwise fun a b => a.1 < b.1) :
    (insertEntry key value entries).Pairwise fun a b => a.1 < b.1 := by
  induction entries with
  | nil => simp [insertEntry]
  | cons head rest ih =>
    obtain ⟨k, v⟩ := head
    have hrest := (List.pairwise_cons.1 h).2
    have hhead := (List.pairwise_cons.1 h).1
    rw [insertEntry]
    split
    · rename_i hlt
      refine List.pairwise_cons.2 ⟨fun e he => ?_, h⟩
      rcases List.mem_cons.1 he with he | he
      · exact he ▸ hlt
      · exact String.lt_trans hlt (hhead e he)
    · split
      · rename_i heq
        exact List.pairwise_cons.2 ⟨fun e he => heq ▸ hhead e he, hrest⟩
      · rename_i hlt hne
        refine List.pairwise_cons.2 ⟨fun e he => ?_, ih hrest⟩
        rcases Dict.mem_insertEntry he with he | he
        · subst he
          rcases String.le_total k key with hle | hle
          · exact Std.lt_of_le_of_ne hle (Ne.symm hne)
          · exact absurd (Std.lt_of_le_of_ne hle hne) hlt
        · exact hhead e he

/-- A map from texts: its entries in increasing order of their keys. -/
structure Dict (α : Type) where
  entries : List (String × α)
  sorted : entries.Pairwise fun a b => a.1 < b.1
deriving DecidableEq

namespace Dict

variable {α β : Type}

instance : EmptyCollection (Dict α) := ⟨[], .nil⟩

instance : Inhabited (Dict α) := ⟨∅⟩

def insert (d : Dict α) (key : String) (value : α) : Dict α :=
  ⟨insertEntry key value d.entries, insertEntry_sorted key value d.sorted⟩

def get? (d : Dict α) (key : String) : Option α := d.entries.lookup key

def contains (d : Dict α) (key : String) : Bool := (d.get? key).isSome

def keys (d : Dict α) : List String := d.entries.map (·.1)

def values (d : Dict α) : List α := d.entries.map (·.2)

def isEmpty (d : Dict α) : Bool := d.entries.isEmpty

def insertAll (d : Dict α) (entries : List (String × α)) : Dict α :=
  entries.foldl (fun d e => d.insert e.1 e.2) d

def ofList (entries : List (String × α)) : Dict α := insertAll ∅ entries

def map (f : α → β) (d : Dict α) : Dict β :=
  ⟨d.entries.map fun e => (e.1, f e.2), List.pairwise_map.2 d.sorted⟩

theorem lookup_insertEntry (key k : String) (value : α) (entries : List (String × α)) :
    (insertEntry key value entries).lookup k =
      if k = key then some value else entries.lookup k := by
  induction entries with
  | nil => by_cases h : k = key <;> simp [insertEntry, h]
  | cons head rest ih =>
    obtain ⟨k', v⟩ := head
    rw [insertEntry]
    split
    · by_cases h : k = key <;> simp [List.lookup_cons, h]
      have : (k == key) = false := by simpa using h
      simp [this]
    · split
      · rename_i heq
        subst heq
        by_cases h : k = key
        · simp [h]
        · have : (k == key) = false := by simpa using h
          simp [List.lookup_cons, h, this]
      · rename_i hne
        by_cases h : k = k'
        · subst h
          have : ¬ k = key := fun h => hne h.symm
          simp [this]
        · have : (k == k') = false := by simpa using h
          simp [List.lookup_cons, this, ih]

theorem get?_insert (d : Dict α) (key k : String) (value : α) :
    (d.insert key value).get? k = if k = key then some value else d.get? k :=
  lookup_insertEntry key k value d.entries

theorem get?_insertAll (d : Dict α) (entries : List (String × α)) (key : String) :
    (d.insertAll entries).get? key = (entries.reverse.lookup key).or (d.get? key) := by
  induction entries generalizing d with
  | nil => rfl
  | cons e entries ih =>
    obtain ⟨k, v⟩ := e
    have one : [(k, v)].lookup key = if key = k then some v else none := by
      by_cases h : key = k
      · simp [h]
      · have : (key == k) = false := by simpa using h
        simp [List.lookup_cons, h, this]
    have h := ih (d.insert k v)
    rw [get?_insert] at h
    rw [List.reverse_cons, List.lookup_append, Option.or_assoc, one]
    refine h.trans ?_
    split <;> rfl

theorem get?_ofList (entries : List (String × α)) (key : String) :
    (ofList entries).get? key = entries.reverse.lookup key := by
  rw [ofList, get?_insertAll]
  exact Option.or_none

theorem lookup_eq_some_iff_mem {κ : Type} [BEq κ] [LawfulBEq κ] {entries : List (κ × α)} {key : κ}
    {value : α} (h : entries.Pairwise fun a b => a.1 ≠ b.1) :
    entries.lookup key = some value ↔ (key, value) ∈ entries := by
  rw [List.lookup_eq_some_iff]
  constructor
  · rintro ⟨before, after, rfl, -⟩
    simp
  · intro hmem
    obtain ⟨before, after, rfl⟩ := List.append_of_mem hmem
    refine ⟨before, after, rfl, fun p hp => ?_⟩
    have := (List.pairwise_append.1 h).2.2 p hp (key, value) List.mem_cons_self
    simpa using Ne.symm this

theorem distinct_keys (d : Dict α) : d.entries.Pairwise fun a b => a.1 ≠ b.1 :=
  d.sorted.imp fun h => String.ne_of_lt h

theorem get?_eq_some_iff {d : Dict α} {key : String} {value : α} :
    d.get? key = some value ↔ (key, value) ∈ d.entries :=
  lookup_eq_some_iff_mem d.distinct_keys

theorem contains_iff_mem_keys {d : Dict α} {key : String} :
    d.contains key = true ↔ key ∈ d.keys := by
  rw [contains, Option.isSome_iff_exists, keys, List.mem_map]
  constructor
  · rintro ⟨value, found⟩
    exact ⟨(key, value), get?_eq_some_iff.1 found, rfl⟩
  · rintro ⟨⟨_, value⟩, listed, rfl⟩
    exact ⟨value, get?_eq_some_iff.2 listed⟩

theorem get?_insertAll_entries (d d' : Dict α) (key : String) :
    (d.insertAll d'.entries).get? key = (d'.get? key).or (d.get? key) := by
  rw [get?_insertAll]
  congr 1
  ext value
  have hr : d'.entries.reverse.Pairwise fun a b => a.1 ≠ b.1 :=
    List.pairwise_reverse.2 (d'.distinct_keys.imp Ne.symm)
  rw [lookup_eq_some_iff_mem hr, get?_eq_some_iff, List.mem_reverse]

end Dict

end SourceMatch
