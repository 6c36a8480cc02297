import SourceMatch.Proofs.Json.Decoding

/-!
Values without repeated names. Every value that is kept from a document is one, and such a value is
kept as it is.
-/
namespace SourceMatch.Json

mutual

def Distinct : Json → Prop
  | .array items => DistinctItems items
  | .object members => (members.map (·.1)).Nodup ∧ DistinctMembers members
  | _ => True

def DistinctItems : List Json → Prop
  | [] => True
  | item :: items => Distinct item ∧ DistinctItems items

def DistinctMembers : List (String × Json) → Prop
  | [] => True
  | (_, value) :: members => Distinct value ∧ DistinctMembers members

end

theorem distinctItems_iff {items : List Json} :
    DistinctItems items ↔ ∀ item ∈ items, item.Distinct := by
  induction items with
  | nil => simp [DistinctItems]
  | cons item items ih => simp [DistinctItems, ih]

theorem distinctMembers_iff {members : List (String × Json)} :
    DistinctMembers members ↔ ∀ m ∈ members, m.2.Distinct := by
  induction members with
  | nil => simp [DistinctMembers]
  | cons m members ih => simp [DistinctMembers, ih]

theorem distinct_array {items : List Json} :
    (Json.array items).Distinct ↔ ∀ item ∈ items, item.Distinct := by
  rw [Distinct, distinctItems_iff]

theorem distinct_object {members : List (String × Json)} :
    (Json.object members).Distinct ↔
      (members.map (·.1)).Nodup ∧ ∀ m ∈ members, m.2.Distinct := by
  rw [Distinct, distinctMembers_iff]

theorem distinct_of_lookup {members : List (String × Json)} {name : String} {value : Json}
    (h : (Json.object members).Distinct) (found : members.lookup name = some value) :
    value.Distinct := by
  obtain ⟨before, after, rfl, -⟩ := List.lookup_eq_some_iff.1 found
  exact (distinct_object.1 h).2 (name, value) (by simp)

theorem putMember_of_not_mem {members : List (String × Json)} {name : String} (value : Json)
    (new : name ∉ members.map (·.1)) :
    putMember members name value = members ++ [(name, value)] := by
  have absent : members.any (·.1 == name) = false := by
    simpa using fun m listed same => new (List.mem_map.2 ⟨m, listed, same⟩)
  rw [putMember, absent]
  rfl

theorem mem_putMember {members : List (String × Json)} {name : String} {value : Json}
    {m : String × Json} (h : m ∈ putMember members name value) :
    m = (name, value) ∨ m ∈ members := by
  rw [putMember] at h
  split at h
  · obtain ⟨old, listed, rfl⟩ := List.mem_map.1 h
    split
    · exact .inl rfl
    · exact .inr listed
  · rcases List.mem_append.1 h with listed | new
    · exact .inr listed
    · exact .inl (List.mem_singleton.1 new)

namespace Document

mutual

theorem distinct_of_keep : {doc : Document} → {v : Json} → doc.keep = .ok v → v.Distinct
  | .null, _, h => by cases h; trivial
  | .bool _, _, h => by cases h; trivial
  | .number _, _, h => by cases h; trivial
  | .string _, _, h => by cases h; trivial
  | .list items close, v, h => by
    rw [keep, bind_eq_ok] at h
    obtain ⟨kept, items_eq, h⟩ := h
    cases close with
    | some fault => cases h
    | none =>
      cases h
      rw [Distinct]
      exact distinct_of_keepItems items_eq
  | .object members close, v, h => by
    rw [keep, bind_eq_ok] at h
    obtain ⟨kept, members_eq, h⟩ := h
    cases close with
    | some fault => cases h
    | none =>
      cases h
      rw [Distinct]
      exact ⟨nodup_of_keepMembers (by simp) members_eq,
        distinct_of_keepMembers (by simp [DistinctMembers]) members_eq⟩
  | .broken _, _, h => by cases h
  | .frail _ _, _, h => by cases h

theorem distinct_of_keepItems : {items : List Document} → {kept : List Json} →
    keepItems items = .ok kept → DistinctItems kept
  | [], _, h => by cases h; trivial
  | item :: items, kept, h => by
    rw [keepItems, bind_eq_ok] at h
    obtain ⟨first, first_eq, h⟩ := h
    obtain ⟨rest, rest_eq, h⟩ := bind_eq_ok.1 h
    cases h
    exact ⟨distinct_of_keep first_eq, distinct_of_keepItems rest_eq⟩

theorem distinct_of_keepMembers : {members : List (Except Category String × Document)} →
    {seen kept : List (String × Json)} → DistinctMembers seen →
    keepMembers members seen = .ok kept → DistinctMembers kept
  | [], _, _, before, h => by
    simp only [keepMembers, Except.ok.injEq] at h
    rwa [← h]
  | (name, doc) :: members, seen, kept, before, h => by
    rw [keepMembers, bind_eq_ok] at h
    obtain ⟨name, -, h⟩ := h
    obtain ⟨value, value_eq, h⟩ := bind_eq_ok.1 h
    refine distinct_of_keepMembers (distinctMembers_iff.2 fun m listed => ?_) h
    rcases mem_putMember listed with rfl | old
    · exact distinct_of_keep value_eq
    · exact distinctMembers_iff.1 before m old

end

mutual

theorem keep_ofJson : (v : Json) → v.Distinct → (ofJson v).keep = .ok v
  | .null, _ => rfl
  | .bool _, _ => rfl
  | .number _, _ => rfl
  | .string _, _ => rfl
  | .array items, distinct => by
    rw [ofJson, keep, keepItems_ofItems items (by rwa [Distinct] at distinct)]
    rfl
  | .object members, distinct => by
    rw [Distinct] at distinct
    rw [ofJson, keep, keepMembers_ofMembers members [] (by simpa using distinct.1) distinct.2]
    rfl

theorem keepItems_ofItems : (items : List Json) → DistinctItems items →
    keepItems (ofItems items) = .ok items
  | [], _ => rfl
  | item :: items, distinct => by
    rw [DistinctItems] at distinct
    rw [ofItems, keepItems, keep_ofJson item distinct.1, keepItems_ofItems items distinct.2]
    rfl

theorem keepMembers_ofMembers : (members seen : List (String × Json)) →
    ((seen ++ members).map (·.1)).Nodup → DistinctMembers members →
    keepMembers (ofMembers members) seen = .ok (seen ++ members)
  | [], seen, _, _ => by
    rw [ofMembers, keepMembers, List.append_nil]
  | (name, value) :: members, seen, nodup, distinct => by
    rw [DistinctMembers] at distinct
    have new : name ∉ seen.map (·.1) := by
      rw [List.map_append, List.nodup_append] at nodup
      exact fun old => nodup.2.2 name old name (by simp) rfl
    have rest := keepMembers_ofMembers members (seen ++ [(name, value)]) (by simpa using nodup)
      distinct.2
    rw [ofMembers, keepMembers, keep_ofJson value distinct.1]
    simp only [bind, Except.bind]
    rw [putMember_of_not_mem value new, rest, List.append_assoc]
    rfl

end

mutual

theorem skip_ofJson : (v : Json) → (ofJson v).skip = .ok ()
  | .null => rfl
  | .bool _ => rfl
  | .number _ => rfl
  | .string _ => rfl
  | .array items => by
    rw [ofJson, skip, skipItems_ofItems items]
    rfl
  | .object members => by
    rw [ofJson, skip, skipMembers_ofMembers members]
    rfl

theorem skipItems_ofItems : (items : List Json) → skipItems (ofItems items) = .ok ()
  | [] => rfl
  | item :: items => by
    rw [ofItems, skipItems, skip_ofJson item]
    exact skipItems_ofItems items

theorem skipMembers_ofMembers : (members : List (String × Json)) →
    skipMembers (ofMembers members) = .ok ()
  | [] => rfl
  | (name, value) :: members => by
    rw [ofMembers, skipMembers, skip_ofJson value]
    exact skipMembers_ofMembers members

end

end Document

end SourceMatch.Json
