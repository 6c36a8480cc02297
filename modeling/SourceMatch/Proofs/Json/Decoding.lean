import SourceMatch.Json.Decoder
import Mathlib.Data.List.Forall2
import Mathlib.Data.List.Nodup

/-!
What a decoder that succeeds has read: each part of a sequence of steps, the members of an object
under their names, and the fields of a record. A value that was kept has no name twice in an object.
-/
namespace SourceMatch.Json

variable {α β : Type}

theorem bind_eq_ok {ε : Type} {x : Except ε α} {f : α → Except ε β} {b : β} :
    x >>= f = .ok b ↔ ∃ a, x = .ok a ∧ f a = .ok b := by
  cases x <;> simp [bind, Except.bind]

theorem forall₂_of_mapM {ε : Type} {f : α → Except ε β} {as : List α} {bs : List β}
    (h : as.mapM f = .ok bs) : List.Forall₂ (fun a b => f a = .ok b) as bs := by
  induction as generalizing bs with
  | nil =>
    cases h
    exact .nil
  | cons a as ih =>
    rw [List.mapM_cons, bind_eq_ok] at h
    obtain ⟨b, hb, h⟩ := h
    obtain ⟨bs, hbs, h⟩ := bind_eq_ok.1 h
    cases h
    exact .cons hb (ih hbs)

theorem exists_mapM_eq_ok {ε : Type} {f : α → Except ε β} {as : List α}
    (h : ∀ a ∈ as, ∃ b, f a = .ok b) : ∃ bs, as.mapM f = .ok bs := by
  induction as with
  | nil => exact ⟨[], rfl⟩
  | cons a as ih =>
    obtain ⟨b, hb⟩ := h a List.mem_cons_self
    obtain ⟨bs, hbs⟩ := ih fun a' listed => h a' (List.mem_cons_of_mem a listed)
    exact ⟨b :: bs, by rw [List.mapM_cons, hb, hbs]; rfl⟩

theorem mem_iff_of_mapM {ε : Type} {f : α → Except ε β} {as : List α} {bs : List β} {b : β}
    (h : as.mapM f = .ok bs) : b ∈ bs ↔ ∃ a ∈ as, f a = .ok b := by
  replace h := forall₂_of_mapM h
  induction h with
  | nil => simp
  | cons head _ ih => simp [ih, head, eq_comm]

theorem exists_eq_ok_of_mapM {ε : Type} {f : α → Except ε β} {as : List α} {bs : List β} {a : α}
    (h : as.mapM f = .ok bs) (ha : a ∈ as) : ∃ b, f a = .ok b := by
  replace h := forall₂_of_mapM h
  induction h with
  | nil => cases ha
  | cons head _ ih =>
    rcases List.mem_cons.1 ha with rfl | ha
    · exact ⟨_, head⟩
    · exact ih ha

theorem exists_of_mem_forall₂ {R : α → β → Prop} {as : List α} {bs : List β} {b : β}
    (h : List.Forall₂ R as bs) (hb : b ∈ bs) : ∃ a ∈ as, R a b := by
  induction h with
  | nil => cases hb
  | cons ha _ ih =>
    rcases List.mem_cons.1 hb with rfl | hb
    · exact ⟨_, List.mem_cons_self, ha⟩
    · obtain ⟨a, hmem, ha⟩ := ih hb
      exact ⟨a, List.mem_cons_of_mem _ hmem, ha⟩

theorem map_eq_of_forall₂ {γ : Type} {R : α → β → Prop} {key : α → γ} {key' : β → γ}
    (hkey : ∀ a b, R a b → key' b = key a) {as : List α} {bs : List β} (h : List.Forall₂ R as bs) :
    bs.map key' = as.map key := by
  induction h with
  | nil => rfl
  | cons ha _ ih => rw [List.map_cons, List.map_cons, hkey _ _ ha, ih]

theorem names_putMember (members : List (String × Json)) (name : String) (value : Json) :
    (putMember members name value).map (·.1) =
      if name ∈ members.map (·.1) then members.map (·.1) else members.map (·.1) ++ [name] := by
  have known : members.any (·.1 == name) = true ↔ name ∈ members.map (·.1) := by
    simp [List.any_eq_true]
  rw [putMember]
  by_cases hm : name ∈ members.map (·.1)
  · rw [if_pos (known.2 hm), if_pos hm, List.map_map]
    refine List.map_congr_left fun m _ => ?_
    by_cases hn : m.1 = name <;> simp [hn]
  · rw [if_neg (mt known.1 hm), if_neg hm, List.map_append]
    rfl

theorem nodup_putMember {members : List (String × Json)} (name : String) (value : Json)
    (h : (members.map (·.1)).Nodup) : ((putMember members name value).map (·.1)).Nodup := by
  rw [names_putMember]
  split
  · exact h
  · rename_i hm
    rw [← List.concat_eq_append]
    exact h.concat hm

namespace Document

theorem nodup_of_keepMembers {members : List (Except Category String × Document)}
    {seen kept : List (String × Json)} (hs : (seen.map (·.1)).Nodup)
    (h : keepMembers members seen = .ok kept) : (kept.map (·.1)).Nodup := by
  induction members generalizing seen with
  | nil =>
    simp only [keepMembers, Except.ok.injEq] at h
    rwa [← h]
  | cons m members ih =>
    obtain ⟨name, doc⟩ := m
    rw [keepMembers, bind_eq_ok] at h
    obtain ⟨name, -, h⟩ := h
    obtain ⟨value, -, h⟩ := bind_eq_ok.1 h
    exact ih (nodup_putMember name value hs) h

theorem nodup_of_keep {doc : Document} {members : List (String × Json)}
    (h : doc.keep = .ok (.object members)) : (members.map (·.1)).Nodup := by
  cases doc with
  | object ms close =>
    rw [keep, bind_eq_ok] at h
    obtain ⟨kept, hk, h⟩ := h
    cases close with
    | some fault => cases h
    | none =>
      cases h
      exact nodup_of_keepMembers (by simp) hk
  | list items close =>
    rw [keep, bind_eq_ok] at h
    obtain ⟨kept, -, h⟩ := h
    cases close <;> cases h
  | _ => simp [keep] at h

theorem names_ofMembers (members : List (String × Json)) :
    (ofMembers members).map (·.1) = (members.map (·.1)).map .ok := by
  induction members with
  | nil => rfl
  | cons m members ih =>
    rw [ofMembers, List.map_cons, ih]
    rfl

end Document

namespace Decoder

theorem members_eq_ok {d : Decoder α} {o : Origin} {doc : Document} {read : List (String × α)}
    (h : members d o doc = .ok read) :
    ∃ ms close, doc = .object ms close ∧
      List.Forall₂ (fun m r => m.1 = .ok r.1 ∧ d o m.2 = .ok r.2) ms read := by
  cases doc with
  | object ms close =>
    refine ⟨ms, close, rfl, ?_⟩
    rw [members, bind_eq_ok] at h
    obtain ⟨read', hr, h⟩ := h
    obtain ⟨-, -, h⟩ := bind_eq_ok.1 h
    cases h
    refine (forall₂_of_mapM hr).imp fun m r hmr => ?_
    obtain ⟨name, hname, hmr⟩ := bind_eq_ok.1 hmr
    obtain ⟨a, ha, hmr⟩ := bind_eq_ok.1 hmr
    cases hmr
    exact ⟨hname, ha⟩
  | _ => simp [members, Document.mismatch] at h

theorem names_of_members {d : Decoder α} {v : Json} {read : List (String × α)}
    (h : (members d).ofValue v = .ok read) :
    ∃ ms, v = .object ms ∧ read.map (·.1) = ms.map (·.1) := by
  obtain ⟨ms, close, hdoc, hr⟩ := members_eq_ok h
  cases v with
  | object members =>
    simp only [Document.ofJson, Document.object.injEq] at hdoc
    have names : (read.map (·.1)).map .ok = ms.map (·.1) := by
      rw [List.map_map]
      exact map_eq_of_forall₂ (fun _ _ hm => hm.1.symm) hr
    rw [← hdoc.1, Document.names_ofMembers] at names
    exact ⟨members, rfl, List.map_injective_iff.2 (fun _ _ => Except.ok.inj) names⟩
  | _ => simp [Document.ofJson] at hdoc

theorem exists_fields {probes : List Probe} {build : Fields → Except Category α} {o : Origin}
    {doc : Document} {a : α} (h : record probes build o doc = .ok a) : ∃ f, build f = .ok a := by
  cases doc with
  | object ms close =>
    rw [record, bind_eq_ok] at h
    obtain ⟨given, -, h⟩ := h
    obtain ⟨-, -, h⟩ := bind_eq_ok.1 h
    exact ⟨_, h⟩
  | list items close =>
    rw [record, bind_eq_ok] at h
    obtain ⟨⟨given, rest⟩, -, h⟩ := h
    dsimp only at h
    split at h
    · obtain ⟨-, -, h⟩ := bind_eq_ok.1 h
      exact ⟨_, h⟩
    · obtain ⟨_, -, h⟩ := bind_eq_ok.1 h
      cases h
  | _ => simp [record, Document.mismatch] at h

theorem exists_of_required {f : Fields} {name : String} {d : Decoder α} {a : α}
    (h : f.required name d = .ok a) : ∃ doc, d f.origin doc = .ok a := by
  simp only [Fields.required] at h
  split at h
  · exact ⟨_, h⟩
  · cases h

theorem orElse_eq_ok {f : Fields} {name : String} {d : Decoder α} {default a : α}
    (h : f.orElse name d default = .ok a) : a = default ∨ ∃ doc, d f.origin doc = .ok a := by
  simp only [Fields.orElse] at h
  split at h
  · exact .inr ⟨_, h⟩
  · exact .inl (Except.ok.inj h).symm

end Decoder

end SourceMatch.Json
