import SourceMatch.Proofs.Json.Distinct
import SourceMatch.Text.Dict

/-!
What decoders read off values: a list reads its items, an object its members in their order, and a
record its fields by their names, wherever they stand and whatever stands beside them.
-/
namespace SourceMatch.Json.Decoder

variable {α β : Type} {d : Decoder α} {v : Json} {a : α} {o : Origin} {name : String}
  {ms : List (String × Json)} {probes : List Probe}

def Reads (d : Decoder α) (v : Json) (a : α) : Prop := ∀ o, d o (.ofJson v) = .ok a

theorem Reads.ofValue (h : d.Reads v a) : d.ofValue v = .ok a := h .value

theorem reads_string (s : String) : string.Reads (.string s) s := fun _ => rfl

theorem reads_value (distinct : v.Distinct) : value.Reads v v :=
  fun _ => Document.keep_ofJson v distinct

theorem reads_nullable_string (s : Option String) :
    (nullable string).Reads (.optional .string s) s := by
  intro o
  cases s <;> rfl

theorem mapM_eq_ok {ε : Type} {f : α → Except ε β} {as : List α} {bs : List β}
    (h : List.Forall₂ (fun a b => f a = .ok b) as bs) : as.mapM f = .ok bs := by
  induction h with
  | nil => rfl
  | cons head _ ih =>
    rw [List.mapM_cons, head, ih]
    rfl

theorem ofItems_eq_map (items : List Json) : Document.ofItems items = items.map .ofJson := by
  induction items with
  | nil => rfl
  | cons item items ih => rw [Document.ofItems, ih, List.map_cons]

theorem ofMembers_eq_map (ms : List (String × Json)) :
    Document.ofMembers ms = ms.map fun m => (.ok m.1, .ofJson m.2) := by
  induction ms with
  | nil => rfl
  | cons m ms ih => rw [Document.ofMembers, ih, List.map_cons]

theorem reads_list {items : List Json} {as : List α} (h : List.Forall₂ d.Reads items as) :
    (list d).Reads (.array items) as := by
  intro o
  have read : (Document.ofItems items).mapM (d o) = .ok as := by
    rw [ofItems_eq_map]
    refine mapM_eq_ok (List.forall₂_map_left_iff.2 ?_)
    exact h.imp fun _ _ reads => reads o
  rw [Document.ofJson, list, read]
  rfl

theorem reads_members {read : List (String × α)}
    (h : List.Forall₂ (fun m r => m.1 = r.1 ∧ d.Reads m.2 r.2) ms read) :
    (members d).Reads (.object ms) read := by
  intro o
  rw [Document.ofJson, members, ofMembers_eq_map]
  have read_eq : (ms.map fun m => ((.ok m.1, .ofJson m.2) : Except Category String × Document)).mapM
      (fun m => do
        let name ← m.1
        return (name, ← d o m.2)) = .ok read := by
    refine mapM_eq_ok (List.forall₂_map_left_iff.2 (h.imp fun m r reads => ?_))
    rw [reads.2 o, reads.1]
    rfl
  rw [read_eq]
  rfl

def given (ms : List (String × Json)) : List (String × Document) :=
  ms.map fun m => (m.1, .ofJson m.2)

theorem lookup_given (name : String) (ms : List (String × Json)) :
    (given ms).lookup name = (ms.lookup name).map .ofJson := by
  induction ms with
  | nil => rfl
  | cons m ms ih =>
    obtain ⟨name', value⟩ := m
    rw [given] at ih ⊢
    rw [List.map_cons, List.lookup_cons, List.lookup_cons]
    cases name == name' with
    | true => rfl
    | false => exact ih

/-- The members that a record asks for can be read; nothing is said about the others. -/
def Accepts (probes : List Probe) (o : Origin) (ms : List (String × Json)) : Prop :=
  ∀ p ∈ probes, ∀ value, ms.lookup p.1 = some value → p.2 o (.ofJson value) = .ok ()

theorem scanMembers_known {seen found : List (String × Document)}
    {members : List (Except Category String × Document)} {doc : Document}
    {check : Origin → Document → Except Category Unit} (asked : probes.lookup name = some check) :
    scanMembers probes o ((.ok name, doc) :: members) seen = .ok found ↔
      name ∉ seen.map (·.1) ∧ check o doc = .ok () ∧
        scanMembers probes o members (seen ++ [(name, doc)]) = .ok found := by
  have known : seen.any (·.1 == name) = true ↔ name ∈ seen.map (·.1) := by
    simp [List.any_eq_true]
  rw [scanMembers]
  by_cases old : name ∈ seen.map (·.1)
  · simp [asked, known.2 old, old, bind, Except.bind, throw, throwThe, MonadExceptOf.throw]
  · rw [← known, Bool.not_eq_true] at old
    rw [← known]
    cases accepted : check o doc <;> simp [asked, old, accepted, bind, Except.bind]

theorem lookup_eq_none_iff_not_mem : ms.lookup name = none ↔ name ∉ ms.map (·.1) := by
  rw [List.lookup_eq_none_iff, List.mem_map]
  constructor
  · rintro other ⟨m, listed, rfl⟩
    simpa using other m listed
  · intro new m listed
    simpa using fun same : name = m.1 => new ⟨m, listed, same.symm⟩

def AcceptsOnce (probes : List Probe) (o : Origin) (before : List String)
    (ms : List (String × Json)) : Prop :=
  ∀ name check, probes.lookup name = some check → (ms.map (·.1)).count name ≤ 1 ∧
    ∀ value, ms.lookup name = some value → name ∉ before ∧ check o (.ofJson value) = .ok ()

theorem acceptsOnce_cons_unknown {before : List String} (asked : probes.lookup name = none) :
    AcceptsOnce probes o before ((name, v) :: ms) ↔
      AcceptsOnce probes o (before ++ [name]) ms := by
  refine forall_congr' fun n => forall_congr' fun check => imp_congr_right fun known => ?_
  have other : n ≠ name := by
    rintro rfl
    cases asked.symm.trans known
  rw [List.lookup_cons, beq_false_of_ne other, List.map_cons, List.count_cons_of_ne other.symm]
  simp [other]

theorem acceptsOnce_cons_known {before : List String}
    {check : Origin → Document → Except Category Unit} (asked : probes.lookup name = some check) :
    AcceptsOnce probes o before ((name, v) :: ms) ↔
      name ∉ before ∧ check o (.ofJson v) = .ok () ∧
        AcceptsOnce probes o (before ++ [name]) ms := by
  constructor
  · intro h
    obtain ⟨few, reads⟩ := h name check asked
    obtain ⟨new, accepted⟩ := reads v List.lookup_cons_self
    rw [List.map_cons, List.count_cons_self] at few
    have last : name ∉ ms.map (·.1) := List.count_eq_zero.1 (by omega)
    refine ⟨new, accepted, fun n c known => ?_⟩
    by_cases same : n = name
    · subst same
      rw [lookup_eq_none_iff_not_mem.2 last]
      exact ⟨by omega, nofun⟩
    · have rest := h n c known
      rw [List.lookup_cons, beq_false_of_ne same, List.map_cons,
        List.count_cons_of_ne (Ne.symm same)] at rest
      simpa [same] using rest
  · rintro ⟨new, accepted, rest⟩ n c known
    obtain ⟨few, reads⟩ := rest n c known
    by_cases same : n = name
    · subst same
      cases asked.symm.trans known
      have last : ms.lookup n = none :=
        Option.eq_none_iff_forall_ne_some.2 fun value found => (reads value found).1 (by simp)
      rw [List.map_cons, List.count_cons_self,
        List.count_eq_zero.2 (lookup_eq_none_iff_not_mem.1 last), List.lookup_cons_self]
      refine ⟨Nat.le_refl 1, ?_⟩
      rintro _ ⟨⟩
      exact ⟨new, accepted⟩
    · rw [List.lookup_cons, beq_false_of_ne same, List.map_cons,
        List.count_cons_of_ne (Ne.symm same)]
      simpa [same] using And.intro few reads

theorem scanMembers_eq_ok_iff {seen found : List (String × Document)} :
    scanMembers probes o (Document.ofMembers ms) seen = .ok found ↔
      found = seen ++ given ms ∧ AcceptsOnce probes o (seen.map (·.1)) ms := by
  induction ms generalizing seen with
  | nil => simp [Document.ofMembers, scanMembers, given, AcceptsOnce, eq_comm]
  | cons m ms ih =>
    obtain ⟨name, v⟩ := m
    have all : seen ++ [(name, .ofJson v)] ++ given ms = seen ++ given ((name, v) :: ms) :=
      List.append_assoc _ _ _
    have rest := @ih (seen ++ [(name, .ofJson v)])
    rw [all, List.map_append] at rest
    rw [Document.ofMembers]
    cases asked : probes.lookup name with
    | none =>
      rw [acceptsOnce_cons_unknown asked, scanMembers]
      simpa [asked, Document.skip_ofJson, bind, Except.bind] using rest
    | some check =>
      rw [acceptsOnce_cons_known asked, scanMembers_known asked, rest]
      tauto

theorem lookup_of_mem (nodup : (ms.map (·.1)).Nodup) (listed : (name, v) ∈ ms) :
    ms.lookup name = some v :=
  (Dict.lookup_eq_some_iff_mem (List.pairwise_map.1 nodup)).2 listed

theorem reads_record {build : Fields → Except Category α} (distinct : (Json.object ms).Distinct)
    (accepts : ∀ o, Accepts probes o ms) (built : ∀ o, build ⟨o, .object, given ms⟩ = .ok a) :
    (record probes build).Reads (.object ms) a := by
  intro o
  have nodup := (Json.distinct_object.1 distinct).1
  have scanned : scanMembers probes o (Document.ofMembers ms) [] = .ok (given ms) := by
    refine scanMembers_eq_ok_iff.2 ⟨rfl, fun name check asked => ⟨?_, fun v found => ⟨?_, ?_⟩⟩⟩
    · exact List.nodup_iff_count_le_one.1 nodup name
    · exact List.not_mem_nil
    · obtain ⟨before, after, rfl, -⟩ := List.lookup_eq_some_iff.1 asked
      exact accepts o (name, check) (by simp) v found
  rw [Document.ofJson, record, scanned]
  exact built o

def Gives (ms : List (String × Json)) (name : String) (property : Json → Prop) (omitted : Prop) :
    Prop :=
  match ms.lookup name with
  | some value => property value
  | none => omitted

theorem gives_of_lookup {property : Json → Prop} {omitted : Prop} (found : ms.lookup name = some v)
    (h : property v) : Gives ms name property omitted := by
  rw [Gives, found]
  exact h

theorem Gives.reads {property : Json → Prop} {omitted : Prop}
    (distinct : (Json.object ms).Distinct) (h : Gives ms name property omitted)
    (reads : ∀ value, value.Distinct → property value → d.Reads value a) :
    Gives ms name (d.Reads · a) omitted := by
  rw [Gives] at h ⊢
  cases found : ms.lookup name with
  | none => rwa [found] at h
  | some value =>
    rw [found] at h
    exact reads value (Json.distinct_of_lookup distinct found) h

theorem accepts_nil (o : Origin) (ms : List (String × Json)) : Accepts [] o ms := by
  intro p listed
  cases listed

theorem accepts_cons {omitted : Prop} (h : Gives ms name (d.Reads · a) omitted)
    (rest : Accepts probes o ms) : Accepts (probe name d :: probes) o ms := by
  intro p listed value found
  rcases List.mem_cons.1 listed with rfl | later
  · rw [Gives, show ms.lookup name = some value from found] at h
    have read : d o (.ofJson value) = .ok a := h o
    exact congrArg (Except.map fun _ => ()) read
  · exact rest p later value found

theorem orElse_given {default : α} (h : Gives ms name (d.Reads · a) (a = default)) (o : Origin) :
    Fields.orElse ⟨o, .object, given ms⟩ name d default = .ok a := by
  rw [Fields.orElse, lookup_given]
  rw [Gives] at h
  cases found : ms.lookup name with
  | none =>
    rw [found] at h
    rw [h]
    rfl
  | some value =>
    rw [found] at h
    exact h o

theorem reads_optional {default : α} (distinct : (Json.object ms).Distinct)
    (h : Gives ms name (d.Reads · a) (a = default)) :
    (record [probe name d] fun f => f.orElse name d default).Reads (.object ms) a :=
  reads_record distinct (fun o => accepts_cons h (accepts_nil o ms)) (orElse_given h)

theorem required_given (h : Gives ms name (d.Reads · a) False) (o : Origin) :
    Fields.required ⟨o, .object, given ms⟩ name d = .ok a := by
  rw [Fields.required, lookup_given]
  rw [Gives] at h
  cases found : ms.lookup name with
  | none =>
    rw [found] at h
    cases h
  | some value =>
    rw [found] at h
    exact h o

end SourceMatch.Json.Decoder
