import SourceMatch.Proofs.Json.Reading

/-!
Records by the table of their fields. A record that is read as its table says takes each field from
the member with the field's name, or from the item in the field's place; one that is written as the
table says has every field under its name. If each field can be read again, so can the record.
-/
namespace SourceMatch.Json.Decoder

variable {α β : Type} {d : Decoder α} {encode : α → Json} {o : Origin} {a : α}
  {name : String} {ms : List (String × Json)} {items : List Json}

/-- A field of a record: its name, how its value is read and written, and the value that it has
where a record of a form leaves it out. -/
structure Slot (α : Type) where
  name : String
  Value : Type
  decoder : Decoder Value
  encode : Value → Json
  get : α → Value
  omitted : Form → Option Value

namespace Slot

def required (name : String) (d : Decoder β) (encode : β → Json) (get : α → β) : Slot α :=
  ⟨name, β, d, encode, get, fun _ => none⟩

def orElse (name : String) (d : Decoder β) (encode : β → Json) (get : α → β) (default : β) :
    Slot α :=
  ⟨name, β, d, encode, get, fun _ => some default⟩

def optional (name : String) (d : Decoder β) (encode : β → Json) (get : α → Option β) : Slot α :=
  orElse name (nullable d) (.optional encode) get none

def named (name : String) (d : Decoder β) (encode : β → Json) (get : α → β) (default : β) :
    Slot α where
  name
  Value := β
  decoder := d
  encode
  get
  omitted
    | .object => some default
    | .array => none

def read (field : Slot α) (o : Origin) (form : Form) :
    Option Document → Except Category field.Value
  | some doc => field.decoder o doc
  | none =>
    match field.omitted form with
    | some value => .ok value
    | none => .error .wrongShape

def probe (field : Slot α) : Probe := Decoder.probe field.name field.decoder

def readFrom (field : Slot α) (f : Fields) : Except Category field.Value :=
  field.read f.origin f.form (f.given.lookup field.name)

theorem readFrom_named {e : Decoder β} {write : β → Json} {get : α → β} {default : β} {f : Fields} :
    (named name e write get default).readFrom f = f.named name e default := by
  rw [readFrom, Fields.named]
  change (named name e write get default).read f.origin f.form (f.given.lookup name) = _
  cases f.given.lookup name with
  | some doc => rfl
  | none => cases f.form <;> rfl

end Slot

variable {field : Slot α} {fields : List (Slot α)} {build : Fields → Except Category α}

def Builds (fields : List (Slot α)) (build : Fields → Except Category α) : Prop :=
  ∀ f a, build f = .ok a ↔ ∀ field ∈ fields, field.readFrom f = .ok (field.get a)

theorem lookup_probe_iff {check : Origin → Document → Except Category Unit}
    (names : (fields.map (·.name)).Nodup) :
    (fields.map Slot.probe).lookup name = some check ↔
      ∃ field ∈ fields, field.name = name ∧ (Decoder.probe field.name field.decoder).2 = check := by
  have distinct : (fields.map Slot.probe).Pairwise fun p q => p.1 ≠ q.1 :=
    List.pairwise_map.2 (List.pairwise_map.1 names)
  rw [Dict.lookup_eq_some_iff_mem distinct, List.mem_map]
  simp [Slot.probe, Decoder.probe, Prod.ext_iff]

theorem probe_eq_ok_iff (name : String) {doc : Document} :
    (Decoder.probe name d).2 o doc = .ok () ↔ ∃ a, d o doc = .ok a := by
  cases read : d o doc <;> simp [Decoder.probe, read, Except.map]

theorem object_iff (names : (fields.map (·.name)).Nodup) (builds : Builds fields build) :
    record (fields.map Slot.probe) build o (.ofJson (.object ms)) = .ok a ↔
      ∀ field ∈ fields, (ms.map (·.1)).count field.name ≤ 1 ∧
        field.read o .object ((ms.lookup field.name).map .ofJson) = .ok (field.get a) := by
  rw [Document.ofJson, record]
  constructor
  · intro h field listed
    obtain ⟨found, scanned, h⟩ := bind_eq_ok.1 h
    obtain ⟨-, -, built⟩ := bind_eq_ok.1 h
    obtain ⟨rfl, each⟩ := scanMembers_eq_ok_iff.1 scanned
    obtain ⟨few, -⟩ := each _ _ ((lookup_probe_iff names).2 ⟨field, listed, rfl, rfl⟩)
    have read := (builds _ a).1 built field listed
    rw [Slot.readFrom, List.nil_append, lookup_given] at read
    exact ⟨few, read⟩
  · intro h
    have scanned : scanMembers (fields.map Slot.probe) o (Document.ofMembers ms) [] =
        .ok (given ms) := by
      refine scanMembers_eq_ok_iff.2 ⟨rfl, fun name check asked => ?_⟩
      obtain ⟨field, listed, rfl, rfl⟩ := (lookup_probe_iff names).1 asked
      obtain ⟨few, read⟩ := h field listed
      refine ⟨few, fun v found => ⟨List.not_mem_nil, (probe_eq_ok_iff _).2 ⟨field.get a, ?_⟩⟩⟩
      rwa [found] at read
    rw [scanned]
    refine (builds _ a).2 fun field listed => ?_
    rw [Slot.readFrom, lookup_given]
    exact (h field listed).2

theorem lookup_perm {ms' : List (String × Json)} (perm : ms.Perm ms')
    (once : (ms.map (·.1)).count name ≤ 1) : ms.lookup name = ms'.lookup name := by
  induction perm with
  | nil => rfl
  | cons m _ ih =>
    rw [List.lookup_cons, List.lookup_cons]
    cases name == m.1 with
    | true => rfl
    | false => exact ih (Nat.le_trans (List.count_le_count_cons ..) once)
  | swap m m' ms =>
    obtain ⟨n, v⟩ := m
    obtain ⟨n', v'⟩ := m'
    simp only [List.lookup_cons]
    cases here : name == n <;> cases there : name == n' <;> try rfl
    rw [beq_iff_eq] at here there
    simp [← here, ← there] at once
  | trans perm _ ih ih' => exact (ih once).trans (ih' ((perm.map _).count_eq name ▸ once))

theorem object_perm {ms' : List (String × Json)} (names : (fields.map (·.name)).Nodup)
    (builds : Builds fields build) (perm : ms.Perm ms') :
    record (fields.map Slot.probe) build o (.ofJson (.object ms)) = .ok a ↔
      record (fields.map Slot.probe) build o (.ofJson (.object ms')) = .ok a := by
  rw [object_iff names builds, object_iff names builds]
  refine forall₂_congr fun field _ => ?_
  rw [(perm.map _).count_eq]
  refine and_congr_right fun once => ?_
  rw [lookup_perm perm ((perm.map _).count_eq field.name ▸ once)]

theorem object_null {before after : List (String × Json)} (names : (fields.map (·.name)).Nodup)
    (builds : Builds fields build) (known : field ∈ fields)
    (same : field.read o .object (some .null) = field.read o .object none)
    (new : field.name ∉ before.map (·.1)) (new' : field.name ∉ after.map (·.1)) :
    record (fields.map Slot.probe) build o
        (.ofJson (.object (before ++ (field.name, .null) :: after))) = .ok a ↔
      record (fields.map Slot.probe) build o (.ofJson (.object (before ++ after))) = .ok a := by
  rw [object_iff names builds, object_iff names builds]
  refine forall₂_congr fun other asked => ?_
  by_cases named : other.name = field.name
  · obtain rfl := List.inj_on_of_nodup_map names asked known named
    have given : (before ++ (other.name, Json.null) :: after).lookup other.name = some .null := by
      rw [List.lookup_append, lookup_eq_none_iff_not_mem.2 new, Option.none_or,
        List.lookup_cons_self]
    have omitted : (before ++ after).lookup other.name = none := by
      rw [List.lookup_append, lookup_eq_none_iff_not_mem.2 new, lookup_eq_none_iff_not_mem.2 new',
        Option.none_or]
    rw [given, omitted, Option.map_some, Option.map_none, Document.ofJson, same]
    simp [List.count_eq_zero.2 new, List.count_eq_zero.2 new']
  · simp only [List.map_append, List.map_cons, List.count_append, List.lookup_append,
      List.lookup_cons, List.count_cons_of_ne (Ne.symm named), beq_false_of_ne named]

theorem scanItems_eq_ok_iff {found : List (String × Document)} {rest : List Document} :
    scanItems o (fields.map Slot.probe) (Document.ofItems items) = .ok (found, rest) ↔
      found = (fields.zip items).map (fun p => (p.1.name, .ofJson p.2)) ∧
        rest = Document.ofItems (items.drop fields.length) ∧
          ∀ p ∈ fields.zip items, ∃ value, p.1.decoder o (.ofJson p.2) = .ok value := by
  induction fields generalizing items found rest with
  | nil => simp [scanItems, eq_comm]
  | cons field fields ih =>
    cases items with
    | nil => simp [scanItems, Document.ofItems, Slot.probe, Decoder.probe, eq_comm]
    | cons item items =>
      rw [List.map_cons, Document.ofItems]
      constructor
      · intro h
        obtain ⟨_, accepted, h⟩ := bind_eq_ok.1 h
        obtain ⟨⟨found', rest'⟩, scanned, h⟩ := bind_eq_ok.1 h
        cases h
        obtain ⟨rfl, rfl, later⟩ := ih.1 scanned
        exact ⟨rfl, rfl, List.forall_mem_cons.2 ⟨(probe_eq_ok_iff field.name).1 accepted, later⟩⟩
      · rintro ⟨rfl, rfl, each⟩
        obtain ⟨first, later⟩ := List.forall_mem_cons.1 each
        refine bind_eq_ok.2 ⟨(), (probe_eq_ok_iff field.name).2 first, ?_⟩
        exact bind_eq_ok.2 ⟨_, ih.2 ⟨rfl, rfl, later⟩, rfl⟩

theorem lookup_zip {i : Nat} (names : (fields.map (·.name)).Nodup)
    (place : fields[i]? = some field) :
    ((fields.zip items).map fun p => (p.1.name, Document.ofJson p.2)).lookup field.name =
      items[i]?.map .ofJson := by
  induction fields generalizing items i with
  | nil => cases place
  | cons first fields ih =>
    cases items with
    | nil => simp
    | cons item items =>
      cases i with
      | zero =>
        cases place
        simp
      | succ i =>
        rw [List.map_cons, List.nodup_cons] at names
        have other : field.name ≠ first.name := fun same =>
          names.1 (same ▸ List.mem_map_of_mem (List.mem_of_getElem? place))
        rw [List.zip_cons_cons, List.map_cons, List.lookup_cons, beq_false_of_ne other]
        exact ih names.2 place

theorem array_iff (names : (fields.map (·.name)).Nodup) (builds : Builds fields build) :
    record (fields.map Slot.probe) build o (.ofJson (.array items)) = .ok a ↔
      items.length ≤ fields.length ∧ ∀ (i : Nat) (field : Slot α), fields[i]? = some field →
        field.read o .array (items[i]?.map .ofJson) = .ok (field.get a) := by
  rw [Document.ofJson, record]
  constructor
  · intro h
    obtain ⟨⟨found, rest⟩, scanned, h⟩ := bind_eq_ok.1 h
    obtain ⟨rfl, rfl, -⟩ := scanItems_eq_ok_iff.1 scanned
    dsimp only at h
    split at h
    · rename_i none
      rw [ofItems_eq_map, List.isEmpty_iff, List.map_eq_nil_iff, List.drop_eq_nil_iff] at none
      obtain ⟨-, -, built⟩ := bind_eq_ok.1 h
      refine ⟨none, fun i field place => ?_⟩
      have read := (builds _ a).1 built field (List.mem_of_getElem? place)
      rwa [Slot.readFrom, lookup_zip names place] at read
    · obtain ⟨_, -, surplus⟩ := bind_eq_ok.1 h
      cases surplus
  · rintro ⟨few, each⟩
    have scanned : scanItems o (fields.map Slot.probe) (Document.ofItems items) =
        .ok ((fields.zip items).map fun p => (p.1.name, .ofJson p.2), []) := by
      refine scanItems_eq_ok_iff.2 ⟨rfl, ?_, fun p listed => ?_⟩
      · rw [List.drop_eq_nil_iff.2 few]
        rfl
      obtain ⟨i, place⟩ := List.mem_iff_getElem?.1 listed
      obtain ⟨place, item⟩ := List.getElem?_zip_eq_some.1 place
      have read := each i p.1 place
      rw [item] at read
      exact ⟨_, read⟩
    rw [scanned]
    refine (builds _ a).2 fun field listed => ?_
    obtain ⟨i, place⟩ := List.mem_iff_getElem?.1 listed
    rw [Slot.readFrom, lookup_zip names place]
    exact each i field place

def ReadsAgain (d : Decoder α) (encode : α → Json) : Prop :=
  ∀ o doc a, d o doc = .ok a → d.Reads (encode a) a

theorem readsAgain_string : string.ReadsAgain .string := fun _ _ s _ => reads_string s

theorem readsAgain_value : value.ReadsAgain id :=
  fun _ _ _ kept => reads_value (Document.distinct_of_keep kept)

theorem ofJson_eq_null_iff {v : Json} : Document.ofJson v = .null ↔ v = .null := by
  cases v <;> simp [Document.ofJson]

theorem nullable_of_ne_null {doc : Document} (filled : doc ≠ .null) :
    nullable d o doc = (d o doc).map some := by
  unfold nullable
  split
  · exact absurd rfl filled
  · rfl

theorem readsAgain_nullable (again : d.ReadsAgain encode)
    (filled : ∀ o doc a, doc ≠ .null → d o doc = .ok a → encode a ≠ .null) :
    (nullable d).ReadsAgain (.optional encode) := by
  intro o doc a? h o'
  by_cases empty : doc = .null
  · subst empty
    cases h
    rfl
  · rw [nullable_of_ne_null empty] at h
    cases read : d o doc with
    | error fault => rw [read] at h; cases h
    | ok a =>
      rw [read] at h
      cases h
      rw [Json.optional, nullable_of_ne_null (mt ofJson_eq_null_iff.1 (filled o doc a empty read)),
        again o doc a read o']
      rfl

theorem readsAgain_optional_string : (nullable string).ReadsAgain (.optional .string) :=
  readsAgain_nullable readsAgain_string fun _ _ _ _ _ => nofun

theorem readsAgain_optional_value : (nullable value).ReadsAgain (.optional id) := by
  refine readsAgain_nullable readsAgain_value fun _ doc v filled kept null => filled ?_
  subst null
  cases doc with
  | null => rfl
  | list items close =>
    obtain ⟨items, -, kept⟩ := bind_eq_ok.1 kept
    cases close <;> cases kept
  | object members close =>
    obtain ⟨members, -, kept⟩ := bind_eq_ok.1 kept
    cases close <;> cases kept
  | _ => cases kept

theorem exists_of_list {doc : Document} {as : List α} (h : list d o doc = .ok as) :
    ∀ a ∈ as, ∃ item, d o item = .ok a := by
  intro a listed
  cases doc with
  | list items close =>
    obtain ⟨read, each, h⟩ := bind_eq_ok.1 h
    obtain ⟨-, -, h⟩ := bind_eq_ok.1 h
    cases h
    obtain ⟨item, -, read⟩ := (mem_iff_of_mapM each).1 listed
    exact ⟨item, read⟩
  | _ => cases h

theorem readsAgain_list (again : d.ReadsAgain encode) :
    (list d).ReadsAgain fun as => .array (as.map encode) := by
  intro o doc as h
  refine reads_list (List.forall₂_map_left_iff.2 (List.forall₂_same.2 fun a listed => ?_))
  obtain ⟨item, read⟩ := exists_of_list h a listed
  exact again o item a read

def Slot.ReadsAgain (field : Slot α) : Prop :=
  ∀ o form given value, field.read o form given = .ok value →
    field.decoder.Reads (field.encode value) value

namespace Slot

variable {get : α → β} {e : Decoder β} {write : β → Json} {default : β}

theorem readsAgain_required (again : e.ReadsAgain write) :
    (required name e write get).ReadsAgain := by
  intro o form given value h
  cases given with
  | some doc => exact again o doc value h
  | none => cases h

theorem readsAgain_orElse (again : e.ReadsAgain write) (reads : e.Reads (write default) default) :
    (orElse name e write get default).ReadsAgain := by
  intro o form given value h
  cases given with
  | some doc => exact again o doc value h
  | none =>
    cases h
    exact reads

theorem readsAgain_optional {get : α → Option β}
    (again : (nullable e).ReadsAgain (.optional write)) :
    (optional name e write get).ReadsAgain :=
  readsAgain_orElse again fun _ => rfl

theorem readsAgain_named (again : e.ReadsAgain write) (reads : e.Reads (write default) default) :
    (named name e write get default).ReadsAgain := by
  intro o form given value h
  cases given with
  | some doc => exact again o doc value h
  | none =>
    cases form with
    | object =>
      cases h
      exact reads
    | array => cases h

end Slot

def writeFields (fields : List (Slot α)) (a : α) : Json :=
  .object (fields.map fun field => (field.name, field.encode (field.get a)))

theorem readsAgain_record (names : (fields.map (·.name)).Nodup) (builds : Builds fields build)
    (again : ∀ field ∈ fields, field.ReadsAgain) :
    (record (fields.map Slot.probe) build).ReadsAgain (writeFields fields) := by
  intro o doc a h o'
  obtain ⟨f, built⟩ := exists_fields h
  refine (object_iff names builds).2 fun field listed => ⟨?_, ?_⟩
  · rw [List.map_map]
    exact List.nodup_iff_count_le_one.1 names field.name
  · have written : (field.name, field.encode (field.get a)) ∈
        fields.map fun field => (field.name, field.encode (field.get a)) :=
      List.mem_map.2 ⟨field, listed, rfl⟩
    rw [lookup_of_mem (by rwa [List.map_map]) written]
    exact again field listed _ _ _ _ ((builds f a).1 built field listed) o'

def Tuple : List (Slot α) → Type
  | [] => Unit
  | field :: fields => field.Value × Tuple fields

def tuple : (fields : List (Slot α)) → α → Tuple fields
  | [], _ => ()
  | field :: fields, a => (field.get a, tuple fields a)

def readInto (f : Fields) : (fields : List (Slot α)) → (Tuple fields → β) → Except Category β
  | [], make => .ok (make ())
  | field :: fields, make => do
    let value ← field.readFrom f
    readInto f fields fun values => make (value, values)

variable {b : α} {f : Fields}

theorem tuple_congr (same : ∀ field ∈ fields, field.get a = field.get b) :
    tuple fields a = tuple fields b := by
  induction fields with
  | nil => rfl
  | cons field fields ih =>
    obtain ⟨first, rest⟩ := List.forall_mem_cons.1 same
    exact Prod.ext first (ih rest)

theorem readInto_tuple (make : Tuple fields → β)
    (read : ∀ field ∈ fields, field.readFrom f = .ok (field.get a)) :
    readInto f fields make = .ok (make (tuple fields a)) := by
  induction fields with
  | nil => rfl
  | cons field fields ih =>
    obtain ⟨first, rest⟩ := List.forall_mem_cons.1 read
    rw [readInto, first]
    exact ih (fun values => make (field.get a, values)) rest

theorem exists_of_readInto {made : β} {make : Tuple fields → β}
    (h : readInto f fields make = .ok made) :
    ∃ values, make values = made ∧ ∀ a, tuple fields a = values →
      ∀ field ∈ fields, field.readFrom f = .ok (field.get a) := by
  induction fields with
  | nil => exact ⟨(), Except.ok.inj h, fun _ _ => List.forall_mem_nil _⟩
  | cons field fields ih =>
    obtain ⟨value, first, h⟩ := bind_eq_ok.1 h
    obtain ⟨values, made, rest⟩ := ih h
    refine ⟨(value, values), made, fun a same => List.forall_mem_cons.2 ⟨?_, ?_⟩⟩
    · rw [first]
      exact congrArg Except.ok (congrArg Prod.fst same).symm
    · exact rest a (congrArg Prod.snd same)

structure IsTable (fields : List (Slot α)) (make : Tuple fields → α) : Prop where
  names : (fields.map (·.name)).Nodup := by decide
  make_tuple : ∀ a, make (tuple fields a) = a := by intro _; rfl
  tuple_make : ∀ values, tuple fields (make values) = values := by intro _; rfl

variable {make : Tuple fields → α}

theorem IsTable.whole (h : IsTable fields make)
    (same : ∀ field ∈ fields, field.get a = field.get b) : a = b := by
  rw [← h.make_tuple a, tuple_congr same, h.make_tuple]

theorem IsTable.builds (h : IsTable fields make) :
    Builds fields fun f => readInto f fields make := by
  intro f a
  constructor
  · intro built
    obtain ⟨values, rfl, read⟩ := exists_of_readInto built
    exact read _ (h.tuple_make values)
  · intro read
    exact (readInto_tuple make read).trans (congrArg Except.ok (h.make_tuple a))

/-- How a record is written and read, by the table of its fields and the names of those for which
`null` is no value. -/
structure IsCodec (fields : List (Slot α)) (optional : List String) (d : Decoder α)
    (encode : α → Json) : Prop where
  names : (fields.map (·.name)).Nodup
  whole : ∀ a b, (∀ field ∈ fields, field.get a = field.get b) → a = b
  written : ∀ a, encode a = writeFields fields a
  again : d.ReadsAgain encode
  shape : ∀ o v a, d o (.ofJson v) = .ok a → (∃ ms, v = .object ms) ∨ ∃ items, v = .array items
  object : ∀ o ms a, d o (.ofJson (.object ms)) = .ok a ↔
    ∀ field ∈ fields, (ms.map (·.1)).count field.name ≤ 1 ∧
      field.read o .object ((ms.lookup field.name).map .ofJson) = .ok (field.get a)
  order : ∀ o ms ms' a, ms.Perm ms' →
    (d o (.ofJson (.object ms)) = .ok a ↔ d o (.ofJson (.object ms')) = .ok a)
  array : ∀ o (items : List Json) a, d o (.ofJson (.array items)) = .ok a ↔
    items.length ≤ fields.length ∧ ∀ (i : Nat) (field : Slot α), fields[i]? = some field →
      field.read o .array (items[i]?.map .ofJson) = .ok (field.get a)
  /-- A `null` is as good as no member. -/
  null : ∀ name ∈ optional, ∀ o before after a, name ∉ before.map (·.1) → name ∉ after.map (·.1) →
    (d o (.ofJson (.object (before ++ (name, .null) :: after))) = .ok a ↔
      d o (.ofJson (.object (before ++ after))) = .ok a)

theorem isCodec_record {optional : List String} (table : IsTable fields make)
    (decoder_eq : d = record (fields.map Slot.probe) fun f => readInto f fields make)
    (written : encode = writeFields fields) (again : ∀ field ∈ fields, field.ReadsAgain)
    (nulls : ∀ name ∈ optional, ∃ field ∈ fields, field.name = name ∧
      ∀ o, field.read o .object (some .null) = field.read o .object none) :
    IsCodec fields optional d encode := by
  subst decoder_eq written
  exact {
    names := table.names
    whole := fun _ _ => table.whole
    written := fun _ => rfl
    again := readsAgain_record table.names table.builds again
    shape := fun o v a h => by
      cases v with
      | object ms => exact .inl ⟨ms, rfl⟩
      | array items => exact .inr ⟨items, rfl⟩
      | _ => cases h
    object := fun _ _ _ => object_iff table.names table.builds
    order := fun _ _ _ _ perm => object_perm table.names table.builds perm
    array := fun _ _ _ => array_iff table.names table.builds
    null := fun name listed o before after a new new' => by
      obtain ⟨field, known, rfl, same⟩ := nulls name listed
      exact object_null table.names table.builds known (same o) new new' }

end SourceMatch.Json.Decoder
