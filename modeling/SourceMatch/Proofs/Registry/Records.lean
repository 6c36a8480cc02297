import SourceMatch.Proofs.Json.Printed
import SourceMatch.Proofs.Timestamp
import SourceMatch.Registry

/-!
Records of verified contracts as texts. A record is read off what it was written as, whatever its
texts and its ABI hold, and so is a whole map of records under their keys.
-/
namespace SourceMatch

open Json (Decoder)
open Json.Decoder (Gives accepts_cons accepts_nil gives_of_lookup reads_record reads_string
  reads_value required_given)

namespace Dict

variable {α β : Type} {key : String} {value : α} {front : List (String × α)}

theorem insertEntry_last (h : ∀ e ∈ front, e.1 < key) :
    insertEntry key value front = front ++ [(key, value)] := by
  induction front with
  | nil => rfl
  | cons e front ih =>
    obtain ⟨k, v⟩ := e
    have before : k < key := h (k, v) List.mem_cons_self
    rw [insertEntry, if_neg (String.lt_asymm before), if_neg (String.ne_of_lt before).symm,
      ih fun e listed => h e (List.mem_cons_of_mem _ listed)]
    rfl

theorem entries_insertAll {entries : List (String × α)} (d : Dict α)
    (sorted : (d.entries ++ entries).Pairwise fun a b => a.1 < b.1) :
    (d.insertAll entries).entries = d.entries ++ entries := by
  induction entries generalizing d with
  | nil => exact (List.append_nil _).symm
  | cons e entries ih =>
    have last : (d.insert e.1 e.2).entries = d.entries ++ [e] :=
      insertEntry_last fun e' listed =>
        (List.pairwise_append.1 sorted).2.2 e' listed e List.mem_cons_self
    rw [List.append_cons, ← last] at sorted ⊢
    exact ih _ sorted

theorem ofList_entries (d : Dict α) : ofList d.entries = d := by
  have same : (ofList d.entries).entries = d.entries :=
    entries_insertAll (∅ : Dict α) d.sorted
  cases d
  cases h : ofList _
  rw [h] at same
  cases same
  rfl

theorem nodup_keys (d : Dict α) : (d.entries.map (·.1)).Nodup :=
  List.pairwise_map.2 d.distinct_keys

end Dict

theorem Json.Decoder.reads_dict {α : Type} {d : Decoder α} {encode : α → Json} {m : Dict α}
    (h : ∀ e ∈ m.entries, d.Reads (encode e.2) e.2) : (dict d).Reads (m.toJson encode) m := by
  have read : (members d).Reads (m.toJson encode) m.entries := by
    refine reads_members (List.forall₂_map_left_iff.2 (List.forall₂_same.2 fun e listed => ?_))
    exact ⟨rfl, h e listed⟩
  intro o
  rw [dict, map, read o]
  exact congrArg Except.ok m.ofList_entries

theorem Json.Decoder.exists_of_dict {α : Type} {d : Decoder α} {o : Json.Origin}
    {doc : Json.Document} {m : Dict α} {key : String} {a : α} (h : dict d o doc = .ok m)
    (found : m.get? key = some a) : ∃ member, d o member = .ok a := by
  cases read : members d o doc with
  | error fault => rw [dict, map, read] at h; cases h
  | ok entries =>
    rw [dict, map, read] at h
    cases h
    rw [Dict.get?_ofList, List.lookup_eq_some_iff] at found
    obtain ⟨before, after, same, -⟩ := found
    have listed : (key, a) ∈ entries := List.mem_reverse.1 (same ▸ by simp)
    obtain ⟨ms, close, -, each⟩ := members_eq_ok read
    obtain ⟨member, -, -, decoded⟩ := Json.exists_of_mem_forall₂ each listed
    exact ⟨member.2, decoded⟩

namespace Registration

variable {r : Registration}

structure IsValid (r : Registration) : Prop where
  abi : r.abi.Distinct
  timestamp : r.timestamp.IsPoint

/-- An ABI without fractions whose brackets are at most a hundred deep, and a year of four
digits. -/
structure IsPlain (r : Registration) : Prop where
  abi : r.abi.Plain 100
  year_nonneg : 0 ≤ r.timestamp.year
  year_le : r.timestamp.year ≤ 9999

theorem reads_kind (k : MatchKind) : kindDecoder.Reads (.string k.name) k := by
  intro o
  rw [kindDecoder, Json.Document.ofJson, Decoder.variant]
  dsimp only
  rw [MatchKind.ofName?_name]

theorem distinct_toJson (valid : r.IsValid) : r.toJson.Distinct := by
  rw [toJson, Json.distinct_object]
  refine ⟨?_, fun m listed => ?_⟩
  · have names : ["contract_id", "contract_name", "compiler_version", "source_file_name",
        "match_kind", "abi", "timestamp"].Nodup := by decide
    exact names
  simp only [List.mem_cons, List.not_mem_nil, or_false] at listed
  rcases listed with rfl | rfl | rfl | rfl | rfl | rfl | rfl
  case inr.inr.inr.inr.inr.inl => exact valid.abi
  all_goals trivial

theorem plain_toJson (plain : r.IsPlain) : r.toJson.Plain 101 := by
  rw [toJson, Json.plain_object]
  intro m listed
  simp only [List.mem_cons, List.not_mem_nil, or_false] at listed
  rcases listed with rfl | rfl | rfl | rfl | rfl | rfl | rfl
  case inr.inr.inr.inr.inr.inl => exact plain.abi
  all_goals trivial

theorem reads_toJson (valid : r.IsValid) (plain : r.IsPlain) : decoder.Reads r.toJson r := by
  have field (name : String) {α : Type} {d : Decoder α} {a : α} {v : Json}
      (found : List.lookup name [("contract_id", .string r.contractId),
        ("contract_name", .string r.contractName), ("compiler_version", .string r.compilerVersion),
        ("source_file_name", .string r.sourceFileName), ("match_kind", .string r.matchKind.name),
        ("abi", r.abi), ("timestamp", .string r.timestamp.toText)] = some v)
      (reads : d.Reads v a) : Gives _ name (d.Reads · a) False := gives_of_lookup found reads
  have contractId := field "contract_id" rfl (reads_string r.contractId)
  have contractName := field "contract_name" rfl (reads_string r.contractName)
  have compilerVersion := field "compiler_version" rfl (reads_string r.compilerVersion)
  have sourceFileName := field "source_file_name" rfl (reads_string r.sourceFileName)
  have matchKind := field "match_kind" rfl (reads_kind r.matchKind)
  have abi := field "abi" rfl (reads_value valid.abi)
  have timestamp := field "timestamp" rfl
    (Timestamp.reads_toText valid.timestamp plain.year_nonneg plain.year_le)
  unfold decoder
  refine reads_record (distinct_toJson valid) (fun o => ?_) fun o => ?_
  · exact accepts_cons contractId (accepts_cons contractName (accepts_cons compilerVersion
      (accepts_cons sourceFileName (accepts_cons matchKind (accepts_cons abi
        (accepts_cons timestamp (accepts_nil o _)))))))
  · rw [required_given contractId, required_given contractName, required_given compilerVersion,
      required_given sourceFileName, required_given matchKind, required_given abi,
      required_given timestamp]
    rfl

theorem isValid_of_decoder {o : Json.Origin} {doc : Json.Document} (h : decoder o doc = .ok r) :
    r.IsValid := by
  unfold decoder at h
  obtain ⟨f, h⟩ := Decoder.exists_fields h
  obtain ⟨contractId, -, h⟩ := Json.bind_eq_ok.1 h
  obtain ⟨contractName, -, h⟩ := Json.bind_eq_ok.1 h
  obtain ⟨compilerVersion, -, h⟩ := Json.bind_eq_ok.1 h
  obtain ⟨sourceFileName, -, h⟩ := Json.bind_eq_ok.1 h
  obtain ⟨matchKind, -, h⟩ := Json.bind_eq_ok.1 h
  obtain ⟨abi, kept, h⟩ := Json.bind_eq_ok.1 h
  obtain ⟨timestamp, read, h⟩ := Json.bind_eq_ok.1 h
  cases h
  obtain ⟨doc, kept⟩ := Decoder.exists_of_required kept
  obtain ⟨doc', read⟩ := Decoder.exists_of_required read
  exact ⟨Json.Document.distinct_of_keep kept, Timestamp.isPoint_of_decoder read⟩

end Registration

namespace Records

variable {records : Records}

def All (property : Registration → Prop) (records : Records) : Prop :=
  ∀ id record, records.get? id = some record → property record

theorem all_empty (property : Registration → Prop) : All property {} := by
  intro id record found
  cases found

theorem all_add {property : Registration → Prop} {record : Registration}
    (all : records.All property) (new : property record) : (records.add record).All property := by
  intro id record' found
  rw [add, Dict.get?_insert] at found
  split at found
  · cases found
    exact new
  · exact all id record' found

theorem mem_of_all {property : Registration → Prop} (all : records.All property)
    {e : String × Registration} (listed : e ∈ records.entries) : property e.2 :=
  all e.1 e.2 (Dict.get?_eq_some_iff.2 listed)

theorem toJson_eq :
    records.toJson = .object [("records", Dict.toJson Registration.toJson records)] := by
  rw [toJson, Dict.toJson, Dict.toJson, Dict.map, List.map_map]
  rfl

theorem distinct_toJson (valid : records.All Registration.IsValid) : records.toJson.Distinct := by
  rw [toJson_eq, Json.distinct_object]
  refine ⟨List.nodup_singleton _, fun m only => ?_⟩
  rw [List.mem_singleton.1 only, Dict.toJson, Json.distinct_object]
  constructor
  · rw [List.map_map]
    exact records.nodup_keys
  · intro m listed
    obtain ⟨e, known, rfl⟩ := List.mem_map.1 listed
    exact Registration.distinct_toJson (mem_of_all valid known)

theorem plain_toJson (plain : records.All Registration.IsPlain) : records.toJson.Plain 103 := by
  rw [toJson_eq, Json.plain_object]
  intro m only
  rw [List.mem_singleton.1 only, Dict.toJson, Json.plain_object]
  intro m listed
  obtain ⟨e, known, rfl⟩ := List.mem_map.1 listed
  exact Registration.plain_toJson (mem_of_all plain known)

theorem reads_toJson (valid : records.All Registration.IsValid)
    (plain : records.All Registration.IsPlain) : decoder.Reads records.toJson records := by
  have read : (Decoder.dict Registration.decoder).Reads
      (Dict.toJson Registration.toJson records) records :=
    Decoder.reads_dict fun e listed =>
      Registration.reads_toJson (mem_of_all valid listed) (mem_of_all plain listed)
  have given : Gives [("records", Dict.toJson Registration.toJson records)] "records"
      ((Decoder.dict Registration.decoder).Reads · records) False := gives_of_lookup rfl read
  have distinct := distinct_toJson valid
  rw [toJson_eq] at distinct ⊢
  unfold decoder
  exact reads_record distinct (fun o => accepts_cons given (accepts_nil o _))
    (required_given given)

theorem ofText_pretty (valid : records.All Registration.IsValid)
    (plain : records.All Registration.IsPlain) :
    decoder.ofText records.toJson.pretty = .ok records :=
  Decoder.ofText_pretty ((plain_toJson plain).mono (by decide)) (reads_toJson valid plain)

theorem isValid_of_decoder {o : Json.Origin} {doc : Json.Document}
    (h : decoder o doc = .ok records) : records.All Registration.IsValid := by
  unfold decoder at h
  obtain ⟨f, h⟩ := Decoder.exists_fields h
  obtain ⟨inner, h⟩ := Decoder.exists_of_required h
  intro id record found
  obtain ⟨member, decoded⟩ := Decoder.exists_of_dict h found
  exact Registration.isValid_of_decoder decoded

theorem isValid_of_ofText {text : String} (h : decoder.ofText text = .ok records) :
    records.All Registration.IsValid := by
  obtain ⟨read, decoded, finished⟩ := Json.bind_eq_ok.1 h
  have same : read = records := by
    split at finished <;> cases finished
    rfl
  exact isValid_of_decoder (same ▸ decoded)

end Records

end SourceMatch
