import SourceMatch.Proofs.Registry
import SourceMatch.Proofs.Registry.Records

/-!
One call after the other on a registry. Each call reads all records from the file, puts its own
among them and writes them again; nothing is lost on the way, so that after any number of calls the
file holds the records from before and the last one that was registered of each contract.
-/
namespace SourceMatch

namespace Disk

variable {d d' : Disk} {path content : String}

def Writable (d : Disk) (path : String) : Prop := ∀ content, ∃ d', d.write path content = .ok d'

theorem writable_of_write (h : d.write path content = .ok d') : d'.Writable path := by
  obtain ⟨loc, -, -, found⟩ := write_eq_ok h
  intro content'
  have file : path.toList.getLast? ≠ some '/' := by
    intro slash
    rw [write, if_pos slash] at h
    cases bare : d.find (String.ofList (path.toList.reverse.dropWhile (· = '/')).reverse) true with
    | error fault => rw [bare] at h; cases h
    | ok place => rw [bare] at h; cases h
  refine ⟨d'.put loc (.text content'), ?_⟩
  rw [write, if_neg file, found]
  rfl

end Disk

namespace Records

theorem get?_foldl_add (records : Records) (calls : List Registration) (id : String) :
    (calls.foldl add records).get? id =
      (calls.reverse.find? (·.contractId = id)).or (records.get? id) := by
  induction calls generalizing records with
  | nil => rfl
  | cons call calls ih =>
    rw [List.foldl_cons, ih, add, Dict.get?_insert, List.reverse_cons, List.find?_append,
      Option.or_assoc, List.find?_singleton]
    by_cases same : call.contractId = id
    · simp [same]
    · simp [same, Ne.symm same]

end Records

namespace Registry

variable {r : Registry} {d d' : Disk} {records : Records} {record : Registration}

theorem isValid_of_load (h : r.load d = .ok records) : records.All Registration.IsValid := by
  rw [load] at h
  split at h
  · cases h
    exact Records.all_empty _
  · cases read : d.read r.path with
    | error fault => rw [read] at h; cases h
    | ok text =>
      rw [read] at h
      dsimp only at h
      cases decoded : Records.decoder.ofText text with
      | error fault => rw [decoded] at h; cases h
      | ok records' =>
        rw [decoded] at h
        cases h
        exact Records.isValid_of_ofText decoded

theorem register_spec (loaded : r.load d = .ok records) (writable : d.Writable r.path)
    (valid : record.IsValid) (plain : record.IsPlain)
    (plains : records.All Registration.IsPlain) :
    ∃ d', r.register d record = .ok d' ∧ r.load d' = .ok (records.add record) ∧
      d'.Writable r.path := by
  obtain ⟨d', written⟩ := writable (records.add record).toJson.pretty
  obtain ⟨loc, -, -, found⟩ := Disk.write_eq_ok written
  have read := Records.ofText_pretty (Records.all_add (isValid_of_load loaded) valid)
    (Records.all_add plains plain)
  refine ⟨d', ?_, ?_, Disk.writable_of_write written⟩
  · rw [register, loaded]
    change r.save d (records.add record) = .ok d'
    rw [save, written]
  · rw [load_of_find found, read]

theorem foldlM_register {calls : List Registration} (loaded : r.load d = .ok records)
    (writable : d.Writable r.path) (plains : records.All Registration.IsPlain)
    (each : ∀ call ∈ calls, call.IsValid ∧ call.IsPlain) :
    ∃ d', calls.foldlM r.register d = .ok d' ∧
      r.load d' = .ok (calls.foldl Records.add records) := by
  induction calls generalizing d records with
  | nil => exact ⟨d, rfl, loaded⟩
  | cons call calls ih =>
    obtain ⟨valid, plain⟩ := each call List.mem_cons_self
    obtain ⟨d', registered, loaded', writable'⟩ :=
      register_spec loaded writable valid plain plains
    obtain ⟨d'', rest, after⟩ := ih loaded' writable' (Records.all_add plains plain)
      fun call listed => each call (List.mem_cons_of_mem _ listed)
    refine ⟨d'', ?_, after⟩
    rw [List.foldlM_cons, registered]
    exact rest

def afterCall (r : Registry) (d : Disk) (record : Registration) : Disk :=
  match r.register d record with
  | .ok d' => d'
  | .error _ => d

theorem register_of_unreadable {text : String} {fault : Json.Category}
    (read : d.read r.path = .ok text) (broken : Records.decoder.ofText text = .error fault)
    (record : Registration) : r.register d record = .error (.unreadable fault) := by
  have present : d.present r.path = true := by
    rw [Disk.present]
    cases stood : d.stat r.path with
    | error fault => rw [Disk.read, stood] at read; cases read
    | ok place => rfl
  have load : r.load d = .error (.unreadable fault) := by
    rw [load, present, read]
    simp [broken]
  rw [register, load]
  rfl

theorem foldl_afterCall {text : String} {fault : Json.Category}
    (read : d.read r.path = .ok text) (broken : Records.decoder.ofText text = .error fault)
    (calls : List Registration) : calls.foldl r.afterCall d = d := by
  induction calls with
  | nil => rfl
  | cons call calls ih =>
    rw [List.foldl_cons, afterCall, register_of_unreadable read broken call]
    exact ih

/-- After calls on a registry whose file is missing or holds records, the file holds for each
contract the last record that was registered of it, and else the one from before. Calls on a file
whose text holds no records are refused, and the text stays. -/
theorem load_after_calls (r : Registry) :
    (∀ (d : Disk) (records : Records) (calls : List Registration),
      r.load d = .ok records → d.Writable r.path → records.All Registration.IsPlain →
      (∀ call ∈ calls, call.IsValid ∧ call.IsPlain) →
      ∃ d' loaded, calls.foldlM r.register d = .ok d' ∧ r.load d' = .ok loaded ∧
        ∀ id, loaded.get? id =
          (calls.reverse.find? (·.contractId = id)).or (records.get? id)) ∧
    ∀ (d : Disk) (text : String) (fault : Json.Category) (calls : List Registration),
      d.read r.path = .ok text → Records.decoder.ofText text = .error fault →
      (∀ record, ∃ error, r.register d record = .error error ∧ error.code = "E031") ∧
        (calls.foldl r.afterCall d).read r.path = .ok text := by
  constructor
  · intro d records calls loaded writable plains each
    obtain ⟨d', registered, after⟩ := foldlM_register loaded writable plains each
    exact ⟨d', _, registered, after, records.get?_foldl_add calls⟩
  · intro d text fault calls read broken
    refine ⟨fun record => ⟨_, register_of_unreadable read broken record, rfl⟩, ?_⟩
    rw [foldl_afterCall read broken calls, read]

theorem load_after_calls_sample :
    let r : Registry := ⟨"verified.json"⟩
    let first : Registration :=
      { contractId := "0.0.7", contractName := "A", compilerVersion := "0.8.24",
        sourceFileName := "A.sol", matchKind := .partialMatch,
        abi := .array [.object [("type", .string "fallback"), ("inputs", .array [])]],
        timestamp := ⟨738000, 86399, 1500000000⟩ }
    let second : Registration := { first with matchKind := .full }
    let other : Registration := { first with contractId := "0.0.8" }
    (∃ d' loaded, [first, other, second].foldlM r.register {} = .ok d' ∧
      r.load d' = .ok loaded ∧ loaded.get? "0.0.7" = some second) ∧
    ∃ error,
      r.register { entries := [(["verified.json".toList], .text "[")] } first = .error error ∧
        error.code = "E031" := by
  intro r first second other
  have named : Disk.names r.path = [r.path.toList] := by decide
  have start (d : Disk) (top : d.here = []) : d.start r.path = [] := by
    rw [Disk.start, top, ite_self]
  have name : Disk.IsPlain r.path.toList := ⟨by decide, by decide, by decide⟩
  constructor
  · have leads : Disk.Leads {} true Disk.linkLimit [] [r.path.toList] (.free [r.path.toList]) :=
      @Disk.Leads.free _ _ _ [] _ name rfl
    have free : Disk.find {} r.path true = .ok (.free [r.path.toList]) :=
      Disk.find_eq_ok_iff.2 ⟨by decide, by decide, by rwa [named, start _ rfl]⟩
    have empty : r.load {} = .ok {} := load_of_free free
    have writable : Disk.Writable {} r.path := by
      intro content
      rw [Disk.write, if_neg (by decide), free]
      exact ⟨_, rfl⟩
    have valid : first.IsValid :=
      ⟨by simp [first, Json.Distinct, Json.DistinctItems, Json.DistinctMembers],
        by decide, by decide⟩
    have plain : first.IsPlain :=
      ⟨by simp [first, Json.Plain, Json.PlainItems, Json.PlainMembers], by decide, by decide⟩
    have each : ∀ call ∈ [first, other, second], call.IsValid ∧ call.IsPlain := by
      intro call listed
      simp only [List.mem_cons, List.not_mem_nil, or_false] at listed
      rcases listed with rfl | rfl | rfl
      -- the property is about the ABI and the time, which all of them share
      all_goals exact ⟨⟨valid.abi, valid.timestamp⟩, plain.abi, plain.year_nonneg, plain.year_le⟩
    obtain ⟨d', loaded, registered, after, found⟩ :=
      (load_after_calls r).1 {} {} [first, other, second] empty writable
        (Records.all_empty _) each
    exact ⟨d', loaded, registered, after, found "0.0.7"⟩
  · let d : Disk := { entries := [([r.path.toList], .text "[")] }
    have leads : Disk.Leads d true Disk.linkLimit [] [r.path.toList]
        (.entry [r.path.toList] (.text "[")) :=
      @Disk.Leads.file _ _ _ [] _ _ name (by decide) rfl
    have file : d.find r.path true = .ok (.entry [r.path.toList] (.text "[")) :=
      Disk.find_eq_ok_iff.2 ⟨by decide, by decide, by rwa [named, start _ rfl]⟩
    have broken : Records.decoder.ofText "[" = .error .endOfText := by cbv
    exact ((load_after_calls r).2 d "[" _ [] (Disk.read_of_find file) broken).1 first

end Registry

end SourceMatch
