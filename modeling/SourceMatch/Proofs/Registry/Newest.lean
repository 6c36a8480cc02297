import SourceMatch.Proofs.Registry
import SourceMatch.Proofs.Registry.Records
import Mathlib.Data.List.Permutation

/-!
The newest records of a registry. A map has no order of its own, so that its entries are sorted in
whatever order they come, and the list is cut from them. Among records of one time that order
decides which are listed; how many there are and what times they have does not depend on it.
-/
namespace SourceMatch

open Std

namespace Timestamp

theorem cmp_eq_keys :
    cmp = compareLex (compareOn day) (compareLex (compareOn second) (compareOn nanosecond)) := rfl

instance : TransCmp cmp := by
  rw [cmp_eq_keys]
  infer_instance

instance : LawfulEqCmp cmp where
  eq_of_compare {s t} h := by
    simp only [cmp, Ordering.then_eq_eq, Std.compare_eq_iff_eq] at h
    obtain ⟨day, second, nanosecond⟩ := h
    cases s
    cases t
    simp_all

end Timestamp

namespace Registration

def noOlder (a b : Registration) : Bool := (b.timestamp.cmp a.timestamp).isLE

theorem noOlder_trans (a b c : Registration) (ab : a.noOlder b = true) (bc : b.noOlder c = true) :
    a.noOlder c = true :=
  TransCmp.isLE_trans bc ab

theorem noOlder_total (a b : Registration) : (a.noOlder b || b.noOlder a) = true := by
  rw [Bool.or_eq_true]
  cases order : b.timestamp.cmp a.timestamp with
  | lt => exact .inl (by rw [noOlder, order]; rfl)
  | eq => exact .inl (by rw [noOlder, order]; rfl)
  | gt =>
    right
    have swapped : a.timestamp.cmp b.timestamp = (b.timestamp.cmp a.timestamp).swap :=
      OrientedCmp.eq_swap
    rw [noOlder, swapped, order]
    rfl

/-- Entries of a map in two parts: up to `limit` of them, from the newest to the oldest, and the
others, none of which is newer. -/
structure AreNewest (limit : Nat) (kept left : List (String × Registration)) : Prop where
  length : kept.length = min limit (kept ++ left).length
  distinct : (kept.map (·.1)).Nodup
  sorted : kept.Pairwise fun a b => a.2.noOlder b.2 = true
  rest : ∀ a ∈ kept, ∀ b ∈ left, a.2.noOlder b.2 = true

variable {records records' : List Registration} {entries : List (String × Registration)}

theorem newest_eq (records : List Registration) (limit : Nat) :
    newest records limit = (records.mergeSort noOlder).take limit := rfl

theorem pairwise_sorted (records : List Registration) :
    (records.mergeSort noOlder).Pairwise fun a b => a.noOlder b = true :=
  List.pairwise_mergeSort noOlder_trans noOlder_total records

theorem timestamps_newest (same : records.Perm records') (limit : Nat) :
    (newest records limit).map (·.timestamp) = (newest records' limit).map (·.timestamp) := by
  have sorted (records : List Registration) :
      ((records.mergeSort noOlder).map (·.timestamp)).Pairwise
        fun s t => (t.cmp s).isLE = true :=
    List.pairwise_map.2 (pairwise_sorted records)
  have perm : (records.mergeSort noOlder).Perm (records'.mergeSort noOlder) :=
    (List.mergeSort_perm records noOlder).trans
      (same.trans (List.mergeSort_perm records' noOlder).symm)
  have antisymm (s t : Timestamp) (ts : (t.cmp s).isLE = true) (st : (s.cmp t).isLE = true) :
      s = t :=
    have level : s.cmp t = .eq := OrientedCmp.isLE_antisymm st ts
    LawfulEqCmp.eq_of_compare level
  have times := (perm.map (·.timestamp)).eq_of_pairwise (fun s t _ _ => antisymm s t)
    (sorted records) (sorted records')
  rw [newest_eq, newest_eq, List.map_take, List.map_take, times]

theorem newest_entries (distinct : (entries.map (·.1)).Nodup) (limit : Nat) :
    ∃ kept left, (kept ++ left).Perm entries ∧
      newest (entries.map (·.2)) limit = kept.map (·.2) ∧ AreNewest limit kept left := by
  let sorted := entries.mergeSort fun a b => a.2.noOlder b.2
  have cut : sorted.take limit ++ sorted.drop limit = sorted := List.take_append_drop limit sorted
  have perm : sorted.Perm entries := List.mergeSort_perm entries _
  have order : sorted.Pairwise fun a b => a.2.noOlder b.2 = true :=
    List.pairwise_mergeSort (fun a b c => noOlder_trans a.2 b.2 c.2)
      (fun a b => noOlder_total a.2 b.2) entries
  have names : (sorted.map (·.1)).Nodup := (perm.map (·.1)).nodup_iff.2 distinct
  rw [← cut] at order
  obtain ⟨keptOrder, -, across⟩ := List.pairwise_append.1 order
  refine ⟨sorted.take limit, sorted.drop limit, by rwa [cut], ?_, ?_⟩
  · have listed : sorted.map (·.2) = (entries.map (·.2)).mergeSort noOlder :=
      List.map_mergeSort fun a _ b _ => rfl
    rw [newest_eq, List.map_take, listed]
  · refine ⟨?_, ?_, keptOrder, across⟩
    · rw [cut, List.length_take]
    · rw [List.map_take]
      exact names.sublist (List.take_sublist limit _)

end Registration

namespace Registry

variable {r : Registry} {d : Disk} {records : Records}

/-- The list holds as many of the newest records as there are up to its limit, the newest first,
each of an entry of its own. So it does whatever order the entries come in, and always with the same
times. -/
theorem lists_newest (loaded : r.load d = .ok records) (limit : Nat) :
    r.listNewest d limit = .ok (Registration.newest records.values limit) ∧
      ∀ order : List (String × Registration), order.Perm records.entries →
        (Registration.newest (order.map (·.2)) limit).map (·.timestamp) =
            (Registration.newest records.values limit).map (·.timestamp) ∧
          ∃ kept left, (kept ++ left).Perm records.entries ∧
            Registration.newest (order.map (·.2)) limit = kept.map (·.2) ∧
            Registration.AreNewest limit kept left := by
  refine ⟨?_, fun order perm => ⟨?_, ?_⟩⟩
  · rw [listNewest, loaded]
    rfl
  · exact Registration.timestamps_newest (perm.map (·.2)) limit
  · have distinct : (order.map (·.1)).Nodup :=
      (perm.map (·.1)).nodup_iff.2 (Dict.nodup_keys records)
    obtain ⟨kept, left, parts, listed, newest⟩ := Registration.newest_entries distinct limit
    exact ⟨kept, left, parts.trans perm, listed, newest⟩

def sampleRecords : Records :=
  let older : Registration :=
    { contractId := "0.0.7", contractName := "A", compilerVersion := "0.8.24",
      sourceFileName := "A.sol", matchKind := .full, abi := .array [],
      timestamp := ⟨738000, 86399, 1500000000⟩ }
  let newer : Registration :=
    { older with contractId := "0.0.8", timestamp := ⟨738001, 0, 0⟩ }
  ⟨[("0.0.7", older), ("0.0.8", newer), ("0.0.9", { newer with contractId := "0.0.9" })],
    by decide +kernel⟩

def sampleDisk (text : String) : Disk := { entries := [(["verified.json".toList], .text text)] }

theorem find_sampleDisk (text : String) : (sampleDisk text).find "verified.json" true =
    .ok (.entry ["verified.json".toList] (.text text)) :=
  Disk.find_of_names (show _ ∧ _ ∧ _ = ["verified.json".toList] by decide +kernel)
    (.file (by decide) rfl rfl)

theorem load_sampleDisk :
    load ⟨"verified.json"⟩ (sampleDisk sampleRecords.toJson.pretty) = .ok sampleRecords := by
  have each : ∀ e ∈ sampleRecords.entries, e.2.IsValid ∧ e.2.IsPlain := by
    intro e listed
    simp only [sampleRecords, List.mem_cons, List.not_mem_nil, or_false] at listed
    rcases listed with rfl | rfl | rfl
    all_goals
      refine ⟨⟨?_, by decide, by decide⟩, ?_, by decide, by decide⟩
      · simp [Json.Distinct, Json.DistinctItems]
      · simp [Json.Plain, Json.PlainItems]
  have known (id : String) (record : Registration) (found : sampleRecords.get? id = some record) :=
    each (id, record) (Dict.get?_eq_some_iff.1 found)
  have read := Records.ofText_pretty (fun id record found => (known id record found).1)
    (fun id record found => (known id record found).2)
  rw [load_of_find (find_sampleDisk _), read]

theorem lists_newest_sample :
    let r : Registry := ⟨"verified.json"⟩
    let d := sampleDisk sampleRecords.toJson.pretty
    let reversed := sampleRecords.entries.reverse
    r.load d = .ok sampleRecords ∧ ∃ listed other, r.listNewest d 2 = .ok listed ∧
      Registration.newest (reversed.map (·.2)) 2 = other ∧
      listed.map (·.contractId) = ["0.0.8", "0.0.9"] ∧
      other.map (·.contractId) = ["0.0.9", "0.0.8"] ∧
      other.map (·.timestamp) = listed.map (·.timestamp) := by
  intro r d reversed
  obtain ⟨listed, every⟩ := lists_newest load_sampleDisk 2
  have times := (every reversed (List.reverse_perm _)).1
  refine ⟨load_sampleDisk, _, _, listed, rfl, ?_, ?_, times⟩
  · cbv
  · cbv

end Registry

end SourceMatch
