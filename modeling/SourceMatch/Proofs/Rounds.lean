import Mathlib.Data.List.Basic

/-!
The table of numbered rounds that a run keeps: one entry for each round begun so far, in order,
which is empty once the round has ended. A flag that admits one round at a time tells whether one of
them waits.
-/
namespace SourceMatch.Rounds

variable {α : Type} (rounds : List (Option α))

theorem waiting_append (round : Option α) (n : Nat) :
    (rounds ++ [round])[n]?.join = if n = rounds.length then round else rounds[n]?.join := by
  rw [List.getElem?_append]
  by_cases hn : n < rounds.length
  · rw [if_pos hn, if_neg (by omega)]
  · rw [if_neg hn, List.getElem?_eq_none (by omega : rounds.length ≤ n)]
    split
    · rename_i last
      simp [last]
    · rw [List.getElem?_eq_none (by simp; omega)]

theorem waiting_append_none (n : Nat) : (rounds ++ [none])[n]?.join = rounds[n]?.join := by
  rw [waiting_append]
  split
  · rename_i last
    rw [last, List.getElem?_eq_none (Nat.le_refl _)]
    rfl
  · rfl

theorem waiting_set (number : Nat) (round : Option α) (n : Nat) :
    (rounds.set number round)[n]?.join =
      if n = number ∧ number < rounds.length then round else rounds[n]?.join := by
  rw [List.getElem?_set]
  by_cases hn : n = number
  · subst hn
    by_cases hl : n < rounds.length <;> simp [hl]
  · simp [hn, Ne.symm hn]

theorem waiting_set_none (number n : Nat) :
    (rounds.set number none)[n]?.join = if n = number then none else rounds[n]?.join := by
  rw [waiting_set]
  by_cases hn : n = number
  · subst hn
    by_cases hl : n < rounds.length
    · rw [if_pos ⟨rfl, hl⟩, if_pos rfl]
    · rw [if_neg (fun h => hl h.2), if_pos rfl, List.getElem?_eq_none (by omega)]
      rfl
  · rw [if_neg (fun h => hn h.1), if_neg hn]

variable {rounds}

theorem lt_length_of_waiting {round : α} {n : Nat} (h : rounds[n]?.join = some round) :
    n < rounds.length := by
  by_contra hn
  rw [List.getElem?_eq_none (by omega)] at h
  cases h

/-- The round of a number waits, or none does, and the flag tells. -/
structure Serves (busy : Bool) (rounds : List (Option α)) (number : Option Nat) : Prop where
  busy_eq : busy = number.isSome
  waiting_iff : ∀ n, (rounds[n]?.join).isSome ↔ number = some n

namespace Serves

variable {busy : Bool} {p : Option Nat} {number : Nat} {round : α}

theorem number_eq (h : Serves busy rounds p) (hw : rounds[number]?.join = some round) :
    p = some number :=
  (h.waiting_iff number).1 (by rw [hw]; rfl)

theorem busy_of_waiting (h : Serves busy rounds p) (hw : rounds[number]?.join = some round) :
    busy = true := by
  rw [h.busy_eq, h.number_eq hw]
  rfl

theorem ended (h : Serves busy rounds p) : Serves busy (rounds ++ [none]) p := by
  refine ⟨h.busy_eq, fun n => ?_⟩
  rw [waiting_append_none]
  exact h.waiting_iff n

theorem begun (h : Serves false rounds p) (round : α) :
    Serves true (rounds ++ [some round]) (some rounds.length) := by
  have hp : p = none := by simpa using h.busy_eq.symm
  refine ⟨rfl, fun n => ?_⟩
  rw [waiting_append]
  split
  · rename_i hn
    simp [hn]
  · rename_i hn
    rw [h.waiting_iff, hp]
    simp [Ne.symm hn]

theorem continued (h : Serves busy rounds p) (hw : rounds[number]?.join = some round) (next : α) :
    Serves busy (rounds.set number (some next)) p := by
  refine ⟨h.busy_eq, fun n => ?_⟩
  rw [waiting_set]
  split
  · rename_i now
    rw [now.1, h.number_eq hw]
    simp
  · exact h.waiting_iff n

theorem released (h : Serves busy rounds p) (hw : rounds[number]?.join = some round) :
    Serves false (rounds.set number none) none := by
  refine ⟨rfl, fun n => ?_⟩
  rw [waiting_set_none]
  split
  · simp
  · rename_i hn
    rw [h.waiting_iff, h.number_eq hw]
    simp [Ne.symm hn]

theorem busy_iff (h : Serves busy rounds p) :
    busy = true ↔ ∃! n : Nat, (rounds[n]?.join).isSome := by
  rw [h.busy_eq]
  simp only [h.waiting_iff]
  cases p <;> simp [ExistsUnique]

theorem unique (h : Serves busy rounds p) {m n : Nat} (hm : (rounds[m]?.join).isSome)
    (hn : (rounds[n]?.join).isSome) : m = n :=
  Option.some.inj (((h.waiting_iff m).1 hm).symm.trans ((h.waiting_iff n).1 hn))

end Serves

end SourceMatch.Rounds
