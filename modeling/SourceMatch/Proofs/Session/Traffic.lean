import SourceMatch.Proofs.Rounds
import SourceMatch.Session.Basic
import Mathlib.Data.List.Induction

/-!
The gate of a session along a run, for every kind of session. All that an event can do at the gate
is said once, as a move; a kind of session is anything whose events make such moves. It follows that
the gate is busy exactly while a round waits, that no two rounds wait, and that the round that waits
is the newest one exactly if nothing has superseded it since it was begun.
-/
namespace SourceMatch.Session

variable {α : Type}

structure Traffic (α : Type) where
  gate : Gate := {}
  rounds : List (Option α) := []

def Traffic.waiting? (t : Traffic α) (n : Nat) : Option α := (t.rounds[n]?).join

def Gate.advanceIf (superseding : Bool) (g : Gate) : Gate := if superseding then g.advance else g

/-- What an event does at the gate. The flag says whether it supersedes the rounds under way. -/
inductive Move (generation : α → Nat) (t : Traffic α) : Bool → Traffic α → Prop
  | kept : Move generation t false t
  | refused (superseding : Bool) :
      Move generation t superseding ⟨t.gate.advanceIf superseding, t.rounds ++ [none]⟩
  | begun (superseding : Bool) {round : α}
      (admitted : (t.gate.advanceIf superseding).refusal? = none)
      (newest : generation round = (t.gate.advanceIf superseding).enter.generation) :
      Move generation t superseding
        ⟨(t.gate.advanceIf superseding).enter, t.rounds ++ [some round]⟩
  | continued {n : Nat} {round next : α} (waiting : t.waiting? n = some round)
      (same : generation next = generation round) :
      Move generation t false ⟨t.gate, t.rounds.set n (some next)⟩
  | ended {n : Nat} {round : α} (waiting : t.waiting? n = some round) :
      Move generation t false ⟨t.gate.leave, t.rounds.set n none⟩
  | disposed : Move generation t true ⟨t.gate.dispose, t.rounds⟩

theorem admitted_iff {g : Gate} : g.refusal? = none ↔ g.disposed = false ∧ g.busy = false := by
  rw [Gate.refusal?]
  cases g.disposed <;> cases g.busy <;> simp

theorem isCurrent_of_disposed {g : Gate} (h : g.disposed = true) (n : Nat) :
    g.isCurrent n = false := by
  simp [Gate.isCurrent, h]

@[simp] theorem busy_advanceIf (superseding : Bool) (g : Gate) :
    (g.advanceIf superseding).busy = g.busy := by
  cases superseding <;> rfl

@[simp] theorem disposed_advanceIf (superseding : Bool) (g : Gate) :
    (g.advanceIf superseding).disposed = g.disposed := by
  cases superseding <;> rfl

theorem generation_le_advanceIf (superseding : Bool) (g : Gate) :
    g.generation ≤ (g.advanceIf superseding).generation := by
  cases superseding with
  | false => exact Nat.le_refl _
  | true => exact Nat.le_succ _

/-- A gate that serves the round of a number, or none; no round is ahead of the gate. -/
structure Traffic.Serves (generation : α → Nat) (t : Traffic α) (number : Option Nat) : Prop
    extends Rounds.Serves t.gate.busy t.rounds number where
  generation_le : ∀ n round, t.waiting? n = some round → generation round ≤ t.gate.generation

variable {generation : α → Nat} {t t' : Traffic α} {p : Option Nat} {superseding : Bool} {n : Nat}
  {round : α}

theorem serves_of_move (h : t.Serves generation p) (m : Move generation t superseding t') :
    ∃ q, t'.Serves generation q := by
  cases m with
  | kept => exact ⟨p, h⟩
  | refused superseding =>
    have hs : Rounds.Serves (t.gate.advanceIf superseding).busy (t.rounds ++ [none]) p := by
      rw [busy_advanceIf]
      exact h.ended
    refine ⟨p, hs, fun n round waiting => ?_⟩
    have before : t.waiting? n = some round :=
      (Rounds.waiting_append_none t.rounds n).symm.trans waiting
    have advanced := generation_le_advanceIf superseding t.gate
    exact Nat.le_trans (h.generation_le n round before) advanced
  | begun superseding admitted newest =>
    have hs := h.toServes
    have idle := (admitted_iff.1 admitted).2
    rw [busy_advanceIf] at idle
    rw [idle] at hs
    refine ⟨some t.rounds.length, hs.begun _, fun n round waiting => ?_⟩
    rw [Traffic.waiting?, Rounds.waiting_append] at waiting
    split at waiting
    · cases waiting
      exact Nat.le_of_eq newest
    · have before := h.generation_le n round waiting
      have advanced := generation_le_advanceIf superseding t.gate
      exact Nat.le_trans (Nat.le_trans before advanced) (Nat.le_succ _)
  | @continued number current next waiting same =>
    refine ⟨p, h.continued waiting next, fun n round later => ?_⟩
    rw [Traffic.waiting?, Rounds.waiting_set] at later
    split at later
    · cases later
      rw [same]
      exact h.generation_le number current waiting
    · exact h.generation_le n round later
  | ended waiting =>
    refine ⟨none, h.released waiting, fun n round later => ?_⟩
    rw [Traffic.waiting?, Rounds.waiting_set_none] at later
    split at later
    · cases later
    · exact h.generation_le n round later
  | disposed =>
    refine ⟨p, h.toServes, fun n round waiting => ?_⟩
    exact Nat.le_trans (h.generation_le n round waiting) (Nat.le_succ _)

theorem length_le_of_move (m : Move generation t superseding t') :
    t.rounds.length ≤ t'.rounds.length := by
  cases m <;> simp

theorem waiting_of_move (m : Move generation t superseding t') (h : t'.waiting? n = some round) :
    (∃ before, t.waiting? n = some before ∧ generation before = generation round) ∨
      n = t.rounds.length ∧ t'.gate.isCurrent (generation round) = true := by
  cases m with
  | kept => exact .inl ⟨round, h, rfl⟩
  | refused _ => exact .inl ⟨round, (Rounds.waiting_append_none t.rounds n).symm.trans h, rfl⟩
  | begun superseding admitted newest =>
    rw [Traffic.waiting?, Rounds.waiting_append] at h
    split at h
    · rename_i last
      cases h
      have live := (admitted_iff.1 admitted).1
      rw [disposed_advanceIf] at live
      exact .inr ⟨last, by simp [Gate.isCurrent, Gate.enter, live, newest]⟩
    · exact .inl ⟨round, h, rfl⟩
  | continued waiting same =>
    rw [Traffic.waiting?, Rounds.waiting_set] at h
    split at h
    · rename_i now
      cases h
      exact .inl ⟨_, now.1 ▸ waiting, same.symm⟩
    · exact .inl ⟨round, h, rfl⟩
  | ended _ =>
    rw [Traffic.waiting?, Rounds.waiting_set_none] at h
    split at h
    · cases h
    · exact .inl ⟨round, h, rfl⟩
  | disposed => exact .inl ⟨round, h, rfl⟩

theorem isCurrent_of_move (h : t.Serves generation p) (m : Move generation t superseding t')
    (waiting : t.waiting? n = some round) :
    t'.gate.isCurrent (generation round) =
      (t.gate.isCurrent (generation round) && !superseding) := by
  have hle := h.generation_le n round waiting
  cases m with
  | kept | continued _ _ | ended _ => simp
  | refused superseding =>
    cases superseding with
    | false => simp [Gate.advanceIf]
    | true =>
      have hne : t.gate.generation + 1 ≠ generation round := by omega
      simp [Gate.advanceIf, Gate.isCurrent, Gate.advance, hne]
  | begun superseding admitted _ =>
    -- a round waits at the gate, so the gate is busy and admits no other
    have busy := h.busy_of_waiting waiting
    have idle := (admitted_iff.1 admitted).2
    rw [busy_advanceIf, busy] at idle
    cases idle
  | disposed => simp [Gate.isCurrent_dispose]

theorem disposed_of_move (m : Move generation t superseding t') (h : t.gate.disposed = true) :
    t'.gate.disposed = true := by
  cases m with
  | kept | continued _ _ | ended _ => exact h
  | refused superseding => rwa [disposed_advanceIf]
  | begun superseding _ _ => exact (disposed_advanceIf superseding t.gate).trans h
  | disposed => rfl

/-- A kind of session, as far as its gate is concerned: runs `ρ` that go on by events `ε` and have
rounds `α`, and which events supersede the rounds under way. -/
structure Machine (ρ ε α : Type) where
  start : ρ
  step : ρ → ε → ρ
  traffic : ρ → Traffic α
  generation : α → Nat
  supersedes : ρ → ε → Bool
  fresh : traffic start = {}
  moves : ∀ r e, Move generation (traffic r) (supersedes r e) (traffic (step r e))

namespace Machine

variable {ρ ε : Type} (m : Machine ρ ε α)

def run (events : List ε) : ρ := events.foldl m.step m.start

def waiting? (r : ρ) (n : Nat) : Option α := (m.traffic r).waiting? n

def Serves (r : ρ) : Prop := ∃ p, (m.traffic r).Serves m.generation p

/-- Whether one of the events that follow supersedes the rounds under way at its time. -/
def superseded : ρ → List ε → Bool
  | _, [] => false
  | r, e :: events => m.supersedes r e || superseded (m.step r e) events

theorem run_concat (events : List ε) (e : ε) : m.run (events ++ [e]) = m.step (m.run events) e := by
  simp [run]

theorem run_append (events later : List ε) :
    m.run (events ++ later) = later.foldl m.step (m.run events) := by
  rw [run, List.foldl_append]
  rfl

theorem run_cons (before : List ε) (e : ε) (during : List ε) :
    m.run (before ++ e :: during) = during.foldl m.step (m.run (before ++ [e])) := by
  rw [List.append_cons, run_append]

theorem run_serves (events : List ε) : m.Serves (m.run events) := by
  induction events using List.reverseRecOn with
  | nil =>
    refine ⟨none, ?_⟩
    change (m.traffic m.start).Serves m.generation none
    rw [m.fresh]
    exact ⟨⟨rfl, fun n => by simp⟩, fun n round h => by simp [Traffic.waiting?] at h⟩
  | append_singleton events e ih =>
    obtain ⟨p, h⟩ := ih
    rw [run_concat]
    exact serves_of_move h (m.moves (m.run events) e)

variable {m}

theorem waiting_of_later {during : List ε} {r : ρ} (begun : n < (m.traffic r).rounds.length)
    (later : m.waiting? (during.foldl m.step r) n = some round) :
    ∃ now, m.waiting? r n = some now ∧ m.generation now = m.generation round := by
  induction during generalizing r with
  | nil => exact ⟨round, later, rfl⟩
  | cons e during ih =>
    have move := m.moves r e
    obtain ⟨next, hn, same⟩ := ih (Nat.lt_of_lt_of_le begun (length_le_of_move move)) later
    rcases waiting_of_move move hn with ⟨now, hw, same'⟩ | ⟨rfl, -⟩
    · exact ⟨now, hw, same'.trans same⟩
    · exact absurd begun (Nat.lt_irrefl _)

theorem isCurrent_of_later {during : List ε} {r : ρ} (hs : m.Serves r)
    (begun : n < (m.traffic r).rounds.length)
    (later : m.waiting? (during.foldl m.step r) n = some round) :
    (m.traffic (during.foldl m.step r)).gate.isCurrent (m.generation round) =
      ((m.traffic r).gate.isCurrent (m.generation round) && !m.superseded r during) := by
  induction during generalizing r with
  | nil => simp [superseded]
  | cons e during ih =>
    obtain ⟨p, h⟩ := hs
    obtain ⟨now, waiting, same⟩ := waiting_of_later begun later
    have move := m.moves r e
    have current := isCurrent_of_move h move waiting
    rw [same] at current
    rw [List.foldl_cons, ih (serves_of_move h move)
      (Nat.lt_of_lt_of_le begun (length_le_of_move move)) later, current, superseded, Bool.not_or,
      Bool.and_assoc]

theorem superseded_iff {r : ρ} {events : List ε} :
    m.superseded r events = true ↔ ∃ earlier e later, events = earlier ++ e :: later ∧
      m.supersedes (earlier.foldl m.step r) e = true := by
  induction events generalizing r with
  | nil => simp [superseded]
  | cons e events ih =>
    rw [superseded, Bool.or_eq_true, ih]
    constructor
    · rintro (now | ⟨earlier, e', later, rfl, h⟩)
      · exact ⟨[], e, events, rfl, now⟩
      · exact ⟨e :: earlier, e', later, rfl, h⟩
    · rintro ⟨earlier, e', later, split, h⟩
      cases earlier with
      | nil =>
        obtain ⟨rfl, -⟩ := List.cons.inj split
        exact .inl h
      | cons d earlier =>
        obtain ⟨rfl, rfl⟩ := List.cons.inj split
        exact .inr ⟨earlier, e', later, rfl, h⟩

theorem exists_start {events : List ε} (h : m.waiting? (m.run events) n = some round) :
    ∃ before start during first, events = before ++ start :: during ∧
      n = (m.traffic (m.run before)).rounds.length ∧
      m.waiting? (m.run (before ++ [start])) n = some first ∧
      (m.traffic (m.run (before ++ [start]))).gate.isCurrent (m.generation first) = true := by
  induction events using List.reverseRecOn generalizing round with
  | nil =>
    change (m.traffic m.start).waiting? n = some round at h
    rw [m.fresh] at h
    simp [Traffic.waiting?] at h
  | append_singleton events e ih =>
    have now := h
    rw [run_concat] at now
    rcases waiting_of_move (m.moves (m.run events) e) now with
      ⟨earlier, waited, -⟩ | ⟨last, current⟩
    · obtain ⟨before, start, during, first, rfl, begun⟩ := ih waited
      exact ⟨before, start, during ++ [e], first, by simp, begun⟩
    · rw [← run_concat] at current
      exact ⟨events, e, [], round, rfl, last, h, current⟩

theorem isCurrent_of_start {before during : List ε} {start : ε} {first : α}
    (h : m.waiting? (m.run (before ++ start :: during)) n = some round)
    (begun : m.waiting? (m.run (before ++ [start])) n = some first)
    (current : (m.traffic (m.run (before ++ [start]))).gate.isCurrent (m.generation first) = true) :
    (m.traffic (m.run (before ++ start :: during))).gate.isCurrent (m.generation round) =
      !m.superseded (m.run (before ++ [start])) during := by
  rw [run_cons] at h ⊢
  have hlt := Rounds.lt_length_of_waiting begun
  obtain ⟨now, waited, same⟩ := waiting_of_later hlt h
  obtain rfl : first = now := Option.some.inj (begun.symm.trans waited)
  rw [same] at current
  rw [isCurrent_of_later (m.run_serves (before ++ [start])) hlt h, current, Bool.true_and]

theorem disposed_of_later {during : List ε} {r : ρ} (h : (m.traffic r).gate.disposed = true) :
    (m.traffic (during.foldl m.step r)).gate.disposed = true := by
  induction during generalizing r with
  | nil => exact h
  | cons e during ih => exact ih (disposed_of_move (m.moves r e) h)

theorem disposed_of_mem {events : List ε} {e : ε} (h : e ∈ events)
    (closes : ∀ r, (m.traffic (m.step r e)).gate.disposed = true) :
    (m.traffic (m.run events)).gate.disposed = true := by
  obtain ⟨before, later, rfl⟩ := List.append_of_mem h
  rw [run_cons, run_concat]
  exact disposed_of_later (closes (m.run before))

end Machine

end SourceMatch.Session
