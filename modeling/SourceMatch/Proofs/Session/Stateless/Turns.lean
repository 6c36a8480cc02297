import SourceMatch.Proofs.Session.Stateless.Transition

/-!
A verification in single requests at its gate. A reply comes too late exactly if `dispose` came, or
an update stored other inputs, since its request was sent. Behind `dispose` no request is sent and
what is known stays.
-/
namespace SourceMatch.Session.Stateless

open Server (Reply)

variable {s : State} {r : Run} {e : Event} {round : Round} {n : Nat}

def Run.supersedes (r : Run) : Event → Bool
  | .dispose => true
  | e => r.state.inputs.changedBy e

theorem supersedes_of_starts (h : e.starts = true) :
    r.supersedes e = r.state.inputs.changedBy e := by
  cases e with
  | dispose => cases h
  | _ => rfl

theorem supersedes_answer (r : Run) (number : Nat) (reply : Reply) :
    r.supersedes (.answer number reply) = false := by
  simp [Run.supersedes, Inputs.changedBy, Inputs.after]

theorem supersedes_drop (r : Run) (number : Nat) : r.supersedes (.drop number) = false := by
  simp [Run.supersedes, Inputs.changedBy, Inputs.after]

def Run.traffic (r : Run) : Traffic Round := ⟨r.state.gate, r.rounds⟩

theorem move_of_step (r : Run) (e : Event) :
    Move Round.generation r.traffic (r.supersedes e) (Run.traffic (r.step e).run) := by
  have ht := transition r e
  generalize r.step e = o at ht ⊢
  cases ht with
  | unsent starts _ =>
    rw [supersedes_of_starts starts]
    exact .refused _
  | sent starts _ _ admitted =>
    rw [supersedes_of_starts starts]
    exact .begun _ admitted rfl
  | unheard _ =>
    rw [supersedes_answer]
    exact .kept
  | late waiting _ | applied waiting _ _ | failed waiting _ _ =>
    rw [supersedes_answer]
    exact .ended waiting
  | dropMissing _ =>
    rw [supersedes_drop]
    exact .kept
  | dropped waiting =>
    rw [supersedes_drop]
    exact .ended waiting
  | disposed => exact .disposed

def machine (s : State) (fresh : s.gate = {}) : Machine Run Event Round where
  start := { state := s }
  step r e := (r.step e).run
  traffic := Run.traffic
  generation := Round.generation
  supersedes := Run.supersedes
  fresh := congrArg (Traffic.mk · []) fresh
  moves := move_of_step

theorem run_append (s : State) (events later : List Event) :
    run s (events ++ later) = later.foldl (fun r e => (r.step e).run) (run s events) := by
  rw [run, List.foldl_append]
  rfl

theorem run_concat (s : State) (events : List Event) (e : Event) :
    run s (events ++ [e]) = ((run s events).step e).run :=
  run_append s events [e]

/-- Behind the events `before`, one of the events `during` stores inputs other than those it
finds. -/
def StoresOthers (s : State) (before during : List Event) : Prop :=
  ∃ earlier target files later, during = earlier ++ .update target files :: later ∧
    ¬((run s (before ++ earlier)).state.inputs.target = target ∧
      (run s (before ++ earlier)).state.inputs.files = files)

theorem superseded_machine (fresh : s.gate = {}) (before during : List Event) :
    (machine s fresh).superseded (run s before) during = true ↔
      .dispose ∈ during ∨ StoresOthers s before during := by
  have hrun (earlier : List Event) :
      earlier.foldl (machine s fresh).step (run s before) = run s (before ++ earlier) :=
    (run_append s before earlier).symm
  rw [Machine.superseded_iff]
  constructor
  · rintro ⟨earlier, e, later, rfl, h⟩
    rw [hrun] at h
    cases e with
    | dispose => exact .inl (by simp)
    | update target files =>
      have changed : _ ≠ _ := of_decide_eq_true h
      exact .inr ⟨earlier, target, files, later, rfl, mt (after_eq_iff _ target files).2 changed⟩
    | answer number reply => simp [machine, supersedes_answer] at h
    | drop number => simp [machine, supersedes_drop] at h
    | verify => simp [machine, Run.supersedes, Inputs.changedBy, Inputs.after] at h
  · rintro (h | ⟨earlier, target, files, later, rfl, other⟩)
    · obtain ⟨earlier, later, rfl⟩ := List.append_of_mem h
      exact ⟨earlier, .dispose, later, rfl, rfl⟩
    · refine ⟨earlier, .update target files, later, rfl, ?_⟩
      rw [hrun]
      exact decide_eq_true (mt (after_eq_iff _ target files).1 other)

theorem serves (fresh : s.gate = {}) (events : List Event) :
    ∃ p, Rounds.Serves (run s events).state.gate.busy (run s events).rounds p := by
  obtain ⟨p, h⟩ := (machine s fresh).run_serves events
  exact ⟨p, h.toServes⟩

structure Begins (r : Run) (e : Event) (round : Round) (number : Nat) : Prop where
  number_eq : number = r.rounds.length
  effect : (r.step e).effect = .pending number
  call : (r.step e).call = some (.verify round.request)
  request : (r.step e).run.state.inputs.request? = some round.request

theorem waiting_of_step (h : (r.step e).run.waiting? n = some round) :
    r.waiting? n = some round ∨ Begins r e round n := by
  have ht := transition r e
  generalize ho : r.step e = o at ht h
  have hset {s : State} {number : Nat}
      (hn : Run.waiting? ⟨s, r.rounds.set number none⟩ n = some round) :
      r.waiting? n = some round := by
    rw [Run.waiting?, Rounds.waiting_set_none] at hn
    split at hn
    · cases hn
    · exact hn
  cases ht with
  | unsent _ _ => exact .inl ((Rounds.waiting_append_none r.rounds n).symm.trans h)
  | sent _ _ complete _ =>
    rw [Run.waiting?, Rounds.waiting_append] at h
    split at h
    · rename_i last
      cases h
      exact .inr ⟨last, by rw [ho, last], by rw [ho], by rw [ho]; exact complete⟩
    · exact .inl h
  | late _ _ | applied _ _ _ | failed _ _ _ | dropped _ => exact .inl (hset h)
  | unheard _ | dropMissing _ | disposed => exact .inl h

theorem waiting_of_later {later : List Event} (begun : n < r.rounds.length)
    (h : (later.foldl (fun r e => (r.step e).run) r).waiting? n = some round) :
    r.waiting? n = some round := by
  induction later generalizing r with
  | nil => exact h
  | cons e later ih =>
    have hle := length_le_of_move (move_of_step r e)
    rcases waiting_of_step (ih (Nat.lt_of_lt_of_le begun hle) h) with before | begins
    · exact before
    · exact absurd begun (by rw [begins.number_eq]; exact Nat.lt_irrefl _)

theorem exists_start (fresh : s.gate = {}) {events : List Event}
    (h : (run s events).waiting? n = some round) :
    ∃ before start during, events = before ++ start :: during ∧
      Begins (run s before) start round n ∧
      ((run s events).state.gate.isCurrent round.generation = false ↔
        .dispose ∈ during ∨ StoresOthers s (before ++ [start]) during) := by
  obtain ⟨before, start, during, first, rfl, number_eq, begun, current⟩ :=
    Machine.exists_start (m := machine s fresh) h
  have later := Machine.isCurrent_of_start (m := machine s fresh) h begun current
  refine ⟨before, start, during, rfl, ?_, ?_⟩
  · have waiting : (run s (before ++ [start])).waiting? n = some round := by
      rw [List.append_cons, run_append] at h
      exact waiting_of_later (Rounds.lt_length_of_waiting begun) h
    rw [run_concat] at waiting
    rcases waiting_of_step waiting with earlier | begins
    · have hlt := Rounds.lt_length_of_waiting earlier
      exact absurd hlt (by rw [number_eq]; exact Nat.lt_irrefl _)
    · exact begins
  · change (run _ _).state.gate.isCurrent round.generation = _ at later
    rw [later, ← superseded_machine fresh, Bool.not_eq_false']
    rfl

theorem effect_stale_iff (reply : Reply) (h : r.waiting? n = some round) :
    (r.step (.answer n reply)).effect = .ended .stale ↔
      r.state.gate.isCurrent round.generation = false := by
  have ht := transition r (.answer n reply)
  generalize r.step (.answer n reply) = o at ht ⊢
  cases ht with
  | unsent starts _ | sent starts _ _ _ => cases starts
  | unheard missing => simp [missing] at h
  | late waiting unwanted =>
    obtain rfl : _ = round := Option.some.inj (waiting.symm.trans h)
    simp [unwanted]
  | applied waiting wanted _ | failed waiting wanted _ =>
    obtain rfl : _ = round := Option.some.inj (waiting.symm.trans h)
    simp [wanted]

theorem step_late (reply : Reply) (h : r.waiting? n = some round)
    (unwanted : r.state.gate.isCurrent round.generation = false) :
    r.step (.answer n reply) =
      { run := ⟨drop r.state, r.rounds.set n none⟩, effect := .ended .stale } := by
  simp [Run.step, h, resume_late reply unwanted]

theorem step_drop (h : r.waiting? n = some round) :
    r.step (.drop n) = { run := ⟨drop r.state, r.rounds.set n none⟩, effect := .dropped true } := by
  simp [Run.step, h]

theorem disposed_of_mem (fresh : s.gate = {}) {events : List Event} (h : .dispose ∈ events) :
    (run s events).state.gate.disposed = true :=
  Machine.disposed_of_mem (m := machine s fresh) h fun _ => rfl

theorem step_of_disposed (e : Event) (h : r.state.gate.disposed = true) :
    (r.step e).call = none ∧ (r.step e).run.state.failure = r.state.failure ∧
      (r.step e).run.state.response = r.state.response := by
  have ht := transition r e
  generalize r.step e = o at ht ⊢
  cases ht with
  | sent _ _ _ admitted =>
    have live := (admitted_iff.1 admitted).1
    simp [State.stored, h] at live
  | applied _ wanted _ | failed _ wanted _ => simp [isCurrent_of_disposed h] at wanted
  | _ => exact ⟨rfl, rfl, rfl⟩

theorem known_of_disposed (fresh : s.gate = {}) {events : List Event} (h : .dispose ∈ events)
    (later : List Event) :
    (run s (events ++ later)).state.failure = (run s events).state.failure ∧
      (run s (events ++ later)).state.response = (run s events).state.response := by
  induction later using List.reverseRecOn with
  | nil => simp
  | append_singleton later e ih =>
    have closed : (run s (events ++ later)).state.gate.disposed = true :=
      disposed_of_mem fresh (List.mem_append_left _ h)
    have step := step_of_disposed e closed
    rw [← List.append_assoc, run_concat]
    exact ⟨step.2.1.trans ih.1, step.2.2.trans ih.2⟩

end SourceMatch.Session.Stateless
