import SourceMatch.Proofs.Rounds
import SourceMatch.Proofs.Workflow.Transition
import Mathlib.Data.List.Induction

/-!
The round that a verification waits for. At most one round waits, and the verification is busy
exactly while one does. As long as it waits only the setters and `dispose` have an effect, so the
state is that of its start with what they did since, and its answer is still wanted exactly if none
of them replaced the source or closed the verification.
-/
namespace SourceMatch.Workflow

variable {w : Workflow} {s : State} {r : Run} {e : Event} {round : Round} {number : Nat}

theorem waiting?_append_none (s : State) (r : Run) (n : Nat) :
    Run.waiting? ⟨s, r.rounds ++ [none]⟩ n = r.waiting? n :=
  Rounds.waiting_append_none r.rounds n

theorem waiting?_append_some (s : State) (r : Run) (round : Round) (n : Nat) :
    Run.waiting? ⟨s, r.rounds ++ [some round]⟩ n =
      if n = r.rounds.length then some round else r.waiting? n :=
  Rounds.waiting_append r.rounds (some round) n

theorem waiting?_set_none (s : State) (r : Run) (number n : Nat) :
    Run.waiting? ⟨s, r.rounds.set number none⟩ n =
      if n = number then none else r.waiting? n :=
  Rounds.waiting_set_none r.rounds number n

structure WaitsFor (r : Run) (number : Option Nat) : Prop where
  busy_eq : r.state.busy = number.isSome
  waiting_iff : ∀ n, (r.waiting? n).isSome ↔ number = some n

namespace WaitsFor

variable {p : Option Nat}

theorem serves (h : WaitsFor r p) : Rounds.Serves r.state.busy r.rounds p :=
  ⟨h.busy_eq, h.waiting_iff⟩

theorem busy (h : WaitsFor r p) (hw : r.waiting? number = some round) : r.state.busy = true :=
  h.serves.busy_of_waiting hw

theorem withState (h : WaitsFor r p) (hb : s.busy = r.state.busy) :
    WaitsFor { r with state := s } p :=
  ⟨hb.trans h.busy_eq, h.waiting_iff⟩

theorem ended (h : WaitsFor r p) (hb : s.busy = r.state.busy) :
    WaitsFor ⟨s, r.rounds ++ [none]⟩ p :=
  ⟨hb.trans h.busy_eq, h.serves.ended.waiting_iff⟩

theorem begun (h : WaitsFor r p) (idle : r.state.busy = false) (hb : s.busy = true)
    (round : Round) : WaitsFor ⟨s, r.rounds ++ [some round]⟩ (some r.rounds.length) := by
  have free : Rounds.Serves false r.rounds p := idle ▸ h.serves
  exact ⟨hb, (free.begun round).waiting_iff⟩

theorem released (h : WaitsFor r p) (hw : r.waiting? number = some round)
    (hb : s.busy = false) : WaitsFor ⟨s, r.rounds.set number none⟩ none :=
  ⟨hb, (h.serves.released hw).waiting_iff⟩

end WaitsFor

theorem apply_busy (w : Workflow) (s : State) (e : Event) : (e.apply w s).busy = s.busy := by
  cases e <;> rfl

theorem step_waitsFor {p : Option Nat} (h : WaitsFor r p) :
    ∃ q, WaitsFor (r.step w e).run q := by
  have ht := transition w r e
  generalize r.step w e = o at ht
  cases ht with
  | immediate _ => exact ⟨p, h.withState (apply_busy w r.state e)⟩
  | next moved => exact ⟨p, h.ended (by cases moved <;> rfl)⟩
  | call called =>
    cases called with
    | compile live idle => exact ⟨_, h.begun idle rfl _⟩
    | register live idle => exact ⟨_, h.begun idle rfl _⟩
  | back idle _ => exact ⟨p, h.withState rfl⟩
  | backRefused _ _ => exact ⟨p, h⟩
  | unheard _ => exact ⟨p, h⟩
  | compiled waiting _ => exact ⟨none, h.released waiting rfl⟩
  | registered waiting _ _ => exact ⟨none, h.released waiting rfl⟩
  | rejected waiting _ => exact ⟨none, h.released waiting rfl⟩
  | late waiting _ _ => exact ⟨none, h.released waiting rfl⟩
  | dropMissing _ => exact ⟨p, h⟩
  | dropped waiting => exact ⟨none, h.released waiting rfl⟩

theorem run_waitsFor (w : Workflow) (events : List Event) : ∃ p, WaitsFor (run w events) p := by
  induction events using List.reverseRecOn with
  | nil => exact ⟨none, rfl, fun n => by simp [run, Run.waiting?]⟩
  | append_singleton events e ih =>
    obtain ⟨p, h⟩ := ih
    rw [run_concat]
    exact step_waitsFor h

def Event.supersedes : Event → Bool
  | .setSource .. | .dispose => true
  | _ => false

/-- A round of a run, followed from its start up to a time at which it still waits: the events
before it, those during it, its number and its call. -/
structure Flight (w : Workflow) (before : List Event) (start : Timestamp) (during : List Event)
    (number : Nat) (round : Round) : Prop where
  number_eq : number = (run w before).rounds.length
  call : ((run w before).step w (.next start)).call = some round
  waiting : (run w (before ++ .next start :: during)).waiting? number = some round
  state : (run w (before ++ .next start :: during)).state =
    during.foldl (fun s e => e.apply w s) ((run w before).step w (.next start)).run.state

theorem called_of_call (h : (r.step w e).call = some round) :
    ∃ now state, e = .next now ∧ NextCase w r.state now (state, .waiting round) ∧
      (r.step w e).run = ⟨state, r.rounds ++ [some round]⟩ := by
  have ht := transition w r e
  generalize r.step w e = o at ht h
  cases ht with
  | @call now state round' called =>
    simp only [Option.some.injEq] at h
    subst h
    exact ⟨now, state, rfl, called, rfl⟩
  | _ => simp [Run.withState] at h

theorem waiting_of_step (h : (r.step w e).run.waiting? number = some round) :
    r.waiting? number = some round ∨
      number = r.rounds.length ∧ (r.step w e).call = some round ∧ ∃ now, e = .next now := by
  have ht := transition w r e
  generalize r.step w e = o at ht h ⊢
  have hset {s : State} {n : Nat}
      (hn : Run.waiting? ⟨s, r.rounds.set n none⟩ number = some round) :
      r.waiting? number = some round := by
    rw [waiting?_set_none] at hn
    split at hn
    · cases hn
    · exact hn
  cases ht with
  | next _ =>
    rw [waiting?_append_none] at h
    exact .inl h
  | @call now _ _ _ =>
    rw [waiting?_append_some] at h
    split at h
    · rename_i hn
      exact .inr ⟨hn, h, now, rfl⟩
    · exact .inl h
  | compiled _ _ => exact .inl (hset h)
  | registered _ _ _ => exact .inl (hset h)
  | rejected _ _ => exact .inl (hset h)
  | late _ _ _ => exact .inl (hset h)
  | dropped _ => exact .inl (hset h)
  | _ => exact .inl h

theorem state_of_waiting {p : Option Nat} (hp : WaitsFor r p)
    (hr : r.waiting? number = some round)
    (hw : (r.step w e).run.waiting? number = some round) :
    (r.step w e).run.state = e.apply w r.state := by
  have hb := hp.busy hr
  have ht := transition w r e
  generalize r.step w e = o at ht hw ⊢
  -- an answer or a drop that is heard is one of this round, which then waits no longer
  have hset {s : State} {n : Nat} {found : Round} (hn : r.waiting? n = some found) :
      Run.waiting? ⟨s, r.rounds.set n none⟩ number = none := by
    have := (hp.serves.number_eq hn).symm.trans (hp.serves.number_eq hr)
    rw [waiting?_set_none, if_pos (Option.some.inj this).symm]
  cases ht with
  | immediate _ => rfl
  | next moved =>
    cases moved with
    | refused _ _ => rfl
    | _ => simp_all
  | call called => cases called <;> simp_all
  | back idle _ => simp_all
  | backRefused _ _ => rfl
  | unheard _ => rfl
  | dropMissing _ => rfl
  | compiled waiting _ => simp [hset waiting] at hw
  | registered waiting _ _ => simp [hset waiting] at hw
  | rejected waiting _ => simp [hset waiting] at hw
  | late waiting _ _ => simp [hset waiting] at hw
  | dropped waiting => simp [hset waiting] at hw

theorem exists_flight {events : List Event} (h : (run w events).waiting? number = some round) :
    ∃ before start during, events = before ++ .next start :: during ∧
      Flight w before start during number round := by
  induction events using List.reverseRecOn with
  | nil => simp [run, Run.waiting?] at h
  | append_singleton events e ih =>
    rw [run_concat] at h
    rcases waiting_of_step h with hr | ⟨hn, hcall, now, rfl⟩
    · obtain ⟨before, start, during, rfl, hf⟩ := ih hr
      obtain ⟨p, hp⟩ := run_waitsFor w (before ++ .next start :: during)
      have hs := state_of_waiting hp hr h
      refine ⟨before, start, during ++ [e], by simp, hf.number_eq, hf.call, ?_, ?_⟩
      · rwa [← run_concat, List.append_assoc, List.cons_append] at h
      · rw [← List.cons_append, ← List.append_assoc, run_concat, hs, hf.state, List.foldl_append]
        rfl
    · refine ⟨events, now, [], rfl, hn, hcall, ?_, ?_⟩
      · rwa [run_concat]
      · rw [run_concat]
        rfl

theorem foldl_apply_eq {α : Type} (f : State → α) {during : List Event}
    (h : ∀ e ∈ during, ∀ s, f (e.apply w s) = f s) (s : State) :
    f (during.foldl (fun s e => e.apply w s) s) = f s := by
  induction during generalizing s with
  | nil => rfl
  | cons e during ih =>
    rw [List.foldl_cons, ih fun e he => h e (List.mem_cons_of_mem _ he)]
    exact h e List.mem_cons_self s

theorem apply_step (w : Workflow) (s : State) (e : Event) : (e.apply w s).step = s.step := by
  cases e <;> rfl

theorem apply_output (h : e.supersedes = false) : (e.apply w s).output = s.output := by
  cases e <;> first | rfl | simp [Event.supersedes] at h

theorem apply_source (h : e.supersedes = false) :
    (e.apply w s).source = s.source ∧ (e.apply w s).sourceFileName = s.sourceFileName := by
  cases e <;> first | exact ⟨rfl, rfl⟩ | simp [Event.supersedes] at h

theorem generation_le_apply (w : Workflow) (s : State) (e : Event) :
    s.generation ≤ (e.apply w s).generation := by
  cases e <;> simp [Event.apply, Workflow.setSource, Workflow.setCompilerVersion,
    Workflow.supplyImport, Workflow.replaceImports, Workflow.dispose]

theorem isCurrent_apply {generation : Nat} (hg : generation ≤ s.generation) :
    isCurrent (e.apply w s) generation = (isCurrent s generation && !e.supersedes) := by
  cases e with
  | setSource _ _ =>
    have : s.generation + 1 ≠ generation := by omega
    simp [isCurrent, Event.apply, Workflow.setSource, Event.supersedes, this]
  | dispose => simp [isCurrent, Event.apply, Workflow.dispose, Event.supersedes]
  | _ =>
    simp only [Event.supersedes, Bool.not_false, Bool.and_true]
    rfl

theorem isCurrent_foldl_apply {generation : Nat} (during : List Event)
    (hg : generation ≤ s.generation) :
    isCurrent (during.foldl (fun s e => e.apply w s) s) generation =
      (isCurrent s generation && !during.any Event.supersedes) := by
  induction during generalizing s with
  | nil => simp
  | cons e during ih =>
    rw [List.foldl_cons, ih (Nat.le_trans hg (generation_le_apply w s e)), isCurrent_apply hg]
    simp [Bool.and_assoc]

theorem called_state {t : State} {now : Timestamp} (h : NextCase w s now (t, .waiting round)) :
    s.disposed = false ∧
      t = { s with step := .compileAndCompare, busy := true, generation := round.generation } := by
  cases h with
  | compile live _ _ _ _ => exact ⟨live, rfl⟩
  | register live _ step _ _ => exact ⟨live, by rw [← step]; rfl⟩

namespace Flight

variable {before during : List Event} {start : Timestamp}

theorem began (h : Flight w before start during number round) :
    (run w before).state.disposed = false ∧
      ((run w before).step w (.next start)).run.state =
        { (run w before).state with
          step := .compileAndCompare, busy := true, generation := round.generation } := by
  obtain ⟨now, state, heq, hcase, hrun⟩ := called_of_call h.call
  rw [hrun]
  exact called_state hcase

theorem isCurrent_eq (h : Flight w before start during number round) :
    isCurrent (run w (before ++ .next start :: during)).state round.generation =
      !during.any Event.supersedes := by
  obtain ⟨live, hb⟩ := h.began
  have issued : round.generation ≤
      ((run w before).step w (.next start)).run.state.generation := by simp [hb]
  rw [h.state, isCurrent_foldl_apply during issued, hb]
  simp [isCurrent, live]

theorem undisturbed (h : Flight w before start during number round)
    (wanted : isCurrent (run w (before ++ .next start :: during)).state round.generation = true) :
    during.any Event.supersedes = false := by
  rw [h.isCurrent_eq] at wanted
  simpa using wanted

theorem step_eq (h : Flight w before start during number round) :
    (run w (before ++ .next start :: during)).state.step = .compileAndCompare := by
  rw [h.state, foldl_apply_eq State.step fun e _ s => apply_step w s e, h.began.2]

theorem output_eq (h : Flight w before start during number round)
    (hs : during.any Event.supersedes = false) :
    (run w (before ++ .next start :: during)).state.output = (run w before).state.output := by
  simp only [List.any_eq_false, Bool.not_eq_true] at hs
  rw [h.state, foldl_apply_eq State.output fun e he s => apply_output (hs e he), h.began.2]

theorem source_eq (h : Flight w before start during number round)
    (hs : during.any Event.supersedes = false) :
    (run w (before ++ .next start :: during)).state.source = (run w before).state.source ∧
      (run w (before ++ .next start :: during)).state.sourceFileName =
        (run w before).state.sourceFileName := by
  simp only [List.any_eq_false, Bool.not_eq_true] at hs
  rw [h.state, foldl_apply_eq State.source fun e he s => (apply_source (hs e he)).1,
    foldl_apply_eq State.sourceFileName fun e he s => (apply_source (hs e he)).2, h.began.2]
  exact ⟨rfl, rfl⟩

end Flight

end SourceMatch.Workflow
