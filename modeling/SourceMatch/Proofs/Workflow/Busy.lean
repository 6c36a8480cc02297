import SourceMatch.Proofs.Workflow.Waiting

/-!
When a verification is busy, and what is left of it once it was closed. It is busy exactly while a
round waits, no two rounds ever wait, and only the answer to a round or its drop ends it. A closed
verification makes no call any more; the round that was on its way changes nothing but `busy`.
-/
namespace SourceMatch.Workflow

variable {w : Workflow} {r : Run} {e : Event} {round : Round} {number : Nat}

def Event.settles (number : Nat) : Event → Prop
  | .answer n _ | .drop n => n = number
  | _ => False

theorem settled (h : r.waiting? number = some round) (he : e.settles number) :
    (r.step w e).run.state.busy = false ∧ (r.step w e).run.waiting? number = none := by
  have ht := transition w r e
  generalize r.step w e = o at ht ⊢
  have hset (s : State) : Run.waiting? ⟨s, r.rounds.set number none⟩ number = none := by
    rw [waiting?_set_none, if_pos rfl]
  cases ht with
  | unheard missing | dropMissing missing =>
    obtain rfl := he
    simp [missing] at h
  | compiled _ _ | registered _ _ _ | rejected _ _ | late _ _ _ | dropped _ =>
    obtain rfl := he
    exact ⟨rfl, hset _⟩
  | immediate immediate => cases e <;> simp [Event.settles, Event.isImmediate] at he immediate
  | _ => exact he.elim

theorem waiting_of_not_settles (h : r.waiting? number = some round) (he : ¬e.settles number) :
    (r.step w e).run.waiting? number = some round := by
  have ht := transition w r e
  generalize r.step w e = o at ht ⊢
  have hset {n : Nat} (s : State) (hn : n ≠ number) :
      Run.waiting? ⟨s, r.rounds.set n none⟩ number = some round := by
    rw [waiting?_set_none, if_neg hn.symm, h]
  cases ht with
  | next _ => rw [waiting?_append_none, h]
  | call _ =>
    have hlt : number < r.rounds.length := Rounds.lt_length_of_waiting h
    rw [waiting?_append_some, if_neg (by omega), h]
  | compiled _ _ | registered _ _ _ | rejected _ _ | late _ _ _ | dropped _ => exact hset _ he
  | _ => exact h

theorem waiting_of_call {p : Option Nat} (h : WaitsFor r p)
    (called : (r.step w e).call = some round) :
    (∀ n, r.waiting? n = none) ∧ (r.step w e).run.waiting? r.rounds.length = some round := by
  obtain ⟨now, state, rfl, hcase, hrun⟩ := called_of_call called
  refine ⟨fun n => ?_, by rw [hrun, waiting?_append_some, if_pos rfl]⟩
  have idle : r.state.busy = false := by cases hcase <;> assumption
  cases hn : r.waiting? n with
  | none => rfl
  | some found => simp [h.busy hn] at idle

theorem state_of_drop (h : r.waiting? number = some round) :
    (r.step w (.drop number)).run.state = { r.state with busy := false } := by
  simp only [Run.step, Run.drop, h]
  rfl

theorem busy_of_immediate (h : e.isImmediate = true) :
    (r.step w e).run.state.busy = r.state.busy := by
  cases e <;> first | rfl | simp [Event.isImmediate] at h

theorem step_disposed (w : Workflow) (r : Run) (e : Event) :
    (r.step w e).run.state.disposed = true ↔ r.state.disposed = true ∨ e = .dispose := by
  have ht := transition w r e
  generalize r.step w e = o at ht ⊢
  cases ht with
  | immediate immediate =>
    cases e with
    | dispose => simp [Run.withState, Event.apply, dispose]
    | _ => simp [Run.withState, Event.apply, setSource, setCompilerVersion, supplyImport,
        replaceImports, Event.isImmediate] at immediate ⊢
  | next moved => cases moved <;> simp
  | call called => cases called <;> simp
  | _ => simp

theorem run_disposed (w : Workflow) (events : List Event) :
    (run w events).state.disposed = true ↔ .dispose ∈ events := by
  induction events using List.reverseRecOn with
  | nil => simp [run]
  | append_singleton events e ih =>
    rw [run_concat, step_disposed, ih, List.mem_append, List.mem_singleton, eq_comm (a := e)]

theorem call_of_disposed (h : r.state.disposed = true) : (r.step w e).call = none := by
  cases hc : (r.step w e).call with
  | none => rfl
  | some round =>
    obtain ⟨now, state, -, hcase, -⟩ := called_of_call hc
    simp [(called_state hcase).1] at h

theorem next_of_disposed (h : r.state.disposed = true) (now : Timestamp) :
    (r.step w (.next now)).effect = .moved (.error .disposed) ∧
      (r.step w (.next now)).run.state = r.state := by
  simp [Run.step, Run.startNext, next, h]

def Round.closedError (a : Answer) : Round → Error
  | .compile .. => .disposed
  | .register .. =>
    match a.registered with
    | .ok () => .disposed
    | .error error => .registry error

theorem answer_of_disposed (hd : r.state.disposed = true) (a : Answer)
    (h : r.waiting? number = some round) :
    (r.step w (.answer number a)).run.state = { r.state with busy := false } ∧
      (r.step w (.answer number a)).effect = .moved (.error (round.closedError a)) := by
  have unwanted (generation : Nat) : isCurrent r.state generation = false := by
    simp [isCurrent, hd]
  have closed : outcome r.state = .error .disposed := by simp [outcome, hd]
  simp only [Run.step, Run.answer, h]
  cases round with
  | compile generation input =>
    simp [finish, finishCompile_late _ (unwanted generation), closed, Round.closedError]
  | register generation record =>
    cases ha : a.registered with
    | error error => simp [finish, finishRegister, ha, Round.closedError]
    | ok _ =>
      simp [finish, ha, finishRegister_late (unwanted generation), closed, Round.closedError]

/-- In every run a verification is busy exactly while one round waits, and never two wait: a call is
made only when none does. An answer or a drop ends the round, nothing else does, and then it is not
busy any more; a drop changes nothing else, and no setter makes it busy or idle. Behind `dispose`
no call is made, an attempt to go on is refused, and an answer changes nothing but `busy`. -/
theorem busy_iff_waiting (w : Workflow) (events : List Event) (e : Event) :
    let r := run w events
    let o := r.step w e
    (r.state.busy = true ↔ ∃! n, (r.waiting? n).isSome) ∧
      (∀ m n, (r.waiting? m).isSome → (r.waiting? n).isSome → m = n) ∧
      (∀ round, o.call = some round →
        (∀ n, r.waiting? n = none) ∧ o.run.waiting? r.rounds.length = some round) ∧
      (∀ n round, r.waiting? n = some round →
        (o.run.waiting? n = none ↔ e.settles n) ∧ (e.settles n → o.run.state.busy = false) ∧
          (e = .drop n → o.run.state = { r.state with busy := false })) ∧
      (e.isImmediate = true → o.run.state.busy = r.state.busy) ∧
      (.dispose ∈ events → o.call = none ∧
        (∀ now, e = .next now → o.effect = .moved (.error .disposed) ∧ o.run.state = r.state) ∧
        ∀ n a round, e = .answer n a → r.waiting? n = some round →
          o.run.state = { r.state with busy := false } ∧
            o.effect = .moved (.error (round.closedError a))) := by
  intro r o
  obtain ⟨p, hp⟩ : ∃ p, WaitsFor r p := run_waitsFor w events
  refine ⟨hp.serves.busy_iff, fun m n => hp.serves.unique, fun round => waiting_of_call hp,
    fun n round h => ⟨⟨fun hn => ?_, fun he => (settled h he).2⟩, fun he => (settled h he).1, ?_⟩,
    busy_of_immediate, fun hd => ?_⟩
  · by_contra he
    rw [waiting_of_not_settles h he] at hn
    cases hn
  · rintro rfl
    exact state_of_drop h
  · have closed : r.state.disposed = true := (run_disposed w events).2 hd
    refine ⟨call_of_disposed closed, ?_, ?_⟩
    · rintro now rfl
      exact next_of_disposed closed now
    · rintro n a round rfl h
      exact answer_of_disposed closed a h

end SourceMatch.Workflow
