import SourceMatch.Proofs.Session.Traffic
import SourceMatch.Session.Stateless

/-!
What can happen at one event of a verification in single requests, said once for every event with
all that it takes. New inputs are stored and make the rounds under way stale, whether or not a
request can be sent for them; a reply is taken up, noted as a failure, or comes too late.
-/
namespace SourceMatch.Session.Stateless

open Server (VerifyRequest VerifyResponse Reply)

variable {s : State} {r : Run} {e : Event}

def Inputs.after (i : Inputs) : Event → Inputs
  | .update target files => { i with target, files }
  | _ => i

def Inputs.changedBy (i : Inputs) (e : Event) : Bool := i.after e ≠ i

theorem after_eq_iff (i : Inputs) (target : Option Target) (files : Dict String) :
    i.after (.update target files) = i ↔ i.target = target ∧ i.files = files := by
  obtain ⟨t, f, compilerVersion, contractName⟩ := i
  simp only [Inputs.after, Inputs.mk.injEq, and_true]
  exact and_congr eq_comm eq_comm

def State.stored (s : State) (e : Event) : State :=
  { s with inputs := s.inputs.after e, gate := s.gate.advanceIf (s.inputs.changedBy e) }

theorem stored_of_unchanged (h : s.inputs.changedBy e = false) : s.stored e = s := by
  have same : s.inputs.after e = s.inputs := by simpa [Inputs.changedBy] using h
  rw [State.stored, h, same]
  rfl

theorem resume_late {round : Round} (reply : Reply)
    (unwanted : s.gate.isCurrent round.generation = false) :
    resume s round reply = (drop s, .stale) :=
  if_neg (by rw [Gate.isCurrent_leave, unwanted]; exact Bool.false_ne_true)

theorem resume_wanted {round : Round} (reply : Reply)
    (wanted : s.gate.isCurrent round.generation = true) :
    resume s round reply =
      match reply.verification with
      | .ok response => ({ drop s with failure := none, response := some response }, .applied)
      | .error e => ({ drop s with failure := some (.ofError e) }, .failed) :=
  if_pos wanted

def Event.starts : Event → Bool
  | .update .. | .verify => true
  | _ => false

/-- Whether an event sends the inputs if they make up a request and the gate admits it. -/
def Event.sends (i : Inputs) (e : Event) : Bool :=
  match e with
  | .verify => true
  | e => i.changedBy e

inductive Unsent (s : State) (e : Event) : RoundOutcome → Prop
  | unchanged (same : e.sends s.inputs = false) : Unsent s e .skipped
  | incomplete (missing : (s.inputs.after e).request? = none) : Unsent s e .skipped
  | refused {outcome : RoundOutcome} (sends : e.sends s.inputs = true)
      (refusal : (s.stored e).gate.refusal? = some outcome) : Unsent s e outcome

inductive Transition (r : Run) : Event → Outcome → Prop
  | unsent {e : Event} {outcome : RoundOutcome} (starts : e.starts = true)
      (reason : Unsent r.state e outcome) :
      Transition r e
        { run := ⟨r.state.stored e, r.rounds ++ [none]⟩, effect := .ended outcome }
  | sent {e : Event} {request : VerifyRequest} (starts : e.starts = true)
      (sends : e.sends r.state.inputs = true)
      (complete : (r.state.inputs.after e).request? = some request)
      (admitted : (r.state.stored e).gate.refusal? = none) :
      Transition r e
        { run := ⟨{ r.state.stored e with gate := (r.state.stored e).gate.enter },
            r.rounds ++ [some ⟨(r.state.stored e).gate.enter.generation, request⟩]⟩
          effect := .pending r.rounds.length
          call := some (.verify request) }
  | unheard {number : Nat} {reply : Reply} (missing : r.waiting? number = none) :
      Transition r (.answer number reply) { run := r, effect := .noRound }
  | late {number : Nat} {reply : Reply} {round : Round} (waiting : r.waiting? number = some round)
      (unwanted : r.state.gate.isCurrent round.generation = false) :
      Transition r (.answer number reply)
        { run := ⟨Stateless.drop r.state, r.rounds.set number none⟩, effect := .ended .stale }
  | applied {number : Nat} {reply : Reply} {round : Round} {response : VerifyResponse}
      (waiting : r.waiting? number = some round)
      (wanted : r.state.gate.isCurrent round.generation = true)
      (read : reply.verification = .ok response) :
      Transition r (.answer number reply)
        { run := ⟨{ Stateless.drop r.state with failure := none, response := some response },
            r.rounds.set number none⟩
          effect := .ended .applied }
  | failed {number : Nat} {reply : Reply} {round : Round} {error : Server.Error}
      (waiting : r.waiting? number = some round)
      (wanted : r.state.gate.isCurrent round.generation = true)
      (read : reply.verification = .error error) :
      Transition r (.answer number reply)
        { run := ⟨{ Stateless.drop r.state with failure := some (.ofError error) },
            r.rounds.set number none⟩
          effect := .ended .failed }
  | dropMissing {number : Nat} (missing : r.waiting? number = none) :
      Transition r (.drop number) { run := r, effect := .dropped false }
  | dropped {number : Nat} {round : Round} (waiting : r.waiting? number = some round) :
      Transition r (.drop number)
        { run := ⟨Stateless.drop r.state, r.rounds.set number none⟩, effect := .dropped true }
  | disposed : Transition r .dispose { run := { r with state := Stateless.dispose r.state } }

theorem transition_sends (starts : e.starts = true) (sends : e.sends r.state.inputs = true) :
    Transition r e (r.started Round.call (verify (r.state.stored e))) := by
  rw [verify]
  cases hq : (r.state.stored e).inputs.request? with
  | none => exact .unsent starts (.incomplete hq)
  | some request =>
    cases hg : (r.state.stored e).gate.refusal? with
    | some outcome =>
      exact .unsent starts (.refused sends hg)
    | none =>
      exact .sent starts sends hq hg

theorem transition_update (r : Run) (target : Option Target) (files : Dict String) :
    Transition r (.update target files) (r.step (.update target files)) := by
  rw [Run.step, update]
  by_cases same : r.state.inputs.target = target ∧ r.state.inputs.files = files
  · have unchanged : r.state.inputs.changedBy (.update target files) = false := by
      simpa [Inputs.changedBy] using (after_eq_iff r.state.inputs target files).2 same
    have h := Transition.unsent (r := r) (e := .update target files) rfl (.unchanged unchanged)
    rw [stored_of_unchanged unchanged] at h
    rw [if_pos same]
    exact h
  · have changed : r.state.inputs.changedBy (.update target files) = true := by
      simpa [Inputs.changedBy] using mt (after_eq_iff r.state.inputs target files).1 same
    have h := transition_sends (r := r) (e := .update target files) rfl changed
    rw [State.stored, changed] at h
    rw [if_neg same]
    exact h

theorem transition_answer (r : Run) (number : Nat) (reply : Reply) :
    Transition r (.answer number reply) (r.step (.answer number reply)) := by
  rw [Run.step]
  cases hw : r.waiting? number with
  | none => exact .unheard hw
  | some round =>
    dsimp only
    cases current : r.state.gate.isCurrent round.generation with
    | false =>
      rw [resume_late reply current]
      exact .late hw current
    | true =>
      rw [resume_wanted reply current]
      cases hv : reply.verification with
      | ok response => exact .applied hw current hv
      | error error => exact .failed hw current hv

theorem transition (r : Run) (e : Event) : Transition r e (r.step e) := by
  cases e with
  | update target files => exact transition_update r target files
  | verify =>
    have unchanged : r.state.inputs.changedBy .verify = false := by
      simp [Inputs.changedBy, Inputs.after]
    have h := transition_sends (r := r) (e := .verify) rfl rfl
    rw [stored_of_unchanged unchanged] at h
    exact h
  | answer number reply => exact transition_answer r number reply
  | drop number =>
    rw [Run.step]
    cases hw : r.waiting? number with
    | none => exact .dropMissing hw
    | some round => exact .dropped hw
  | dispose => exact .disposed

end SourceMatch.Session.Stateless
