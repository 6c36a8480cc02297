import SourceMatch.Proofs.Server.Talk
import SourceMatch.Proofs.Session.Remote.Upload
import SourceMatch.Proofs.Session.Stateless.Transition
import SourceMatch.Session.Live

/-!
Rounds against a server, from their first call to their end. With nothing else going on in between a
round is never stale: its first call decides whether it is applied or fails, and only an upload
makes further calls.
-/
namespace SourceMatch

def Server.Answered.error? (a : Answered) : Option Error :=
  match a.call with
  | .clearSession => Session.Remote.refusal? a.reply.text
  | .verify _ => Session.Remote.refusal? a.reply.verification
  | _ => Session.Remote.refusal? a.reply.data

namespace Session

namespace Remote

open Server (Answered Client Reply)

variable {target : Option Target} {s s' : State} {round next : Round} {reply : Reply}
  {outcome : RoundOutcome} {c c' : Client} {n n' : Http.Network}

/-- How a round ends, by the reply to its first call and the checks behind it. -/
inductive Finish (target : Option Target) (round : Round) (reply : Reply) :
    List Answered → Ended State → Prop
  | failed {error : Server.Error} {ended : Ended State} (refused : round.error? reply = some error)
      (outcome : ended.outcome = .failed) (failure : ended.state.failure = some (.ofError error)) :
      Finish target round reply [] ended
  | applied {checked : List Answered} {ended : Ended State} (accepted : round.error? reply = none)
      (calls : checked.map (·.call) = checks target (round.left reply))
      (outcome : ended.outcome = .applied) : Finish target round reply checked ended

theorem finish_of_replied (wanted : s.gate.isCurrent round.generation = true)
    (replied : ReplyCase target s round reply (s', .ended outcome)) :
    s'.gate = s.gate.leave ∧ Finish target round reply [] ⟨s', outcome, c, n⟩ := by
  cases replied with
  | late unwanted => rw [wanted] at unwanted; cases unwanted
  | failed _ refused => exact ⟨rfl, .failed refused rfl rfl⟩
  | fetched _ round_eq data_eq =>
    refine ⟨rfl, .applied ?_ ?_ rfl⟩ <;> rw [round_eq]
    · rw [Round.error?, data_eq]; rfl
    · exact (checks_nil target).symm
  | cleared _ round_eq text_eq =>
    refine ⟨rfl, .applied ?_ ?_ rfl⟩ <;> rw [round_eq]
    · rw [Round.error?, text_eq]; rfl
    · exact (checks_nil target).symm
  | checked _ known next_case =>
    obtain ⟨accepted, left_eq⟩ := left_of_checked known
    cases next_case with
    | finished nothing =>
      refine ⟨rfl, .applied accepted ?_ rfl⟩
      rw [left_eq, checks_of_nothing nothing]
      rfl

theorem conduct_of_ended (sent : c.send n round.call = (reply, c', n'))
    (resumed : resume target s round reply = (s', .ended outcome)) :
    conduct target c n s round = ⟨s', outcome, c', n'⟩ := by
  rw [conduct, sent]
  dsimp only
  split <;> simp_all

theorem conduct_of_waiting (sent : c.send n round.call = (reply, c', n'))
    (resumed : resume target s round reply = (s', .waiting next)) :
    conduct target c n s round = conduct target c' n' s' next := by
  rw [conduct, sent]
  dsimp only
  split <;> simp_all

theorem conduct_spec (target : Option Target) (c : Client) (n : Http.Network)
    (wanted : s.gate.isCurrent round.generation = true) :
    (conduct target c n s round).state.gate = s.gate.leave ∧
      ∃ reply checked,
        c.Talks n (⟨round.call, reply⟩ :: checked) (conduct target c n s round).client
          (conduct target c n s round).network ∧
        Finish target round reply checked (conduct target c n s round) := by
  induction c, n, s, round using conduct.induct target with
  | case1 c n s round reply c' n' sent s' outcome resumed =>
    have replied := resume_cases target s round reply
    rw [resumed] at replied
    rw [conduct_of_ended sent resumed]
    obtain ⟨gate, finish⟩ := finish_of_replied (c := c') (n := n') wanted replied
    exact ⟨gate, reply, [], .one sent, finish⟩
  | case2 c n s round reply c' n' sent s' next resumed ih =>
    have replied := resume_cases target s round reply
    rw [resumed] at replied
    rw [conduct_of_waiting sent resumed]
    obtain ⟨rfl, generation, accepted, turn⟩ := continues_of_replied replied
    obtain ⟨gate, answer, checked, talks, finish⟩ := ih (generation ▸ wanted)
    refine ⟨gate, reply, ⟨next.call, answer⟩ :: checked, .next sent talks, ?_⟩
    obtain ⟨no_error, calls_eq⟩ := turn answer
    -- the next call is a check, so the round is applied whatever comes back
    cases finish with
    | failed refused => rw [no_error] at refused; cases refused
    | applied _ calls outcome =>
      exact .applied accepted (by rw [calls_eq, List.map_cons, calls]) outcome

def followUps (target : Option Target) (a : Answered) : List Server.Call :=
  match a.call with
  | .uploadFiles _ => checks target ((a.reply.data.toOption.map (·.contracts)).getD [])
  | _ => []

/-- The round of each generation begins with a call, and stands or falls with the reply to it. -/
structure Opens (call : Server.Call) (round : Nat → Round) : Prop where
  generation : ∀ g, (round g).generation = g
  first : ∀ g, (round g).call = call
  error : ∀ g reply, (round g).error? reply = Answered.error? ⟨call, reply⟩
  left : ∀ g target reply, checks target ((round g).left reply) = followUps target ⟨call, reply⟩

theorem opens_fetch : Opens .sessionData .fetch where
  generation _ := rfl
  first _ := rfl
  error _ _ := rfl
  left _ target _ := checks_nil target

theorem opens_clear : Opens .clearSession .clear where
  generation _ := rfl
  first _ := rfl
  error _ _ := rfl
  left _ target _ := checks_nil target

theorem opens_upload (files : Dict String) : Opens (.uploadFiles files) (.upload · files) where
  generation _ := rfl
  first _ := rfl
  error _ _ := rfl
  left _ _ _ := rfl

def State.IsIdle (s : State) : Prop := s.gate.refusal? = none

theorem isCurrent_enter {g : Gate} (admitted : g.refusal? = none) :
    g.enter.isCurrent g.enter.generation = true ∧ g.enter.leave.refusal? = none := by
  obtain ⟨live, -⟩ := admitted_iff.1 admitted
  simp [Gate.isCurrent, Gate.enter, Gate.leave, Gate.refusal?, live]

theorem finishLive_begin {call : Server.Call} {round : Nat → Round} (target : Option Target)
    (opens : Opens call round) (idle : s.IsIdle) (c : Client) (n : Http.Network) :
    let ended := finishLive target c n (begin s round)
    ended.state.IsIdle ∧
      ∃ reply checked, c.Talks n (⟨call, reply⟩ :: checked) ended.client ended.network ∧
        match Answered.error? ⟨call, reply⟩ with
        | some error => checked = [] ∧ ended.outcome = .failed ∧
            ended.state.failure = some (.ofError error)
        | none => checked.map (·.call) = followUps target ⟨call, reply⟩ ∧
            ended.outcome = .applied := by
  obtain ⟨current, free⟩ := isCurrent_enter idle
  rw [State.IsIdle] at idle
  simp only [begin, idle, finishLive]
  have wanted := (opens.generation s.gate.enter.generation).symm ▸ current
  obtain ⟨gate, reply, checked, talks, finish⟩ :=
    conduct_spec (s := { s with gate := s.gate.enter }) target c n wanted
  rw [opens.first] at talks
  refine ⟨by rw [State.IsIdle, gate]; exact free, reply, checked, talks, ?_⟩
  cases finish with
  | failed refused outcome failure =>
    rw [opens.error] at refused
    simp [refused, outcome, failure]
  | applied accepted calls outcome =>
    rw [opens.error] at accepted
    rw [opens.left] at calls
    simp [accepted, calls, outcome]

end Remote

namespace Stateless

open Server (Answered Client)

theorem update_withOptions {compilerVersion contractName : Option String} {target : Target}
    {files : Dict String} {request : Server.VerifyRequest}
    (complete : Inputs.request? ⟨some target, files, compilerVersion, contractName⟩ =
      some request) :
    update (.withOptions compilerVersion contractName) (some target) files =
      ({ gate := ⟨true, 2, false⟩
         inputs := ⟨some target, files, compilerVersion, contractName⟩ },
        .waiting ⟨2, request⟩) := by
  have changed : ¬((none : Option Target) = some target ∧ ({} : Dict String) = files) :=
    fun same => nomatch same.1
  have admitted : (Gate.advance {}).refusal? = none := rfl
  simp only [update, State.withOptions, if_neg changed, verify, complete, admitted]
  rfl

theorem finishLive_waiting {s : State} {round : Round}
    (wanted : s.gate.isCurrent round.generation = true) (c : Client) (n : Http.Network) :
    let ended := finishLive c n (s, .waiting round)
    ∃ reply, c.Talks n [⟨round.call, reply⟩] ended.client ended.network ∧
      match Answered.error? ⟨round.call, reply⟩ with
      | some error => ended.outcome = .failed ∧ ended.state.failure = some (.ofError error)
      | none => ended.outcome = .applied := by
  cases sent : c.send n round.call with
  | mk reply behind =>
    simp only [finishLive, sent]
    refine ⟨reply, .one sent, ?_⟩
    rw [resume_wanted reply wanted, Round.call, Answered.error?]
    cases reply.verification with
    | ok response => rfl
    | error error => exact ⟨rfl, rfl⟩

end Stateless

end Session

end SourceMatch
