import SourceMatch.Server.Client
import SourceMatch.Session.Remote
import SourceMatch.Session.Stateless

/-!
Rounds against a server: every call is sent over the network and answered before anything else
happens. The calls of a round come to an end because each check leaves fewer contracts to be
checked.
-/
namespace SourceMatch.Session

open Server (Client Reply SessionData ContractDescriptor)

structure Ended (σ : Type) where
  state : σ
  outcome : RoundOutcome
  client : Client
  network : Http.Network

namespace Remote

/-- How far a round is from its end: an upload comes before its checks, and a check before those of
the rest. -/
def Round.distance : Round → Nat × Nat
  | .upload _ _ => (1, 0)
  | .check _ _ _ _ rest => (0, rest.length + 1)
  | .fetch _ | .clear _ => (0, 0)

theorem not_waiting_close {s : State} {generation : Nat} {apply : State → State}
    {outcome : RoundOutcome} {round : Round} :
    (s.close generation apply outcome).2 = .waiting round → False := by
  intro h
  simp only [State.close] at h
  split at h <;> simp at h

theorem distance_nextCheck {target : Option Target} {s : State} {generation : Nat}
    {uploaded : SessionData} {responses : List SessionData} {contracts : List ContractDescriptor}
    {round : Round}
    (h : (nextCheck target s generation uploaded responses contracts).2 = .waiting round) :
    round.distance.1 = 0 ∧ round.distance.2 ≤ contracts.length := by
  induction contracts with
  | nil => exact (not_waiting_close h).elim
  | cons c rest ih =>
    cases target with
    | none => exact (not_waiting_close h).elim
    | some target =>
      rw [nextCheck] at h
      split at h
      · exact (not_waiting_close h).elim
      · split at h
        · exact ⟨(ih h).1, Nat.le_succ_of_le (ih h).2⟩
        · cases h
          exact ⟨rfl, Nat.le_refl _⟩

theorem distance_resume {target : Option Target} {s : State} {round next : Round} {reply : Reply}
    (h : (resume target s round reply).2 = .waiting next) :
    Prod.Lex (· < ·) (· < ·) next.distance round.distance := by
  cases round with
  | fetch generation =>
    simp only [resume] at h
    split at h <;> exact (not_waiting_close h).elim
  | clear generation =>
    simp only [resume] at h
    split at h <;> exact (not_waiting_close h).elim
  | upload generation files =>
    simp only [resume] at h
    split at h
    · have h := (distance_nextCheck h).1
      exact Prod.lex_def.2 (Or.inl (h ▸ Nat.zero_lt_one))
    · exact (not_waiting_close h).elim
  | check generation uploaded responses request rest =>
    have h := distance_nextCheck h
    exact Prod.lex_def.2 (Or.inr ⟨h.1, Nat.lt_succ_of_le h.2⟩)

def conduct (target : Option Target) (c : Client) (n : Http.Network) (s : State) (round : Round) :
    Ended State :=
  match c.send n round.call with
  | (reply, c, n) =>
    match _h : resume target s round reply with
    | (s, .ended outcome) => ⟨s, outcome, c, n⟩
    | (s, .waiting next) => conduct target c n s next
termination_by round.distance
decreasing_by exact distance_resume (congrArg Prod.snd _h)

def finishLive (target : Option Target) (c : Client) (n : Http.Network) :
    State × Progress → Ended State
  | (s, .ended outcome) => ⟨s, outcome, c, n⟩
  | (s, .waiting round) => conduct target c n s round

end Remote

namespace Stateless

def finishLive (c : Client) (n : Http.Network) : State × Progress → Ended State
  | (s, .ended outcome) => ⟨s, outcome, c, n⟩
  | (s, .waiting round) =>
    match c.send n round.call with
    | (reply, c, n) =>
      let (s, outcome) := resume s round reply
      ⟨s, outcome, c, n⟩

end Stateless

end SourceMatch.Session
