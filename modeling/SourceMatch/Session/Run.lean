import SourceMatch.Session.Basic

/-!
Runs of a session of any kind. A run has the state of the session and a numbered table of the rounds
begun so far; a round that waits stands in it with the call whose answer it waits for.
-/
namespace SourceMatch.Session

variable {σ ρ : Type}

inductive Progress (ρ : Type) where
  | ended (outcome : RoundOutcome)
  | waiting (round : ρ)

structure Run (σ ρ : Type) where
  state : σ := by exact {}
  rounds : List (Option ρ) := []

inductive Effect where
  | silent
  | ended (outcome : RoundOutcome)
  | pending (number : Nat)
  | noRound
  | dropped (wasPending : Bool)
deriving DecidableEq, Repr

structure Outcome (σ ρ : Type) where
  run : Run σ ρ
  effect : Effect := .silent
  call : Option Server.Call := none

namespace Run

def waiting? (r : Run σ ρ) (number : Nat) : Option ρ := (r.rounds[number]?).join

def started (call : ρ → Server.Call) (r : Run σ ρ) (next : σ × Progress ρ) : Outcome σ ρ :=
  match next with
  | (state, .ended outcome) => { run := ⟨state, r.rounds ++ [none]⟩, effect := .ended outcome }
  | (state, .waiting round) =>
    { run := ⟨state, r.rounds ++ [some round]⟩
      effect := .pending r.rounds.length
      call := some (call round) }

def answered (call : ρ → Server.Call) (r : Run σ ρ) (number : Nat) (next : σ × Progress ρ) :
    Outcome σ ρ :=
  match next with
  | (state, .ended outcome) =>
    { run := ⟨state, r.rounds.set number none⟩, effect := .ended outcome }
  | (state, .waiting round) =>
    { run := ⟨state, r.rounds.set number (some round)⟩
      effect := .pending number
      call := some (call round) }

end Run

end SourceMatch.Session
