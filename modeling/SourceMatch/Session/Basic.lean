import SourceMatch.Address
import SourceMatch.Server.Reply

/-!
What the two kinds of verification on a server have in common: the contract to verify, the failure
of a round, and the gate that admits one round at a time. Each round gets a generation, and only the
newest one may change what is known.
-/
namespace SourceMatch.Session

structure Target where
  address : Address
  chainId : String
deriving DecidableEq, Repr, Inhabited

structure Failure where
  code : String
  message : String
deriving DecidableEq, Repr, Inhabited

def Failure.ofError (e : Server.Error) : Failure := ⟨e.code, e.message⟩

inductive RoundOutcome where
  | applied
  /-- A call failed; the failure was noted, and what was known before stays. -/
  | failed
  | busy
  /-- The session was disposed of or has moved on; the answer was dropped. -/
  | stale
  | skipped
deriving DecidableEq, Repr, Inhabited

def RoundOutcome.name : RoundOutcome → String
  | .applied => "Applied"
  | .failed => "Failed"
  | .busy => "Busy"
  | .stale => "Stale"
  | .skipped => "Skipped"

structure Gate where
  busy : Bool := false
  generation : Nat := 0
  disposed : Bool := false
deriving DecidableEq, Repr, Inhabited

namespace Gate

def refusal? (g : Gate) : Option RoundOutcome :=
  if g.disposed then some .stale else if g.busy then some .busy else none

def enter (g : Gate) : Gate := { g with busy := true, generation := g.generation + 1 }

def isCurrent (g : Gate) (generation : Nat) : Bool := !g.disposed && g.generation = generation

def leave (g : Gate) : Gate := { g with busy := false }

def advance (g : Gate) : Gate := { g with generation := g.generation + 1 }

def dispose (g : Gate) : Gate := { g with disposed := true, generation := g.generation + 1 }

@[simp] theorem isCurrent_leave (g : Gate) (n : Nat) : g.leave.isCurrent n = g.isCurrent n := rfl

theorem isCurrent_dispose (g : Gate) (n : Nat) : g.dispose.isCurrent n = false := rfl

end Gate

end SourceMatch.Session
