import SourceMatch.Session.Run

/-!
Verification in single requests: whenever the contract or the files change, all files are sent
again. An answer to a request for other inputs is never taken up.
-/
namespace SourceMatch.Session.Stateless

open Server (VerifyRequest VerifyResponse Reply)

structure Inputs where
  target : Option Target := none
  files : Dict String := {}
  compilerVersion : Option String := none
  contractName : Option String := none
deriving DecidableEq

def Inputs.request? (i : Inputs) : Option VerifyRequest :=
  match i.target with
  | none => none
  | some target =>
    if i.files.isEmpty then none
    else some {
      address := target.address.text
      chain := target.chainId
      files := i.files
      compilerVersion := i.compilerVersion
      contractName := i.contractName }

structure State where
  gate : Gate := {}
  failure : Option Failure := none
  response : Option VerifyResponse := none
  inputs : Inputs := {}

def State.withOptions (compilerVersion contractName : Option String) : State :=
  { inputs := { compilerVersion, contractName } }

def State.status? (s : State) : Option String :=
  (s.response.bind (·.result.head?)).map (·.status)

structure Round where
  generation : Nat
  request : VerifyRequest

def Round.call (r : Round) : Server.Call := .verify r.request

abbrev Progress := Session.Progress Round

def verify (s : State) : State × Progress :=
  match s.inputs.request? with
  | none => (s, .ended .skipped)
  | some request =>
    match s.gate.refusal? with
    | some outcome => (s, .ended outcome)
    | none =>
      let s := { s with gate := s.gate.enter }
      (s, .waiting ⟨s.gate.generation, request⟩)

/-- Takes up new inputs and sends them. Nothing happens if they are the old ones; while a request is
under way its answer becomes stale, but no other request is sent. -/
def update (s : State) (target : Option Target) (files : Dict String) : State × Progress :=
  if s.inputs.target = target ∧ s.inputs.files = files then (s, .ended .skipped)
  else
    verify { s with inputs := { s.inputs with target, files }, gate := s.gate.advance }

def resume (s : State) (round : Round) (reply : Reply) : State × RoundOutcome :=
  let s := { s with gate := s.gate.leave }
  if s.gate.isCurrent round.generation then
    match reply.verification with
    | .ok response => ({ s with failure := none, response := some response }, .applied)
    | .error e => ({ s with failure := some (.ofError e) }, .failed)
  else (s, .stale)

def drop (s : State) : State := { s with gate := s.gate.leave }

def dispose (s : State) : State := { s with gate := s.gate.dispose }

inductive Event where
  | update (target : Option Target) (files : Dict String)
  | verify
  | answer (number : Nat) (reply : Reply)
  | drop (number : Nat)
  | dispose

abbrev Run := Session.Run State Round

abbrev Outcome := Session.Outcome State Round

namespace Run

def step (r : Run) : Event → Outcome
  | .update target files => r.started Round.call (Stateless.update r.state target files)
  | .verify => r.started Round.call (Stateless.verify r.state)
  | .answer number reply =>
    match r.waiting? number with
    | none => { run := r, effect := .noRound }
    | some round =>
      let (state, outcome) := resume r.state round reply
      { run := ⟨state, r.rounds.set number none⟩, effect := .ended outcome }
  | .drop number =>
    match r.waiting? number with
    | none => { run := r, effect := .dropped false }
    | some _ =>
      { run := ⟨Stateless.drop r.state, r.rounds.set number none⟩, effect := .dropped true }
  | .dispose => { run := { r with state := Stateless.dispose r.state } }

end Run

def run (start : State) (events : List Event) : Run :=
  events.foldl (fun r e => (r.step e).run) { state := start }

end SourceMatch.Session.Stateless
