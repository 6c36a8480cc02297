import SourceMatch.Session.Run

/-!
Verification in a session of the server: files are uploaded, then each contract that the server
found is checked against the target, one after the other. A check that fails is left out.
-/
namespace SourceMatch.Session.Remote

open Server (SessionData ContractDescriptor CheckRequest Reply)

structure State where
  gate : Gate := {}
  failure : Option Failure := none
  uploadedFiles : List String := []
  unusedFiles : List String := []
  responses : List SessionData := []
deriving DecidableEq, Repr, Inhabited

structure Resolved where
  contract : ContractDescriptor
  response : SessionData
deriving DecidableEq, Repr

def Resolved.contractName (r : Resolved) : String := r.contract.name.getD ""

def resolvedIn? (response : SessionData) : Option Resolved :=
  (response.contracts.find? (·.isOk)).map (⟨·, response⟩)

def State.resolved? (s : State) : Option Resolved := s.responses.findSome? resolvedIn?

/-- The status of the verified contract, else that of the first contract of the last response. -/
def State.status? (s : State) : Option String :=
  match s.resolved? with
  | some r => r.contract.status
  | none => (s.responses.getLast?.bind (·.contracts.head?)).bind (·.status)

def State.itemCount (s : State) : Nat := s.uploadedFiles.length

inductive Round where
  | fetch (generation : Nat)
  | clear (generation : Nat)
  | upload (generation : Nat) (files : Dict String)
  /-- The upload was answered; some of its contracts were checked, one is being checked, and the
  rest waits. -/
  | check (generation : Nat) (uploaded : SessionData) (responses : List SessionData)
      (request : CheckRequest) (rest : List ContractDescriptor)

namespace Round

def generation : Round → Nat
  | .fetch generation => generation
  | .clear generation => generation
  | .upload generation _ => generation
  | .check generation _ _ _ _ => generation

def call : Round → Server.Call
  | .fetch _ => .sessionData
  | .clear _ => .clearSession
  | .upload _ files => .uploadFiles files
  | .check _ _ _ request _ => .verifyChecked [request]

end Round

abbrev Progress := Session.Progress Round

def State.replace (s : State) (data : SessionData) (responses : List SessionData) : State :=
  { s with
    failure := none
    uploadedFiles := data.files
    unusedFiles := data.unused
    responses }

def State.fail (s : State) (e : Server.Error) : State := { s with failure := some (.ofError e) }

/-- Ends a round: its result is taken up only if it is the newest one. -/
def State.close (s : State) (generation : Nat) (apply : State → State) (outcome : RoundOutcome) :
    State × Progress :=
  let s := { s with gate := s.gate.leave }
  if s.gate.isCurrent generation then (apply s, .ended outcome) else (s, .ended .stale)

def checkRequest (target : Target) (verificationId : String) : CheckRequest :=
  { address := target.address.text, chainId := target.chainId, verificationId }

/-- Looks for the next contract to check. Without one the round ends; once the session has moved on
no further check is made. -/
def nextCheck (target : Option Target) (s : State) (generation : Nat) (uploaded : SessionData)
    (responses : List SessionData) : List ContractDescriptor → State × Progress
  | [] => s.close generation (·.replace uploaded responses) .applied
  | c :: rest =>
    match target with
    | none => s.close generation (·.replace uploaded responses) .applied
    | some target =>
      if !s.gate.isCurrent generation then
        s.close generation (·.replace uploaded responses) .applied
      else
        match c.verificationId with
        | none => nextCheck (some target) s generation uploaded responses rest
        | some id =>
          (s, .waiting (.check generation uploaded responses (checkRequest target id) rest))

def begin (s : State) (round : Nat → Round) : State × Progress :=
  match s.gate.refusal? with
  | some outcome => (s, .ended outcome)
  | none =>
    let s := { s with gate := s.gate.enter }
    (s, .waiting (round s.gate.generation))

def fetch (s : State) : State × Progress := begin s .fetch

def clear (s : State) : State × Progress := begin s .clear

def upload (s : State) (files : Dict String) : State × Progress := begin s (.upload · files)

def mount (target : Option Target) (s : State) : State × Progress :=
  if target.isNone then (s, .ended .skipped) else fetch s

def resume (target : Option Target) (s : State) (round : Round) (reply : Reply) :
    State × Progress :=
  match round with
  | .fetch generation =>
    match reply.data with
    | .ok data => s.close generation (·.replace data []) .applied
    | .error e => s.close generation (·.fail e) .failed
  | .clear generation =>
    match reply.text with
    | .ok _ => s.close generation (·.replace {} []) .applied
    | .error e => s.close generation (·.fail e) .failed
  | .upload generation _ =>
    match reply.data with
    | .ok uploaded => nextCheck target s generation uploaded [] uploaded.contracts
    | .error e => s.close generation (·.fail e) .failed
  | .check generation uploaded responses _ rest =>
    let responses := match reply.data with
      | .ok response => responses ++ [response]
      | .error _ => responses
    nextCheck target s generation uploaded responses rest

def drop (s : State) : State := { s with gate := s.gate.leave }

def dispose (s : State) : State := { s with gate := s.gate.dispose }

inductive Event where
  | mount
  | fetch
  | clear
  | upload (files : Dict String)
  | answer (number : Nat) (reply : Reply)
  | drop (number : Nat)
  | dispose

abbrev Run := Session.Run State Round

abbrev Outcome := Session.Outcome State Round

namespace Run

def step (target : Option Target) (r : Run) : Event → Outcome
  | .mount => r.started Round.call (Remote.mount target r.state)
  | .fetch => r.started Round.call (Remote.fetch r.state)
  | .clear => r.started Round.call (Remote.clear r.state)
  | .upload files => r.started Round.call (Remote.upload r.state files)
  | .answer number reply =>
    match r.waiting? number with
    | none => { run := r, effect := .noRound }
    | some round => r.answered Round.call number (resume target r.state round reply)
  | .drop number =>
    match r.waiting? number with
    | none => { run := r, effect := .dropped false }
    | some _ =>
      { run := ⟨Remote.drop r.state, r.rounds.set number none⟩, effect := .dropped true }
  | .dispose => { run := { r with state := Remote.dispose r.state } }

end Run

def run (target : Option Target) (events : List Event) : Run :=
  events.foldl (fun r e => (r.step target e).run) {}

end SourceMatch.Session.Remote
