import SourceMatch.Workflow.Basic

/-!
Runs of a verification: events in any order, among them answers to calls that are still waiting. The
attempts to go on are numbered in the order in which they are made.
-/
namespace SourceMatch.Workflow

inductive Event where
  | setSource (fileName : String) (source : Option String)
  | setCompilerVersion (version : Option String)
  | supplyImport (path source : String) (fileName : Option String)
  | replaceImports (imports : List Import)
  | next (now : Timestamp)
  | back
  | dispose
  | answer (number : Nat) (a : Answer)
  | drop (number : Nat)

structure Run where
  state : State := {}
  rounds : List (Option Round) := []

inductive Effect where
  | silent
  | moved (result : Except Error Step)
  | pending (number : Nat)
  | noRound
  | dropped (wasPending : Bool)

structure Outcome where
  run : Run
  effect : Effect := .silent
  call : Option Round := none

namespace Run

def waiting? (r : Run) (number : Nat) : Option Round := (r.rounds[number]?).join

def withState (r : Run) (state : State) : Outcome := { run := { r with state } }

def startNext (w : Workflow) (r : Run) (now : Timestamp) : Outcome :=
  match w.next r.state now with
  | (state, .ended result) =>
    { run := ⟨state, r.rounds ++ [none]⟩, effect := .moved result }
  | (state, .waiting round) =>
    { run := ⟨state, r.rounds ++ [some round]⟩
      effect := .pending r.rounds.length
      call := some round }

def answer (r : Run) (number : Nat) (a : Answer) : Outcome :=
  match r.waiting? number with
  | none => { run := r, effect := .noRound }
  | some round =>
    let (state, result) := finish r.state round a
    { run := ⟨state, r.rounds.set number none⟩, effect := .moved result }

def drop (r : Run) (number : Nat) : Outcome :=
  match r.waiting? number with
  | none => { run := r, effect := .dropped false }
  | some _ =>
    { run := ⟨Workflow.drop r.state, r.rounds.set number none⟩, effect := .dropped true }

def step (w : Workflow) (r : Run) : Event → Outcome
  | .setSource fileName source => r.withState (w.setSource r.state fileName source)
  | .setCompilerVersion version => r.withState (Workflow.setCompilerVersion r.state version)
  | .supplyImport path source fileName =>
    r.withState (w.supplyImport r.state path source fileName)
  | .replaceImports imports => r.withState (w.replaceImports r.state imports)
  | .next now => startNext w r now
  | .back =>
    let (state, result) := Workflow.back r.state
    { run := { r with state }, effect := .moved result }
  | .dispose => r.withState (Workflow.dispose r.state)
  | .answer number a => r.answer number a
  | .drop number => r.drop number

end Run

def run (w : Workflow) (events : List Event) : Run :=
  events.foldl (fun r e => (r.step w e).run) {}

end SourceMatch.Workflow
