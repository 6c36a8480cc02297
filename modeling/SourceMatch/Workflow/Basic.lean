import SourceMatch.Compiler.Service
import SourceMatch.Import.Resolver
import SourceMatch.Registry
import SourceMatch.Workflow.Step

/-!
A local verification: a source is entered, a compiler selected, its imports are resolved, it is
compiled and compared with the deployed code, and a match is registered. Compiling and registering
are calls to the outside. A call carries the generation in which it was started, and what comes back
in another generation is not taken up.
-/
namespace SourceMatch

namespace Workflow

inductive Error where
  | busy
  | notReady (step : Step)
  | cannotGoBack (step : Step)
  | finished
  | disposed
  | registry (error : RegistryError)
deriving DecidableEq, Repr

namespace Error

def code : Error → String
  | .busy => "E040"
  | .notReady _ => "E041"
  | .cannotGoBack _ => "E042"
  | .finished => "E043"
  | .disposed => "E044"
  | .registry e => e.code

def message : Error → String
  | .busy =>
    "[E040] A compilation or registration is still running\n\nSuggestions:\n" ++
      "  • Wait for it to finish before changing steps"
  | .notReady step => "[E041] Step " ++ step.text ++ " is not complete"
  | .cannotGoBack step => "[E042] Can't go back from step " ++ step.text
  | .finished => "[E043] Verification already reached its last step"
  | .disposed =>
    "[E044] Verification was closed\n\nSuggestions:\n" ++ "  • Start a new verification"
  | .registry e => e.message

end Error

structure State where
  step : Step := .sourceEntry
  busy : Bool := false
  sourceFileName : String := ""
  source : Option String := none
  compilerVersion : Option String := none
  imports : List Import := []
  output : Option CompileOutput := none
  generation : Nat := 0
  disposed : Bool := false
deriving Repr, Inhabited

inductive Round where
  | compile (generation : Nat) (input : CompilerInput)
  | register (generation : Nat) (record : Registration)

end Workflow

/-- What a verification is about: the deployed code without `0x`, and the contract under which a
match is registered, if any. -/
structure Workflow where
  index : CompilerIndex
  resolver : ImportResolver
  contractId : Option String
  deployed : String

namespace Workflow

def ofBytecode (index : CompilerIndex) (resolver : ImportResolver) (contractId : Option String)
    (bytecode : String) : Workflow :=
  ⟨index, resolver, contractId, Bytecode.stripMark bytecode⟩

/-- A new source: the compiler is guessed and the imports are listed anew. -/
def setSource (w : Workflow) (s : State) (fileName : String) (source : Option String) : State :=
  { s with
    sourceFileName := fileName
    source
    compilerVersion := source.bind w.index.resolve?
    imports := (source.map fun text => w.resolver.settle (w.resolver.seed text)).getD []
    output := none
    generation := s.generation + 1 }

def setCompilerVersion (s : State) (version : Option String) : State :=
  { s with compilerVersion := version }

def supplyImport (w : Workflow) (s : State) (path source : String) (fileName : Option String) :
    State :=
  { s with imports := w.resolver.settle (Import.supply s.imports path source fileName) }

def replaceImports (w : Workflow) (s : State) (imports : List Import) : State :=
  { s with imports := w.resolver.settle imports }

def dispose (s : State) : State :=
  { s with disposed := true, generation := s.generation + 1 }

def match? (w : Workflow) (s : State) : Option ContractMatch := do
  (← s.output).findMatch? s.sourceFileName w.deployed

def matchKind (w : Workflow) (s : State) : MatchKind :=
  ((w.match? s).map (·.kind)).getD .mismatch

def unresolvedCount (s : State) : Nat := Import.unresolvedCount s.imports

def isReady (w : Workflow) (s : State) : Bool :=
  match s.step with
  | .sourceEntry => s.source.isSome
  | .compilerSelection => s.compilerVersion.isSome
  | .importResolution => s.compilerVersion.isSome && unresolvedCount s = 0
  | .compileAndCompare => (w.match? s).any (·.kind.isMatch)
  | .register => false

def canNext (w : Workflow) (s : State) : Bool := !s.busy && w.isReady s

def canBack (s : State) : Bool := !s.busy && s.step.previous?.isSome

def back (s : State) : State × Except Error Step :=
  if s.busy then (s, .error .busy)
  else
    match s.step.previous? with
    | some step => ({ s with step }, .ok step)
    | none => (s, .error (.cannotGoBack s.step))

inductive Started where
  | ended (result : Except Error Step)
  | waiting (round : Round)

def compilerInput (w : Workflow) (s : State) (version : String) : CompilerInput :=
  CompilerInput.ofRequest
    (CompileRequest.ofImports s.sourceFileName (s.source.getD "") s.imports version) w.index

def registration? (w : Workflow) (s : State) (found : ContractMatch) (now : Timestamp) :
    Option Registration :=
  w.contractId.map fun contractId =>
    let contract := s.output.bind (·.contract? s.sourceFileName found.contract.name)
    { contractId
      contractName := found.contract.name
      compilerVersion := s.compilerVersion.getD ""
      sourceFileName := s.sourceFileName
      matchKind := found.kind
      abi := (contract.map (·.abi)).getD .null
      timestamp := now }

def beginCompile (w : Workflow) (s : State) : State × Started :=
  match s.compilerVersion with
  | none => (s, .ended (.error (.notReady .importResolution)))
  | some version =>
    let generation := s.generation + 1
    ({ s with step := .compileAndCompare, busy := true, generation },
      .waiting (.compile generation (w.compilerInput s version)))

/-- Registers the match; without a contract to register it under, the last step is entered at
once. -/
def beginRegister (w : Workflow) (s : State) (now : Timestamp) : State × Started :=
  match w.match? s with
  | none => (s, .ended (.error (.notReady .compileAndCompare)))
  | some found =>
    match w.registration? s found now with
    | some record => ({ s with busy := true }, .waiting (.register s.generation record))
    | none => ({ s with step := .register }, .ended (.ok .register))

def next (w : Workflow) (s : State) (now : Timestamp) : State × Started :=
  if s.disposed then (s, .ended (.error .disposed))
  else if s.busy then (s, .ended (.error .busy))
  else
    match s.step.next? with
    | none => (s, .ended (.error .finished))
    | some target =>
      if !w.isReady s then (s, .ended (.error (.notReady s.step)))
      else
        match target with
        | .compileAndCompare => w.beginCompile s
        | .register => w.beginRegister s now
        | target => ({ s with step := target }, .ended (.ok target))

/-- Whether what comes back to a call of a generation is still wanted. -/
def isCurrent (s : State) (generation : Nat) : Bool :=
  !s.disposed && s.generation = generation

def outcome (s : State) : Except Error Step :=
  if s.disposed then .error .disposed else .ok s.step

def finishCompile (s : State) (generation : Nat) (result : Except CompileError CompileOutput) :
    State × Except Error Step :=
  let s := { s with busy := false }
  let s := if isCurrent s generation then { s with output := result.toOption } else s
  (s, outcome s)

def finishRegister (s : State) (generation : Nat) (result : Except RegistryError Unit) :
    State × Except Error Step :=
  let s := { s with busy := false }
  match result with
  | .error e => (s, .error (.registry e))
  | .ok () =>
    let s := if isCurrent s generation then { s with step := .register } else s
    (s, outcome s)

structure Answer where
  compiled : Except CompileError CompileOutput
  registered : Except RegistryError Unit

def finish (s : State) (round : Round) (a : Answer) : State × Except Error Step :=
  match round with
  | .compile generation _ => finishCompile s generation a.compiled
  | .register generation _ => finishRegister s generation a.registered

def drop (s : State) : State := { s with busy := false }

end Workflow

end SourceMatch
