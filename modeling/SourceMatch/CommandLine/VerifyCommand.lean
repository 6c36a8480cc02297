import SourceMatch.CommandLine.Command
import SourceMatch.CommandLine.World

/-!
The command that compiles a source and compares it with deployed bytecode: it goes through the steps
of a verification, whose calls go to the compile service and to the registry.
-/
namespace SourceMatch.CommandLine.VerifyCommand

structure Services where
  compiler : CompileService
  registry : Registry

def answer (s : Workflow.State) (services : Services) :
    Workflow.Round → Action (Workflow.State × Except Workflow.Error Step)
  | .compile generation input => do
    let (result, network) := services.compiler.compile (← get).network input
    modify fun w => { w with network }
    return Workflow.finishCompile s generation result
  | .register generation record => do
    match services.registry.register (← get).disk record with
    | .ok disk =>
      modify fun w => { w with disk }
      return Workflow.finishRegister s generation (.ok ())
    | .error e => return Workflow.finishRegister s generation (.error e)

def next (w : Workflow) (services : Services) (s : Workflow.State) : Action Workflow.State := do
  let (s, result) ← match w.next s (← get).now with
    | (s, .ended result) => pure (s, result)
    | (s, .waiting round) => answer s services round
  let _ ← Action.lift .workflow result
  return s

def fillFrom (w : Workflow) (tree : SourceTree) : Nat → Workflow.State → Workflow.State
  | 0, s => s
  | fuel + 1, s =>
    let filled := tree.fill s.imports
    if filled = s.imports then s else fillFrom w tree fuel (w.replaceImports s filled)

/-- Gives all imports their contents that the tree has. Each round gives one to an import at least,
and all imports are in the list already or are named in the tree. -/
def fill (w : Workflow) (tree : SourceTree) (s : Workflow.State) : Workflow.State :=
  let named := tree.files.flatMap fun f => Import.pathsIn f.2
  fillFrom w tree (s.imports.length + named.length) s

def selectCompiler (w : Workflow) (s : Workflow.State) (requested : Option String) :
    Action Workflow.State :=
  match requested with
  | none => return s
  | some version =>
    if w.index.contains version then return Workflow.setCompilerVersion s (some version)
    else throw (.unknownCompiler version)

def reportErrors (output : CompileOutput) : Action Unit :=
  (output.messages.filter (·.severity = .error)).forM fun m =>
    Action.report (m.formattedMessage.getD m.message)

structure Setup where
  fileName : String
  source : String
  tree : SourceTree
  workflow : Workflow
  services : Services

def prepare (a : VerifyArguments) : Action Setup := do
  let source ← Action.readFile a.source
  let some fileName := (Path.fileName? a.source).map String.ofList
    | throw (.notAFile a.source)
  let tree ← Action.loadTree ((a.imports.or (Path.parent? a.source)).getD ".")
  let index ← Action.fetchIndex a.indexUrl
  let registry ← Action.openRegistry a.registry
  let compiler ← Action.lift .compiler (CompileService.ofUrl a.compilerUrl)
  let workflow := Workflow.ofBytecode index {} a.contractId a.bytecode
  return { fileName, source, tree, workflow, services := ⟨compiler, registry⟩ }

def enter (p : Setup) (requested : Option String) : Action Workflow.State := do
  let s ← next p.workflow p.services (p.workflow.setSource {} p.fileName (some p.source))
  let s ← selectCompiler p.workflow s requested
  let some version := s.compilerVersion
    | throw (.noCompiler p.fileName)
  Action.print ("Using compiler " ++ version)
  next p.workflow p.services s

def resolve (p : Setup) (s : Workflow.State) : Action Workflow.State := do
  let s := fill p.workflow p.tree s
  let missing := (s.imports.filter (!·.isResolved)).map (·.path)
  if !missing.isEmpty then throw (.unresolvedImports missing)
  return s

def compare (p : Setup) (s : Workflow.State) : Action (Workflow.State × ContractMatch) := do
  let s ← next p.workflow p.services s
  s.output.forM reportErrors
  let some found := (p.workflow.match? s).filter (·.kind.isMatch)
    | throw (.mismatch p.fileName)
  Action.print
    (found.contract.name ++ " is a " ++ found.kind.text ++ " of the deployed bytecode")
  return (s, found)

def register (p : Setup) (s : Workflow.State) (found : ContractMatch)
    (contractId : Option String) : Action Unit := do
  let _ ← next p.workflow p.services s
  match contractId with
  | some id => Action.print ("Registered " ++ found.contract.name ++ " as " ++ id)
  | none =>
    Action.print ("No --contract-id given, " ++ found.contract.name ++ " was not registered")

def run (a : VerifyArguments) : Action Unit := do
  let p ← prepare a
  let s ← enter p a.compilerVersion
  let s ← resolve p s
  let (s, found) ← compare p s
  register p s found a.contractId

end SourceMatch.CommandLine.VerifyCommand
