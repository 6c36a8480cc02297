import SourceMatch.Compiler.Fetch
import SourceMatch.Compiler.Service
import SourceMatch.Session.Basic
import SourceMatch.Tree.Load
import SourceMatch.Workflow.Basic

/-!
What a command works on, and why it fails. A command that fails keeps what it has done so far.
-/
namespace SourceMatch.CommandLine

inductive CommandError where
  | server (error : Server.Error)
  | index (error : IndexError)
  | compiler (error : CompileError)
  | sources (error : SourceError)
  | registry (error : RegistryError)
  | workflow (error : Workflow.Error)
  | unreadable (path : String) (fault : Disk.Fault)
  | notAFile (path : String)
  | noCompiler (fileName : String)
  | unknownCompiler (version : String)
  | unresolvedImports (paths : List String)
  | mismatch (fileName : String)
  | round (failure : Session.Failure)
  | noFiles
deriving DecidableEq, Repr

namespace CommandError

def commaSeparated : List String → String
  | [] => ""
  | [item] => item
  | item :: items => item ++ ", " ++ commaSeparated items

def message : CommandError → String
  | .server e => e.message
  | .index e => e.message
  | .compiler e => e.message
  | .sources e => e.message
  | .registry e => e.message
  | .workflow e => e.message
  | .unreadable path fault => "[E050] Couldn't read " ++ path ++ ": " ++ fault.message
  | .notAFile path => "[E051] " ++ path ++ " is not a file"
  | .noCompiler fileName =>
    "[E052] No compiler release satisfies the pragma in " ++ fileName ++ "\n\nSuggestions:\n" ++
      "  • Check the `pragma solidity` line of the source\n" ++
      "  • Pick a compiler with --compiler-version"
  | .unknownCompiler version =>
    "[E053] Compiler version " ++ version ++ " is not in the release index\n\nSuggestions:\n" ++
      "  • Use a released version such as 0.8.18\n" ++
      "  • Check --index-url points at the release list"
  | .unresolvedImports paths =>
    "[E054] Couldn't find the source of: " ++ commaSeparated paths ++ "\n\nSuggestions:\n" ++
      "  • Point --imports at the directory holding the imported files"
  | .mismatch fileName =>
    "[E055] The deployed bytecode doesn't match any contract in " ++ fileName ++
      "\n\nSuggestions:\n" ++ "  • Check the compiler version and the imported sources\n" ++
      "  • Make sure the bytecode is the deployed (runtime) bytecode"
  | .round failure => "[E056] Verification server request failed: " ++ failure.message
  | .noFiles =>
    "[E057] Nothing to verify\n\nSuggestions:\n" ++
      "  • Pass the Solidity files or the directories holding them"

end CommandError

structure World where
  disk : Disk
  network : Http.Network
  home : Option String
  now : Timestamp
  printed : List String := []
  reported : List String := []

abbrev Action := ExceptT CommandError (StateM World)

namespace Action

def print (line : String) : Action Unit :=
  modify fun w => { w with printed := w.printed ++ [line] }

def report (line : String) : Action Unit :=
  modify fun w => { w with reported := w.reported ++ [line] }

def lift {ε α : Type} (wrap : ε → CommandError) : Except ε α → Action α
  | .ok a => pure a
  | .error e => throw (wrap e)

def readFile (path : String) : Action String := do
  lift (.unreadable path) ((← get).disk.read path)

def loadTree (root : String) : Action SourceTree := do
  lift .sources (SourceTree.load (← get).disk root)

def fetchIndex (url : Url) : Action CompilerIndex := do
  let (result, network) := CompilerIndex.fetch (← get).network url
  modify fun w => { w with network }
  lift .index result

def openRegistry (path : Option String) : Action Registry := do
  let world ← get
  let path ← match path, world.home with
    | some path, _ => pure path
    | none, some home => pure (Registry.underHome home)
    | none, none => throw (.registry .noHome)
  let (registry, disk) ← lift .registry (Registry.openAt world.disk path)
  modify fun w => { w with disk }
  return registry

end Action

end SourceMatch.CommandLine
