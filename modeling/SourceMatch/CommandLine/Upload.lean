import SourceMatch.CommandLine.Command
import SourceMatch.CommandLine.World

/-!
What the commands that hand sources to a server have in common: the files that are sent, the
contract that is meant, and that a round has to be applied.
-/
namespace SourceMatch.CommandLine.Upload

def filesAt (path : String) : Action (List (String × String)) := do
  if (← get).disk.isFolder path then
    return (← Action.loadTree path).toDict.entries
  else
    let some name := Path.fileName? path
      | throw (.notAFile path)
    return [(String.ofList name, ← Action.readFile path)]

def collect (paths : List String) : Action (Dict String) := do
  return Dict.ofList (← paths.mapM filesAt).flatten

def target (r : Remote) : Session.Target := ⟨r.address, r.chainId⟩

def requireApplied (outcome : Session.RoundOutcome) (failure : Option Session.Failure) :
    Action Unit :=
  match outcome with
  | .applied | .skipped => return ()
  | outcome => throw (.round (failure.getD ⟨"E056", "round ended as " ++ outcome.name⟩))

end SourceMatch.CommandLine.Upload
