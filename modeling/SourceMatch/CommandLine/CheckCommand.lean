import SourceMatch.CommandLine.Upload
import SourceMatch.Session.Live

/-!
The command that verifies in a single request to a server.
-/
namespace SourceMatch.CommandLine.CheckCommand

open Server (Client)

def printResponse (r : Server.VerifyResponse) : Action Unit := do
  r.error.forM fun text => Action.print ("Server error: " ++ text)
  r.result.forM fun result =>
    Action.print (result.address ++ " on chain " ++ result.chainId ++ ": " ++ result.status)

def run (a : CheckArguments) : Action Unit := do
  let files ← Upload.collect a.paths
  if files.isEmpty then throw .noFiles
  let client ← Action.lift .server (Client.ofUrl a.remote.server)
  let s := Session.Stateless.State.withOptions a.compilerVersion a.contractName
  let begun := Session.Stateless.update s (some (Upload.target a.remote)) files
  let ended := Session.Stateless.finishLive client (← get).network begun
  modify fun w => { w with network := ended.network }
  Upload.requireApplied ended.outcome ended.state.failure
  ended.state.response.forM printResponse

end SourceMatch.CommandLine.CheckCommand
