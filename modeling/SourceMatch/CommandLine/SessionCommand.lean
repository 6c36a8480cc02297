import SourceMatch.CommandLine.Upload
import SourceMatch.Session.Live

/-!
The command that verifies in a session of a server: the files are uploaded, and the server's
contracts are checked against the target.
-/
namespace SourceMatch.CommandLine.SessionCommand

open Server (Client)

def conduct (target : Session.Target) (c : Client)
    (begun : Session.Remote.State × Session.Remote.Progress) :
    Action (Session.Remote.State × Client) := do
  let ended := Session.Remote.finishLive (some target) c (← get).network begun
  modify fun w => { w with network := ended.network }
  Upload.requireApplied ended.outcome ended.state.failure
  return (ended.state, ended.client)

def printState (s : Session.Remote.State) : Action Unit := do
  Action.print ("Files in session: " ++ toString s.itemCount)
  s.uploadedFiles.forM fun file => Action.print ("  " ++ file)
  if !s.unusedFiles.isEmpty then
    Action.print ("Unused files: " ++ CommandError.commaSeparated s.unusedFiles)
  match s.resolved? with
  | some r =>
    Action.print ("Verified " ++ r.contractName ++ " (" ++ r.contract.compiledPath.getD "" ++ ")")
  | none => Action.print ("No contract verified yet, status: " ++ s.status?.getD "none")

def run (a : SessionArguments) : Action Unit := do
  let client ← Action.lift .server (Client.ofUrl a.remote.server)
  let target := Upload.target a.remote
  let (s, client) ← conduct target client (Session.Remote.mount (some target) {})
  let (s, client) ←
    if a.clear then do
      let cleared ← conduct target client (Session.Remote.clear s)
      Action.print "Session cleared"
      pure cleared
    else pure (s, client)
  let files ← Upload.collect a.paths
  let (s, _) ←
    if files.isEmpty then pure (s, client)
    else conduct target client (Session.Remote.upload s files)
  printState s

end SourceMatch.CommandLine.SessionCommand
