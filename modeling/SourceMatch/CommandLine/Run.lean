import SourceMatch.CommandLine.CheckCommand
import SourceMatch.CommandLine.SessionCommand
import SourceMatch.CommandLine.VerifyCommand

/-!
Running a command, and the paths that it looks at.
-/
namespace SourceMatch.CommandLine

namespace Command

def action : Command → Action Unit
  | .verify a => VerifyCommand.run a
  | .session a => SessionCommand.run a
  | .check a => CheckCommand.run a

def run (c : Command) (w : World) : Except CommandError Unit × World :=
  (c.action.run).run w

def bytecodePaths (args : List String) : List String :=
  args.filterMap fun arg =>
    match Text.after? "--bytecode=".toList arg.toList, arg.toList with
    | some ('@' :: path), _ => some (String.ofList path)
    | none, '@' :: path => some (String.ofList path)
    | _, _ => none

def paths (home : Option String) : Command → List String
  | .verify a =>
    let root := a.imports.or (Path.parent? a.source)
    let registry := a.registry.or (home.map Registry.underHome)
    [a.source] ++ root.toList ++ registry.toList
  | .session a => a.paths
  | .check a => a.paths

end Command

end SourceMatch.CommandLine
