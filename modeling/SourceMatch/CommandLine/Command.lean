import SourceMatch.CommandLine.Arguments

/-!
The three commands and their arguments.
-/
namespace SourceMatch.CommandLine

structure VerifyArguments where
  source : String
  imports : Option String
  bytecode : String
  contractId : Option String
  compilerVersion : Option String
  compilerUrl : Url
  indexUrl : Url
  registry : Option String
deriving Repr

structure Remote where
  server : Url
  network : Option KnownNetwork
  chainId : String
  address : Address
deriving Repr

structure SessionArguments where
  remote : Remote
  clear : Bool
  paths : List String
deriving Repr

structure CheckArguments where
  remote : Remote
  compilerVersion : Option String
  contractName : Option String
  paths : List String
deriving Repr

inductive Command where
  | verify (arguments : VerifyArguments)
  | session (arguments : SessionArguments)
  | check (arguments : CheckArguments)
deriving Repr

def urlOrDefault (given : Option Url) (default : String) : Except Refusal Url :=
  match given with
  | some url => .ok url
  | none => Parameter.readUrl default

namespace VerifyArguments

def grammar : Grammar where
  parameters := [.source, .imports, .bytecode, .contractId, .compilerVersion, .compilerUrl,
    .indexUrl, .registry]
  takesPaths := false

def ofArguments (a : Arguments) : Except Refusal VerifyArguments := do
  let source ← a.require .source
  let bytecode ← a.require .bytecode
  let compilerUrl ← a.require .compilerUrl
  let indexUrl ← urlOrDefault (a.get? .indexUrl) CompilerIndex.defaultUrl
  return {
    source, bytecode, compilerUrl, indexUrl
    imports := a.get? .imports
    contractId := a.get? .contractId
    compilerVersion := a.get? .compilerVersion
    registry := a.get? .registry }

end VerifyArguments

namespace Remote

def parameters : List Parameter := [.server, .network, .chainId, .address]

def chainIdOf (a : Arguments) : Except Refusal String :=
  match a.get? .chainId, a.get? .network with
  | some id, _ => .ok id
  | none, some network => .ok network.chainId
  | none, none => .error .missing

def ofArguments (a : Arguments) : Except Refusal Remote := do
  let server ← urlOrDefault (a.get? .server) Server.Client.defaultServer
  let chainId ← chainIdOf a
  let address ← a.require .address
  return { server, network := a.get? .network, chainId, address }

end Remote

namespace SessionArguments

def grammar : Grammar := ⟨Remote.parameters ++ [.clear], true⟩

def ofArguments (a : Arguments) : Except Refusal SessionArguments := do
  return { remote := ← Remote.ofArguments a, clear := a.has .clear, paths := a.paths }

end SessionArguments

namespace CheckArguments

def grammar : Grammar := ⟨Remote.parameters ++ [.compilerVersion, .contractName], true⟩

def ofArguments (a : Arguments) : Except Refusal CheckArguments := do
  let remote ← Remote.ofArguments a
  if a.paths.isEmpty then throw .missing
  return {
    remote, paths := a.paths
    compilerVersion := a.get? .compilerVersion
    contractName := a.get? .contractName }

end CheckArguments

namespace Command

def names : List String := ["verify", "session", "check"]

def readHelp : List String → Refusal
  | [] => .help
  | [topic] => if topic ∈ "help" :: names then .help else .unknownCommand
  | _ => .unknownCommand

def readOption (option : List Char) : Refusal :=
  match Arguments.splitOption option with
  | ("help", none) => .help
  | ("version", none) => .version
  | ("help", some _) | ("version", some _) => .surplusValue
  | _ => .unknownArgument

def readTrailing : List String → Refusal
  | [] => .noArguments
  | arg :: _ => if arg ∈ "help" :: names then .unknownArgument else .unknownCommand

def parse (d : Disk) (args : List String) : Except Refusal Command :=
  match args with
  | [] => .error .noArguments
  | "verify" :: rest => do
    return .verify (← VerifyArguments.ofArguments (← Arguments.read d VerifyArguments.grammar rest))
  | "session" :: rest => do
    return .session
      (← SessionArguments.ofArguments (← Arguments.read d SessionArguments.grammar rest))
  | "check" :: rest => do
    return .check (← CheckArguments.ofArguments (← Arguments.read d CheckArguments.grammar rest))
  | "help" :: topics => .error (readHelp topics)
  | "--" :: rest => .error (readTrailing rest)
  | arg :: _ =>
    match arg.toList with
    | '-' :: '-' :: option => .error (readOption option)
    | '-' :: 'h' :: _ => .error .help
    | '-' :: 'V' :: _ => .error .version
    | '-' :: _ :: _ => .error .unknownArgument
    | _ => .error .unknownCommand

end Command

end SourceMatch.CommandLine
