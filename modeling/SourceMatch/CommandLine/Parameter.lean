import SourceMatch.Address
import SourceMatch.Compiler.Fetch
import SourceMatch.Disk.Basic
import SourceMatch.Server.Client
import SourceMatch.Text.Blank
import SourceMatch.Url.Parser

/-!
The options of the commands: each has a name, a type of values, and a way to read one from a text.
-/
namespace SourceMatch.CommandLine

inductive Refusal where
  | help
  | version
  | noArguments
  | unknownCommand
  | unknownArgument
  | repeated
  | missing
  | badValue
  | surplusValue
  | rejected (reason : String)
deriving DecidableEq, Repr

def Refusal.isError : Refusal → Bool
  | .help | .version => false
  | _ => true

def Refusal.message : Refusal → String
  | .help | .noArguments => "Usage: hashscan-verify <verify|session|check> [OPTIONS]"
  | .version => "hashscan-verify"
  | .unknownCommand => "unrecognized subcommand"
  | .unknownArgument => "unexpected argument found"
  | .repeated => "an argument cannot be used multiple times"
  | .missing => "a required argument was not provided"
  | .badValue => "an option has no value or an invalid one"
  | .surplusValue => "a flag takes no value"
  | .rejected reason => reason

inductive KnownNetwork where
  | mainnet
  | testnet
  | previewnet
deriving DecidableEq, Repr, Inhabited

namespace KnownNetwork

def name : KnownNetwork → String
  | .mainnet => "mainnet"
  | .testnet => "testnet"
  | .previewnet => "previewnet"

def ofName? : String → Option KnownNetwork
  | "mainnet" => some .mainnet
  | "testnet" => some .testnet
  | "previewnet" => some .previewnet
  | _ => none

def chainId : KnownNetwork → String
  | .mainnet => "295"
  | .testnet => "296"
  | .previewnet => "297"

end KnownNetwork

inductive Parameter where
  | source
  | imports
  | bytecode
  | contractId
  | compilerVersion
  | compilerUrl
  | indexUrl
  | registry
  | server
  | network
  | chainId
  | address
  | contractName
  | clear
deriving DecidableEq, Repr

namespace Parameter

def name : Parameter → String
  | .source => "source"
  | .imports => "imports"
  | .bytecode => "bytecode"
  | .contractId => "contract-id"
  | .compilerVersion => "compiler-version"
  | .compilerUrl => "compiler-url"
  | .indexUrl => "index-url"
  | .registry => "registry"
  | .server => "server"
  | .network => "network"
  | .chainId => "chain-id"
  | .address => "address"
  | .contractName => "contract-name"
  | .clear => "clear"

abbrev Value : Parameter → Type
  | .compilerUrl | .indexUrl | .server => Url
  | .network => KnownNetwork
  | .address => Address
  | .clear => Unit
  | _ => String

def isFlag (p : Parameter) : Bool := p = .clear

def readUrl (raw : String) : Except Refusal Url :=
  match Url.parse raw with
  | .ok url => .ok url
  | .error e => .error (.rejected e.message)

def readBytecode (d : Disk) (raw : String) : Except Refusal String := do
  let text ← match raw.toList with
    | '@' :: path =>
      let path := String.ofList path
      match d.read path with
      | .ok text => pure text
      | .error fault =>
        throw (.rejected ("Couldn't read bytecode from " ++ path ++ ": " ++ fault.message))
    | _ => pure raw
  let text := Text.trimmed text
  if text = "" then throw (.rejected "Bytecode cannot be empty") else return text

def number? (cs : List Char) : Option Nat :=
  let digits := match cs with
    | '+' :: digits => digits
    | digits => digits
  if digits.isEmpty || !digits.all Char.isDigit then none
  else
    let n := digits.foldl (fun n c => n * 10 + (c.toNat - '0'.toNat)) 0
    if n < UInt64.size then some n else none

def readChainId (raw : String) : Except Refusal String :=
  match number? raw.toList with
  | some n => .ok (toString n)
  | none => .error (.rejected ("Chain id must be a number, got " ++ raw))

def isNameStart (c : Char) : Bool := c.isAlpha || c = '_' || c = '$'

def readContractName (raw : String) : Except Refusal String :=
  match raw.toList with
  | [] => .error (.rejected "Contract name cannot be empty")
  | c :: cs =>
    if isNameStart c && cs.all fun c => isNameStart c || c.isDigit then .ok raw
    else .error (.rejected "Contract name must be a Solidity identifier")

def readAddress (raw : String) : Except Refusal Address :=
  match Address.parse raw with
  | .ok a => .ok a
  | .error e => .error (.rejected e.message)

def readNetwork (raw : String) : Except Refusal KnownNetwork :=
  match KnownNetwork.ofName? raw with
  | some n => .ok n
  | none => .error .badValue

def read (d : Disk) : (p : Parameter) → String → Except Refusal p.Value
  | .compilerUrl, raw | .indexUrl, raw | .server, raw => readUrl raw
  | .bytecode, raw => readBytecode d raw
  | .network, raw => readNetwork raw
  | .chainId, raw => readChainId raw
  | .address, raw => readAddress raw
  | .contractName, raw => readContractName raw
  | .clear, _ => .ok ()
  | .source, raw | .imports, raw | .contractId, raw | .compilerVersion, raw
  | .registry, raw => .ok raw

end Parameter

end SourceMatch.CommandLine
