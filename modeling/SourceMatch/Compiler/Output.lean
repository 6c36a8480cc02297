import SourceMatch.Bytecode
import SourceMatch.Json.Decoder

/-!
What the compiler answers: messages, and the contracts of each file in the order in which the
compiler wrote them. Of a file's contracts the first one whose code matches counts.
-/
namespace SourceMatch

open Json (Decoder)

inductive Severity where
  | error
  | warning
  | info
  | unknown
deriving DecidableEq, Repr, Inhabited

namespace Severity

def name : Severity → String
  | .error => "error"
  | .warning => "warning"
  | .info => "info"
  | .unknown => "unknown"

def ofName : String → Severity
  | "error" => .error
  | "warning" => .warning
  | "info" => .info
  | _ => .unknown

theorem ofName_name (s : Severity) : ofName s.name = s := by cases s <;> rfl

def decoder : Decoder Severity := Decoder.variant fun name => some (ofName name)

end Severity

structure CompilerMessage where
  severity : Severity
  message : String
  formattedMessage : Option String
deriving DecidableEq, Repr, Inhabited

namespace CompilerMessage

def decoder : Decoder CompilerMessage :=
  let formatted := Decoder.nullable Decoder.string
  Decoder.record
    [Decoder.probe "severity" Severity.decoder, Decoder.probe "message" Decoder.string,
      Decoder.probe "formattedMessage" formatted]
    fun f => do
      let severity ← f.required "severity" Severity.decoder
      let message ← f.required "message" Decoder.string
      let formattedMessage ← f.orElse "formattedMessage" formatted none
      return ⟨severity, message, formattedMessage⟩

def toJson (m : CompilerMessage) : Json :=
  .object [("severity", .string m.severity.name), ("message", .string m.message),
    ("formattedMessage", .optional .string m.formattedMessage)]

end CompilerMessage

/-- A compiled contract: its interface as the compiler wrote it, and its runtime code without
`0x`. -/
structure CompiledContract where
  name : String
  abi : Json
  bytecode : String
deriving Repr, Inhabited

structure CompiledSource where
  fileName : String
  contracts : List CompiledContract
deriving Repr, Inhabited

structure CompileOutput where
  messages : List CompilerMessage := []
  sources : List CompiledSource := []
deriving Repr, Inhabited

namespace CompiledContract

def objectDecoder : Decoder String :=
  Decoder.record [Decoder.probe "object" Decoder.string] fun f =>
    f.orElse "object" Decoder.string ""

def evmDecoder : Decoder String :=
  Decoder.record [Decoder.probe "deployedBytecode" objectDecoder] fun f =>
    f.orElse "deployedBytecode" objectDecoder ""

def decoder (name : String) : Decoder CompiledContract :=
  Decoder.record [Decoder.probe "abi" Decoder.value, Decoder.probe "evm" evmDecoder] fun f => do
    let abi ← f.orElse "abi" Decoder.value .null
    let bytecode ← f.orElse "evm" evmDecoder ""
    return ⟨name, abi, bytecode⟩

end CompiledContract

namespace CompileOutput

def contractsOfJson (contracts : Json) : Except Json.Category (List CompiledContract) := do
  let contracts ← (Decoder.members Decoder.value).ofValue contracts
  contracts.mapM fun c => (CompiledContract.decoder c.1).ofValue c.2

/-- Reads the output of the compiler. Members that are not asked for are skipped, absent ones are
empty. -/
def ofJson (v : Json) : Except Json.Category CompileOutput := do
  let messages := Decoder.list CompilerMessage.decoder
  let files := Decoder.members Decoder.value
  let (messages, files) ← Decoder.ofValue
    (Decoder.record [Decoder.probe "errors" messages, Decoder.probe "contracts" files] fun f => do
      return (← f.orElse "errors" messages [], ← f.orElse "contracts" files [])) v
  let sources ← files.mapM fun (file : String × Json) => do
    return (⟨file.1, ← contractsOfJson file.2⟩ : CompiledSource)
  return ⟨messages, sources⟩

def hasErrors (o : CompileOutput) : Bool := o.messages.any (·.severity = .error)

def contractsOf? (o : CompileOutput) (fileName : String) : Option (List CompiledContract) :=
  (o.sources.find? (·.fileName = fileName)).map (·.contracts)

def contract? (o : CompileOutput) (fileName name : String) : Option CompiledContract := do
  (← o.contractsOf? fileName).find? (·.name = name)

end CompileOutput

structure ContractMatch where
  contract : CompiledContract
  kind : MatchKind
deriving Repr, Inhabited

def CompiledContract.match? (deployed : String) (c : CompiledContract) : Option ContractMatch :=
  let kind := Bytecode.compare deployed c.bytecode
  if kind.isMatch then some ⟨c, kind⟩ else none

def CompileOutput.findMatch? (o : CompileOutput) (fileName deployed : String) :
    Option ContractMatch := do
  (← o.contractsOf? fileName).findSome? (·.match? deployed)

end SourceMatch
