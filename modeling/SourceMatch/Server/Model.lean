import SourceMatch.Compiler.Index

/-!
What a verification server is told and what it answers.
-/
namespace SourceMatch

open Json (Decoder)

namespace Server

def optionalText : Decoder (Option String) := Decoder.nullable Decoder.string

structure ContractDescriptor where
  verificationId : Option String := none
  name : Option String := none
  compiledPath : Option String := none
  status : Option String := none
  statusMessage : Option String := none
  address : Option String := none
  chainId : Option String := none
deriving DecidableEq, Repr, Inhabited

namespace ContractDescriptor

def isOk (c : ContractDescriptor) : Bool := c.status = some "ok"

def decoder : Decoder ContractDescriptor :=
  let text := optionalText
  Decoder.record
    [Decoder.probe "verificationId" text, Decoder.probe "name" text,
      Decoder.probe "compiledPath" text, Decoder.probe "status" text,
      Decoder.probe "statusMessage" text, Decoder.probe "address" text,
      Decoder.probe "chainId" text]
    fun f => do
      let verificationId ← f.orElse "verificationId" text none
      let name ← f.orElse "name" text none
      let compiledPath ← f.orElse "compiledPath" text none
      let status ← f.orElse "status" text none
      let statusMessage ← f.orElse "statusMessage" text none
      let address ← f.orElse "address" text none
      let chainId ← f.orElse "chainId" text none
      return { verificationId, name, compiledPath, status, statusMessage, address, chainId }

def toJson (c : ContractDescriptor) : Json :=
  let text := Json.optional Json.string
  .object [("verificationId", text c.verificationId), ("name", text c.name),
    ("compiledPath", text c.compiledPath), ("status", text c.status),
    ("statusMessage", text c.statusMessage), ("address", text c.address),
    ("chainId", text c.chainId)]

end ContractDescriptor

structure SessionData where
  files : List String := []
  unused : List String := []
  contracts : List ContractDescriptor := []
deriving DecidableEq, Repr, Inhabited

namespace SessionData

def decoder : Decoder SessionData :=
  let texts := Decoder.list Decoder.string
  let contracts := Decoder.list ContractDescriptor.decoder
  Decoder.record
    [Decoder.probe "files" texts, Decoder.probe "unused" texts,
      Decoder.probe "contracts" contracts]
    fun f => do
      let files ← f.orElse "files" texts []
      let unused ← f.orElse "unused" texts []
      let contracts ← f.orElse "contracts" contracts []
      return { files, unused, contracts }

def toJson (d : SessionData) : Json :=
  .object [("files", .strings d.files), ("unused", .strings d.unused),
    ("contracts", .array (d.contracts.map ContractDescriptor.toJson))]

end SessionData

structure CheckRequest where
  address : String
  chainId : String
  verificationId : String
  creatorTxHash : Option String := none
deriving DecidableEq, Repr, Inhabited

def CheckRequest.toJson (r : CheckRequest) : Json :=
  .object [("address", .string r.address), ("chainId", .string r.chainId),
    ("verificationId", .string r.verificationId),
    ("creatorTxHash", .optional .string r.creatorTxHash)]

structure VerifyRequest where
  address : String
  chain : String
  files : Dict String
  compilerVersion : Option String := none
  contractName : Option String := none
deriving DecidableEq, Inhabited

def VerifyRequest.toJson (r : VerifyRequest) : Json :=
  let option (name : String) (value : Option String) : List (String × Json) :=
    (value.map fun v => (name, Json.string v)).toList
  .object <| [("address", .string r.address), ("chain", .string r.chain),
    ("files", r.files.toJson .string)] ++ option "compilerVersion" r.compilerVersion ++
    option "contractName" r.contractName

structure VerifyResult where
  address : String
  chainId : String
  status : String
  library : Option Json
deriving Repr, Inhabited

namespace VerifyResult

def decoder : Decoder VerifyResult :=
  let library := Decoder.nullable Decoder.value
  Decoder.record
    [Decoder.probe "address" Decoder.string, Decoder.probe "chainId" Decoder.string,
      Decoder.probe "status" Decoder.string, Decoder.probe "library" library]
    fun f => do
      let address ← f.required "address" Decoder.string
      let chainId ← f.required "chainId" Decoder.string
      let status ← f.required "status" Decoder.string
      let library ← f.orElse "library" library none
      return { address, chainId, status, library }

def toJson (r : VerifyResult) : Json :=
  .object [("address", .string r.address), ("chainId", .string r.chainId),
    ("status", .string r.status), ("library", .optional id r.library)]

end VerifyResult

structure VerifyResponse where
  error : Option String := none
  result : List VerifyResult := []
deriving Repr, Inhabited

namespace VerifyResponse

def decoder : Decoder VerifyResponse :=
  let results := Decoder.list VerifyResult.decoder
  Decoder.record [Decoder.probe "error" optionalText, Decoder.probe "result" results] fun f => do
    let error ← f.orElse "error" optionalText none
    let result ← f.orElse "result" results []
    return { error, result }

def toJson (r : VerifyResponse) : Json :=
  .object [("error", .optional .string r.error),
    ("result", .array (r.result.map VerifyResult.toJson))]

end VerifyResponse

def refusalDecoder : Decoder String :=
  Decoder.record [Decoder.probe "error" Decoder.string] fun f =>
    f.required "error" Decoder.string

inductive Call where
  | sessionData
  | clearSession
  | uploadFiles (files : Dict String)
  | verifyChecked (contracts : List CheckRequest)
  | verify (request : VerifyRequest)
deriving DecidableEq

end Server

end SourceMatch
