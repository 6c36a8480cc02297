import SourceMatch.Bytecode
import SourceMatch.Compiler.Index
import SourceMatch.Disk.Basic
import SourceMatch.Json.Printer
import SourceMatch.Timestamp

/-!
The registry of verified contracts: one record for each contract, kept as JSON in a file.
-/
namespace SourceMatch

open Json (Decoder)

structure Registration where
  contractId : String
  contractName : String
  compilerVersion : String
  sourceFileName : String
  matchKind : MatchKind
  abi : Json
  timestamp : Timestamp
deriving Repr, Inhabited

abbrev Records := Dict Registration

inductive RegistryError where
  | disk (fault : Disk.Fault)
  | unreadable (fault : Json.Category)
  | noHome
  | rejected (text : String)
deriving DecidableEq, Repr

namespace RegistryError

def code : RegistryError → String
  | .disk _ => "E030"
  | .unreadable _ => "E031"
  | .noHome => "E032"
  | .rejected _ => "E033"

/-- The wording of a fault of JSON text is left open. -/
def message : RegistryError → String
  | .disk fault => "[E030] Failed to access registry file: " ++ fault.message
  | .unreadable _ => "[E031] Failed to serialize/deserialize registry: <json>"
  | .noHome => "[E032] Failed to find home directory"
  | .rejected text => "[E033] Registration rejected: " ++ text

end RegistryError

namespace Registration

def kindDecoder : Decoder MatchKind := Decoder.variant MatchKind.ofName?

def decoder : Decoder Registration :=
  let text := Decoder.string
  Decoder.record
    [Decoder.probe "contract_id" text, Decoder.probe "contract_name" text,
      Decoder.probe "compiler_version" text, Decoder.probe "source_file_name" text,
      Decoder.probe "match_kind" kindDecoder, Decoder.probe "abi" Decoder.value,
      Decoder.probe "timestamp" Timestamp.decoder]
    fun f => do
      let contractId ← f.required "contract_id" text
      let contractName ← f.required "contract_name" text
      let compilerVersion ← f.required "compiler_version" text
      let sourceFileName ← f.required "source_file_name" text
      let matchKind ← f.required "match_kind" kindDecoder
      let abi ← f.required "abi" Decoder.value
      let timestamp ← f.required "timestamp" Timestamp.decoder
      return { contractId, contractName, compilerVersion, sourceFileName, matchKind, abi, timestamp }

def toJson (r : Registration) : Json :=
  .object [("contract_id", .string r.contractId), ("contract_name", .string r.contractName),
    ("compiler_version", .string r.compilerVersion),
    ("source_file_name", .string r.sourceFileName), ("match_kind", .string r.matchKind.name),
    ("abi", r.abi), ("timestamp", .string r.timestamp.toText)]

end Registration

namespace Records

def decoder : Decoder Records :=
  let records := Decoder.dict Registration.decoder
  Decoder.record [Decoder.probe "records" records] fun f => f.required "records" records

def toJson (r : Records) : Json := .object [("records", r.map Registration.toJson |>.toJson id)]

def add (r : Records) (record : Registration) : Records := r.insert record.contractId record

end Records

def Registration.newest (records : List Registration) (limit : Nat) : List Registration :=
  (records.mergeSort fun a b => (b.timestamp.cmp a.timestamp).isLE).take limit

structure Registry where
  path : String
deriving DecidableEq, Repr, Inhabited

namespace Registry

def underHome (home : String) : String :=
  Path.join (Path.join home ".hashscan-verifier") "verified.json"

/-- Opens a registry; the folder of its file is made if nothing stands there. -/
def openAt (d : Disk) (path : String) : Except RegistryError (Registry × Disk) := do
  match Path.parent? path with
  | none => return (⟨path⟩, d)
  | some folder =>
    if folder = "" || d.present folder then return (⟨path⟩, d)
    else
      match d.makeFolders folder with
      | .ok d => return (⟨path⟩, d)
      | .error fault => throw (.disk fault)

def load (r : Registry) (d : Disk) : Except RegistryError Records :=
  if !d.present r.path then .ok {}
  else
    match d.read r.path with
    | .error fault => .error (.disk fault)
    | .ok text =>
      match Records.decoder.ofText text with
      | .ok records => .ok records
      | .error fault => .error (.unreadable fault)

def save (r : Registry) (d : Disk) (records : Records) : Except RegistryError Disk :=
  match d.write r.path records.toJson.pretty with
  | .ok d => .ok d
  | .error fault => .error (.disk fault)

def register (r : Registry) (d : Disk) (record : Registration) : Except RegistryError Disk := do
  let records ← r.load d
  r.save d (records.add record)

def listNewest (r : Registry) (d : Disk) (limit : Nat) :
    Except RegistryError (List Registration) := do
  return Registration.newest (← r.load d).values limit

end Registry

end SourceMatch
