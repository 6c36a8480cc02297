import SourceMatch.Compiler.Output
import SourceMatch.Import.Basic
import SourceMatch.Proofs.Json.Fields
import SourceMatch.Proofs.Registry.Records
import SourceMatch.Server.Model

/-!
The records that come from a server, from an index and from the compiler, and the imports of a
source: the table of the fields of each, and that it is written and read by this table.
-/
namespace SourceMatch

open Json (Decoder)
open Json.Decoder (IsCodec IsTable Slot isCodec_record readsAgain_list readsAgain_string
  readsAgain_optional_string readsAgain_optional_value)

theorem Json.Decoder.readsAgain_dict {α : Type} {d : Decoder α} {encode : α → Json}
    (again : d.ReadsAgain encode) : (dict d).ReadsAgain (Dict.toJson encode) := by
  intro o doc m h
  refine reads_dict fun e listed => ?_
  obtain ⟨member, read⟩ := exists_of_dict h (Dict.get?_eq_some_iff.2 listed)
  exact again o member e.2 read

namespace Server

namespace ContractDescriptor

def text (name : String) (get : ContractDescriptor → Option String) : Slot ContractDescriptor :=
  .optional name Decoder.string .string get

def fields : List (Slot ContractDescriptor) :=
  [text "verificationId" (·.verificationId), text "name" (·.name),
    text "compiledPath" (·.compiledPath), text "status" (·.status),
    text "statusMessage" (·.statusMessage), text "address" (·.address), text "chainId" (·.chainId)]

theorem isCodec : IsCodec fields (fields.map (·.name)) decoder toJson := by
  have texts : ∀ field ∈ fields, ∃ name get, field = text name get := by
    simp only [fields, List.forall_mem_cons]
    exact ⟨⟨_, _, rfl⟩, ⟨_, _, rfl⟩, ⟨_, _, rfl⟩, ⟨_, _, rfl⟩, ⟨_, _, rfl⟩, ⟨_, _, rfl⟩,
      ⟨_, _, rfl⟩, List.forall_mem_nil _⟩
  have table : IsTable fields fun ⟨verificationId, name, compiledPath, status, statusMessage,
      address, chainId, _⟩ =>
      ⟨verificationId, name, compiledPath, status, statusMessage, address, chainId⟩ := {}
  refine isCodec_record table rfl rfl (fun field listed => ?_) fun name listed => ?_
  · obtain ⟨name, get, rfl⟩ := texts field listed
    exact Slot.readsAgain_optional readsAgain_optional_string
  · obtain ⟨field, known, rfl⟩ := List.mem_map.1 listed
    obtain ⟨name, get, rfl⟩ := texts field known
    exact ⟨_, known, rfl, fun _ => rfl⟩

end ContractDescriptor

namespace SessionData

def fields : List (Slot SessionData) :=
  [.orElse "files" (Decoder.list Decoder.string) .strings (·.files) [],
    .orElse "unused" (Decoder.list Decoder.string) .strings (·.unused) [],
    .orElse "contracts" (Decoder.list ContractDescriptor.decoder)
      (fun contracts => .array (contracts.map ContractDescriptor.toJson)) (·.contracts) []]

theorem isCodec : IsCodec fields [] decoder toJson := by
  have table : IsTable fields fun ⟨files, unused, contracts, _⟩ =>
      ⟨files, unused, contracts⟩ := {}
  refine isCodec_record table rfl rfl ?_ fun _ listed => nomatch listed
  simp only [fields, List.forall_mem_cons]
  exact ⟨Slot.readsAgain_orElse (readsAgain_list readsAgain_string) fun _ => rfl,
    Slot.readsAgain_orElse (readsAgain_list readsAgain_string) fun _ => rfl,
    Slot.readsAgain_orElse (readsAgain_list ContractDescriptor.isCodec.again) fun _ => rfl,
    List.forall_mem_nil _⟩

end SessionData

namespace VerifyResult

def fields : List (Slot VerifyResult) :=
  [.required "address" Decoder.string .string (·.address),
    .required "chainId" Decoder.string .string (·.chainId),
    .required "status" Decoder.string .string (·.status),
    .optional "library" Decoder.value id (·.library)]

theorem isCodec : IsCodec fields ["library"] decoder toJson := by
  have table : IsTable fields fun ⟨address, chainId, status, library, _⟩ =>
      ⟨address, chainId, status, library⟩ := {}
  refine isCodec_record table rfl rfl ?_ ?_
  · simp only [fields, List.forall_mem_cons]
    exact ⟨Slot.readsAgain_required readsAgain_string, Slot.readsAgain_required readsAgain_string,
      Slot.readsAgain_required readsAgain_string,
      Slot.readsAgain_optional readsAgain_optional_value, List.forall_mem_nil _⟩
  · simp only [List.forall_mem_cons]
    exact ⟨⟨_, List.mem_of_getElem? (i := 3) rfl, rfl, fun _ => rfl⟩, List.forall_mem_nil _⟩

end VerifyResult

namespace VerifyResponse

def fields : List (Slot VerifyResponse) :=
  [.optional "error" Decoder.string .string (·.error),
    .orElse "result" (Decoder.list VerifyResult.decoder)
      (fun results => .array (results.map VerifyResult.toJson)) (·.result) []]

theorem isCodec : IsCodec fields ["error"] decoder toJson := by
  have table : IsTable fields fun ⟨error, result, _⟩ => ⟨error, result⟩ := {}
  refine isCodec_record table rfl rfl ?_ ?_
  · simp only [fields, List.forall_mem_cons]
    exact ⟨Slot.readsAgain_optional readsAgain_optional_string,
      Slot.readsAgain_orElse (readsAgain_list VerifyResult.isCodec.again) fun _ => rfl,
      List.forall_mem_nil _⟩
  · simp only [List.forall_mem_cons]
    exact ⟨⟨_, List.mem_of_getElem? (i := 0) rfl, rfl, fun _ => rfl⟩, List.forall_mem_nil _⟩

end VerifyResponse

end Server

namespace CompilerRelease

def fields : List (Slot CompilerRelease) :=
  [.orElse "path" Decoder.string .string (·.path) "",
    .required "version" Decoder.string .string (·.version),
    .required "longVersion" Decoder.string .string (·.longVersion),
    .orElse "build" Decoder.string .string (·.build) ""]

theorem isCodec : IsCodec fields [] decoder toJson := by
  have table : IsTable fields fun ⟨path, version, longVersion, build, _⟩ =>
      ⟨path, version, longVersion, build⟩ := {}
  refine isCodec_record table rfl rfl ?_ fun _ listed => nomatch listed
  simp only [fields, List.forall_mem_cons]
  exact ⟨Slot.readsAgain_orElse readsAgain_string fun _ => rfl,
    Slot.readsAgain_required readsAgain_string, Slot.readsAgain_required readsAgain_string,
    Slot.readsAgain_orElse readsAgain_string fun _ => rfl, List.forall_mem_nil _⟩

end CompilerRelease

namespace CompilerIndex

def fields : List (Slot CompilerIndex) :=
  [.orElse "builds" (Decoder.list CompilerRelease.decoder)
      (fun builds => .array (builds.map CompilerRelease.toJson)) (·.builds) [],
    .orElse "releases" (Decoder.dict Decoder.string) (Dict.toJson .string) (·.releases) {}]

theorem isCodec : IsCodec fields [] decoder toJson := by
  have table : IsTable fields fun ⟨builds, releases, _⟩ => ⟨builds, releases⟩ := {}
  refine isCodec_record table rfl rfl ?_ fun _ listed => nomatch listed
  simp only [fields, List.forall_mem_cons]
  exact ⟨Slot.readsAgain_orElse (readsAgain_list CompilerRelease.isCodec.again) fun _ => rfl,
    Slot.readsAgain_orElse (Decoder.readsAgain_dict readsAgain_string) fun _ => rfl,
    List.forall_mem_nil _⟩

end CompilerIndex

namespace Import

def fields : List (Slot Import) :=
  [.required "path" Decoder.string .string (·.path),
    .named "source" (Decoder.nullable Decoder.string) (.optional .string) (·.source) none,
    .named "sourceFileName" (Decoder.nullable Decoder.string) (.optional .string)
      (·.sourceFileName) none]

theorem isCodec : IsCodec fields ["source", "sourceFileName"] decoder toJson := by
  have table : IsTable fields fun ⟨path, source, sourceFileName, _⟩ =>
      ⟨path, source, sourceFileName⟩ := {}
  refine isCodec_record table ?_ rfl ?_ ?_
  · simp only [Json.Decoder.readInto, fields, Slot.readFrom_named]
    rfl
  · simp only [fields, List.forall_mem_cons]
    exact ⟨Slot.readsAgain_required readsAgain_string,
      Slot.readsAgain_named readsAgain_optional_string fun _ => rfl,
      Slot.readsAgain_named readsAgain_optional_string fun _ => rfl, List.forall_mem_nil _⟩
  · simp only [List.forall_mem_cons]
    exact ⟨⟨_, List.mem_of_getElem? (i := 1) rfl, rfl, fun _ => rfl⟩,
      ⟨_, List.mem_of_getElem? (i := 2) rfl, rfl, fun _ => rfl⟩, List.forall_mem_nil _⟩

end Import

theorem Severity.readsAgain : decoder.ReadsAgain fun s => .string s.name := by
  intro _ _ s _ o
  exact congrArg Except.ok s.ofName_name

namespace CompilerMessage

def fields : List (Slot CompilerMessage) :=
  [.required "severity" Severity.decoder (fun s => .string s.name) (·.severity),
    .required "message" Decoder.string .string (·.message),
    .optional "formattedMessage" Decoder.string .string (·.formattedMessage)]

theorem isCodec : IsCodec fields ["formattedMessage"] decoder toJson := by
  have table : IsTable fields fun ⟨severity, message, formatted, _⟩ =>
      ⟨severity, message, formatted⟩ := {}
  refine isCodec_record table rfl rfl ?_ ?_
  · simp only [fields, List.forall_mem_cons]
    exact ⟨Slot.readsAgain_required Severity.readsAgain,
      Slot.readsAgain_required readsAgain_string,
      Slot.readsAgain_optional readsAgain_optional_string, List.forall_mem_nil _⟩
  · simp only [List.forall_mem_cons]
    exact ⟨⟨_, List.mem_of_getElem? (i := 2) rfl, rfl, fun _ => rfl⟩, List.forall_mem_nil _⟩

-- The rest of a list may be left out, and a severity may be unknown.
example : CompilerMessage.decoder.ofValue (.array [.string "fatal", .string "Stack too deep"]) =
    .ok ⟨.unknown, "Stack too deep", none⟩ := rfl

end CompilerMessage

/-- Every record is written with each of its fields under the field's name, and is read by these
names or in the order of the fields, so that it is read off what it was written as. -/
theorem records_by_tables :
    IsCodec Server.ContractDescriptor.fields (Server.ContractDescriptor.fields.map (·.name))
        Server.ContractDescriptor.decoder Server.ContractDescriptor.toJson ∧
      IsCodec Server.SessionData.fields [] Server.SessionData.decoder Server.SessionData.toJson ∧
      IsCodec Server.VerifyResult.fields ["library"] Server.VerifyResult.decoder
        Server.VerifyResult.toJson ∧
      IsCodec Server.VerifyResponse.fields ["error"] Server.VerifyResponse.decoder
        Server.VerifyResponse.toJson ∧
      IsCodec CompilerRelease.fields [] CompilerRelease.decoder CompilerRelease.toJson ∧
      IsCodec CompilerIndex.fields [] CompilerIndex.decoder CompilerIndex.toJson ∧
      IsCodec Import.fields ["source", "sourceFileName"] Import.decoder Import.toJson ∧
      IsCodec CompilerMessage.fields ["formattedMessage"] CompilerMessage.decoder
        CompilerMessage.toJson :=
  ⟨Server.ContractDescriptor.isCodec, Server.SessionData.isCodec, Server.VerifyResult.isCodec,
    Server.VerifyResponse.isCodec, CompilerRelease.isCodec, CompilerIndex.isCodec, Import.isCodec,
    CompilerMessage.isCodec⟩

end SourceMatch
