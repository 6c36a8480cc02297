import SourceMatch.Proofs.Compiler.Match
import SourceMatch.Proofs.Json.Reading

/-!
Outputs of the compiler as JSON. An output may be written in several ways: what is empty may be left
out, and further members may stand in any object. All of them are read as the same output, with its
files and contracts in their order.
-/
namespace SourceMatch

open Json (Decoder)
open Json.Decoder

namespace CompiledContract

def toJson (c : CompiledContract) : Json :=
  .object [("abi", c.abi),
    ("evm", .object [("deployedBytecode", .object [("object", .string c.bytecode)])])]

end CompiledContract

def CompiledSource.toJson (s : CompiledSource) : Json :=
  .object (s.contracts.map fun c => (c.name, c.toJson))

def CompileOutput.toJson (o : CompileOutput) : Json :=
  .object [("errors", .array (o.messages.map CompilerMessage.toJson)),
    ("contracts", .object (o.sources.map fun s => (s.fileName, s.toJson)))]

def IsObject (property : List (String × Json) → Prop) (v : Json) : Prop :=
  ∃ ms, v = .object ms ∧ property ms

namespace CompiledContract

def SpellsObject (code : String) : Json → Prop :=
  IsObject fun ms => Gives ms "object" (· = .string code) (code = "")

def SpellsEvm (code : String) : Json → Prop :=
  IsObject fun ms => Gives ms "deployedBytecode" (SpellsObject code) (code = "")

/-- A value is a contract: its interface may be left out if it is `null`, and each part of its code
if there is none. -/
def Spells (c : CompiledContract) : Json → Prop :=
  IsObject fun ms => Gives ms "abi" (· = c.abi) (c.abi = .null) ∧
    Gives ms "evm" (SpellsEvm c.bytecode) (c.bytecode = "")

end CompiledContract

def CompilerMessage.Spells (m : CompilerMessage) : Json → Prop :=
  IsObject fun ms => Gives ms "severity" (· = .string m.severity.name) False ∧
    Gives ms "message" (· = .string m.message) False ∧
    Gives ms "formattedMessage" (· = .optional .string m.formattedMessage)
      (m.formattedMessage = none)

def CompiledSource.Spells (s : CompiledSource) : Json → Prop :=
  IsObject fun ms => List.Forall₂ (fun e c => e.1 = c.name ∧ c.Spells e.2) ms s.contracts

/-- A value holds an output: its messages, and its files in their order, under their names. -/
def CompileOutput.Spells (o : CompileOutput) : Json → Prop :=
  IsObject fun ms =>
    Gives ms "errors"
      (fun v => ∃ items, v = .array items ∧
        List.Forall₂ (fun item m => m.Spells item) items o.messages) (o.messages = []) ∧
    Gives ms "contracts"
      (IsObject fun files => List.Forall₂ (fun e s => e.1 = s.fileName ∧ s.Spells e.2) files
        o.sources) (o.sources = [])

namespace CompiledContract

variable {code : String} {v : Json} {c : CompiledContract}

theorem reads_object (distinct : v.Distinct) (h : SpellsObject code v) :
    objectDecoder.Reads v code := by
  obtain ⟨ms, rfl, object⟩ := h
  exact reads_optional distinct (object.reads distinct fun _ _ same => same ▸ reads_string code)

theorem reads_evm (distinct : v.Distinct) (h : SpellsEvm code v) :
    evmDecoder.Reads v code := by
  obtain ⟨ms, rfl, deployed⟩ := h
  exact reads_optional distinct (deployed.reads distinct fun _ => reads_object)

theorem reads_contract (distinct : v.Distinct) (h : c.Spells v) :
    (decoder c.name).Reads v c := by
  obtain ⟨ms, rfl, abi, evm⟩ := h
  have readAbi : Gives ms "abi" (Decoder.value.Reads · c.abi) (c.abi = .null) :=
    abi.reads distinct fun _ distinct same => same ▸ reads_value distinct
  have readEvm : Gives ms "evm" (evmDecoder.Reads · c.bytecode) (c.bytecode = "") :=
    evm.reads distinct fun _ => reads_evm
  refine reads_record distinct
    (fun o => accepts_cons readAbi (accepts_cons readEvm (accepts_nil o ms))) fun o => ?_
  rw [orElse_given readAbi, orElse_given readEvm]
  rfl

end CompiledContract

theorem Severity.reads_name (s : Severity) : decoder.Reads (.string s.name) s := by
  intro o
  rw [decoder, Json.Document.ofJson, variant]
  dsimp only
  rw [ofName_name]

theorem CompilerMessage.reads_message {m : CompilerMessage} {v : Json} (distinct : v.Distinct)
    (h : m.Spells v) : decoder.Reads v m := by
  obtain ⟨ms, rfl, severity, message, formatted⟩ := h
  have readSeverity : Gives ms "severity" (Severity.decoder.Reads · m.severity) False :=
    severity.reads distinct fun _ _ same => same ▸ Severity.reads_name m.severity
  have readMessage : Gives ms "message" (Decoder.string.Reads · m.message) False :=
    message.reads distinct fun _ _ same => same ▸ reads_string m.message
  have readFormatted : Gives ms "formattedMessage"
      ((Decoder.nullable Decoder.string).Reads · m.formattedMessage) (m.formattedMessage = none) :=
    formatted.reads distinct fun _ _ same => same ▸ reads_nullable_string m.formattedMessage
  have accepts := fun o => accepts_cons readSeverity (accepts_cons readMessage
    (accepts_cons readFormatted (accepts_nil o ms)))
  unfold decoder
  refine reads_record distinct accepts fun o => ?_
  rw [required_given readSeverity, required_given readMessage, orElse_given readFormatted]
  rfl

namespace CompileOutput

variable {o : CompileOutput} {v : Json}

theorem reads_members_value {ms : List (String × Json)} (distinct : (Json.object ms).Distinct) :
    (Decoder.members Decoder.value).Reads (.object ms) ms := by
  refine reads_members (List.forall₂_same.2 fun m listed => ⟨rfl, ?_⟩)
  exact reads_value ((Json.distinct_object.1 distinct).2 m listed)

theorem contractsOfJson_eq_ok {s : CompiledSource} (distinct : v.Distinct) (h : s.Spells v) :
    contractsOfJson v = .ok s.contracts := by
  obtain ⟨ms, rfl, contracts⟩ := h
  have inside := (Json.distinct_object.1 distinct).2
  have read : ms.mapM (fun c => (CompiledContract.decoder c.1).ofValue c.2) = .ok s.contracts := by
    refine mapM_eq_ok (((List.forall₂_and_left _ _).2 ⟨inside, contracts⟩).imp ?_)
    rintro m c ⟨distinct, name, spells⟩
    rw [name]
    exact (CompiledContract.reads_contract distinct spells).ofValue
  rw [contractsOfJson, (reads_members_value distinct).ofValue]
  exact read

theorem exists_files {ms : List (String × Json)} {sources : List CompiledSource}
    (distinct : (Json.object ms).Distinct)
    (h : Gives ms "contracts"
      (IsObject fun files => List.Forall₂ (fun e s => e.1 = s.fileName ∧ s.Spells e.2) files
        sources) (sources = [])) :
    ∃ files : List (String × Json),
      Gives ms "contracts" ((Decoder.members Decoder.value).Reads · files) (files = []) ∧
        files.mapM (fun file : String × Json => do
          return (⟨file.1, ← contractsOfJson file.2⟩ : CompiledSource)) = .ok sources := by
  rw [Gives] at h
  cases found : ms.lookup "contracts" with
  | none =>
    rw [found] at h
    exact ⟨[], by rw [Gives, found], by rw [h]; rfl⟩
  | some value =>
    rw [found] at h
    obtain ⟨files, rfl, sources⟩ := h
    have distinct := Json.distinct_of_lookup distinct found
    have inside := (Json.distinct_object.1 distinct).2
    refine ⟨files, by rw [Gives, found]; exact reads_members_value distinct, ?_⟩
    refine mapM_eq_ok (((List.forall₂_and_left _ _).2 ⟨inside, sources⟩).imp ?_)
    rintro file s ⟨distinct, name, spells⟩
    rw [contractsOfJson_eq_ok distinct spells, name]
    rfl

theorem ofJson_eq_ok (distinct : v.Distinct) (h : o.Spells v) : ofJson v = .ok o := by
  obtain ⟨ms, rfl, errors, contracts⟩ := h
  have readErrors : Gives ms "errors" ((Decoder.list CompilerMessage.decoder).Reads · o.messages)
      (o.messages = []) := by
    refine errors.reads distinct ?_
    rintro _ distinct ⟨items, rfl, messages⟩
    have inside := Json.distinct_array.1 distinct
    refine reads_list (((List.forall₂_and_left _ _).2 ⟨inside, messages⟩).imp ?_)
    exact fun item m ⟨distinct, spells⟩ => CompilerMessage.reads_message distinct spells
  obtain ⟨files, readFiles, sources⟩ := exists_files distinct contracts
  have accepts := fun o => accepts_cons readErrors (accepts_cons readFiles (accepts_nil o ms))
  have read : (record [probe "errors" (Decoder.list CompilerMessage.decoder),
      probe "contracts" (Decoder.members Decoder.value)] fun f => do
        return (← f.orElse "errors" (Decoder.list CompilerMessage.decoder) [],
          ← f.orElse "contracts" (Decoder.members Decoder.value) [])).Reads
      (.object ms) (o.messages, files) := by
    refine reads_record distinct accepts fun o => ?_
    rw [orElse_given readErrors, orElse_given readFiles]
    rfl
  rw [ofJson]
  exact Json.bind_eq_ok.2 ⟨(o.messages, files), read.ofValue,
    Json.bind_eq_ok.2 ⟨o.sources, sources, rfl⟩⟩

end CompileOutput

theorem CompilerMessage.spells_toJson (m : CompilerMessage) : m.Spells m.toJson :=
  ⟨_, rfl, gives_of_lookup rfl rfl, gives_of_lookup rfl rfl, gives_of_lookup rfl rfl⟩

theorem CompiledContract.spells_toJson (c : CompiledContract) : c.Spells c.toJson := by
  have object : SpellsObject c.bytecode (.object [("object", .string c.bytecode)]) :=
    ⟨_, rfl, gives_of_lookup rfl rfl⟩
  exact ⟨_, rfl, gives_of_lookup rfl rfl, gives_of_lookup rfl ⟨_, rfl, gives_of_lookup rfl object⟩⟩

theorem CompiledSource.spells_toJson (s : CompiledSource) : s.Spells s.toJson := by
  refine ⟨_, rfl, List.forall₂_map_left_iff.2 (List.forall₂_same.2 fun c _ => ⟨rfl, ?_⟩)⟩
  exact c.spells_toJson

theorem CompilerMessage.distinct_toJson (m : CompilerMessage) : m.toJson.Distinct := by
  have formatted : (Json.optional Json.string m.formattedMessage).Distinct := by
    cases m.formattedMessage <;> trivial
  simp [toJson, Json.distinct_object, formatted, Json.Distinct]

theorem CompiledContract.distinct_toJson {c : CompiledContract} (abi : c.abi.Distinct) :
    c.toJson.Distinct := by
  simp [toJson, Json.distinct_object, abi, Json.Distinct, Json.DistinctMembers]

namespace CompileOutput

variable {o : CompileOutput}

theorem spells_toJson (o : CompileOutput) : o.Spells o.toJson := by
  refine ⟨_, rfl, gives_of_lookup rfl ⟨_, rfl, ?_⟩, gives_of_lookup rfl ⟨_, rfl, ?_⟩⟩
  · exact List.forall₂_map_left_iff.2 (List.forall₂_same.2 fun m _ => m.spells_toJson)
  · exact List.forall₂_map_left_iff.2 (List.forall₂_same.2 fun s _ => ⟨rfl, s.spells_toJson⟩)

theorem distinct_toJson (files : (o.sources.map (·.fileName)).Nodup)
    (names : ∀ s ∈ o.sources, (s.contracts.map (·.name)).Nodup)
    (abis : ∀ s ∈ o.sources, ∀ c ∈ s.contracts, c.abi.Distinct) : o.toJson.Distinct := by
  have messages : (Json.array (o.messages.map CompilerMessage.toJson)).Distinct := by
    rw [Json.distinct_array]
    intro item listed
    obtain ⟨m, -, rfl⟩ := List.mem_map.1 listed
    exact m.distinct_toJson
  have sources : (Json.object (o.sources.map fun s => (s.fileName, s.toJson))).Distinct := by
    rw [Json.distinct_object, List.map_map]
    refine ⟨files, fun file listed => ?_⟩
    obtain ⟨s, hs, rfl⟩ := List.mem_map.1 listed
    dsimp only [CompiledSource.toJson]
    rw [Json.distinct_object, List.map_map]
    refine ⟨names s hs, fun contract listed => ?_⟩
    obtain ⟨c, hc, rfl⟩ := List.mem_map.1 listed
    exact CompiledContract.distinct_toJson (abis s hs c hc)
  simp [toJson, Json.distinct_object, messages, sources]

/-- Every way of writing an output is read as that output, its plain form among them, and of a
file's contracts the first one whose code matches is found. -/
theorem decodes_spellings (files : (o.sources.map (·.fileName)).Nodup)
    (names : ∀ s ∈ o.sources, (s.contracts.map (·.name)).Nodup)
    (abis : ∀ s ∈ o.sources, ∀ c ∈ s.contracts, c.abi.Distinct) :
    ofJson o.toJson = .ok o ∧ (∀ v : Json, v.Distinct → o.Spells v → ofJson v = .ok o) ∧
      ∀ fileName deployed,
        (∀ found, o.findMatch? fileName deployed = some found ↔
          ∃ contracts, ⟨fileName, contracts⟩ ∈ o.sources ∧
            FirstMatch deployed contracts found.contract ∧
            found.kind = Bytecode.compare deployed found.contract.bytecode) ∧
        (o.findMatch? fileName deployed = none ↔
          ∀ contracts, ⟨fileName, contracts⟩ ∈ o.sources →
            ∀ c ∈ contracts, Bytecode.compare deployed c.bytecode = .mismatch) := by
  refine ⟨ofJson_eq_ok (distinct_toJson files names abis) o.spells_toJson,
    fun v => ofJson_eq_ok, fun fileName deployed => ⟨fun found => ?_, ?_⟩⟩
  · simp only [findMatch?_eq_some_iff, contractsOf?_eq_some_iff files]
  · simp only [findMatch?_eq_none_iff, contractsOf?_eq_some_iff files]

private def sampleFactory : CompiledContract :=
  ⟨"Factory", .array [.object [("type", .string "constructor")]], "60ff"⟩

private def sampleOutput : CompileOutput :=
  { messages := [⟨.warning, "unused", none⟩]
    sources := [⟨"a.sol", [sampleFactory, ⟨"Base", .null, ""⟩]⟩, ⟨"b.sol", []⟩] }

private def sampleSpelling : Json :=
  .object [("version", .string "0.8.18"),
    ("contracts", .object [
      ("a.sol", .object [
        ("Factory", .object [
          ("evm", .object [("gas", .null),
            ("deployedBytecode", .object [("object", .string "60ff")])]),
          ("abi", sampleFactory.abi)]),
        ("Base", .object [("evm", .object [])])]),
      ("b.sol", .object [])]),
    ("errors", .array [
      .object [("severity", .string "warning"), ("message", .string "unused"),
        ("type", .string "Warning")]])]

theorem decodes_spellings_sample :
    (sampleOutput.sources.map (·.fileName)).Nodup ∧
      (∀ s ∈ sampleOutput.sources, (s.contracts.map (·.name)).Nodup) ∧
      ofJson sampleOutput.toJson = .ok sampleOutput ∧
      ofJson sampleSpelling = .ok sampleOutput ∧
      sampleOutput.findMatch? "a.sol" "60ff" = some ⟨sampleFactory, .full⟩ ∧
      sampleOutput.findMatch? "b.sol" "60ff" = none := by
  have files : (sampleOutput.sources.map (·.fileName)).Nodup := by decide
  have names : ∀ s ∈ sampleOutput.sources, (s.contracts.map (·.name)).Nodup := by
    simp [sampleOutput, sampleFactory]
  have abis : ∀ s ∈ sampleOutput.sources, ∀ c ∈ s.contracts, c.abi.Distinct := by
    simp [sampleOutput, sampleFactory, Json.Distinct, Json.DistinctItems, Json.DistinctMembers]
  obtain ⟨plain, spelled, finds⟩ := decodes_spellings files names abis
  refine ⟨files, names, plain, spelled _ ?_ ?_, ((finds "a.sol" "60ff").1 _).2 ?_,
    (finds "b.sol" "60ff").2.2 ?_⟩
  · simp [sampleSpelling, sampleFactory, Json.Distinct, Json.DistinctItems, Json.DistinctMembers]
  · have base : CompiledContract.Spells ⟨"Base", .null, ""⟩ (.object [("evm", .object [])]) :=
      ⟨_, rfl, rfl, ⟨_, rfl, rfl⟩⟩
    have factory : sampleFactory.Spells (.object [
        ("evm", .object [("gas", .null),
          ("deployedBytecode", .object [("object", .string "60ff")])]),
        ("abi", sampleFactory.abi)]) := ⟨_, rfl, rfl, ⟨_, rfl, ⟨_, rfl, rfl⟩⟩⟩
    refine ⟨_, rfl, ⟨_, rfl, .cons ⟨_, rfl, rfl, rfl, rfl⟩ .nil⟩,
      ⟨_, rfl, .cons ?_ (.cons ?_ .nil)⟩⟩
    · exact ⟨rfl, _, rfl, .cons ⟨rfl, factory⟩ (.cons ⟨rfl, base⟩ .nil)⟩
    · exact ⟨rfl, _, rfl, .nil⟩
  · exact ⟨_, List.mem_cons_self, ⟨[], _, rfl, by simp, by decide⟩, by decide⟩
  · simp [sampleOutput]

end CompileOutput

end SourceMatch
