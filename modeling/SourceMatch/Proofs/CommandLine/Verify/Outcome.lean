import SourceMatch.Proofs.CommandLine.Verify.Course
import SourceMatch.Proofs.Registry

/-!
What the verify command leaves behind. If it succeeds it has posted one input for the compiler that
was selected, a contract of the source matches, and one record is put among those of the registry,
or none without a contract to record it under. If it fails the registry has the records it had.
-/
namespace SourceMatch.CommandLine.VerifyCommand

open SourceMatch.CommandLine.Action

variable {a : VerifyArguments} {p : Setup} {w w' opened : World} {version : String}
  {output : CompileOutput} {found : ContractMatch}

def KeepsRecords (a : VerifyArguments) (w w' : World) : Prop :=
  ∀ path, registryPath? a w = some path →
    Registry.recordsAt w'.disk path = Registry.recordsAt w.disk path

theorem keepsRecords_of_opens {registry : Registry} (h : Opens a w registry w'.disk) :
    KeepsRecords a w w' := by
  intro path known
  obtain ⟨path', known', opened⟩ := h
  rw [known] at known'
  cases known'
  exact Registry.recordsAt_opened opened

theorem keepsRecords_of_prepared (h : Prepared a w p opened) (disk : w'.disk = opened.disk) :
    KeepsRecords a w w' :=
  keepsRecords_of_opens (disk ▸ h.opened)

/-- One request was posted behind others that only get. -/
def PostsOnce (n n' : Http.Network) (body : Json) : Prop :=
  ∃ gets request, n'.requests = n.requests ++ gets ++ [request] ∧
    (∀ r ∈ gets, r.method = .get) ∧ request.method = .post ∧ request.body = some body

theorem postsOnce_of_verified (h : Verified a w p opened version output found w') :
    PostsOnce w.network w'.network
      (p.workflow.compilerInput (gathered p version) version).toJson := by
  obtain ⟨gets, fetched, get⟩ := CompilerIndex.gets_fetch h.prepared.index
  obtain ⟨request, posted, post, body⟩ := CompileService.delivers_of_compile h.compiled
  exact ⟨gets, request, by rw [posted, fetched], get, post, body⟩

def recordFor (a : VerifyArguments) (w : World) (fileName version contractId : String)
    (contract : CompiledContract) : Registration where
  contractId
  contractName := contract.name
  compilerVersion := version
  sourceFileName := fileName
  matchKind := Bytecode.compare (Bytecode.stripMark a.bytecode) contract.bytecode
  abi := contract.abi
  timestamp := w.now

/-- What becomes of the registry at a path: one record is put under the contract that is asked for,
or nothing changes without one. -/
inductive Registers (a : VerifyArguments) (w w' : World) (path fileName version : String)
    (contract : CompiledContract) : Option String → Prop
  | one {contractId : String} {records : Records}
      (before : Registry.recordsAt w.disk path = .ok records)
      (file : w'.disk.read path =
        .ok (records.add (recordFor a w fileName version contractId contract)).toJson.pretty)
      (after : Registry.Survives
          (records.add (recordFor a w fileName version contractId contract)) →
        Registry.recordsAt w'.disk path =
          .ok (records.add (recordFor a w fileName version contractId contract))) :
      Registers a w w' path fileName version contract (some contractId)
  | none (same : Registry.recordsAt w'.disk path = Registry.recordsAt w.disk path) :
      Registers a w w' path fileName version contract none

structure Succeeded (a : VerifyArguments) (w w' : World) (source fileName version : String)
    (index : CompilerIndex) (input : CompilerInput) (contracts : List CompiledContract)
    (contract : CompiledContract) (path : String) : Prop where
  read : w.disk.read a.source = .ok source
  named : Path.fileName? a.source = some fileName.toList
  fetched : (CompilerIndex.fetch w.network a.indexUrl).1 = .ok index
  selected : (a.compilerVersion = some version ∧ index.contains version = true) ∨
    (a.compilerVersion = none ∧ index.resolve? source = some version)
  longVersion : input.version = "v" ++ (index.longVersion? version).getD version
  posted : PostsOnce w.network w'.network input.toJson
  compiled : ∃ service output, CompileService.ofUrl a.compilerUrl = .ok service ∧
    service.compile (CompilerIndex.fetch w.network a.indexUrl).2 input =
      (.ok output, w'.network) ∧
    output.contractsOf? fileName = some contracts
  matched : FirstMatch (Bytecode.stripMark a.bytecode) contracts contract
  located : registryPath? a w = some path
  registered : Registers a w w' path fileName version contract a.contractId

theorem registers_of_recorded {path : String} {disk : Disk} {contractId : Option String}
    (opening : Registry.openAt w.disk path = .ok (p.services.registry, disk))
    (kind : found.kind =
      Bytecode.compare (Bytecode.stripMark a.bytecode) found.contract.bytecode)
    (recorded : Recorded p version found w.now disk w'.disk contractId) :
    Registers a w w' path p.fileName version found.contract contractId := by
  cases recorded with
  | @under contractId registered =>
    have record : recordOf p version found w.now contractId =
        recordFor a w p.fileName version contractId found.contract := by
      rw [recordOf, recordFor, kind]
    rw [record] at registered
    obtain ⟨records, before, file, after⟩ := Registry.recordsAt_registered opening registered
    exact .one before file after
  | skipped same =>
    refine .none ?_
    rw [same]
    exact Registry.recordsAt_opened opening

theorem succeeded_of_verified (h : Verified a w p opened version output found w') :
    ∃ contracts path, Succeeded a w w' p.source p.fileName version p.workflow.index
      (p.workflow.compilerInput (gathered p version) version) contracts found.contract path := by
  have deployed : p.workflow.deployed = Bytecode.stripMark a.bytecode := by
    rw [h.prepared.workflow]
    rfl
  obtain ⟨contracts, listed, first, kind⟩ := CompileOutput.findMatch?_eq_some_iff.1 h.matched
  obtain ⟨path, known, opening⟩ := h.prepared.opened
  rw [deployed] at first kind
  exact ⟨contracts, path,
    { read := h.prepared.source
      named := h.prepared.fileName
      fetched := by rw [h.prepared.index]
      selected := by
        have selects := h.selects
        generalize a.compilerVersion = requested at selects ⊢
        cases selects with
        | requested known => exact .inl ⟨rfl, known⟩
        | resolved resolved => exact .inr ⟨rfl, resolved⟩
      longVersion := rfl
      posted := postsOnce_of_verified h
      compiled := by
        rw [h.prepared.index]
        exact ⟨_, _, h.prepared.compiler, h.compiled, listed⟩
      matched := first
      located := known
      registered := registers_of_recorded opening kind h.recorded }⟩

/-- If the command succeeds, it has posted one input, for the compiler that was asked for or else
the one that the source selects; a contract of the source matches the deployed code, and the
registry has one record more, or the same records without a contract to record it under. If the
command fails, the registry has the same records; the verification itself never refuses to go on. -/
theorem succeeds_or_keeps_records (a : VerifyArguments) (w : World) :
    (run a).Meets w fun result w' =>
      match result with
      | .ok () => ∃ source fileName version index input contracts contract path,
          Succeeded a w w' source fileName version index input contracts contract path
      | .error e => KeepsRecords a w w' ∧
          ∀ error, e = .workflow error → error.isRefusal = false := by
  refine .imp (meets_run a w) fun result w' course => ?_
  cases course with
  | verified verified =>
    obtain ⟨contracts, path, succeeded⟩ := succeeded_of_verified verified
    exact ⟨_, _, _, _, _, _, _, _, succeeded⟩
  | unread cause _ disk =>
    refine ⟨?_, by rintro error rfl; cases cause⟩
    rcases disk with same | ⟨registry, opens⟩
    · intro path _
      rw [same]
    · exact keepsRecords_of_opens opens
  | unselected prepared cause _ disk =>
    exact ⟨keepsRecords_of_prepared prepared disk, by rintro error rfl; cases cause⟩
  | unresolved prepared _ _ disk => exact ⟨keepsRecords_of_prepared prepared disk, nofun⟩
  | mismatched compiles _ disk =>
    exact ⟨keepsRecords_of_prepared compiles.prepared disk, nofun⟩
  | unregistered compiles _ _ disk =>
    refine ⟨keepsRecords_of_prepared compiles.prepared disk, ?_⟩
    rintro error ⟨⟩
    rfl

def sampleCompiled : Http.Reaction :=
  .answer 200
    ("\x7b\"contracts\": \x7b\"A.sol\": \x7b\"A\": \x7b\"evm\": \x7b\"deployedBytecode\": " ++
      "\x7b\"object\": \"6001\"\x7d\x7d\x7d\x7d\x7d\x7d") none true

theorem succeeds_or_keeps_records_sample :
    let a := sampleArguments (some "0.0.7")
    let w := sampleWorld "library B \x7b\x7d" [sampleCompiled]
    (run a).Meets w fun result w' =>
      result = .ok () ∧ ∃ source fileName version index input contracts contract path,
        Succeeded a w w' source fileName version index input contracts contract path := by
  intro a w
  let p := sampleSetup "library B \x7b\x7d" (some "0.0.7")
  let n : Http.Network := ⟨true, [sampleCompiled], [⟨.get, sampleUrl, none, none⟩]⟩
  let input := p.workflow.compilerInput (gathered p "0.8.18") "0.8.18"
  have answered : ((p.services.compiler.compile n input).1.toOption.bind
      (·.findMatch? p.fileName p.workflow.deployed)).isSome := by decide +kernel
  obtain ⟨⟨answer, network⟩, compiled⟩ : ∃ r, p.services.compiler.compile n input = r := ⟨_, rfl⟩
  rw [compiled] at answered
  cases answer with
  | error e => cases answered
  | ok output =>
    obtain ⟨found, matched⟩ := Option.isSome_iff_exists.1 answered
    have compiles : Compiles a w p { w with network := n } "0.8.18" (.ok output) network :=
      { prepared := prepared_sample _ _ _
        selects := selects_sample _ _
        resolved := by decide +kernel
        compiled := compiled }
    have free : w.disk.find "verified.json" true = .ok (.free ["verified.json".toList]) :=
      Disk.find_of_names (show _ ∧ _ ∧ _ = ["verified.json".toList] by decide +kernel)
        (.free (by decide) rfl)
    have recorded (e : RegistryError) :
        ¬Unrecorded p "0.8.18" found w.now w.disk e a.contractId := by
      rintro ⟨refused⟩
      cases refused.symm.trans (Registry.register_of_free free (by decide))
    have succeeds := meets_run_of_matched compiles matched recorded
    refine .imp (succeeds.and (succeeds_or_keeps_records a w)) ?_
    rintro _ w' ⟨rfl, succeeded⟩
    exact ⟨rfl, succeeded⟩

end SourceMatch.CommandLine.VerifyCommand
