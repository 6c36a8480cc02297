import SourceMatch.Proofs.Workflow.Busy
import SourceMatch.Proofs.Workflow.Provenance

/-!
What a verification registers, and what comes of it. A record is about one contract, the first one
of the entry source that matches; its interface is looked up by name, which leads back to the same
contract if the output was read from JSON. As long as the call waits the verification stays on the
fourth step. Only an acceptance that nothing superseded enters the last one, and the match is then
still the one that was registered.
-/
namespace SourceMatch.Workflow

variable {w : Workflow} {s : State} {r : Run} {e : Event} {found : ContractMatch}
  {record : Registration} {number generation : Nat}

def Event.IsDecoded : Event → Prop
  | .answer _ a => ∀ output, a.compiled = .ok output → ∃ v, CompileOutput.ofJson v = .ok output
  | _ => True

theorem decoded_of_output {events : List Event} {output : CompileOutput}
    (decoded : ∀ e ∈ events, e.IsDecoded) (h : (run w events).state.output = some output) :
    ∃ v, CompileOutput.ofJson v = .ok output := by
  obtain ⟨c, generation, input, rfl, ho⟩ := exists_origin h
  have hmem : .answer c.number c.answer ∈ c.events := by
    simp [AnsweredRound.events, AnsweredRound.settled]
  exact decoded _ hmem output ho.answered

/-- The record of a match that is registered in state `s`: it is about the contract `c`, the first
one of the entry source that matches. -/
structure Records (w : Workflow) (s : State) (record : Registration) (output : CompileOutput)
    (contracts : List CompiledContract) (c : CompiledContract) : Prop where
  contractId_eq : w.contractId = some record.contractId
  sourceFileName_eq : record.sourceFileName = s.sourceFileName
  output_eq : s.output = some output
  contracts_eq : output.contractsOf? s.sourceFileName = some contracts
  first : FirstMatch w.deployed contracts c
  contractName_eq : record.contractName = c.name
  matchKind_eq : record.matchKind = Bytecode.compare w.deployed c.bytecode

theorem exists_records {now : Timestamp} (matched : w.match? s = some found)
    (recorded : w.registration? s found now = some record) :
    ∃ output contracts, Records w s record output contracts found.contract ∧
      ((contracts.map (·.name)).Nodup → record.abi = found.contract.abi) := by
  obtain ⟨output, contracts, ho, hc, first, hkind⟩ := match?_eq_some_iff.1 matched
  simp only [registration?, Option.map_eq_some_iff] at recorded
  obtain ⟨contractId, hid, rfl⟩ := recorded
  refine ⟨output, contracts, ⟨hid, rfl, ho, hc, first, rfl, hkind⟩, fun hn => ?_⟩
  have named := CompileOutput.contract?_name hc first.mem hn
  simp [ho, named]

theorem records_of_call {events : List Event}
    (h : ((run w events).step w e).call = some (.register generation record)) :
    ∃ output contracts c, Records w (run w events).state record output contracts c ∧
      ((∀ e ∈ events, e.IsDecoded) → record.abi = c.abi) := by
  obtain ⟨now, state, -, hcase, -⟩ := called_of_call h
  cases hcase with
  | register _ _ _ matched recorded =>
    obtain ⟨output, contracts, hr, habi⟩ := exists_records matched recorded
    refine ⟨output, contracts, _, hr, fun decoded => habi ?_⟩
    obtain ⟨v, hv⟩ := decoded_of_output decoded hr.output_eq
    obtain ⟨source, hsource, rfl⟩ := Option.map_eq_some_iff.1 hr.contracts_eq
    exact CompileOutput.nodup_of_ofJson hv source (List.mem_of_find?_eq_some hsource)

theorem state_of_accepted {a : Answer} (h : r.waiting? number = some (.register generation record))
    (accepted : a.registered = .ok ()) : (r.step w (.answer number a)).run.state =
      if isCurrent r.state generation then { r.state with busy := false, step := .register }
      else { r.state with busy := false } := by
  simp only [Run.step, Run.answer, h, finish, accepted]
  cases hc : isCurrent r.state generation with
  | true => rw [finishRegister_wanted hc, if_pos rfl]
  | false => rw [finishRegister_late hc, if_neg Bool.false_ne_true]

theorem state_of_rejected {a : Answer} {error : RegistryError}
    (h : r.waiting? number = some (.register generation record))
    (rejected : a.registered = .error error) :
    (r.step w (.answer number a)).run.state = { r.state with busy := false } := by
  simp [Run.step, Run.answer, h, finish, finishRegister, rejected]

/-- Every register call of a run is about one contract: the first of the entry source that matches,
under its name, with its kind of match and, if the outputs were read from JSON, with its interface.
As long as it waits the step is the fourth one. If nothing superseded the call an acceptance enters
the last step, where the match is the one that was registered; any other end of the round changes
nothing but `busy`. Without a contract to register under there is no such call. -/
theorem registers_first_match (w : Workflow) (events : List Event) :
    let r := run w events
    (∀ e generation record, (r.step w e).call = some (.register generation record) →
      ∃ output contracts c, Records w r.state record output contracts c ∧
        ((∀ e ∈ events, e.IsDecoded) → record.abi = c.abi)) ∧
      (∀ number generation record, r.waiting? number = some (.register generation record) →
        r.state.step = .compileAndCompare ∧
          ∃ before start during, events = before ++ .next start :: during ∧
            Flight w before start during number (.register generation record) ∧
            (∀ a, a.registered = .ok () → during.any Event.supersedes = false →
              let t := (r.step w (.answer number a)).run.state
              t = { r.state with busy := false, step := .register } ∧
                ∃ found, w.match? t = some found ∧ found.contract.name = record.contractName ∧
                  found.kind = record.matchKind) ∧
            (∀ e, e.settles number →
              (∀ a, e = .answer number a → a.registered = .ok () →
                during.any Event.supersedes = true) →
              (r.step w e).run.state = { r.state with busy := false })) ∧
      (w.contractId = none →
        ∀ e generation record, (r.step w e).call ≠ some (.register generation record)) := by
  intro r
  refine ⟨fun e generation record => records_of_call,
    fun number generation record waiting => ?_, fun hnone e generation record hcall => ?_⟩
  · -- the flight of the round: nothing but setters and `dispose` has happened since its start
    obtain ⟨before, start, during, rfl, hf⟩ := exists_flight waiting
    have current : isCurrent r.state generation = !during.any Event.supersedes := hf.isCurrent_eq
    refine ⟨hf.step_eq, before, start, during, rfl, hf, fun a accepted hs => ?_,
      fun e settles ended => ?_⟩
    · have hstate : (r.step w (.answer number a)).run.state =
          { r.state with busy := false, step := .register } := by
        rw [state_of_accepted waiting accepted, current, hs]
        rfl
      obtain ⟨found, now, hm, hrecord⟩ := hf.match?_eq hs
      simp only [registration?, Option.map_eq_some_iff] at hrecord
      obtain ⟨contractId, -, rfl⟩ := hrecord
      exact ⟨hstate, found, by rw [hstate]; exact hm, rfl, rfl⟩
    · cases e with
      | answer n a =>
        obtain rfl := settles
        cases ha : a.registered with
        | error error => exact state_of_rejected waiting ha
        | ok _ =>
          rw [state_of_accepted waiting ha, current, ended a rfl ha]
          rfl
      | drop n =>
        obtain rfl := settles
        exact state_of_drop waiting
      | _ => exact settles.elim
  · obtain ⟨output, contracts, c, hr, -⟩ := records_of_call hcall
    cases hnone.symm.trans hr.contractId_eq

def sampleJson : Json :=
  .object [("contracts", .object [("Token.sol", .object [("Token", .object
    [("evm", .object [("deployedBytecode", .object [("object", .string "6001")])])])])])]

theorem decoded_sampleRound : ∀ e ∈ sampleRound.events, e.IsDecoded := by
  intro e he
  cases e with
  | answer number a =>
    simp only [AnsweredRound.events, AnsweredRound.settled, AnsweredRound.waiting, sampleRound,
      sampleReady, List.cons_append, List.nil_append, List.mem_cons, reduceCtorEq,
      Event.answer.injEq, List.not_mem_nil, or_self, or_false, false_or] at he
    obtain ⟨-, rfl⟩ := he
    rintro output ⟨⟩
    exact ⟨sampleJson, rfl⟩
  | _ => trivial

theorem registers_first_match_sample :
    (∀ e ∈ sampleRound.events, e.IsDecoded) ∧
    ∃ record, ((run sample sampleRound.events).step sample (.next default)).call =
        some (.register 2 record) ∧
      ∃ output contracts c,
        Records sample (run sample sampleRound.events).state record output contracts c ∧
          record.abi = c.abi := by
  obtain ⟨record, hcall⟩ : ∃ record,
      ((run sample sampleRound.events).step sample (.next default)).call =
        some (.register 2 record) := by
    rw [run_sampleRound]
    exact ⟨_, rfl⟩
  obtain ⟨output, contracts, c, hr, habi⟩ :=
    (registers_first_match sample sampleRound.events).1 _ _ _ hcall
  exact ⟨decoded_sampleRound, record, hcall, output, contracts, c, hr, habi decoded_sampleRound⟩

end SourceMatch.Workflow
