import SourceMatch.CommandLine.Parameter
import SourceMatch.Proofs.Workflow.Registration

/-!
Contracts without code, such as interfaces. An option takes no empty bytecode, but it takes a bare
`0x`, of which nothing is left to compare. Then the first contract without code matches; behind any
other bytecode only contracts with code do.
-/
namespace SourceMatch

namespace Bytecode

variable {deployed compiled code : String}

theorem withoutTrailer?_empty : withoutTrailer? "" = none := rfl

theorem compare_empty_right : compare deployed "" = if deployed = "" then .full else .mismatch := by
  rw [compare]
  split
  · rfl
  · rw [withoutTrailer?_empty]
    cases withoutTrailer? deployed <;> rfl

theorem compare_empty_left : compare "" compiled = if compiled = "" then .full else .mismatch := by
  rw [compare]
  split
  · rename_i same
    rw [if_pos same.symm]
  · rename_i other
    rw [withoutTrailer?_empty, if_neg (Ne.symm other)]

theorem eq_empty_iff_of_compare (h : compare deployed compiled ≠ .mismatch) :
    compiled = "" ↔ deployed = "" := by
  constructor
  · rintro rfl
    by_contra other
    exact h (by rw [compare_empty_right, if_neg other])
  · rintro rfl
    by_contra other
    exact h (by rw [compare_empty_left, if_neg other])

/-- A mark with nothing behind it. -/
def IsBareMark (code : String) : Prop := code = "0x" ∨ code = "0X"

instance : DecidablePred IsBareMark := fun code =>
  inferInstanceAs (Decidable (code = "0x" ∨ code = "0X"))

theorem stripMark_eq_empty_iff (nonempty : code ≠ "") : stripMark code = "" ↔ IsBareMark code := by
  rw [stripMark, IsBareMark, ← String.toList_inj, ← String.toList_inj, ← String.toList_inj]
  split
  · rename_i rest marked
    rw [marked]
    simp
  · rename_i rest marked
    rw [marked]
    simp
  · rename_i small large
    have filled : code.toList ≠ "".toList := fun same => nonempty (String.toList_inj.1 same)
    exact iff_of_false filled (not_or.2 ⟨small [], large []⟩)

end Bytecode

theorem CommandLine.Parameter.stripMark_of_readBytecode {d : Disk} {raw bytecode : String}
    (h : readBytecode d raw = .ok bytecode) :
    Bytecode.stripMark bytecode = "" ↔ Bytecode.IsBareMark bytecode := by
  have taken {text : String} (h : (if Text.trimmed text = "" then
      throw (.rejected "Bytecode cannot be empty") else return Text.trimmed text) =
        (.ok bytecode : Except Refusal String)) : bytecode ≠ "" := by
    split at h
    · cases h
    · rename_i nonempty
      cases h
      exact nonempty
  refine Bytecode.stripMark_eq_empty_iff ?_
  rw [readBytecode] at h
  split at h
  · dsimp only at h
    split at h
    · rw [pure_bind] at h
      exact taken h
    · cases h
  · rw [pure_bind] at h
    exact taken h

namespace CompileOutput

theorem findMatch?_empty (o : CompileOutput) (fileName : String) :
    o.findMatch? fileName "" =
      ((o.contractsOf? fileName).bind (·.find? (·.bytecode = ""))).map (⟨·, .full⟩) := by
  have one (c : CompiledContract) :
      c.match? "" = if c.bytecode = "" then some ⟨c, .full⟩ else none := by
    rw [CompiledContract.match?, Bytecode.compare_empty_left]
    split <;> rfl
  have all (contracts : List CompiledContract) :
      contracts.findSome? (·.match? "") =
        (contracts.find? (·.bytecode = "")).map (⟨·, .full⟩) := by
    induction contracts with
    | nil => rfl
    | cons c contracts ih =>
      rw [List.findSome?_cons, List.find?_cons, one, ih]
      by_cases empty : c.bytecode = "" <;> simp [empty]
  rw [findMatch?]
  cases o.contractsOf? fileName with
  | none => rfl
  | some contracts => exact all contracts

end CompileOutput

namespace Workflow

/-- Bytecode that an option takes, other than a bare mark, is matched by contracts with code only,
in every state of a run, and no other contract is registered. Behind a bare mark it is the other way
round: the first contract without code matches. -/
theorem matches_code_iff {d : Disk} {raw bytecode : String}
    (read : CommandLine.Parameter.readBytecode d raw = .ok bytecode) (index : CompilerIndex)
    (resolver : ImportResolver) (contractId : Option String) (events : List Event) :
    let w := ofBytecode index resolver contractId bytecode
    let s := (run w events).state
    (∀ found, w.match? s = some found →
      (found.contract.bytecode ≠ "" ↔ ¬Bytecode.IsBareMark bytecode)) ∧
    (∀ e generation record, ((run w events).step w e).call = some (.register generation record) →
      ∃ output contracts c, Records w s record output contracts c ∧
        (c.bytecode ≠ "" ↔ ¬Bytecode.IsBareMark bytecode)) ∧
    (Bytecode.IsBareMark bytecode → w.match? s =
      ((s.output.bind (·.contractsOf? s.sourceFileName)).bind (·.find? (·.bytecode = ""))).map
        (⟨·, .full⟩)) := by
  intro w s
  have stripped : w.deployed = "" ↔ Bytecode.IsBareMark bytecode :=
    CommandLine.Parameter.stripMark_of_readBytecode read
  refine ⟨fun found matched => ?_, fun e generation record called => ?_, fun bare => ?_⟩
  · obtain ⟨output, contracts, -, -, first, -⟩ := match?_eq_some_iff.1 matched
    obtain ⟨-, -, -, -, differs⟩ := first
    rw [ne_eq, Bytecode.eq_empty_iff_of_compare differs, stripped]
  · obtain ⟨output, contracts, c, records, -⟩ := records_of_call called
    obtain ⟨-, -, -, -, differs⟩ := records.first
    refine ⟨output, contracts, c, records, ?_⟩
    rw [ne_eq, Bytecode.eq_empty_iff_of_compare differs, stripped]
  · rw [match?, stripped.2 bare]
    cases s.output with
    | none => rfl
    | some output => exact output.findMatch?_empty s.sourceFileName

theorem matches_code_iff_sample :
    CommandLine.Parameter.readBytecode {} "0x6001" = .ok "0x6001" ∧
      ∃ found, sample.match? (run sample sampleRound.events).state = some found ∧
        found.contract.bytecode ≠ "" := by
  have read : CommandLine.Parameter.readBytecode {} "0x6001" = .ok "0x6001" := by decide +kernel
  have given : ofBytecode {} {} (some "0.0.4242") "0x6001" = sample := by rfl
  have all := matches_code_iff read {} {} (some "0.0.4242") sampleRound.events
  rw [given] at all
  have matched : sample.match? (run sample sampleRound.events).state =
      some ⟨⟨"Token", .null, "6001"⟩, .full⟩ := by
    rw [run_sampleRound]
    rfl
  exact ⟨read, _, matched, (all.1 _ matched).2 (by decide)⟩

def interfaceJson : Json :=
  .object [("contracts", .object [("IToken.sol", .object [("IToken", .object
    [("evm", .object [("deployedBytecode", .object [("object", .string "")])])])])])]

def interfaceOutput : CompileOutput :=
  { sources := [⟨"IToken.sol", [⟨"IToken", .null, ""⟩]⟩] }

def interfaceRound : List Event :=
  [.setSource "IToken.sol" (some ""), .setCompilerVersion (some "0.8.18"), .next default,
    .next default, .next default, .answer 2 ⟨.ok interfaceOutput, .ok ()⟩]

theorem decoded_interfaceRound : ∀ e ∈ interfaceRound, e.IsDecoded := by
  intro e listed
  simp only [interfaceRound, List.mem_cons, List.not_mem_nil, or_false] at listed
  rcases listed with rfl | rfl | rfl | rfl | rfl | rfl <;> try trivial
  rintro output ⟨⟩
  exact ⟨interfaceJson, rfl⟩

def bareMark : Workflow := ofBytecode {} {} (some "0.0.4242") "0x"

theorem run_interfaceRound : run bareMark interfaceRound =
    { state :=
        { step := .compileAndCompare, sourceFileName := "IToken.sol", source := some "",
          compilerVersion := some "0.8.18", output := some interfaceOutput, generation := 2 }
      rounds := [none, none, none] } := by
  have imports : bareMark.resolver.settle (bareMark.resolver.seed "") = [] := by decide +kernel
  have entered : bareMark.setSource {} "IToken.sol" (some "") =
      { sourceFileName := "IToken.sol", source := some "", generation := 1 } := by
    simp only [Workflow.setSource, Option.map_some, Option.getD_some, imports]
    rfl
  have begun : run bareMark [.setSource "IToken.sol" (some "")] =
      { state := bareMark.setSource {} "IToken.sol" (some "") } := rfl
  rw [entered] at begun
  rw [interfaceRound, ← List.singleton_append, run, List.foldl_append, ← run, begun]
  rfl

theorem matches_contract_without_code :
    ¬∀ (d : Disk) (raw bytecode : String) (index : CompilerIndex) (resolver : ImportResolver)
      (contractId : Option String) (events : List Event) (found : ContractMatch),
      CommandLine.Parameter.readBytecode d raw = .ok bytecode → (∀ e ∈ events, e.IsDecoded) →
      (ofBytecode index resolver contractId bytecode).match?
          (run (ofBytecode index resolver contractId bytecode) events).state = some found →
        found.contract.bytecode ≠ "" := by
  intro h
  have read : CommandLine.Parameter.readBytecode {} "0x" = .ok "0x" := by decide +kernel
  have matched : bareMark.match? (run bareMark interfaceRound).state =
      some ⟨⟨"IToken", .null, ""⟩, .full⟩ := by
    rw [run_interfaceRound]
    rfl
  exact h {} "0x" "0x" {} {} (some "0.0.4242") interfaceRound _ read decoded_interfaceRound matched
    rfl

end Workflow

end SourceMatch
