import SourceMatch.Compiler.Output
import SourceMatch.Proofs.Json.Decoding

/-!
The contract of a file that counts: the first one whose code matches the deployed code. In an output
that was read from JSON the contracts of a file have different names, so a contract that was found
is found again by its name.
-/
namespace SourceMatch

theorem MatchKind.isMatch_iff (k : MatchKind) : k.isMatch = true ↔ k ≠ .mismatch := by
  cases k <;> simp [isMatch]

def FirstMatch (deployed : String) (contracts : List CompiledContract) (c : CompiledContract) :
    Prop :=
  ∃ before after, contracts = before ++ c :: after ∧
    (∀ b ∈ before, Bytecode.compare deployed b.bytecode = .mismatch) ∧
    Bytecode.compare deployed c.bytecode ≠ .mismatch

theorem FirstMatch.mem {deployed : String} {contracts : List CompiledContract}
    {c : CompiledContract} (h : FirstMatch deployed contracts c) : c ∈ contracts := by
  obtain ⟨before, after, rfl, -, -⟩ := h
  simp

namespace CompiledContract

variable {deployed : String} {c : CompiledContract}

theorem match?_eq_some_iff {found : ContractMatch} :
    c.match? deployed = some found ↔
      Bytecode.compare deployed c.bytecode ≠ .mismatch ∧
        found = ⟨c, Bytecode.compare deployed c.bytecode⟩ := by
  simp only [match?]
  split
  · rename_i h
    simp [(MatchKind.isMatch_iff _).1 h, eq_comm]
  · rename_i h
    simp [mt (MatchKind.isMatch_iff _).2 h]

theorem match?_eq_none_iff :
    c.match? deployed = none ↔ Bytecode.compare deployed c.bytecode = .mismatch := by
  rw [← not_iff_not, ← ne_eq, Option.ne_none_iff_exists']
  simp [match?_eq_some_iff]

end CompiledContract

namespace CompileOutput

variable {o : CompileOutput} {fileName deployed : String}

theorem contractsOf?_eq_some_iff (files : (o.sources.map (·.fileName)).Nodup)
    {contracts : List CompiledContract} :
    o.contractsOf? fileName = some contracts ↔ ⟨fileName, contracts⟩ ∈ o.sources := by
  rw [contractsOf?, Option.map_eq_some_iff]
  constructor
  · rintro ⟨s, found, rfl⟩
    have name : s.fileName = fileName := by simpa using List.find?_some found
    rw [← name]
    exact List.mem_of_find?_eq_some found
  · intro listed
    cases found : o.sources.find? (·.fileName = fileName) with
    | none => simpa using List.find?_eq_none.1 found _ listed
    | some s =>
      have name : s.fileName = fileName := by simpa using List.find?_some found
      refine ⟨s, rfl, ?_⟩
      rw [List.inj_on_of_nodup_map files (List.mem_of_find?_eq_some found) listed name]

theorem findMatch?_eq_some_iff {found : ContractMatch} :
    o.findMatch? fileName deployed = some found ↔
      ∃ contracts, o.contractsOf? fileName = some contracts ∧
        FirstMatch deployed contracts found.contract ∧
        found.kind = Bytecode.compare deployed found.contract.bytecode := by
  simp only [findMatch?, Option.bind_eq_bind, Option.bind_eq_some_iff]
  refine exists_congr fun contracts => and_congr_right fun _ => ?_
  rw [List.findSome?_eq_some_iff]
  constructor
  · rintro ⟨before, c, after, rfl, hc, hbefore⟩
    obtain ⟨hmatch, rfl⟩ := CompiledContract.match?_eq_some_iff.1 hc
    exact ⟨⟨before, after, rfl,
      fun b hb => CompiledContract.match?_eq_none_iff.1 (hbefore b hb), hmatch⟩, rfl⟩
  · rintro ⟨⟨before, after, rfl, hbefore, hmatch⟩, hkind⟩
    refine ⟨before, found.contract, after, rfl, ?_,
      fun b hb => CompiledContract.match?_eq_none_iff.2 (hbefore b hb)⟩
    exact CompiledContract.match?_eq_some_iff.2 ⟨hmatch, by rw [← hkind]⟩

theorem isMatch_of_findMatch? {found : ContractMatch}
    (h : o.findMatch? fileName deployed = some found) : found.kind.isMatch = true := by
  obtain ⟨contracts, -, ⟨before, after, -, -, differs⟩, kind⟩ := findMatch?_eq_some_iff.1 h
  rw [MatchKind.isMatch_iff, kind]
  exact differs

theorem findMatch?_eq_none_iff :
    o.findMatch? fileName deployed = none ↔
      ∀ contracts, o.contractsOf? fileName = some contracts →
        ∀ c ∈ contracts, Bytecode.compare deployed c.bytecode = .mismatch := by
  simp only [findMatch?, Option.bind_eq_bind, Option.bind_eq_none_iff,
    List.findSome?_eq_none_iff, CompiledContract.match?_eq_none_iff]

theorem contract?_name {contracts : List CompiledContract} {c : CompiledContract}
    (hfile : o.contractsOf? fileName = some contracts) (hc : c ∈ contracts)
    (hn : (contracts.map (·.name)).Nodup) : o.contract? fileName c.name = some c := by
  simp only [contract?, hfile, Option.bind_eq_bind, Option.bind_some]
  cases hf : contracts.find? (·.name = c.name) with
  | none => simpa using List.find?_eq_none.1 hf c hc
  | some d =>
    have hname : d.name = c.name := by simpa using List.find?_some hf
    rw [List.inj_on_of_nodup_map hn (List.mem_of_find?_eq_some hf) hc hname]

theorem name_of_decoded {name : String} {v : Json} {c : CompiledContract}
    (h : (CompiledContract.decoder name).ofValue v = .ok c) : c.name = name := by
  simp only [CompiledContract.decoder, Json.Decoder.ofValue] at h
  obtain ⟨f, hf⟩ := Json.Decoder.exists_fields h
  obtain ⟨abi, -, hf⟩ := Json.bind_eq_ok.1 hf
  obtain ⟨bytecode, -, hf⟩ := Json.bind_eq_ok.1 hf
  cases hf
  rfl

theorem nodup_of_contractsOfJson {doc : Json.Document} {v : Json}
    {contracts : List CompiledContract} (hv : doc.keep = .ok v)
    (h : contractsOfJson v = .ok contracts) : (contracts.map (·.name)).Nodup := by
  rw [contractsOfJson, Json.bind_eq_ok] at h
  obtain ⟨read, hr, h⟩ := h
  obtain ⟨members, rfl, hnames⟩ := Json.Decoder.names_of_members hr
  have names : contracts.map (·.name) = read.map (·.1) := by
    refine Json.map_eq_of_forall₂ ?_ (Json.forall₂_of_mapM h)
    exact fun _ _ hc => name_of_decoded hc
  rw [names, hnames]
  exact Json.Document.nodup_of_keep hv

theorem nodup_of_ofJson {v : Json} (h : ofJson v = .ok o) :
    ∀ s ∈ o.sources, (s.contracts.map (·.name)).Nodup := by
  intro s hs
  rw [ofJson, Json.bind_eq_ok] at h
  obtain ⟨⟨messages, files⟩, hfiles, h⟩ := h
  obtain ⟨sources, hsources, h⟩ := Json.bind_eq_ok.1 h
  cases h
  obtain ⟨file, hmem, hs⟩ := Json.exists_of_mem_forall₂ (Json.forall₂_of_mapM hsources) hs
  obtain ⟨contracts, hcontracts, hs⟩ := Json.bind_eq_ok.1 hs
  cases hs
  obtain ⟨doc, hkept⟩ : ∃ doc : Json.Document, doc.keep = .ok file.2 := by
    obtain ⟨f, hf⟩ := Json.Decoder.exists_fields hfiles
    obtain ⟨messages', -, hf⟩ := Json.bind_eq_ok.1 hf
    obtain ⟨files', hfiles', hf⟩ := Json.bind_eq_ok.1 hf
    cases hf
    rcases Json.Decoder.orElse_eq_ok hfiles' with rfl | ⟨doc, hdoc⟩
    · cases hmem
    · obtain ⟨ms, close, -, hms⟩ := Json.Decoder.members_eq_ok hdoc
      obtain ⟨m, -, -, hkept⟩ := Json.exists_of_mem_forall₂ hms hmem
      exact ⟨m.2, hkept⟩
  exact nodup_of_contractsOfJson hkept hcontracts

theorem contract?_of_findMatch? {v : Json} {found : ContractMatch} (read : ofJson v = .ok o)
    (matched : o.findMatch? fileName deployed = some found) :
    o.contract? fileName found.contract.name = some found.contract := by
  obtain ⟨contracts, listed, first, -⟩ := findMatch?_eq_some_iff.1 matched
  obtain ⟨source, known, rfl⟩ := Option.map_eq_some_iff.1 listed
  have names := nodup_of_ofJson read source (List.mem_of_find?_eq_some known)
  exact contract?_name listed first.mem names

end CompileOutput

end SourceMatch
