import SourceMatch.Proofs.Compiler.Match
import SourceMatch.Proofs.Workflow.Waiting

/-!
How a verification moves between its steps. It moves one step at a time: forward only with what the
step asks for, which for the last one is a match at that moment, and backward only when it is asked
to go back. While a call waits nothing but the acceptance of a registration moves it.
-/
namespace SourceMatch.Workflow

variable {w : Workflow} {s t : State} {r : Run} {e : Event} {found : ContractMatch}

def Matched (w : Workflow) (s : State) : Prop :=
  ∃ output contracts c, s.output = some output ∧
    output.contractsOf? s.sourceFileName = some contracts ∧ c ∈ contracts ∧
      Bytecode.compare w.deployed c.bytecode ≠ .mismatch

theorem match?_eq_some_iff : w.match? s = some found ↔
    ∃ output contracts, s.output = some output ∧
      output.contractsOf? s.sourceFileName = some contracts ∧
      FirstMatch w.deployed contracts found.contract ∧
      found.kind = Bytecode.compare w.deployed found.contract.bytecode := by
  simp only [match?, Option.bind_eq_bind, Option.bind_eq_some_iff,
    CompileOutput.findMatch?_eq_some_iff, exists_and_left]

theorem matched_of_match? (h : w.match? s = some found) : Matched w s := by
  obtain ⟨output, contracts, ho, hc, ⟨before, after, rfl, -, hm⟩, -⟩ := match?_eq_some_iff.1 h
  exact ⟨output, _, found.contract, ho, hc, by simp, hm⟩

theorem match?_congr (ho : s.output = t.output) (hf : s.sourceFileName = t.sourceFileName) :
    w.match? s = w.match? t := by
  simp only [match?, ho, hf]

/-- What a record was made of is still the match as long as nothing supersedes its call. -/
theorem Flight.match?_eq {before during : List Event} {start : Timestamp} {number generation : Nat}
    {record : Registration} (h : Flight w before start during number (.register generation record))
    (hs : during.any Event.supersedes = false) :
    ∃ found now, w.match? (run w (before ++ .next start :: during)).state = some found ∧
      w.registration? (run w before).state found now = some record := by
  obtain ⟨now, state, heq, hcase, -⟩ := called_of_call h.call
  cases hcase with
  | register _ _ _ matched recorded =>
    refine ⟨_, now, Eq.trans ?_ matched, recorded⟩
    exact match?_congr (h.output_eq hs) (h.source_eq hs).2

theorem match?_of_registering {events : List Event} {number generation : Nat}
    {record : Registration}
    (waiting : (run w events).waiting? number = some (.register generation record))
    (wanted : isCurrent (run w events).state generation = true) :
    ∃ found, w.match? (run w events).state = some found := by
  obtain ⟨before, start, during, rfl, hf⟩ := exists_flight waiting
  obtain ⟨found, now, hm, -⟩ := hf.match?_eq (hf.undisturbed wanted)
  exact ⟨found, hm⟩

/-- The moves between steps, each with what it takes. -/
inductive Move (w : Workflow) (r : Run) (e : Event) (o : Outcome) : Step → Step → Prop
  | stay (step : Step) : Move w r e o step step
  | selectCompiler {now : Timestamp} (event : e = .next now) (source : r.state.source.isSome) :
      Move w r e o .sourceEntry .compilerSelection
  | resolveImports {now : Timestamp} (event : e = .next now)
      (version : r.state.compilerVersion.isSome) :
      Move w r e o .compilerSelection .importResolution
  | compile {now : Timestamp} {generation : Nat} {version : String} (event : e = .next now)
      (selected : r.state.compilerVersion = some version)
      (resolved : unresolvedCount r.state = 0)
      (call : o.call = some (.compile generation (w.compilerInput r.state version))) :
      Move w r e o .importResolution .compileAndCompare
  | skip {now : Timestamp} (event : e = .next now) (anonymous : w.contractId = none)
      (matched : Matched w r.state) : Move w r e o .compileAndCompare .register
  | register {number generation : Nat} {a : Answer} {record : Registration}
      (event : e = .answer number a)
      (waiting : r.waiting? number = some (.register generation record))
      (accepted : a.registered = .ok ()) (matched : Matched w r.state) :
      Move w r e o .compileAndCompare .register
  | back {step previous : Step} (event : e = .back) (idle : r.state.busy = false)
      (accepted : o.effect = .moved (.ok previous)) (previous_eq : step.previous? = some previous) :
      Move w r e o step previous

namespace Move

variable {o : Outcome} {a b : Step}

theorem number_le (h : Move w r e o a b) : b.number ≤ a.number + 1 ∧ a.number ≤ b.number + 1 := by
  cases h with
  | back _ _ _ hp =>
    have := Step.number_previous? hp
    omega
  | _ => simp [Step.number]

theorem of_register (h : Move w r e o .register b) : b = .register := by
  cases h with
  | stay => rfl
  | back _ _ _ hp => simp [Step.previous?] at hp

end Move

theorem step_move (w : Workflow) (events : List Event) (e : Event) :
    Move w (run w events) e ((run w events).step w e) (run w events).state.step
      ((run w events).step w e).run.state.step := by
  have hmatch {number generation : Nat} {record : Registration} :=
    @match?_of_registering w events number generation record
  have hstep {number : Nat} {round : Round} :
      (run w events).waiting? number = some round →
        (run w events).state.step = .compileAndCompare := fun h => by
    obtain ⟨before, start, during, rfl, hf⟩ := exists_flight h
    exact hf.step_eq
  have ht := transition w (run w events) e
  generalize run w events = r at ht hmatch hstep ⊢
  generalize r.step w e = o at ht ⊢
  cases ht with
  | immediate _ =>
    simp only [Run.withState, apply_step]
    exact .stay _
  | next moved =>
    cases moved with
    | refused _ _ => exact .stay _
    | selectCompiler _ _ step source => rw [step]; exact .selectCompiler rfl source
    | resolveImports _ _ step version => rw [step]; exact .resolveImports rfl version
    | skip _ _ step matched anonymous =>
      rw [step]; exact .skip rfl anonymous (matched_of_match? matched)
  | call called =>
    cases called with
    | compile _ _ step selected resolved => rw [step]; exact .compile rfl selected resolved rfl
    | register _ _ step _ _ => exact .stay _
  | back idle hp => exact .back rfl idle rfl hp
  | registered waiting accepted wanted =>
    obtain ⟨found, hm⟩ := hmatch waiting wanted
    rw [hstep waiting]
    exact .register rfl waiting accepted (matched_of_match? hm)
  | _ => exact .stay _

theorem step_of_busy (hb : r.state.busy = true)
    (hs : (r.step w e).run.state.step ≠ r.state.step) :
    ∃ number a generation record, e = .answer number a ∧
      r.waiting? number = some (.register generation record) ∧ a.registered = .ok () := by
  have ht := transition w r e
  generalize r.step w e = o at ht hs
  cases ht with
  | immediate _ => exact absurd (apply_step w r.state e) hs
  | next moved => cases moved <;> simp_all
  | call called => cases called <;> simp_all
  | back idle _ => simp_all
  | registered waiting accepted _ => exact ⟨_, _, _, _, rfl, waiting, accepted⟩
  | _ => exact absurd rfl hs

theorem state_of_refused (he : e = .back ∨ ∃ now, e = .next now) {error : Error}
    (h : (r.step w e).effect = .moved (.error error)) :
    error.isRefusal = true ∧ (r.step w e).run.state = r.state ∧ (r.step w e).call = none := by
  have ht := transition w r e
  generalize r.step w e = o at ht h ⊢
  cases ht with
  | immediate _ => simp [Run.withState] at h
  | next moved =>
    cases moved with
    | refused refusal _ =>
      simp only [Effect.moved.injEq, Except.error.injEq] at h
      exact ⟨h ▸ refusal, rfl, rfl⟩
    | _ => simp at h
  | call _ => simp at h
  | back _ _ => simp at h
  | backRefused refusal _ =>
    simp only [Effect.moved.injEq, Except.error.injEq] at h
    exact ⟨h ▸ refusal, rfl, rfl⟩
  | _ => simp at he

/-- In every run, an event moves a verification by one step at most, and only as `Move` allows; the
last step is never left; and an attempt that is refused leaves the state and calls nobody. -/
theorem moves_by_one_step (w : Workflow) (events : List Event) (e : Event) :
    let r := run w events
    let o := r.step w e
    Move w r e o r.state.step o.run.state.step ∧
      o.run.state.step.number ≤ r.state.step.number + 1 ∧
      r.state.step.number ≤ o.run.state.step.number + 1 ∧
      (r.state.step = .register → o.run.state.step = .register) ∧
      (r.state.busy = true → o.run.state.step ≠ r.state.step →
        ∃ number a generation record, e = .answer number a ∧
          r.waiting? number = some (.register generation record) ∧ a.registered = .ok ()) ∧
      (e = .back ∨ (∃ now, e = .next now) → ∀ error, o.effect = .moved (.error error) →
        error.isRefusal = true ∧ o.run.state = r.state ∧ o.call = none) := by
  intro r o
  have hm : Move w r e o r.state.step o.run.state.step := step_move w events e
  refine ⟨hm, hm.number_le.1, hm.number_le.2, fun hr => ?_, step_of_busy, fun he error =>
    state_of_refused he⟩
  rw [hr] at hm
  exact hm.of_register

end SourceMatch.Workflow
