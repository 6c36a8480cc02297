import SourceMatch.Workflow.Run

/-!
What can happen at one event of a verification, said once for every event with all that it takes.
What a run keeps is proved from these cases, and no later proof unfolds a step.
-/
namespace SourceMatch.Workflow

variable {w : Workflow} {s : State} {r : Run} {e : Event} {now : Timestamp}

def Error.isRefusal : Error → Bool
  | .registry _ => false
  | _ => true

def Round.generation : Round → Nat
  | .compile generation _ | .register generation _ => generation

/-- What an attempt to go on may come to. -/
inductive NextCase (w : Workflow) (s : State) (now : Timestamp) : State × Started → Prop
  | refused {error : Error} (refusal : error.isRefusal)
      (blocked : s.disposed = true ∨ s.busy = true ∨ w.isReady s = false) :
      NextCase w s now (s, .ended (.error error))
  | selectCompiler (live : s.disposed = false) (idle : s.busy = false)
      (step : s.step = .sourceEntry) (source : s.source.isSome) :
      NextCase w s now ({ s with step := .compilerSelection }, .ended (.ok .compilerSelection))
  | resolveImports (live : s.disposed = false) (idle : s.busy = false)
      (step : s.step = .compilerSelection) (version : s.compilerVersion.isSome) :
      NextCase w s now ({ s with step := .importResolution }, .ended (.ok .importResolution))
  | compile {version : String} (live : s.disposed = false) (idle : s.busy = false)
      (step : s.step = .importResolution) (selected : s.compilerVersion = some version)
      (resolved : unresolvedCount s = 0) :
      NextCase w s now
        ({ s with step := .compileAndCompare, busy := true, generation := s.generation + 1 },
          .waiting (.compile (s.generation + 1) (w.compilerInput s version)))
  | register {found : ContractMatch} {record : Registration} (live : s.disposed = false)
      (idle : s.busy = false) (step : s.step = .compileAndCompare)
      (matched : w.match? s = some found) (recorded : w.registration? s found now = some record) :
      NextCase w s now ({ s with busy := true }, .waiting (.register s.generation record))
  | skip {found : ContractMatch} (live : s.disposed = false) (idle : s.busy = false)
      (step : s.step = .compileAndCompare) (matched : w.match? s = some found)
      (anonymous : w.contractId = none) :
      NextCase w s now ({ s with step := .register }, .ended (.ok .register))

theorem registration?_eq_none_iff (w : Workflow) (s : State) (found : ContractMatch)
    (now : Timestamp) : w.registration? s found now = none ↔ w.contractId = none := by
  simp [registration?]

theorem next_cases (w : Workflow) (s : State) (now : Timestamp) :
    NextCase w s now (w.next s now) := by
  by_cases hd : s.disposed = true
  · simpa [next, hd] using @NextCase.refused w s now .disposed rfl (.inl hd)
  by_cases hb : s.busy = true
  · simpa [next, hd, hb] using @NextCase.refused w s now .busy rfl (.inr (.inl hb))
  have live : s.disposed = false := by simpa using hd
  have idle : s.busy = false := by simpa using hb
  by_cases hr : w.isReady s = true
  · cases hs : s.step with
    | sourceEntry =>
      have source : s.source.isSome := by simpa [isReady, hs] using hr
      simpa [next, live, idle, hs, hr, Step.next?] using
        @NextCase.selectCompiler w s now live idle hs source
    | compilerSelection =>
      have version : s.compilerVersion.isSome := by simpa [isReady, hs] using hr
      simpa [next, live, idle, hs, hr, Step.next?] using
        @NextCase.resolveImports w s now live idle hs version
    | importResolution =>
      obtain ⟨hv, resolved⟩ : s.compilerVersion.isSome ∧ unresolvedCount s = 0 := by
        simpa [isReady, hs] using hr
      obtain ⟨version, selected⟩ := Option.isSome_iff_exists.1 hv
      simpa [next, live, idle, hs, hr, Step.next?, beginCompile, selected] using
        @NextCase.compile w s now version live idle hs selected resolved
    | compileAndCompare =>
      cases matched : w.match? s with
      | none => simp [isReady, hs, matched] at hr
      | some found =>
        cases recorded : w.registration? s found now with
        | some record =>
          simpa [next, live, idle, hs, hr, Step.next?, beginRegister, matched, recorded] using
            NextCase.register live idle hs matched recorded
        | none =>
          have anonymous := (registration?_eq_none_iff w s found now).1 recorded
          simpa [next, live, idle, hs, hr, Step.next?, beginRegister, matched, recorded] using
            @NextCase.skip w s now found live idle hs matched anonymous
    | register => simp [isReady, hs] at hr
  · have blocked : w.isReady s = false := by simpa using hr
    cases hs : s.step.next? with
    | none =>
      simpa [next, live, idle, hs] using
        @NextCase.refused w s now .finished rfl (.inr (.inr blocked))
    | some target =>
      simpa [next, live, idle, hs, blocked] using
        @NextCase.refused w s now (.notReady s.step) rfl (.inr (.inr blocked))

def Event.isImmediate : Event → Bool
  | .setSource .. | .setCompilerVersion _ | .supplyImport .. | .replaceImports _ | .dispose => true
  | _ => false

/-- What an event does to the state if it takes effect at once; any other leaves the state. -/
def Event.apply (w : Workflow) (s : State) : Event → State
  | .setSource fileName source => w.setSource s fileName source
  | .setCompilerVersion version => Workflow.setCompilerVersion s version
  | .supplyImport path source fileName => w.supplyImport s path source fileName
  | .replaceImports imports => w.replaceImports s imports
  | .dispose => Workflow.dispose s
  | _ => s

inductive Transition (w : Workflow) (r : Run) : Event → Outcome → Prop
  | immediate {e : Event} (immediate : e.isImmediate) :
      Transition w r e (r.withState (e.apply w r.state))
  | next {now : Timestamp} {state : State} {result : Except Error Step}
      (moved : NextCase w r.state now (state, .ended result)) :
      Transition w r (.next now)
        { run := ⟨state, r.rounds ++ [none]⟩, effect := .moved result }
  | call {now : Timestamp} {state : State} {round : Round}
      (called : NextCase w r.state now (state, .waiting round)) :
      Transition w r (.next now)
        { run := ⟨state, r.rounds ++ [some round]⟩
          effect := .pending r.rounds.length
          call := some round }
  | back {previous : Step} (idle : r.state.busy = false)
      (previous_eq : r.state.step.previous? = some previous) :
      Transition w r .back
        { run := { r with state := { r.state with step := previous } }
          effect := .moved (.ok previous) }
  | backRefused {error : Error} (refusal : error.isRefusal)
      (blocked : r.state.busy = true ∨ r.state.step.previous? = none) :
      Transition w r .back { run := r, effect := .moved (.error error) }
  | unheard {number : Nat} {a : Answer} (missing : r.waiting? number = none) :
      Transition w r (.answer number a) { run := r, effect := .noRound }
  | compiled {number : Nat} {a : Answer} {generation : Nat} {input : CompilerInput}
      (waiting : r.waiting? number = some (.compile generation input))
      (wanted : isCurrent r.state generation = true) :
      Transition w r (.answer number a)
        { run := ⟨{ r.state with busy := false, output := a.compiled.toOption },
            r.rounds.set number none⟩
          effect := .moved (.ok r.state.step) }
  | registered {number : Nat} {a : Answer} {generation : Nat} {record : Registration}
      (waiting : r.waiting? number = some (.register generation record))
      (accepted : a.registered = .ok ()) (wanted : isCurrent r.state generation = true) :
      Transition w r (.answer number a)
        { run := ⟨{ r.state with busy := false, step := .register }, r.rounds.set number none⟩
          effect := .moved (.ok .register) }
  | rejected {number : Nat} {a : Answer} {generation : Nat} {record : Registration}
      {error : RegistryError} (waiting : r.waiting? number = some (.register generation record))
      (refused : a.registered = .error error) :
      Transition w r (.answer number a)
        { run := ⟨{ r.state with busy := false }, r.rounds.set number none⟩
          effect := .moved (.error (.registry error)) }
  | late {number : Nat} {a : Answer} {round : Round} (waiting : r.waiting? number = some round)
      (unwanted : isCurrent r.state round.generation = false)
      (answered : ∀ generation record, round = .register generation record →
        a.registered = .ok ()) :
      Transition w r (.answer number a)
        { run := ⟨{ r.state with busy := false }, r.rounds.set number none⟩
          effect := .moved (outcome r.state) }
  | dropMissing {number : Nat} (missing : r.waiting? number = none) :
      Transition w r (.drop number) { run := r, effect := .dropped false }
  | dropped {number : Nat} {round : Round} (waiting : r.waiting? number = some round) :
      Transition w r (.drop number)
        { run := ⟨{ r.state with busy := false }, r.rounds.set number none⟩
          effect := .dropped true }

theorem transition_next (w : Workflow) (r : Run) (now : Timestamp) :
    Transition w r (.next now) (r.step w (.next now)) := by
  have h := next_cases w r.state now
  simp only [Run.step, Run.startNext]
  cases hn : w.next r.state now with
  | mk state started =>
    rw [hn] at h
    cases started with
    | ended result => exact .next h
    | waiting round => exact .call h

theorem transition_back (w : Workflow) (r : Run) : Transition w r .back (r.step w .back) := by
  by_cases hb : r.state.busy = true
  · simpa [Run.step, Workflow.back, hb] using
      @Transition.backRefused w r .busy rfl (.inl hb)
  have idle : r.state.busy = false := by simpa using hb
  cases hp : r.state.step.previous? with
  | none =>
    simpa [Run.step, Workflow.back, idle, hp] using
      @Transition.backRefused w r (.cannotGoBack r.state.step) rfl (.inr hp)
  | some previous =>
    simpa [Run.step, Workflow.back, idle, hp] using Transition.back (w := w) idle hp

theorem live_of_isCurrent {generation : Nat} (wanted : isCurrent s generation = true) :
    s.disposed = false := by
  simp only [isCurrent, Bool.and_eq_true, Bool.not_eq_true'] at wanted
  exact wanted.1

theorem finishCompile_wanted {generation : Nat} (result : Except CompileError CompileOutput)
    (wanted : isCurrent s generation = true) :
    finishCompile s generation result =
      ({ s with busy := false, output := result.toOption }, .ok s.step) := by
  have live := live_of_isCurrent wanted
  have idle : isCurrent { s with busy := false } generation = true := wanted
  simp only [finishCompile, idle, if_true]
  simp [outcome, live]

theorem finishCompile_late {generation : Nat} (result : Except CompileError CompileOutput)
    (unwanted : isCurrent s generation = false) :
    finishCompile s generation result = ({ s with busy := false }, outcome s) := by
  have idle : isCurrent { s with busy := false } generation = false := unwanted
  simp only [finishCompile, idle, Bool.false_eq_true, if_false]
  rfl

theorem finishRegister_wanted {generation : Nat} (wanted : isCurrent s generation = true) :
    finishRegister s generation (.ok ()) =
      ({ s with busy := false, step := .register }, .ok .register) := by
  have live := live_of_isCurrent wanted
  have idle : isCurrent { s with busy := false } generation = true := wanted
  simp only [finishRegister, idle, if_true]
  simp [outcome, live]

theorem finishRegister_late {generation : Nat} (unwanted : isCurrent s generation = false) :
    finishRegister s generation (.ok ()) = ({ s with busy := false }, outcome s) := by
  have idle : isCurrent { s with busy := false } generation = false := unwanted
  simp only [finishRegister, idle, Bool.false_eq_true, if_false]
  rfl

theorem transition_answer (w : Workflow) (r : Run) (number : Nat) (a : Answer) :
    Transition w r (.answer number a) (r.step w (.answer number a)) := by
  simp only [Run.step, Run.answer]
  cases hw : r.waiting? number with
  | none => exact .unheard hw
  | some round =>
    cases round with
    | compile generation input =>
      cases hc : isCurrent r.state generation with
      | true =>
        simp only [finish, finishCompile_wanted _ hc]
        exact .compiled hw hc
      | false =>
        simp only [finish, finishCompile_late _ hc]
        exact .late hw hc (by simp)
    | register generation record =>
      cases ha : a.registered with
      | error error =>
        simp only [finish, ha]
        exact .rejected hw ha
      | ok u =>
        cases hc : isCurrent r.state generation with
        | true =>
          simp only [finish, ha, finishRegister_wanted hc]
          exact .registered hw ha hc
        | false =>
          simp only [finish, ha, finishRegister_late hc]
          exact .late hw hc fun _ _ _ => ha

theorem transition (w : Workflow) (r : Run) (e : Event) : Transition w r e (r.step w e) := by
  cases e with
  | next now => exact transition_next w r now
  | back => exact transition_back w r
  | answer number a => exact transition_answer w r number a
  | drop number =>
    simp only [Run.step, Run.drop]
    cases hw : r.waiting? number with
    | none => exact .dropMissing hw
    | some round => exact .dropped hw
  | setSource fileName source => exact .immediate rfl
  | setCompilerVersion version => exact .immediate rfl
  | supplyImport path source fileName => exact .immediate rfl
  | replaceImports imports => exact .immediate rfl
  | dispose => exact .immediate rfl

theorem run_concat (w : Workflow) (events : List Event) (e : Event) :
    run w (events ++ [e]) = ((run w events).step w e).run := by
  simp [run, List.foldl_append]

end SourceMatch.Workflow
