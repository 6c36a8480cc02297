import SourceMatch.Proofs.Workflow.Inputs

/-!
Where the output of a verification comes from. It is the answer to a compile round that was started
with the source it still has and that nothing superseded. It need not have been compiled with the
compiler and the imports that it still has: those can be set again behind the start of the round,
and what is registered then names a compiler that did not produce the output.
-/
namespace SourceMatch.Workflow

variable {w : Workflow} {r : Run} {e : Event} {output : CompileOutput}

/-- Whether an event writes the output: a new source clears it, and the answer to a compilation
stores it if it is still wanted. -/
def WritesOutput (r : Run) : Event → Prop
  | .setSource .. => True
  | .answer number _ => ∃ generation input,
      r.waiting? number = some (.compile generation input) ∧ isCurrent r.state generation = true
  | _ => False

theorem output_of_not_writes (h : ¬WritesOutput r e) :
    (r.step w e).run.state.output = r.state.output := by
  have ht := transition w r e
  generalize r.step w e = o at ht ⊢
  cases ht with
  | immediate _ =>
    cases e with
    | setSource _ _ => exact absurd trivial h
    | _ => rfl
  | next moved => cases moved <;> rfl
  | call called => cases called <;> rfl
  | compiled waiting wanted => exact absurd ⟨_, _, waiting, wanted⟩ h
  | _ => rfl

theorem answer_of_writes (h : WritesOutput r e)
    (ho : (r.step w e).run.state.output = some output) :
    ∃ number a generation input, e = .answer number a ∧
      r.waiting? number = some (.compile generation input) ∧
      isCurrent r.state generation = true ∧ a.compiled = .ok output := by
  cases e with
  | setSource fileName source => cases ho
  | answer number a =>
    obtain ⟨generation, input, waiting, wanted⟩ := h
    refine ⟨number, a, generation, input, rfl, waiting, wanted, ?_⟩
    simp only [Run.step, Run.answer, waiting, finish, finishCompile_wanted _ wanted] at ho
    cases hc : a.compiled with
    | error _ => simp [hc, Except.toOption] at ho
    | ok found => simpa [hc, Except.toOption] using ho
  | _ => exact h.elim

/-- A round within a run: the events before it, its start, those during it, its number, its answer,
and the events behind it. -/
structure AnsweredRound where
  before : List Event
  start : Timestamp
  during : List Event
  number : Nat
  answer : Answer
  behind : List Event

namespace AnsweredRound

def waiting (c : AnsweredRound) : List Event := c.before ++ .next c.start :: c.during

def settled (c : AnsweredRound) : List Event := c.waiting ++ [.answer c.number c.answer]

def events (c : AnsweredRound) : List Event := c.settled ++ c.behind

def since (c : AnsweredRound) : List Event :=
  c.during ++ .answer c.number c.answer :: c.behind

theorem events_eq (c : AnsweredRound) : c.events = c.before ++ ([.next c.start] ++ c.since) := by
  simp [events, settled, waiting, since]

end AnsweredRound

/-- The output is the answer to this compile round: nothing superseded the round before it was
answered, and nothing has written the output since. -/
structure Origin (w : Workflow) (c : AnsweredRound) (generation : Nat) (input : CompilerInput)
    (output : CompileOutput) : Prop where
  flight : Flight w c.before c.start c.during c.number (.compile generation input)
  undisturbed : c.during.any Event.supersedes = false
  answered : c.answer.compiled = .ok output
  kept : ∀ middle e, middle ++ [e] <+: c.behind → ¬WritesOutput (run w (c.settled ++ middle)) e

theorem exists_origin {events : List Event} (h : (run w events).state.output = some output) :
    ∃ c generation input, c.events = events ∧ Origin w c generation input output := by
  induction events using List.reverseRecOn with
  | nil => cases h
  | append_singleton events e ih =>
    rw [run_concat] at h
    by_cases hw : WritesOutput (run w events) e
    · obtain ⟨number, a, generation, input, rfl, waiting, wanted, ha⟩ := answer_of_writes hw h
      obtain ⟨before, start, during, rfl, hf⟩ := exists_flight waiting
      refine ⟨⟨before, start, during, number, a, []⟩, generation, input, ?_, hf,
        hf.undisturbed wanted, ha, ?_⟩
      · simp [AnsweredRound.events, AnsweredRound.settled, AnsweredRound.waiting]
      · intro middle e hp
        simp at hp
    · rw [output_of_not_writes hw] at h
      obtain ⟨c, generation, input, rfl, ho⟩ := ih h
      refine ⟨{ c with behind := c.behind ++ [e] }, generation, input, ?_, ho.flight,
        ho.undisturbed, ho.answered, ?_⟩
      · simp [AnsweredRound.events, AnsweredRound.settled, AnsweredRound.waiting]
      · intro middle e' hp
        rcases List.prefix_concat_iff.1 hp with heq | hp
        · obtain ⟨rfl, he⟩ := List.append_inj' heq rfl
          obtain rfl : e' = e := by simpa using he
          exact hw
        · exact ho.kept middle e' hp

theorem source?_of_not_supersedes (h : e.supersedes = false) : e.source? = none := by
  cases e <;> first | rfl | simp [Event.supersedes] at h

theorem source?_of_not_writes (h : ¬WritesOutput r e) : e.source? = none := by
  cases e <;> first | rfl | exact absurd trivial h

namespace Origin

variable {c : AnsweredRound} {generation : Nat} {input : CompilerInput}

theorem source?_since (h : Origin w c generation input output) :
    ∀ e ∈ c.since, e.source? = none := by
  intro e he
  rcases List.mem_append.1 he with hd | hb
  · have hs := h.undisturbed
    simp only [List.any_eq_false, Bool.not_eq_true] at hs
    exact source?_of_not_supersedes (hs e hd)
  · rcases List.mem_cons.1 hb with rfl | hb
    · rfl
    · obtain ⟨middle, rest, hsplit, -⟩ := List.eq_append_cons_of_mem hb
      have hp : middle ++ [e] <+: c.behind := ⟨rest, by rw [hsplit]; simp⟩
      exact source?_of_not_writes (h.kept middle e hp)

theorem inputs_eq (w : Workflow) (c : AnsweredRound) :
    (run w c.events).state.inputs =
      c.since.foldl (Inputs.after w) (run w c.before).state.inputs := by
  rw [c.events_eq, run_inputs, List.foldl_append]
  rfl

theorem source_eq (h : Origin w c generation input output) :
    (run w c.before).state.source = (run w c.events).state.source ∧
      (run w c.before).state.sourceFileName = (run w c.events).state.sourceFileName := by
  have hs := foldl_after_source (w := w) h.source?_since (run w c.before).state.inputs
  rw [← inputs_eq] at hs
  exact ⟨hs.1.symm, hs.2.symm⟩

theorem exists_version (h : Origin w c generation input output) :
    ∃ version, (run w c.before).state.compilerVersion = some version ∧
      input = w.compilerInput (run w c.before).state version := by
  obtain ⟨-, -, -, -, -, -, version, selected, hinput⟩ :=
    (compile_call_iff w _ _ _ _).1 h.flight.call
  exact ⟨version, selected, hinput⟩

theorem compilerVersion_eq (h : Origin w c generation input output) :
    (run w c.events).state.compilerVersion =
      (c.since.filterMap Event.version?).getLastD (run w c.before).state.compilerVersion := by
  have hv := foldl_after_version (w := w) h.source?_since (run w c.before).state.inputs
  rw [← inputs_eq] at hv
  exact hv

end Origin

theorem state_of_compiled {events before during : List Event} {start : Timestamp}
    {number generation : Nat} {input : CompilerInput} (a : Answer)
    (hf : Flight w before start during number (.compile generation input))
    (he : events = before ++ .next start :: during) :
    ((run w events).step w (.answer number a)).run.state =
      if during.any Event.supersedes then { (run w events).state with busy := false }
      else { (run w events).state with busy := false, output := a.compiled.toOption } := by
  subst he
  have hc := hf.isCurrent_eq
  simp only [Round.generation] at hc
  simp only [Run.step, Run.answer, hf.waiting, finish]
  cases hs : during.any Event.supersedes with
  | true =>
    rw [hs] at hc
    rw [finishCompile_late _ hc, if_pos rfl]
  | false =>
    rw [hs] at hc
    rw [finishCompile_wanted _ hc, if_neg Bool.false_ne_true]

/-- The output of a run is the answer to a compile round that was started with the current source
under its current name and was not superseded before its answer. The answer to a superseded round
changes nothing but `busy`; any other is stored, or clears the output if the compiler refused. -/
theorem output_of_current_source (w : Workflow) (events : List Event) :
    (∀ output, (run w events).state.output = some output →
      ∃ c generation input, c.events = events ∧ Origin w c generation input output ∧
        (run w c.before).state.source = (run w events).state.source ∧
        (run w c.before).state.sourceFileName = (run w events).state.sourceFileName) ∧
    ∀ number generation input a,
      (run w events).waiting? number = some (.compile generation input) →
        ∃ before start during, events = before ++ .next start :: during ∧
          Flight w before start during number (.compile generation input) ∧
          ((run w events).step w (.answer number a)).run.state =
            if during.any Event.supersedes then { (run w events).state with busy := false }
            else { (run w events).state with busy := false, output := a.compiled.toOption } := by
  refine ⟨fun output h => ?_, fun number generation input a h => ?_⟩
  · obtain ⟨c, generation, input, rfl, ho⟩ := exists_origin h
    exact ⟨c, generation, input, rfl, ho, ho.source_eq.1, ho.source_eq.2⟩
  · obtain ⟨before, start, during, he, hf⟩ := exists_flight h
    exact ⟨before, start, during, he, hf, state_of_compiled a hf he⟩

/-- What was called since the start of the round leaves its compiler and its imports as they were:
the last compiler that was selected is the same, and the import lists that were set come back to
the same. -/
def Unchanged (w : Workflow) (c : AnsweredRound) : Prop :=
  let i := (run w c.before).state.inputs
  (c.since.filterMap Event.version?).getLastD i.compilerVersion = i.compilerVersion ∧
    (c.since.foldl (Inputs.after w) i).imports = i.imports

theorem compilerVersion_of_recorded {s : State} {found : ContractMatch} {now : Timestamp}
    {record : Registration} (h : w.registration? s found now = some record) :
    record.compilerVersion = s.compilerVersion.getD "" := by
  simp only [registration?, Option.map_eq_some_iff] at h
  obtain ⟨contractId, -, rfl⟩ := h
  rfl

theorem match?_of_accepted {now : Timestamp} (compare : r.state.step = .compileAndCompare)
    (accepted : ∀ error, (r.step w (.next now)).effect ≠ .moved (.error error)) :
    ∃ found, w.match? r.state = some found ∧ ∀ generation record,
      (r.step w (.next now)).call = some (.register generation record) →
        w.registration? r.state found now = some record := by
  have ht := transition w r (.next now)
  generalize r.step w (.next now) = o at ht accepted ⊢
  cases ht with
  | immediate h => simp [Event.isImmediate] at h
  | next moved =>
    cases moved with
    | refused _ _ => exact absurd rfl (accepted _)
    | selectCompiler _ _ step _ => simp [compare] at step
    | resolveImports _ _ step _ => simp [compare] at step
    | skip _ _ _ matched _ => exact ⟨_, matched, by simp⟩
  | call called =>
    cases called with
    | compile _ _ step _ _ => simp [compare] at step
    | register _ _ _ matched recorded =>
      refine ⟨_, matched, fun generation record h => ?_⟩
      simp only [Option.some.injEq, Round.register.injEq] at h
      rw [← h.2]
      exact recorded

/-- An attempt to go on that is accepted on the fourth step finds the output of a round, compiled
with the compiler and the imports of its start. They are the current ones exactly if the setters
called since left them `Unchanged`; a record names the compiler that was selected last. -/
theorem accepted_on_compare (w : Workflow) (events : List Event) (now : Timestamp)
    (compare : (run w events).state.step = .compileAndCompare)
    (accepted : ∀ error, ((run w events).step w (.next now)).effect ≠ .moved (.error error)) :
    ∃ c generation version output,
      c.events = events ∧
      Origin w c generation (w.compilerInput (run w c.before).state version) output ∧
      (run w c.before).state.compilerVersion = some version ∧
      (run w events).state.output = some output ∧
      ((run w events).state.compilerVersion = some version ∧
        (run w events).state.imports = (run w c.before).state.imports ↔ Unchanged w c) ∧
      ∀ generation record,
        ((run w events).step w (.next now)).call = some (.register generation record) →
          record.compilerVersion =
            ((c.since.filterMap Event.version?).getLastD (some version)).getD "" := by
  obtain ⟨found, hm, hrecord⟩ := match?_of_accepted compare accepted
  obtain ⟨output, -, -, houtput, -⟩ := matched_of_match? hm
  obtain ⟨c, generation, input, rfl, ho⟩ := exists_origin houtput
  obtain ⟨version, selected, rfl⟩ := ho.exists_version
  have hversion := ho.compilerVersion_eq
  have himports := congrArg Inputs.imports (Origin.inputs_eq w c)
  refine ⟨c, generation, version, output, rfl, ho, selected, houtput, ?_, fun n record h => ?_⟩
  · rw [← selected, hversion]
    exact and_congr Iff.rfl (by rw [← himports]; rfl)
  · rw [compilerVersion_of_recorded (hrecord n record h), hversion, selected]

def sampleOutput : CompileOutput :=
  { sources := [⟨"Token.sol", [⟨"Token", .null, "6001"⟩]⟩] }

def sampleRound : AnsweredRound where
  before := sampleReady
  start := default
  during := []
  number := 2
  answer := ⟨.ok sampleOutput, .ok ()⟩
  behind := [.setCompilerVersion (some "0.8.17")]

theorem run_sampleRound : run sample sampleRound.events =
    { state :=
        { step := .compileAndCompare, sourceFileName := "Token.sol", source := some "",
          compilerVersion := some "0.8.17", output := some sampleOutput, generation := 2 }
      rounds := [none, none, none] } := by
  rw [AnsweredRound.events_eq, run, List.foldl_append]
  change List.foldl _ (run sample sampleReady) _ = _
  rw [run_sampleReady]
  rfl

theorem accepted_on_compare_sample :
    (run sample sampleRound.events).state.step = .compileAndCompare ∧
    (∀ error, ((run sample sampleRound.events).step sample (.next default)).effect ≠
      .moved (.error error)) ∧
    ∃ c generation version output,
      c.events = sampleRound.events ∧
      Origin sample c generation (sample.compilerInput (run sample c.before).state version)
        output ∧
      (run sample c.before).state.compilerVersion = some version ∧
      (run sample sampleRound.events).state.output = some output ∧
      ((run sample sampleRound.events).state.compilerVersion = some version ∧
        (run sample sampleRound.events).state.imports = (run sample c.before).state.imports ↔
          Unchanged sample c) ∧
      ∀ generation record,
        ((run sample sampleRound.events).step sample (.next default)).call =
            some (.register generation record) →
          record.compilerVersion =
            ((c.since.filterMap Event.version?).getLastD (some version)).getD "" := by
  have compare : (run sample sampleRound.events).state.step = .compileAndCompare := by
    rw [run_sampleRound]
  have accepted (error : Error) :
      ((run sample sampleRound.events).step sample (.next default)).effect ≠
        .moved (.error error) := by
    rw [run_sampleRound]
    intro h
    cases h
  exact ⟨compare, accepted, accepted_on_compare sample _ default compare accepted⟩

theorem origin_sampleRound : Origin sample sampleRound 2
    (sample.compilerInput (run sample sampleReady).state "0.8.18") sampleOutput := by
  refine ⟨⟨?_, ?_, ?_, ?_⟩, rfl, rfl, ?_⟩
  · rw [sampleRound, run_sampleReady]
    rfl
  · rw [sampleRound, run_sampleReady]
    rfl
  · change (run sample (sampleReady ++ [.next default])).waiting? 2 = _
    rw [run_concat, run_sampleReady]
    rfl
  · change (run sample (sampleReady ++ [.next default])).state = _
    rw [run_concat]
    rfl
  · intro middle e hp
    obtain ⟨rest, hrest⟩ := hp
    cases middle with
    | nil =>
      simp only [sampleRound, List.nil_append, List.cons_append, List.cons.injEq] at hrest
      rw [hrest.1]
      exact id
    | cons _ middle => simp [sampleRound] at hrest

theorem registers_other_compiler :
    ¬∀ (w : Workflow) (c : AnsweredRound) (now : Timestamp) (generation : Nat)
      (input : CompilerInput) (output : CompileOutput) (version : String) (sent : Nat)
      (record : Registration),
      Origin w c generation input output →
      (run w c.before).state.compilerVersion = some version →
      ((run w c.events).step w (.next now)).call = some (.register sent record) →
        record.compilerVersion = version := by
  intro h
  let record : Registration :=
    { contractId := "0.0.4242", contractName := "Token", compilerVersion := "0.8.17",
      sourceFileName := "Token.sol", matchKind := .full, abi := .null, timestamp := default }
  have hcall : ((run sample sampleRound.events).step sample (.next default)).call =
      some (.register 2 record) := by
    rw [run_sampleRound]
    rfl
  have hversion : (run sample sampleRound.before).state.compilerVersion = some "0.8.18" := by
    rw [sampleRound, run_sampleReady]
  have hsame := h sample sampleRound default 2 _ _ "0.8.18" 2 record origin_sampleRound hversion
    hcall
  exact absurd hsame (by decide)

end SourceMatch.Workflow
