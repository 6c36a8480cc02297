import SourceMatch.Proofs.Workflow.Moves

/-!
What a verification compiles: its source, compiler and imports. They are what the setters left, in
whatever order moves, answers and drops come between them. A compilation is started with the inputs
of that moment; it has a source unless the last source that was set is none and a compiler was
selected behind that.
-/
namespace SourceMatch.Workflow

variable {w : Workflow} {s : State} {r : Run} {e : Event}

structure Inputs where
  sourceFileName : String
  source : Option String
  compilerVersion : Option String
  imports : List Import

def State.inputs (s : State) : Inputs :=
  ⟨s.sourceFileName, s.source, s.compilerVersion, s.imports⟩

def Inputs.after (w : Workflow) (i : Inputs) (e : Event) : Inputs :=
  (e.apply w {
    sourceFileName := i.sourceFileName
    source := i.source
    compilerVersion := i.compilerVersion
    imports := i.imports }).inputs

theorem apply_inputs (w : Workflow) (s : State) (e : Event) :
    (e.apply w s).inputs = s.inputs.after w e := by
  cases e <;> rfl

theorem step_inputs (w : Workflow) (r : Run) (e : Event) :
    (r.step w e).run.state.inputs = r.state.inputs.after w e := by
  have ht := transition w r e
  generalize r.step w e = o at ht ⊢
  cases ht with
  | immediate _ => exact apply_inputs w r.state e
  | next moved => cases moved <;> rfl
  | call called => cases called <;> rfl
  | _ => rfl

theorem run_inputs (w : Workflow) (events later : List Event) :
    (run w (events ++ later)).state.inputs =
      later.foldl (Inputs.after w) (run w events).state.inputs := by
  induction later using List.reverseRecOn with
  | nil => simp
  | append_singleton later e ih =>
    rw [← List.append_assoc, run_concat, step_inputs, ih, List.foldl_append]
    rfl

def Event.source? : Event → Option (Option String)
  | .setSource _ source => some source
  | _ => none

def Event.version? : Event → Option (Option String)
  | .setCompilerVersion version => some version
  | _ => none

theorem after_of_source?_eq_none (i : Inputs) (h : e.source? = none) :
    (i.after w e).source = i.source ∧ (i.after w e).sourceFileName = i.sourceFileName ∧
      (i.after w e).compilerVersion = e.version?.getD i.compilerVersion := by
  cases e with
  | setSource _ _ => simp [Event.source?] at h
  | _ => exact ⟨rfl, rfl, rfl⟩

theorem foldl_after_source {later : List Event} (h : ∀ e ∈ later, e.source? = none) (i : Inputs) :
    (later.foldl (Inputs.after w) i).source = i.source ∧
      (later.foldl (Inputs.after w) i).sourceFileName = i.sourceFileName := by
  induction later generalizing i with
  | nil => exact ⟨rfl, rfl⟩
  | cons e later ih =>
    obtain ⟨hs, hf, -⟩ := after_of_source?_eq_none (w := w) i (h e List.mem_cons_self)
    rw [List.foldl_cons, ← hs, ← hf]
    exact ih (fun e he => h e (List.mem_cons_of_mem _ he)) _

theorem foldl_after_version {later : List Event} (h : ∀ e ∈ later, e.source? = none)
    (i : Inputs) :
    (later.foldl (Inputs.after w) i).compilerVersion =
      (later.filterMap Event.version?).getLastD i.compilerVersion := by
  induction later generalizing i with
  | nil => rfl
  | cons e later ih =>
    obtain ⟨-, -, hv⟩ := after_of_source?_eq_none (w := w) i (h e List.mem_cons_self)
    rw [List.foldl_cons, ih (fun e he => h e (List.mem_cons_of_mem _ he)), hv,
      List.filterMap_cons]
    cases e.version? with
    | none => rfl
    | some version => rw [List.getLastD_cons]; rfl

theorem exists_last {α : Type} {p : α → Prop} {l : List α} (h : ∃ a ∈ l, p a) :
    ∃ before a after, l = before ++ a :: after ∧ p a ∧ ∀ b ∈ after, ¬p b := by
  induction l with
  | nil => simp at h
  | cons a l ih =>
    by_cases later : ∃ b ∈ l, p b
    · obtain ⟨before, b, after, rfl, hb, hafter⟩ := ih later
      exact ⟨a :: before, b, after, rfl, hb, hafter⟩
    · push Not at later
      obtain ⟨b, hmem, hb⟩ := h
      rcases List.mem_cons.1 hmem with rfl | hl
      · exact ⟨[], b, l, rfl, hb, later⟩
      · exact absurd hb (later b hl)

theorem source_of_unset (w : Workflow) {events : List Event}
    (h : ∀ e ∈ events, e.source? = none) : (run w events).state.source = none := by
  have hi := run_inputs w [] events
  rw [List.nil_append] at hi
  have hs := (foldl_after_source (w := w) h (run w []).state.inputs).1
  rw [← hi] at hs
  exact hs

theorem exists_source {events : List Event} (h : (run w events).state.step ≠ .sourceEntry) :
    ∃ e ∈ events, e.source? ≠ none := by
  induction events using List.reverseRecOn with
  | nil => simp [run] at h
  | append_singleton events e ih =>
    by_cases hs : (run w events).state.step = .sourceEntry
    · by_contra hnone
      push Not at hnone
      have hsource : (run w events).state.source = none :=
        source_of_unset w fun e he => hnone e (List.mem_append_left _ he)
      have hm := step_move w events e
      rw [← run_concat, hs] at hm
      generalize (run w (events ++ [e])).state.step = t at hm h
      cases hm with
      | stay => exact h rfl
      | selectCompiler _ source => simp [hsource] at source
      | back _ _ _ hp => simp [Step.previous?] at hp
    · obtain ⟨e', he', hne⟩ := ih hs
      exact ⟨e', List.mem_append_left _ he', hne⟩

/-- The last source that was set is none, and of what was called behind it the last selection of a
compiler selects `version`. -/
def SelectedWithoutSource (events : List Event) (version : String) : Prop :=
  ∃ before fileName between after,
    events = before ++ .setSource fileName none ::
      (between ++ .setCompilerVersion (some version) :: after) ∧
    (∀ e ∈ between ++ after, e.source? = none) ∧ ∀ e ∈ after, e.version? = none

theorem inputs_setSource (w : Workflow) (before later : List Event) (fileName : String)
    (source : Option String) :
    (run w (before ++ .setSource fileName source :: later)).state.inputs =
      later.foldl (Inputs.after w) (w.setSource {} fileName source).inputs := by
  rw [List.append_cons, run_inputs, run_concat]
  rfl

theorem source_setSource {before later : List Event} {fileName : String}
    {source : Option String} (h : ∀ e ∈ later, e.source? = none) :
    (run w (before ++ .setSource fileName source :: later)).state.source = source := by
  have hi := inputs_setSource w before later fileName source
  have hs := (foldl_after_source (w := w) h (w.setSource {} fileName source).inputs).1
  rw [← hi] at hs
  exact hs

theorem compilerVersion_setSource_none {before later : List Event} {fileName : String}
    (h : ∀ e ∈ later, e.source? = none) :
    (run w (before ++ .setSource fileName none :: later)).state.compilerVersion =
      (later.filterMap Event.version?).getLastD none := by
  have hi := inputs_setSource w before later fileName none
  have hv := foldl_after_version (w := w) h (w.setSource {} fileName none).inputs
  rw [← hi] at hv
  exact hv

theorem exists_last_version {later : List Event} {version : String}
    (h : (later.filterMap Event.version?).getLastD none = some version) :
    ∃ between after, later = between ++ .setCompilerVersion (some version) :: after ∧
      ∀ e ∈ after, e.version? = none := by
  have hex : ∃ e ∈ later, e.version? ≠ none := by
    by_contra hno
    push Not at hno
    rw [List.filterMap_eq_nil_iff.2 hno] at h
    cases h
  obtain ⟨between, e, after, rfl, he, hafter⟩ := exists_last hex
  simp only [ne_eq, not_not] at hafter
  cases e with
  | setCompilerVersion chosen =>
    have hc : chosen = some version := by
      simpa [List.filterMap_append, Event.version?, List.filterMap_eq_nil_iff.2 hafter] using h
    subst hc
    exact ⟨between, after, rfl, hafter⟩
  | _ => exact absurd rfl he

theorem source_eq_none_iff {events : List Event} {version : String}
    (entered : (run w events).state.step ≠ .sourceEntry)
    (selected : (run w events).state.compilerVersion = some version) :
    (run w events).state.source = none ↔ SelectedWithoutSource events version := by
  constructor
  · intro hnone
    obtain ⟨before, e, later, rfl, he, hlater⟩ := exists_last (exists_source entered)
    simp only [ne_eq, not_not] at hlater
    cases e with
    | setSource fileName source =>
      rw [source_setSource hlater] at hnone
      subst hnone
      rw [compilerVersion_setSource_none hlater] at selected
      obtain ⟨between, after, rfl, hafter⟩ := exists_last_version selected
      refine ⟨before, fileName, between, after, rfl, fun e he => hlater e ?_, hafter⟩
      simp only [List.mem_append, List.mem_cons] at he ⊢
      exact he.imp_right .inr
    | _ => exact absurd rfl he
  · rintro ⟨before, fileName, between, after, rfl, hsource, -⟩
    apply source_setSource
    intro e he
    simp only [List.mem_append, List.mem_cons] at he hsource
    rcases he with h | rfl | h
    · exact hsource e (.inl h)
    · rfl
    · exact hsource e (.inr h)

theorem compile_call_iff (w : Workflow) (r : Run) (e : Event) (generation : Nat)
    (input : CompilerInput) :
    (r.step w e).call = some (.compile generation input) ↔
      (∃ now, e = .next now) ∧ r.state.disposed = false ∧ r.state.busy = false ∧
        r.state.step = .importResolution ∧ unresolvedCount r.state = 0 ∧
        generation = r.state.generation + 1 ∧
        ∃ version, r.state.compilerVersion = some version ∧
          input = w.compilerInput r.state version := by
  constructor
  · intro h
    obtain ⟨now, state, rfl, hcase, -⟩ := called_of_call h
    cases hcase with
    | compile live idle step selected resolved =>
      exact ⟨⟨now, rfl⟩, live, idle, step, resolved, rfl, _, selected, rfl⟩
  · rintro ⟨⟨now, rfl⟩, live, idle, step, resolved, rfl, version, selected, rfl⟩
    have ready : w.isReady r.state = true := by simp [isReady, step, selected, resolved]
    simp [Run.step, Run.startNext, next, live, idle, step, Step.next?, ready, beginCompile,
      selected]

/-- What every compile call of a run carries: its entry source is the source of that moment, except
behind `SelectedWithoutSource`, where there is no source and an empty text is compiled. -/
theorem compile_call_source (w : Workflow) (events : List Event) (e : Event) (generation : Nat)
    (input : CompilerInput) :
    let s := (run w events).state
    ((run w events).step w e).call = some (.compile generation input) ↔
      (∃ now, e = .next now) ∧ s.disposed = false ∧ s.busy = false ∧
        s.step = .importResolution ∧ unresolvedCount s = 0 ∧ generation = s.generation + 1 ∧
        ∃ version source, s.compilerVersion = some version ∧
          input = CompilerInput.ofRequest
            (CompileRequest.ofImports s.sourceFileName source s.imports version) w.index ∧
          (¬SelectedWithoutSource events version ∧ s.source = some source ∨
            SelectedWithoutSource events version ∧ s.source = none ∧ source = "") := by
  intro s
  rw [compile_call_iff]
  refine and_congr_right fun _ => and_congr_right fun _ => and_congr_right fun _ =>
    and_congr_right fun step => and_congr_right fun _ => and_congr_right fun _ =>
    exists_congr fun version => ?_
  have entered : (run w events).state.step ≠ .sourceEntry := by
    rw [step]
    decide
  constructor
  · rintro ⟨selected, rfl⟩
    have hnone := source_eq_none_iff entered selected
    refine ⟨s.source.getD "", selected, rfl, ?_⟩
    cases hs : s.source with
    | none => exact .inr ⟨hnone.1 hs, rfl, rfl⟩
    | some source => exact .inl ⟨fun h => by simp [s, hnone.2 h] at hs, rfl⟩
  · rintro ⟨source, selected, rfl, hsource⟩
    refine ⟨selected, ?_⟩
    have hget : s.source.getD "" = source := by
      rcases hsource with ⟨-, h⟩ | ⟨-, h, rfl⟩ <;> rw [h] <;> rfl
    rw [compilerInput, hget]

def sample : Workflow :=
  { index := {}, resolver := {}, contractId := some "0.0.4242", deployed := "6001" }

def sampleReady : List Event :=
  [.setSource "Token.sol" (some ""), .setCompilerVersion (some "0.8.18"), .next default,
    .next default]

theorem run_sampleReady : run sample sampleReady =
    { state :=
        { step := .importResolution, sourceFileName := "Token.sol", source := some "",
          compilerVersion := some "0.8.18", generation := 1 }
      rounds := [none, none] } := by
  have himports : sample.resolver.settle (sample.resolver.seed "") = [] := by decide +kernel
  have hset : sample.setSource {} "Token.sol" (some "") =
      { sourceFileName := "Token.sol", source := some "", generation := 1 } := by
    simp only [Workflow.setSource, Option.map_some, Option.getD_some, himports]
    rfl
  have hrun : run sample [.setSource "Token.sol" (some "")] =
      { state := sample.setSource {} "Token.sol" (some "") } := rfl
  rw [hset] at hrun
  rw [sampleReady, ← List.singleton_append, run, List.foldl_append]
  rw [run] at hrun
  rw [hrun]
  rfl

theorem compiles_without_source :
    ¬∀ (w : Workflow) (events : List Event) (e : Event) (generation : Nat) (input : CompilerInput),
      ((run w events).step w e).call = some (.compile generation input) →
        ∃ source version, (run w events).state.source = some source ∧
          input = CompilerInput.ofRequest
            (CompileRequest.ofImports (run w events).state.sourceFileName source
              (run w events).state.imports version) w.index := by
  intro h
  have hrun : run sample
      (sampleReady ++ [.setSource "Token.sol" none, .setCompilerVersion (some "0.8.18")]) =
      { state :=
          { step := .importResolution, sourceFileName := "Token.sol",
            compilerVersion := some "0.8.18", generation := 2 }
        rounds := [none, none] } := by
    rw [run, List.foldl_append, ← run, run_sampleReady]
    rfl
  have hcall := h sample
    (sampleReady ++ [.setSource "Token.sol" none, .setCompilerVersion (some "0.8.18")])
    (.next default) 3
  rw [hrun] at hcall
  obtain ⟨source, version, hsource, -⟩ := hcall _ rfl
  cases hsource

end SourceMatch.Workflow
